/-! # Scopes

Variables live in one of two scopes. `Scoped α` holds one value for each of them.
-/

namespace ScopedVars

inductive Scope where
  | user
  | system
  deriving DecidableEq, Repr, Inhabited

namespace Scope

def toggled : Scope → Scope
  | user => system
  | system => user

@[simp]
theorem toggled_toggled (scope : Scope) : scope.toggled.toggled = scope := by
  cases scope <;> rfl

def name : Scope → String
  | user => "User"
  | system => "System"

end Scope

@[ext]
structure Scoped (α : Type) where
  user : α
  system : α
  deriving DecidableEq, Repr

namespace Scoped

variable {α β : Type}

def both (a : α) : Scoped α := ⟨a, a⟩

def get (values : Scoped α) : Scope → α
  | .user => values.user
  | .system => values.system

def set (values : Scoped α) (scope : Scope) (a : α) : Scoped α :=
  match scope with
  | .user => { values with user := a }
  | .system => { values with system := a }

def map (f : α → β) (values : Scoped α) : Scoped β := ⟨f values.user, f values.system⟩

@[simp]
theorem get_both (a : α) (scope : Scope) : (both a).get scope = a := by
  cases scope <;> rfl

@[simp]
theorem get_map (f : α → β) (values : Scoped α) (scope : Scope) :
    (values.map f).get scope = f (values.get scope) := by
  cases scope <;> rfl

@[grind =]
theorem get_set (values : Scoped α) (scope other : Scope) (a : α) :
    (values.set scope a).get other = if other = scope then a else values.get other := by
  cases scope <;> cases other <;> rfl

theorem get_inj {values : Scoped α} (h : values.user ≠ values.system) {scope other : Scope} :
    values.get scope = values.get other ↔ scope = other := by
  cases scope <;> cases other <;> simp [get, h, h.symm]

end Scoped

end ScopedVars
