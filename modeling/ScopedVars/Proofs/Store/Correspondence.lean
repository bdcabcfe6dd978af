import ScopedVars.Proofs.Attempts
import ScopedVars.Proofs.Store.Refinement

/-! # Stores that correspond

Two stores with states of their own correspond if related states give the same answers and stay
related. Only the order in which they list names may differ. Commands do not tell such stores
apart: they sort the names, and make the same calls whatever keeps the variables.
-/

namespace ScopedVars

section Matching

variable {σ τ ε ε' α β γ δ : Type} {R : σ → τ → Prop} {A : α → β → Prop} {B : γ → δ → Prop}

/-- Whether two actions give related results in related states and leave related states. -/
def Matches (R : σ → τ → Prop) (A : α → β → Prop) (action : StateM σ α) (other : StateM τ β) :
    Prop :=
  ∀ ⦃state image⦄, R state image →
    A (action.run state).1 (other.run image).1 ∧ R (action.run state).2 (other.run image).2

/-- The same failure, or successes that are related. -/
inductive Agreeing (A : α → β → Prop) : Except ε α → Except ε β → Prop
  | ok {a : α} {b : β} (h : A a b) : Agreeing A (.ok a) (.ok b)
  | error (error : ε) : Agreeing A (.error error) (.error error)

theorem Agreeing.refl {A : α → α → Prop} (hA : ∀ a, A a a) (answer : Except ε α) :
    Agreeing A answer answer := by
  cases answer with
  | error error => exact .error error
  | ok a => exact .ok (hA a)

namespace Matches

theorem pure {a : α} {b : β} (h : A a b) :
    Matches R A (Pure.pure a : StateM σ α) (Pure.pure b : StateM τ β) := by
  intro state image hstate
  exact ⟨h, hstate⟩

theorem bind {action : StateM σ α} {other : StateM τ β} {next : α → StateM σ γ}
    {following : β → StateM τ δ} (h : Matches R A action other)
    (hnext : ∀ a b, A a b → Matches R B (next a) (following b)) :
    Matches R B (action >>= next) (other >>= following) := by
  intro state image hstate
  obtain ⟨hresult, hafter⟩ := h hstate
  exact hnext _ _ hresult hafter

theorem map {action : StateM σ α} {other : StateM τ β} {f : α → γ} {g : β → δ}
    (h : Matches R A action other) (hmap : ∀ a b, A a b → B (f a) (g b)) :
    Matches R B (f <$> action) (g <$> other) := by
  intro state image hstate
  obtain ⟨hresult, hafter⟩ := h hstate
  exact ⟨hmap _ _ hresult, hafter⟩

theorem map_same {action : StateM σ α} {other : StateM τ α} (h : Matches R Eq action other)
    (f : α → γ) : Matches R Eq (f <$> action) (f <$> other) :=
  h.map fun _ _ => congrArg f

theorem bind_call {call : ExceptT ε (StateM σ) α} {other : ExceptT ε (StateM τ) α}
    {next : α → ExceptT ε (StateM σ) γ} {following : α → ExceptT ε (StateM τ) γ}
    (h : Matches R Eq call.run other.run)
    (hnext : ∀ a, Matches R Eq (next a).run (following a).run) :
    Matches R Eq (call >>= next).run (other >>= following).run := by
  rw [ExceptT.run_bind, ExceptT.run_bind]
  refine h.bind ?_
  rintro (error | a) _ rfl
  · exact pure rfl
  · exact hnext a

theorem adapt {call : ExceptT ε (StateM σ) α} {other : ExceptT ε (StateM τ) α}
    (h : Matches R Eq call.run other.run) (f : ε → ε') :
    Matches R Eq (call.adapt f).run (other.adapt f).run := by
  rw [ExceptT.run_adapt, ExceptT.run_adapt]
  exact h.map_same _

end Matches

end Matching

/-- Whether two stores answer alike in related states and leave related states. The names of a scope
may be listed in different orders. -/
structure Store.Corresponds {σ τ : Type} (R : σ → τ → Prop) (store : Store (StateM σ))
    (other : Store (StateM τ)) : Prop where
  list : ∀ scope, Matches R (Agreeing List.Perm) (store.list scope).run (other.list scope).run
  get : ∀ scope key, Matches R Eq (store.get scope key).run (other.get scope key).run
  set : ∀ scope key value,
    Matches R Eq (store.set scope key value).run (other.set scope key value).run

theorem mergeSort_eq_of_perm {names others : List String} (h : names.Perm others) :
    (names.mergeSort fun a b => a ≤ b) = others.mergeSort fun a b => a ≤ b := by
  have sorted (names : List String) :
      (names.mergeSort fun a b => a ≤ b).Pairwise fun a b => decide (a ≤ b) = true :=
    List.pairwise_mergeSort (by simpa using fun _ _ _ => String.le_trans)
      (by simpa using String.le_total) names
  refine List.Perm.eq_of_pairwise ?_ (sorted names) (sorted others) ?_
  · simpa using fun _ _ _ _ => String.le_antisymm
  · exact (List.mergeSort_perm names _).trans (h.trans (List.mergeSort_perm others _).symm)

namespace Store.Corresponds

variable {σ τ : Type} {R : σ → τ → Prop} {store : Store (StateM σ)} {other : Store (StateM τ)}

theorem write (h : store.Corresponds R other) (scope : Scope) (key : String)
    (value : Option String) :
    Matches R Eq (store.write scope key value).run (other.write scope key value).run :=
  (h.set scope key value).bind_call fun _ => h.get scope key

theorem perform (h : store.Corresponds R other) (scope : Scope) (operation : Operation) :
    Matches R Eq (store.perform scope operation).run (other.perform scope operation).run := by
  cases operation with
  | nothing => exact .pure rfl
  | toggle => exact .pure rfl
  | help => exact .pure rfl
  | list =>
    simp only [Store.perform, bind_pure_comp, ExceptT.run_map]
    refine (h.list scope).map ?_
    rintro _ _ (⟨hperm⟩ | error)
    · simp only [Except.map, mergeSort_eq_of_perm hperm]
    · rfl
  | get key => exact h.get scope key
  | set key value => exact h.write scope key (some value)
  | append key suffix dryRun =>
    refine (h.get scope key).bind_call fun old => ?_
    cases dryRun with
    | true => exact .pure rfl
    | false => exact h.write scope key _
  | delete key => exact h.write scope key none

theorem attempt (h : store.Corresponds R other) (command : Command) (scope : Scope) :
    Matches R Eq (store.attempt command scope).run (other.attempt command scope).run := by
  unfold Store.attempt
  cases hproblems : command.problems with
  | cons problem problems => exact .pure rfl
  | nil =>
    obtain ⟨operation, hoperation⟩ := Command.exists_operation hproblems
    simp only [Store.dispatch, hoperation]
    exact ((h.perform scope operation).adapt Failure.store).bind_call fun result => .pure rfl

theorem runOnce (h : store.Corresponds R other) (tokens : List String) :
    Matches R Eq (store.runOnce tokens).run (other.runOnce tokens).run := by
  rw [store.runOnce_eq_attempt, other.runOnce_eq_attempt]
  exact h.attempt _ _

end Store.Corresponds

def Store.backwards {m : Type → Type} [Monad m] (store : Store m) : Store m :=
  { store with list := fun scope => List.reverse <$> store.list scope }

theorem Store.Corresponds.backwards {σ τ : Type} {R : σ → τ → Prop} {store : Store (StateM σ)}
    {other : Store (StateM τ)} (h : store.Corresponds R other) :
    store.Corresponds R other.backwards where
  list scope := by
    rw [← id_map (store.list scope).run]
    simp only [Store.backwards, ExceptT.run_map]
    refine (h.list scope).map ?_
    rintro _ _ (⟨hperm⟩ | error)
    · exact .ok (hperm.trans (List.reverse_perm _).symm)
    · exact .error error
  get := h.get
  set := h.set

/-- Files that represent variables correspond to the variables in memory. -/
theorem Represents.corresponds {paths : Scoped String} (hpaths : paths.user ≠ paths.system) :
    (Store.file .memory paths).Corresponds (Represents paths) (Store.memory (.both false)) where
  list scope := by
    intro files vars h
    change Agreeing _ (runIn files _).1 (runIn vars _).1 ∧ Represents paths (runIn files _).2 _
    rw [Store.runIn_file_list, represents_iff.mp h scope]
    exact ⟨.ok (.refl _), h⟩
  get scope key := by
    intro files vars h
    change (runIn files _).1 = (runIn vars _).1 ∧ Represents paths (runIn files _).2 _
    rw [Store.runIn_file_get, represents_iff.mp h scope]
    exact ⟨rfl, h⟩
  set scope key value := by
    intro files vars h
    have hcall := (h.call hpaths (.set scope key value)).2
    simp only [Store.call, runIn_map] at hcall
    refine ⟨?_, hcall⟩
    change (runIn files _).1 = (runIn vars _).1
    rw [Store.runIn_file_set paths files scope key (represents_iff.mp h scope),
      Store.runIn_memory_set]

end ScopedVars
