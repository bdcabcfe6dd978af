import Mathlib.Data.List.Forall2
import ScopedVars.Proofs.Store.Persistence

/-! # Files stand for variables in memory

Calls to a store of files and to a store in memory are compared answer by answer. If every file
represents the variables of its scope, the same call gets the same answer from both stores, and the
files represent the variables again.
-/

namespace ScopedVars

inductive Call where
  | list (scope : Scope)
  | get (scope : Scope) (key : String)
  | set (scope : Scope) (key : String) (value : Option String)
  deriving DecidableEq, Repr

inductive Answer where
  | keys (keys : List String)
  | value (value : Option String)
  | done
  deriving DecidableEq, Repr

namespace Store

variable {σ : Type} {m : Type → Type} [Monad m]

def call (store : Store m) : Call → ExceptT StoreError m Answer
  | .list scope => .keys <$> store.list scope
  | .get scope key => .value <$> store.get scope key
  | .set scope key value => (fun _ => .done) <$> store.set scope key value

/-- Makes calls one after the other: the answer to each of them and the state after it. -/
def trace (store : Store (StateM σ)) : List Call → σ → List (Except StoreError Answer × σ)
  | [], _ => []
  | call :: calls, state =>
    let step := runIn state (store.call call)
    step :: store.trace calls step.2

end Store

/-- Whether two answers agree: names as sets in which each stands once, all else exactly. -/
def Answer.Agrees : Answer → Answer → Prop
  | .keys names, .keys others => names.Nodup ∧ others.Nodup ∧ ∀ key, key ∈ names ↔ key ∈ others
  | answer, other => answer = other

def Agree : Except StoreError Answer → Except StoreError Answer → Prop
  | .ok answer, .ok other => answer.Agrees other
  | answer, other => answer = other

namespace Store

variable (vars : Variables) (scope : Scope) (key : String) (value : Option String)
  (readOnly : Scoped Bool)

theorem runIn_memory_list :
    runIn vars ((memory readOnly).list scope) = (.ok (vars.get scope).keys, vars) := rfl

theorem runIn_memory_get :
    runIn vars ((memory readOnly).get scope key) = (.ok ((vars.get scope).get? key), vars) := rfl

theorem runIn_memory_set :
    runIn vars ((memory (.both false)).set scope key value) =
      (.ok (), vars.set scope ((vars.get scope).alter key value)) := by
  simp only [memory, Scoped.get_both]
  rfl

end Store

/-- The file of each scope is missing and the scope is empty, or the file holds its variables. -/
def Represents (paths : Scoped String) (files : Files) (vars : Variables) : Prop :=
  ∀ scope, (files.get? (paths.get scope) = none ∧ vars.get scope = ∅) ∨
    ∃ text, files.get? (paths.get scope) = some text ∧ Toml.decode text = .ok (vars.get scope)

variable {paths : Scoped String} {files : Files} {vars : Variables}

theorem represents_iff :
    Represents paths files vars ↔
      ∀ scope, FileStore.contents paths files scope = .ok (vars.get scope) := by
  refine forall_congr' fun scope => ?_
  unfold FileStore.contents
  cases files.get? (paths.get scope) with
  | none => simp [eq_comm]
  | some text => cases hread : Toml.decode text <;> simp [hread]

theorem Represents.insert (h : Represents paths files vars) (hpaths : paths.user ≠ paths.system)
    (scope : Scope) (changed : Dict String) :
    Represents paths (files.insert (paths.get scope) (Toml.encode changed))
      (vars.set scope changed) := by
  intro other
  by_cases hscope : other = scope
  · subst hscope
    exact .inr ⟨Toml.encode changed, by simp, by simp [Scoped.get_set, Toml.decode_encode]⟩
  · have hpath : paths.get other ≠ paths.get scope := mt (Scoped.get_inj hpaths).mp hscope
    simpa [Scoped.get_set, hpath, hscope] using h other

theorem set_erase_of_not_contains {scope : Scope} {key : String}
    (h : (vars.get scope).contains key = false) :
    vars.set scope ((vars.get scope).erase key) = vars := by
  rw [Dict.erase_of_not_contains h]
  cases scope <;> rfl

/-- One call gets the same answer from both stores and leaves them related. -/
theorem Represents.call (h : Represents paths files vars) (hpaths : paths.user ≠ paths.system)
    (call : Call) :
    Agree (runIn files ((Store.file .memory paths).call call)).1
        (runIn vars ((Store.memory (.both false)).call call)).1 ∧
      Represents paths (runIn files ((Store.file .memory paths).call call)).2
        (runIn vars ((Store.memory (.both false)).call call)).2 := by
  have hcontents := represents_iff.mp h
  cases call with
  | list scope =>
    simp only [Store.call, runIn_map, Store.runIn_file_list, Store.runIn_memory_list, hcontents]
    exact ⟨⟨Dict.nodup_keys _, Dict.nodup_keys _, fun _ => Iff.rfl⟩, h⟩
  | get scope key =>
    simp only [Store.call, runIn_map, Store.runIn_file_get, Store.runIn_memory_get, hcontents]
    exact ⟨rfl, h⟩
  | set scope key value =>
    simp only [Store.call, runIn_map, Store.runIn_file_set _ _ _ _ (hcontents scope),
      Store.runIn_memory_set]
    refine ⟨rfl, ?_⟩
    split
    case isTrue hskip =>
      rw [Bool.and_eq_true, Option.isNone_iff_eq_none, Bool.not_eq_true'] at hskip
      obtain ⟨rfl, habsent⟩ := hskip
      rw [Dict.alter, set_erase_of_not_contains habsent]
      exact h
    case isFalse => exact h.insert hpaths scope _

/-- Every run of calls gets the same answers from a store of files and from a store in memory, and
after every call the files represent the variables. -/
theorem file_refines_memory (hpaths : paths.user ≠ paths.system)
    (h : Represents paths files vars) (calls : List Call) :
    List.Forall₂ (fun step other => Agree step.1 other.1 ∧ Represents paths step.2 other.2)
      ((Store.file .memory paths).trace calls files)
      ((Store.memory (.both false)).trace calls vars) := by
  induction calls generalizing files vars with
  | nil => exact .nil
  | cons call calls ih =>
    obtain ⟨hagree, hafter⟩ := h.call hpaths call
    exact .cons ⟨hagree, hafter⟩ (ih hafter)

theorem file_refines_memory_quotes :
    "/user" ≠ "/system" ∧
      Represents ⟨"/user", "/system"⟩ ((∅ : Files).insert "/user" "A = \"\"\"a'b\"\"\"\"\"\n")
        ⟨(∅ : Dict String).insert "A" "a'b\"\"", ∅⟩ ∧
      List.Forall₂
        (fun step other => Agree step.1 other.1 ∧ Represents ⟨"/user", "/system"⟩ step.2 other.2)
        ((Store.file .memory ⟨"/user", "/system"⟩).trace
          [.set .user "A" none, .set .system "" (some "\r"), .list .system]
          ((∅ : Files).insert "/user" "A = \"\"\"a'b\"\"\"\"\"\n"))
        ((Store.memory (.both false)).trace
          [.set .user "A" none, .set .system "" (some "\r"), .list .system]
          ⟨(∅ : Dict String).insert "A" "a'b\"\"", ∅⟩) := by
  have hpaths : "/user" ≠ "/system" := by decide
  have htext :
      "A = \"\"\"a'b\"\"\"\"\"\n" = Toml.encode ((∅ : Dict String).insert "A" "a'b\"\"") := by
    decide
  have h : Represents ⟨"/user", "/system"⟩
      ((∅ : Files).insert "/user" "A = \"\"\"a'b\"\"\"\"\"\n")
      ⟨(∅ : Dict String).insert "A" "a'b\"\"", ∅⟩ := by
    rw [htext, represents_iff]
    rintro (_ | _)
    · exact FileStore.contents_insert_encode _ _ .user _
    · rfl
  exact ⟨hpaths, h, file_refines_memory hpaths h _⟩

end ScopedVars
