import ScopedVars.Proofs.Store.Limits
import ScopedVars.Proofs.Store.Rewriting

/-! # Stores without faults

A store without faults carries out every change in a scope that can be read. A value that is set
hides what was there before, and it does not matter which characters of the value were cut off
before it was set, if they would have been cut off by the store.
-/

namespace ScopedVars

theorem cut_cut_append (limit : Option Nat) (text suffix : String) :
    cut limit (cut limit text ++ suffix) = cut limit (text ++ suffix) := by
  cases limit with
  | none => rfl
  | some count =>
    have hleft : count - min count text.toList.length = count - text.toList.length := by omega
    simp [cut, List.take_append, List.take_take, hleft]

theorem cut_none : cut none = id := rfl

namespace Scoped

variable {α : Type}

theorem set_set (values : Scoped α) (scope : Scope) (a b : α) :
    (values.set scope a).set scope b = values.set scope b := by
  cases scope <;> rfl

end Scoped

namespace Store

variable {σ : Type} {scope : Scope} {limit : Option Nat} {medium : Medium σ}
  {store : Store (StateM σ)} {state : σ} {vars : Dict String}

/-- The stores that carry out every change in a scope, each with the medium of its states and with
the limit to what it keeps of a value. -/
inductive Faultless (scope : Scope) :
    {σ : Type} → Option Nat → Medium σ → Store (StateM σ) → Prop
  | memory (readOnly : Scoped Bool) (h : readOnly.get scope = false) :
      Faultless scope none .memory (memory readOnly)
  | file (paths : Scoped String) : Faultless scope none (.files paths) (file .memory paths)
  | keeping {σ : Type} {limit : Option Nat} {medium : Medium σ} {store : Store (StateM σ)}
      (count : Nat) (h : Faultless scope limit medium store) :
      Faultless scope (some (min (limit.getD count) count)) medium (store.keeping count)

theorem runIn_memory_set_of_writable {readOnly : Scoped Bool} (h : readOnly.get scope = false)
    (vars : Variables) (key : String) (value : Option String) :
    runIn vars ((memory readOnly).set scope key value) =
      (.ok (), vars.set scope ((vars.get scope).alter key value)) := by
  simp only [memory, h]
  rfl

theorem runIn_file_get_cases (paths : Scoped String) (files : Files) (scope : Scope)
    (key : String) :
    (∃ vars, (Medium.files paths).contents? files scope = some vars ∧
        runIn files ((file .memory paths).get scope key) = (.ok (vars.get? key), files)) ∨
      (Medium.files paths).contents? files scope = none ∧
        ∃ error, runIn files ((file .memory paths).get scope key) = (.error error, files) := by
  rw [runIn_file_get]
  cases hcontents : FileStore.contents paths files scope with
  | ok vars => exact .inl ⟨vars, Medium.contents?_files.mpr hcontents, rfl⟩
  | error error =>
    refine .inr ⟨?_, error, rfl⟩
    rw [FileStore.contents?_eq_variables?]
    exact FileStore.variables?_of_contents_error paths hcontents

namespace Faultless

theorem get_cases (h : store.Faultless scope limit medium) (key : String) (state : σ) :
    (∃ vars, medium.contents? state scope = some vars ∧
        runIn state (store.get scope key) = (.ok (vars.get? key), state)) ∨
      medium.contents? state scope = none ∧
        ∃ error, runIn state (store.get scope key) = (.error error, state) := by
  induction h with
  | memory readOnly _ => exact .inl ⟨state.get scope, rfl, rfl⟩
  | file paths => exact runIn_file_get_cases paths state scope key
  | keeping count _ ih => exact ih state

theorem get (h : store.Faultless scope limit medium)
    (hvars : medium.contents? state scope = some vars) (key : String) :
    runIn state (store.get scope key) = (.ok (vars.get? key), state) := by
  rcases h.get_cases key state with ⟨found, hfound, hget⟩ | ⟨hnone, -⟩
  · obtain rfl := Option.some.inj (hvars.symm.trans hfound)
    exact hget
  · cases hvars.symm.trans hnone

theorem set (h : store.Faultless scope limit medium)
    (hvars : medium.contents? state scope = some vars) (key : String) (value : Option String) :
    ∃ after, runIn state (store.set scope key value) = (.ok (), after) ∧
      medium.contents? after scope = some (vars.alter key (value.map (cut limit))) := by
  induction h generalizing value with
  | memory readOnly hwritable =>
    obtain rfl : state.get scope = vars := Option.some.inj hvars
    refine ⟨_, runIn_memory_set_of_writable hwritable state key value, ?_⟩
    rw [cut_none, Option.map_id]
    exact congrArg some ((Scoped.get_set ..).trans (if_pos rfl))
  | file paths =>
    rw [FileStore.runIn_set, Medium.contents?_files.mp hvars]
    refine ⟨_, rfl, ?_⟩
    rw [FileStore.contents?_eq_variables?] at hvars
    rw [cut_none, Option.map_id, FileStore.contents?_eq_variables?, Dict.get?_alter, if_pos rfl]
    exact FileStore.variables?_rewritten hvars key value
  | keeping count _ ih =>
    obtain ⟨after, hset, hafter⟩ :=
      ih hvars (value.map fun text => .ofList (text.toList.take count))
    refine ⟨after, hset, hafter.trans ?_⟩
    rw [Option.map_map]
    simp only [Function.comp_def, cut_take]

theorem overwrite (h : store.Faultless scope limit medium) (key : String) (old : Option String)
    (text : String) (state : σ) :
    runIn (runIn state (store.set scope key old)).2 (store.set scope key (some text)) =
      runIn state (store.set scope key (some text)) := by
  induction h generalizing old text with
  | memory readOnly hwritable =>
    simp only [runIn_memory_set_of_writable hwritable, Scoped.get_set, if_true, Scoped.set_set,
      Dict.alter_alter]
  | file paths =>
    simp only [FileStore.runIn_set, Dict.get?_alter, if_true, Dict.alter_alter,
      FileStore.rewritten_some_rewritten, FileStore.readable_alter]
  | keeping count _ ih => exact ih (old.map _) _ state

theorem set_after_set (h : store.Faultless scope limit medium) {key : String}
    {old : Option String} {answer : Except StoreError Unit} {between : σ}
    (hset : runIn state (store.set scope key old) = (answer, between)) (text : String) :
    runIn between (store.set scope key (some text)) =
      runIn state (store.set scope key (some text)) := by
  rw [← h.overwrite key old text state, hset]

theorem set_congr (h : store.Faultless scope limit medium) (key : String) {text other : String}
    (hkept : cut limit text = cut limit other) :
    store.set scope key (some text) = store.set scope key (some other) := by
  induction h generalizing text other with
  | memory => rw [show text = other from hkept]
  | file => rw [show text = other from hkept]
  | keeping count _ ih =>
    refine ih ?_
    rw [cut_take, cut_take]
    exact hkept

end Faultless

end Store

end ScopedVars
