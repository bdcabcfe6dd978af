import ScopedVars.Proofs.Store.Stages

/-! # Atomic calls

In an atomic store reading changes nothing, and setting changes nothing if it fails. The stores in
memory and of files are atomic, whatever faults their file system has, and they stay atomic when
chosen calls fail or values are cut.
-/

namespace ScopedVars

namespace Store

variable {σ : Type}

/-- Whether only a call that sets changes anything, and only if it succeeds. -/
structure Atomic (store : Store (StateM σ)) : Prop where
  list : ∀ scope state, (runIn state (store.list scope)).2 = state
  get : ∀ scope key state, (runIn state (store.get scope key)).2 = state
  set : ∀ {scope key value state error},
    (runIn state (store.set scope key value)).1 = .error error →
      (runIn state (store.set scope key value)).2 = state

/-- The stores there are: variables in memory, some scopes read only, or files whose calls may fail;
either with calls that fail and with values cut to their first characters. -/
inductive Provided : {σ : Type} → Store (StateM σ) → Prop
  | memory (readOnly : Scoped Bool) : Provided (memory readOnly)
  | file (faults : FileFaults) (paths : Scoped String) :
      Provided (file (FileSystem.memory.withFaults faults) paths)
  | keeping {σ : Type} {store : Store (StateM σ)} (count : Nat) (h : Provided store) :
      Provided (store.keeping count)
  | withFaults {σ : Type} {store : Store (StateM σ)} (faults : Faults) (h : Provided store) :
      Provided (store.withFaults faults)

namespace Atomic

theorem memory (readOnly : Scoped Bool) : (Store.memory readOnly).Atomic where
  list _ _ := rfl
  get _ _ _ := rfl
  set {scope key value state error} h := by
    simp only [Store.memory] at h ⊢
    cases hscope : readOnly.get scope with
    | true => simp
    | false => simp [hscope] at h

theorem file (faults : FileFaults) (paths : Scoped String) :
    (Store.file (FileSystem.memory.withFaults faults) paths).Atomic where
  list scope files := by
    have hnone : (Call.list scope).writes paths files = false := rfl
    simpa only [call, runIn_map] using runIn_call_of_not_writes faults paths files hnone
  get scope key files := by
    have hnone : (Call.get scope key).writes paths files = false := rfl
    simpa only [call, runIn_map] using runIn_call_of_not_writes faults paths files hnone
  set {scope key value files error} h := by
    rcases runIn_call_cases faults paths files (.set scope key value) with
      ⟨error, -, hcall⟩ | ⟨-, answer, text, hcall⟩
    · simpa [call] using congrArg Prod.snd hcall
    · simp [call, h, Except.map] at hcall

variable {store : Store (StateM σ)}

theorem keeping (h : store.Atomic) (count : Nat) : (store.keeping count).Atomic where
  list := h.list
  get := h.get
  set := h.set

theorem withFaults (h : store.Atomic) (faults : Faults) : (store.withFaults faults).Atomic where
  list scope state := by
    cases hfault : faults.list with
    | none => simpa [Store.withFaults, failing, hfault] using h.list scope state
    | some fault => simp [Store.withFaults, failing, hfault]
  get scope key state := by
    cases hfault : faults.get with
    | none => simpa [Store.withFaults, failing, hfault] using h.get scope key state
    | some fault => simp [Store.withFaults, failing, hfault]
  set {scope key value state error} hset := by
    cases hfault : faults.set with
    | none =>
      simp only [Store.withFaults, failing, hfault] at hset ⊢
      exact h.set hset
    | some fault => simp [Store.withFaults, failing, hfault]

end Atomic

theorem Provided.atomic {store : Store (StateM σ)} (h : store.Provided) : store.Atomic := by
  induction h with
  | memory readOnly => exact .memory readOnly
  | file faults paths => exact .file faults paths
  | keeping count _ ih => exact ih.keeping count
  | withFaults faults _ ih => exact ih.withFaults faults

end Store

end ScopedVars
