import ScopedVars.Proofs.Store.Correspondence

/-! # Recorded calls

A store can note every call that is made to it. Noting changes nothing else: the recording store
corresponds to the store, so that a command on its own makes on both what it makes on one.
-/

namespace ScopedVars

variable {σ : Type}

def noting {α : Type} (call : Call) (action : ExceptT StoreError (StateM σ) α) :
    ExceptT StoreError (StateM (σ × List Call)) α :=
  .mk fun (state, calls) =>
    ((runIn state action).1, (runIn state action).2, calls ++ [call])

namespace Store

variable (store : Store (StateM σ))

/-- The same store, noting the calls in the order in which they are made. -/
def recording : Store (StateM (σ × List Call)) where
  list scope := noting (.list scope) (store.list scope)
  get scope key := noting (.get scope key) (store.get scope key)
  set scope key value := noting (.set scope key value) (store.set scope key value)

section

variable (state : σ) (calls : List Call) (scope : Scope) (key : String)

@[simp]
theorem runIn_recording_list :
    runIn (state, calls) (store.recording.list scope) =
      ((runIn state (store.list scope)).1, (runIn state (store.list scope)).2,
        calls ++ [.list scope]) := rfl

@[simp]
theorem runIn_recording_get :
    runIn (state, calls) (store.recording.get scope key) =
      ((runIn state (store.get scope key)).1, (runIn state (store.get scope key)).2,
        calls ++ [.get scope key]) := rfl

@[simp]
theorem runIn_recording_set (value : Option String) :
    runIn (state, calls) (store.recording.set scope key value) =
      ((runIn state (store.set scope key value)).1, (runIn state (store.set scope key value)).2,
        calls ++ [.set scope key value]) := rfl

end

def callsOf (tokens : List String) (state : σ) : List Call :=
  (runIn (state, []) (store.recording.runOnce tokens)).2.2

theorem corresponds_recording :
    store.Corresponds (fun state recorded => recorded.1 = state) store.recording where
  list scope := by
    rintro _ ⟨state, calls⟩ rfl
    exact ⟨.refl List.Perm.refl _, rfl⟩
  get scope key := by
    rintro _ ⟨state, calls⟩ rfl
    exact ⟨rfl, rfl⟩
  set scope key value := by
    rintro _ ⟨state, calls⟩ rfl
    exact ⟨rfl, rfl⟩

/-- A command does on the recording store what it does on the store. -/
theorem runIn_recording (tokens : List String) (state : σ) :
    runIn (state, []) (store.recording.runOnce tokens) =
      ((runIn state (store.runOnce tokens)).1, (runIn state (store.runOnce tokens)).2,
        store.callsOf tokens state) := by
  have hstart : (state, ([] : List Call)).1 = state := rfl
  obtain ⟨hresult, hafter⟩ := store.corresponds_recording.runOnce tokens hstart
  exact Prod.ext hresult.symm (Prod.ext hafter rfl)

end Store

end ScopedVars
