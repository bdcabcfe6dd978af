import ScopedVars.Proofs.Store.Atomicity
import ScopedVars.Proofs.Store.Recording

/-! # Failing commands

A command that fails on an atomic store has changed nothing, or it has written one variable and then
failed to read what the store holds. A command that is refused has not called the store.
-/

namespace ScopedVars

/-- The variable that an operation writes or removes. -/
def Operation.target? : Operation → Option String
  | .set key _ => some key
  | .append key _ dryRun => if dryRun then none else some key
  | .delete key => some key
  | _ => none

def Command.WritesTo (command : Command) (key : String) : Prop :=
  (command.verb = .set ∨ command.verb = .delete ∨
      command.verb = .append ∧ command.isDryRun = false) ∧
    command.args.head? = some key

theorem Command.writesTo_of_operation {command : Command} {operation : Operation} {key : String}
    (h : command.operation? = some operation) (htarget : operation.target? = some key) :
    command.WritesTo key := by
  unfold operation? at h
  split at h <;> cases h <;> simp_all [Operation.target?, WritesTo]

def Call.isSet : Call → Bool
  | .list _ => false
  | .get _ _ => false
  | .set _ _ _ => true

namespace Store

variable {σ : Type} {store : Store (StateM σ)} {scope : Scope} {key : String} {state after : σ}
  {calls : List Call} {error : StoreError}

/-- Whether the last two of the calls have set the variable and then failed to get it, and no call
before has set anything. -/
def Unconfirmed (store : Store (StateM σ)) (scope : Scope) (key : String) (state : σ)
    (error : StoreError) (after : σ) (calls : List Call) : Prop :=
  ∃ value before, calls = before ++ [.set scope key value, .get scope key] ∧
    (∀ call ∈ before, call.isSet = false) ∧
    runIn state (store.set scope key value) = (.ok (), after) ∧
    runIn after (store.get scope key) = (.error error, after)

theorem Atomic.write_error (h : store.Atomic) {value : Option String} {before : List Call}
    (hbefore : ∀ call ∈ before, call.isSet = false)
    (hwrite : runIn (state, before) (store.recording.write scope key value) =
      (.error error, after, calls)) :
    after = state ∨ store.Unconfirmed scope key state error after calls := by
  simp only [write, runIn_bind, runIn_recording_set] at hwrite
  rcases hset : runIn state (store.set scope key value) with ⟨failure | ⟨⟩, next⟩
  · have hnext := h.set (congrArg Prod.fst hset)
    rw [hset] at hwrite hnext
    cases hwrite
    exact .inl hnext
  · have hget := h.get scope key next
    simp only [hset, runIn_recording_get] at hwrite
    rcases hread : runIn next (store.get scope key) with ⟨answer, last⟩
    rw [hread] at hwrite hget
    cases hwrite
    cases hget
    exact .inr ⟨value, before, List.append_assoc .., hbefore, hset, hread⟩

theorem Atomic.perform_error (h : store.Atomic) {operation : Operation}
    (hperform : runIn (state, []) (store.recording.perform scope operation) =
      (.error error, after, calls)) :
    after = state ∨
      ∃ key, operation.target? = some key ∧
        store.Unconfirmed scope key state error after calls := by
  cases operation with
  | nothing => cases hperform
  | toggle => cases hperform
  | help => cases hperform
  | list =>
    simp only [perform, bind_pure_comp, runIn_map, runIn_recording_list] at hperform
    obtain ⟨-, rfl, -⟩ : _ ∧ _ ∧ _ := by simpa only [Prod.mk.injEq] using hperform
    exact .inl (h.list scope state)
  | get key =>
    simp only [perform, runIn_recording_get] at hperform
    obtain ⟨-, rfl, -⟩ : _ ∧ _ ∧ _ := by simpa only [Prod.mk.injEq] using hperform
    exact .inl (h.get scope key state)
  | set key value =>
    exact (h.write_error (by simp) hperform).imp_right fun hunread => ⟨key, rfl, hunread⟩
  | append key suffix dryRun =>
    have hget := h.get scope key state
    simp only [perform, runIn_bind, runIn_recording_get] at hperform
    rcases hread : runIn state (store.get scope key) with ⟨failure | old, next⟩
    · rw [hread] at hperform hget
      cases hperform
      exact .inl hget
    · rw [hread] at hget
      cases hget
      cases dryRun with
      | true => simp [hread] at hperform
      | false =>
        simp only [hread, Bool.false_eq_true, if_false] at hperform
        exact (h.write_error (by simp [Call.isSet]) hperform).imp_right fun hunread =>
          ⟨key, rfl, hunread⟩
  | delete key =>
    exact (h.write_error (by simp) hperform).imp_right fun hunread => ⟨key, rfl, hunread⟩

theorem Atomic.attempt_error (h : store.Atomic) {command : Command} {failure : Failure}
    (hattempt : runIn (state, []) (store.recording.attempt command scope) =
      (.error failure, after, calls)) :
    (∃ problems, failure = .invalid problems ∧ after = state ∧ calls = []) ∨
      ∃ error, failure = .store error ∧
        (after = state ∨ ∃ key, command.WritesTo key ∧
          store.Unconfirmed scope key state error after calls) := by
  rcases store.recording.attempt_cases command with
    ⟨-, hrefused⟩ | ⟨operation, -, hoperation, hperformed⟩
  · rw [hrefused] at hattempt
    cases hattempt
    exact .inl ⟨_, rfl, rfl, rfl⟩
  · rw [hperformed, runIn_map, runIn_adapt] at hattempt
    rcases hperform : runIn (state, []) (store.recording.perform scope operation) with
      ⟨error | result, last⟩
    · rw [hperform] at hattempt
      cases hattempt
      refine .inr ⟨error, rfl, (h.perform_error hperform).imp_right ?_⟩
      rintro ⟨key, htarget, hunread⟩
      exact ⟨key, Command.writesTo_of_operation hoperation htarget, hunread⟩
    · rw [hperform] at hattempt
      cases hattempt

/-- A command that fails was refused before any call to the store, or the store failed. The state is
then the one before the command, unless the command set or removed a variable and only the read that
confirms it failed. -/
theorem runOnce_error (hstore : store.Provided) {tokens : List String} {failure : Failure}
    (h : runIn state (store.runOnce tokens) = (.error failure, after)) :
    (∃ problems, failure = .invalid problems ∧ after = state ∧ store.callsOf tokens state = []) ∨
      ∃ error, failure = .store error ∧
        (after = state ∨ ∃ key, (Command.classify tokens).WritesTo key ∧
          store.Unconfirmed (Command.scopeOf tokens) key state error after
            (store.callsOf tokens state)) := by
  have hrecorded := store.runIn_recording tokens state
  rw [h, runOnce_eq_attempt] at hrecorded
  exact hstore.atomic.attempt_error hrecorded

def unreadable : Store (StateM Files) :=
  file (FileSystem.memory.withFaults { read := some .permissionDenied }) ⟨"/user", "/system"⟩

/-- A variable is set in a file that was missing, and cannot be read again. -/
theorem runOnce_error_unreadable :
    unreadable.Provided ∧
      runIn ∅ (unreadable.runOnce ["set", "A", "b"]) =
        (.error (.store (.denied .user "/user")), (∅ : Files).insert "/user" "A = \"b\"\n") ∧
      ((∃ problems, Failure.store (.denied .user "/user") = .invalid problems ∧
          (∅ : Files).insert "/user" "A = \"b\"\n" = ∅ ∧
          unreadable.callsOf ["set", "A", "b"] ∅ = []) ∨
        ∃ error, Failure.store (.denied .user "/user") = .store error ∧
          ((∅ : Files).insert "/user" "A = \"b\"\n" = ∅ ∨
            ∃ key, (Command.classify ["set", "A", "b"]).WritesTo key ∧
              unreadable.Unconfirmed (Command.scopeOf ["set", "A", "b"]) key ∅ error
                ((∅ : Files).insert "/user" "A = \"b\"\n")
                (unreadable.callsOf ["set", "A", "b"] ∅))) := by
  have hstore : unreadable.Provided := .file _ _
  have hrun : runIn ∅ (unreadable.runOnce ["set", "A", "b"]) =
      (.error (.store (.denied .user "/user")), (∅ : Files).insert "/user" "A = \"b\"\n") := by
    rfl
  exact ⟨hstore, hrun, runOnce_error hstore hrun⟩

end Store

end ScopedVars
