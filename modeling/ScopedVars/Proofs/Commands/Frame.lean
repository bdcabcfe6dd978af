import ScopedVars.Proofs.Commands.Failing
import ScopedVars.Proofs.Store.Medium

/-! # What commands leave alone

A command touches at most the variable that its first argument names, in the scope that it is
carried out in. A command that neither writes nor removes a variable leaves the whole state, and
cannot tell which writes would have been refused.
-/

namespace ScopedVars

theorem Command.target?_eq_none {command : Command} {operation : Operation}
    (h : command.operation? = some operation) (hwrites : ∀ key, ¬ command.WritesTo key) :
    operation.target? = none := by
  cases htarget : operation.target? with
  | none => rfl
  | some key => exact absurd (writesTo_of_operation h htarget) (hwrites key)

namespace Store

section Reading

variable {m : Type → Type} [Monad m] {store other : Store m} {operation : Operation}

theorem perform_eq_of_reads (hlist : store.list = other.list) (hget : store.get = other.get)
    (htarget : operation.target? = none) (scope : Scope) :
    store.perform scope operation = other.perform scope operation := by
  cases operation with
  | nothing => rfl
  | toggle => rfl
  | help => rfl
  | list => simp only [perform, hlist]
  | get key => simp only [perform, hget]
  | set key value => cases htarget
  | append key suffix dryRun =>
    cases dryRun with
    | true => simp only [perform, hget, if_true]
    | false => cases htarget
  | delete key => cases htarget

theorem attempt_eq_of_reads (hlist : store.list = other.list) (hget : store.get = other.get)
    {command : Command} (hwrites : ∀ key, ¬ command.WritesTo key) (scope : Scope) :
    store.attempt command scope = other.attempt command scope := by
  unfold attempt
  cases hproblems : command.problems with
  | cons problem problems => rfl
  | nil =>
    obtain ⟨operation, hoperation⟩ := Command.exists_operation hproblems
    have htarget := Command.target?_eq_none hoperation hwrites
    simp only [dispatch, hoperation, perform_eq_of_reads hlist hget htarget]

end Reading

variable {σ : Type} {medium : Medium σ} {store : Store (StateM σ)} {operation : Operation}

theorem Atomic.perform_reading (h : store.Atomic) (htarget : operation.target? = none)
    (scope : Scope) (state : σ) : (runIn state (store.perform scope operation)).2 = state := by
  cases operation with
  | nothing => rfl
  | toggle => rfl
  | help => rfl
  | list =>
    simp only [perform, bind_pure_comp, runIn_map]
    exact h.list scope state
  | get key => exact h.get scope key state
  | set key value => cases htarget
  | append key suffix dryRun =>
    cases dryRun with
    | true =>
      have hget := h.get scope key state
      exact after_bind (P := (· = state)) hget fun _ => hget
    | false => cases htarget
  | delete key => cases htarget

theorem Atomic.attempt_reading (h : store.Atomic) {command : Command}
    (hwrites : ∀ key, ¬ command.WritesTo key) (scope : Scope) (state : σ) :
    (runIn state (store.attempt command scope)).2 = state := by
  rcases store.attempt_cases command with
    ⟨-, hrefused⟩ | ⟨operation, -, hoperation, hperformed⟩
  · rw [hrefused]
    rfl
  · rw [hperformed, runIn_map, runIn_adapt]
    exact h.perform_reading (Command.target?_eq_none hoperation hwrites) scope state

theorem KeptIn.spares_write (h : store.KeptIn medium) (scope : Scope) (key : String)
    (value : Option String) (state : σ) :
    medium.Spares scope (some key) state (runIn state (store.write scope key value)).2 := by
  have hset := h.spares_set scope key value state
  refine after_bind hset fun _ => ?_
  rw [h.provided.atomic.get]
  exact hset

theorem KeptIn.spares_perform (h : store.KeptIn medium) (scope : Scope) (operation : Operation)
    (state : σ) :
    medium.Spares scope operation.target? state
      (runIn state (store.perform scope operation)).2 := by
  have hatomic := h.provided.atomic
  cases htarget : operation.target? with
  | none =>
    rw [hatomic.perform_reading htarget]
    exact .refl scope none state
  | some target =>
    cases operation with
    | set key value =>
      obtain rfl : key = target := Option.some.inj htarget
      exact h.spares_write scope key (some value) state
    | append key suffix dryRun =>
      cases dryRun with
      | true => cases htarget
      | false =>
        obtain rfl : key = target := Option.some.inj htarget
        have hget := hatomic.get scope key state
        refine after_bind ?_ fun old => ?_
        · rw [hget]
          exact .refl scope (some key) state
        · rw [hget]
          exact h.spares_write scope key _ state
    | delete key =>
      obtain rfl : key = target := Option.some.inj htarget
      exact h.spares_write scope key none state
    | _ => cases htarget

theorem KeptIn.spares_attempt (h : store.KeptIn medium) (command : Command) (scope : Scope)
    (state : σ) :
    medium.Spares scope command.args.head? state
      (runIn state (store.attempt command scope)).2 := by
  rcases store.attempt_cases command with
    ⟨-, hrefused⟩ | ⟨operation, -, hoperation, hperformed⟩
  · rw [hrefused]
    exact .refl scope _ state
  · rw [hperformed, runIn_map, runIn_adapt]
    refine (h.spares_perform scope operation state).mono fun key htarget => ?_
    exact (Command.writesTo_of_operation hoperation htarget).2

/-- A command leaves all alone but the variable that its first argument names in the selected scope,
whether it succeeds or fails. If it does not ask to write or remove that variable it changes nothing
at all, and ends the same way whichever writes are refused. -/
theorem runOnce_touches_one (hstore : store.KeptIn medium) (tokens : List String) (state : σ) :
    medium.Spares (Command.scopeOf tokens) (Command.classify tokens).args.head? state
        (runIn state (store.runOnce tokens)).2 ∧
      ((∀ key, ¬ (Command.classify tokens).WritesTo key) →
        (runIn state (store.runOnce tokens)).2 = state ∧
          ∀ other, store.DiffersInWrites other →
            runIn state (other.runOnce tokens) = runIn state (store.runOnce tokens)) := by
  refine ⟨hstore.spares_attempt _ _ state, fun hwrites => ⟨?_, fun other hother => ?_⟩⟩
  · exact hstore.provided.atomic.attempt_reading hwrites _ state
  · rw [runOnce_eq_attempt, runOnce_eq_attempt,
      attempt_eq_of_reads hother.reads_eq.1 hother.reads_eq.2 hwrites]

theorem runOnce_touches_one_files :
    (file (FileSystem.memory.withFaults {}) ⟨"/user", "/system"⟩).KeptIn
        (.files ⟨"/user", "/system"⟩) ∧
      (Medium.files ⟨"/user", "/system"⟩).Spares .user (some "A")
        (((∅ : Files).insert "/user" "# mine\nB = 'b'\n").insert "/system" "A")
        (runIn (((∅ : Files).insert "/user" "# mine\nB = 'b'\n").insert "/system" "A")
          ((file (FileSystem.memory.withFaults {}) ⟨"/user", "/system"⟩).runOnce
            ["set", "A", "a"])).2 ∧
      (∀ key, ¬ (Command.classify ["append", "-t", "B", "c"]).WritesTo key) ∧
      (file (FileSystem.memory.withFaults {}) ⟨"/user", "/system"⟩).DiffersInWrites
        (file (FileSystem.memory.withFaults { write := some .isDirectory })
          ⟨"/user", "/system"⟩) ∧
      runIn (((∅ : Files).insert "/user" "# mine\nB = 'b'\n").insert "/system" "A")
          ((file (FileSystem.memory.withFaults { write := some .isDirectory })
            ⟨"/user", "/system"⟩).runOnce ["append", "-t", "B", "c"]) =
        runIn (((∅ : Files).insert "/user" "# mine\nB = 'b'\n").insert "/system" "A")
          ((file (FileSystem.memory.withFaults {}) ⟨"/user", "/system"⟩).runOnce
            ["append", "-t", "B", "c"]) := by
  have hstore : (file (FileSystem.memory.withFaults {}) ⟨"/user", "/system"⟩).KeptIn
      (.files ⟨"/user", "/system"⟩) := .file {} (by decide)
  have hwrites : ∀ key, ¬ (Command.classify ["append", "-t", "B", "c"]).WritesTo key := by
    rintro key ⟨hverb | hverb | ⟨-, hdry⟩, -⟩
    · exact absurd hverb (by decide)
    · exact absurd hverb (by decide)
    · exact absurd hdry (by decide)
  have hother : (file (FileSystem.memory.withFaults {}) ⟨"/user", "/system"⟩).DiffersInWrites
      (file (FileSystem.memory.withFaults { write := some .isDirectory }) ⟨"/user", "/system"⟩) :=
    .file {} { write := some .isDirectory } rfl _
  exact ⟨hstore, (runOnce_touches_one hstore ["set", "A", "a"] _).1, hwrites, hother,
    ((runOnce_touches_one hstore ["append", "-t", "B", "c"] _).2 hwrites).2 _ hother⟩

end Store

end ScopedVars
