import ScopedVars.Proofs.Store.Stages

/-! # Denied writes

Variables in memory that are read only stand in for files that may not be written. Calls to both get
the same outcome and change nothing, but for one kind of call: to remove a variable that is not
there writes no file, while the variables in memory refuse it as they refuse every write.
-/

namespace ScopedVars

/-- Whether two outcomes are the same beside the order of names and the location of a denial. -/
inductive SameOutcome : Except StoreError Answer → Except StoreError Answer → Prop
  | answered {answer other : Answer} (h : answer.Agrees other) :
      SameOutcome (.ok answer) (.ok other)
  | denied (scope : Scope) (location other : String) :
      SameOutcome (.error (.denied scope location)) (.error (.denied scope other))

theorem not_sameOutcome_error_ok (error : StoreError) (answer : Answer) :
    ¬ SameOutcome (.error error) (.ok answer) := by
  rintro ⟨⟩

def Call.RemovesAbsent (vars : Variables) : Call → Prop
  | .set scope key none => (vars.get scope).contains key = false
  | _ => False

namespace FileSystem

def unwritable : FileSystem (StateM Files) := memory.withFaults { write := some .permissionDenied }

end FileSystem

variable {paths : Scoped String} {files : Files} {vars : Variables}

theorem Represents.writes_set (h : Represents paths files vars) (scope : Scope) (key : String)
    (value : Option String) :
    (Call.set scope key value).writes paths files =
      (value.isSome || (vars.get scope).contains key) := by
  simp only [Call.writes, represents_iff.mp h scope]

theorem Represents.removesAbsent_set_iff (h : Represents paths files vars) (scope : Scope)
    (key : String) (value : Option String) :
    (Call.set scope key value).RemovesAbsent vars ↔
      (Call.set scope key value).writes paths files = false := by
  rw [h.writes_set]
  cases value with
  | none => simp [Call.RemovesAbsent]
  | some text => simp [Call.RemovesAbsent]

theorem Represents.error?_unwritable (h : Represents paths files vars) (call : Call) :
    call.error? { write := some .permissionDenied } paths files =
      if call.writes paths files then some (.denied call.scope (paths.get call.scope))
      else none := by
  have hdecode :
      Stage.error? { write := some .permissionDenied } paths files call .decode = none := by
    rcases h call.scope with ⟨hmissing, -⟩ | ⟨text, hfile, hread⟩
    · simp [Stage.error?, hmissing]
    · simp [Stage.error?, hfile, hread]
  rw [Call.error?_eq, hdecode]
  cases hwrites : call.writes paths files <;> simp [Stage.error?, hwrites, IoError.reported]

theorem Represents.runIn_call_unwritable (h : Represents paths files vars) (call : Call) :
    runIn files ((Store.file .unwritable paths).call call) =
      if call.writes paths files then (.error (.denied call.scope (paths.get call.scope)), files)
      else runIn files ((Store.file .memory paths).call call) := by
  rw [FileSystem.unwritable, Store.runIn_call_withFaults, h.error?_unwritable]
  split
  · rfl
  · rfl

theorem Store.runIn_memory_set_readOnly (scope : Scope) (key : String) (value : Option String) :
    runIn vars ((memory (.both true)).set scope key value) =
      (.error (.denied scope "memory"), vars) := by
  simp only [memory, Scoped.get_both]
  rfl

/-- What a call gives on variables in memory that are read only, and on files that hold them and may
not be written. -/
structure Denial (paths : Scoped String) (files : Files) (vars : Variables) (call : Call)
    (step : Except StoreError Answer × Variables) (other : Except StoreError Answer × Files) :
    Prop where
  vars_unchanged : step.2 = vars
  files_unchanged : other.2 = files
  same_iff : SameOutcome step.1 other.1 ↔ ¬ call.RemovesAbsent vars
  removal : call.RemovesAbsent vars →
    step.1 = .error (.denied call.scope "memory") ∧ other.1 = .ok .done
  fails_iff : (∃ error, other.1 = .error error) ↔ call.writes paths files = true

theorem denial_of_reads {call : Call} {answer other : Answer} (h : answer.Agrees other)
    (hremoval : ¬ call.RemovesAbsent vars) (hwrites : call.writes paths files = false) :
    Denial paths files vars call (.ok answer, vars) (.ok other, files) where
  vars_unchanged := rfl
  files_unchanged := rfl
  same_iff := iff_of_true (.answered h) hremoval
  removal hremoves := absurd hremoves hremoval
  fails_iff := by
    rw [hwrites]
    exact iff_of_false nofun Bool.false_ne_true

theorem Represents.denial (h : Represents paths files vars) (call : Call) :
    Denial paths files vars call (runIn vars ((Store.memory (.both true)).call call))
      (runIn files ((Store.file .unwritable paths).call call)) := by
  have hcontents := represents_iff.mp h
  rw [h.runIn_call_unwritable]
  cases call with
  | list scope =>
    simp only [Call.writes, Store.call, runIn_map, Store.runIn_file_list, Store.runIn_memory_list,
      hcontents]
    exact denial_of_reads ⟨Dict.nodup_keys _, Dict.nodup_keys _, fun _ => Iff.rfl⟩ id rfl
  | get scope key =>
    simp only [Call.writes, Store.call, runIn_map, Store.runIn_file_get, Store.runIn_memory_get,
      hcontents]
    exact denial_of_reads rfl id rfl
  | set scope key value =>
    have hremoves := h.removesAbsent_set_iff scope key value
    have hdenied : runIn vars ((Store.memory (.both true)).call (.set scope key value)) =
        (.error (.denied scope "memory"), vars) := by
      rw [Store.call, runIn_map, Store.runIn_memory_set_readOnly]
      rfl
    rw [hdenied]
    cases hwrites : (Call.set scope key value).writes paths files with
    | true =>
      have hstays : ¬ (Call.set scope key value).RemovesAbsent vars := by
        rw [hremoves, hwrites]
        exact Bool.true_eq_false.mp
      exact {
        vars_unchanged := rfl
        files_unchanged := rfl
        same_iff := iff_of_true (.denied scope "memory" (paths.get scope)) hstays
        removal := fun hremoval => absurd hremoval hstays
        fails_iff := iff_of_true ⟨_, rfl⟩ hwrites }
    | false =>
      have hanswer : runIn files ((Store.file .memory paths).call (.set scope key value)) =
          (.ok .done, files) := by
        have hskip : (value.isNone && !(vars.get scope).contains key) = true := by
          rw [h.writes_set] at hwrites
          cases value <;> simp_all
        rw [Store.call, runIn_map, Store.runIn_file_set _ _ _ _ (hcontents scope), if_pos hskip]
        rfl
      rw [if_neg Bool.false_ne_true, hanswer]
      exact {
        vars_unchanged := rfl
        files_unchanged := rfl
        same_iff :=
          iff_of_false (not_sameOutcome_error_ok _ _) (not_not_intro (hremoves.mpr hwrites))
        removal := fun _ => ⟨rfl, rfl⟩
        fails_iff := iff_of_false (by rintro ⟨_, ⟨⟩⟩) (by simp [hwrites]) }

/-- In every run of calls variables in memory that are read only and files that hold them and may
not be written stay as they are, and every call has the same outcome on both unless it removes a
variable that is not there. -/
theorem readOnly_beside_unwritable (h : Represents paths files vars) (calls : List Call) :
    List.Forall₂ (fun call steps => Denial paths files vars call steps.1 steps.2) calls
      (((Store.memory (.both true)).trace calls vars).zip
        ((Store.file .unwritable paths).trace calls files)) := by
  induction calls with
  | nil => exact .nil
  | cons call calls ih =>
    have hcall := h.denial call
    rw [Store.trace, Store.trace, List.zip_cons_cons, hcall.vars_unchanged, hcall.files_unchanged]
    exact .cons hcall ih

theorem readOnly_beside_unwritable_present :
    Represents ⟨"/user", "/system"⟩ ((∅ : Files).insert "/user" "A = \"b\"\n")
        ⟨(∅ : Dict String).insert "A" "b", ∅⟩ ∧
      List.Forall₂
        (fun call steps => Denial ⟨"/user", "/system"⟩
          ((∅ : Files).insert "/user" "A = \"b\"\n") ⟨(∅ : Dict String).insert "A" "b", ∅⟩ call
          steps.1 steps.2)
        [.set .user "A" none, .get .user "A", .set .system "A" none]
        (((Store.memory (.both true)).trace
            [.set .user "A" none, .get .user "A", .set .system "A" none]
            ⟨(∅ : Dict String).insert "A" "b", ∅⟩).zip
          ((Store.file .unwritable ⟨"/user", "/system"⟩).trace
            [.set .user "A" none, .get .user "A", .set .system "A" none]
            ((∅ : Files).insert "/user" "A = \"b\"\n"))) := by
  have htext : "A = \"b\"\n" = Toml.encode ((∅ : Dict String).insert "A" "b") := by decide
  have h : Represents ⟨"/user", "/system"⟩ ((∅ : Files).insert "/user" "A = \"b\"\n")
      ⟨(∅ : Dict String).insert "A" "b", ∅⟩ := by
    rw [htext, represents_iff]
    rintro (_ | _)
    · exact FileStore.contents_insert_encode _ _ .user _
    · rfl
  exact ⟨h, readOnly_beside_unwritable h _⟩

/-- To remove a variable that is not there fails in memory and succeeds on files. -/
theorem readOnly_beside_unwritable_absent :
    Represents ⟨"/user", "/system"⟩ ∅ ⟨∅, ∅⟩ ∧
      ((Store.memory (.both true)).trace [.set .user "A" none] ⟨∅, ∅⟩).map Prod.fst =
        [.error (.denied .user "memory")] ∧
      ((Store.file .unwritable ⟨"/user", "/system"⟩).trace [.set .user "A" none] ∅).map Prod.fst =
        [.ok .done] ∧
      ¬ SameOutcome (.error (.denied .user "memory")) (.ok .done) := by
  refine ⟨?_, rfl, rfl, not_sameOutcome_error_ok _ _⟩
  rintro (_ | _)
  · exact .inl ⟨rfl, rfl⟩
  · exact .inl ⟨rfl, rfl⟩

end ScopedVars
