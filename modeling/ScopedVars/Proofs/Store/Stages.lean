import ScopedVars.Proofs.Store.Refinement
import ScopedVars.Store.Wrapped

/-! # Failing stages

A call to a store of files reads the file of its scope and decodes it; if it has to write then it
makes the directory and writes. With files whose calls may fail, a call fails with the error of the
first stage that fails and leaves all files as they were. If no stage fails the faults are not felt.
-/

namespace ScopedVars

/-- The stages of a call to a store of files, in the order in which they are reached. -/
inductive Stage where
  | read
  | decode
  | ensureParent
  | write
  deriving DecidableEq, Repr

namespace Stage

def all : List Stage := [read, decode, ensureParent, write]

end Stage

def Call.scope : Call → Scope
  | .list scope => scope
  | .get scope _ => scope
  | .set scope _ _ => scope

def IoError.reported (scope : Scope) (action path : String) (cause : IoError) : StoreError :=
  if cause = .permissionDenied then .denied scope path else .io scope action path cause

theorem IoError.reported_eq_ofIo (scope : Scope) (action path : String) :
    IoError.reported scope action path = StoreError.ofIo scope action path := by
  funext cause
  cases cause <;> rfl

section Faults

variable (faults : FileFaults) (paths : Scoped String) (files : Files)

/-- Whether a scope has a file that cannot be read or is no store file. -/
def FileStore.Unreadable (scope : Scope) : Prop :=
  ∃ text, files.get? (paths.get scope) = some text ∧
    (faults.read ≠ none ∨ ∀ vars, Toml.decode text ≠ .ok vars)

/-- Whether a call has to write: it sets a value, or removes a variable that the file holds. -/
def Call.writes : Call → Bool
  | .list _ => false
  | .get _ _ => false
  | .set scope key value =>
    value.isSome ||
      match FileStore.contents paths files scope with
      | .ok vars => vars.contains key
      | .error _ => false

/-- The error of a stage, if it fails. A stage fails only in a call that needs it: nothing is read
of a missing file, and nothing is made or written in a call that does not write. -/
def Stage.error? (call : Call) (stage : Stage) : Option StoreError :=
  let scope := call.scope
  let path := paths.get scope
  match stage with
  | read =>
    if files.contains path then faults.read.map (IoError.reported scope "read" path) else none
  | decode =>
    (files.get? path).bind fun text =>
      match Toml.decode text with
      | .ok _ => none
      | .error report => some (.corrupt scope path report)
  | ensureParent =>
    if call.writes paths files then
      faults.ensureParent.map (IoError.reported scope "create directory for" path)
    else none
  | write =>
    if call.writes paths files then faults.write.map (IoError.reported scope "write" path) else none

def Call.error? (call : Call) : Option StoreError :=
  Stage.all.findSome? (Stage.error? faults paths files call)

/-- What a call gives that fails with an error if there is one, and changes nothing then. -/
def unlessError {α : Type} (error? : Option StoreError) (given : Except StoreError α × Files) :
    Except StoreError α × Files :=
  match error? with
  | some error => (.error error, files)
  | none => given

theorem Call.error?_eq (call : Call) :
    call.error? faults paths files =
      ((Stage.error? faults paths files call .read).or
        (Stage.error? faults paths files call .decode)).or
      ((Stage.error? faults paths files call .ensureParent).or
        (Stage.error? faults paths files call .write)) := by
  simp only [Call.error?, Stage.all, List.findSome?]
  grind

namespace FileStore

theorem runIn_load_withFaults (call : Call) :
    runIn files (load (FileSystem.memory.withFaults faults) paths call.scope) =
      unlessError files ((Stage.error? faults paths files call .read).or
        (Stage.error? faults paths files call .decode))
        (runIn files (load .memory paths call.scope)) := by
  rw [runIn_load]
  simp only [load, contents, runIn_bind, runIn_lift, FileSystem.withFaults, FileSystem.run_present]
  cases hfile : files.get? (paths.get call.scope) with
  | none => simp [Dict.contains, hfile, Stage.error?, unlessError]
  | some text =>
    cases hread : faults.read with
    | some cause =>
      simp [Dict.contains, hfile, hread, Stage.error?, unlessError, IoError.reported_eq_ofIo]
    | none =>
      simp only [Dict.contains, hfile, hread, Stage.error?, unlessError]
      cases hdecode : Toml.decode text <;> simp [hfile, hdecode]

theorem runIn_save_withFaults (call : Call) (hwrites : call.writes paths files = true)
    (vars : Dict String) :
    runIn files (save (FileSystem.memory.withFaults faults) paths call.scope vars) =
      unlessError files ((Stage.error? faults paths files call .ensureParent).or
        (Stage.error? faults paths files call .write))
        (runIn files (save .memory paths call.scope vars)) := by
  simp only [save, runIn_bind, runIn_adapt, FileSystem.withFaults]
  cases hparent : faults.ensureParent with
  | some cause =>
    simp [hparent, hwrites, Stage.error?, unlessError, IoError.reported_eq_ofIo]
  | none =>
    cases hwrite : faults.write with
    | some cause =>
      simp [hparent, hwrite, hwrites, Stage.error?, unlessError, IoError.reported_eq_ofIo]
    | none => simp [hparent, hwrite, hwrites, Stage.error?, unlessError]

theorem exists_contents {call : Call} (h : Stage.error? faults paths files call .decode = none) :
    ∃ vars, contents paths files call.scope = .ok vars := by
  simp only [Stage.error?] at h
  unfold contents
  cases hfile : files.get? (paths.get call.scope) with
  | none => exact ⟨∅, rfl⟩
  | some text =>
    cases hdecode : Toml.decode text with
    | ok vars => exact ⟨vars, by simp only [hdecode]⟩
    | error report => simp [hfile, hdecode] at h

end FileStore

/-- A call with faults fails as its first failing stage says or does what it does without faults. -/
theorem Store.runIn_call_withFaults (call : Call) :
    runIn files ((Store.file (FileSystem.memory.withFaults faults) paths).call call) =
      unlessError files (call.error? faults paths files)
        (runIn files ((Store.file .memory paths).call call)) := by
  have hload := FileStore.runIn_load_withFaults faults paths files call
  rw [Call.error?_eq]
  cases hreading : (Stage.error? faults paths files call .read).or
      (Stage.error? faults paths files call .decode) with
  | some error =>
    rw [hreading] at hload
    cases call <;> simp only [Call.scope] at hload <;>
      simp [Store.call, Store.file, hload, unlessError, Except.map]
  | none =>
    rw [hreading] at hload
    obtain ⟨vars, hvars⟩ := FileStore.exists_contents faults paths files
      (Option.or_eq_none_iff.mp hreading).2
    cases call with
    | set scope key value =>
      have hsave := FileStore.runIn_save_withFaults faults paths files (.set scope key value)
      simp only [Call.scope] at hload hvars hsave
      have hwrites : (Call.set scope key value).writes paths files =
          !(value.isNone && !vars.contains key) := by
        cases value <;> simp [Call.writes, hvars]
      simp only [unlessError, FileStore.runIn_load, hvars] at hload
      simp only [Store.call, Store.file, runIn_map, runIn_bind, hload, FileStore.runIn_load, hvars]
      split
      case isTrue hskip => simp [Stage.error?, hwrites, hskip, unlessError]
      case isFalse hskip =>
        rw [hsave (by simpa using hwrites.trans (congrArg _ (Bool.eq_false_iff.mpr hskip)))]
        simp only [Option.none_or]
        unfold unlessError
        split
        · rfl
        · rfl
    | _ =>
      simp only [Call.scope] at hload
      simp [Store.call, Store.file, hload, unlessError, Stage.error?, Call.writes]

theorem FileStore.unreadable_iff (call : Call) :
    Unreadable faults paths files call.scope ↔
      (Stage.error? faults paths files call .read).or
        (Stage.error? faults paths files call .decode) ≠ none := by
  unfold Unreadable Stage.error?
  cases hfile : files.get? (paths.get call.scope) with
  | none => simp [Dict.contains, hfile]
  | some text =>
    cases hread : faults.read with
    | some cause => simp [Dict.contains, hfile]
    | none => cases hdecode : Toml.decode text <;> simp [Dict.contains, hfile, hdecode]

theorem Call.error?_ne_none_iff (call : Call) :
    call.error? faults paths files ≠ none ↔
      FileStore.Unreadable faults paths files call.scope ∨
        ¬ FileStore.Unreadable faults paths files call.scope ∧ call.writes paths files = true ∧
          (faults.ensureParent ≠ none ∨ faults.write ≠ none) := by
  have hwriting : (Stage.error? faults paths files call .ensureParent).or
      (Stage.error? faults paths files call .write) ≠ none ↔
        call.writes paths files = true ∧ (faults.ensureParent ≠ none ∨ faults.write ≠ none) := by
    unfold Stage.error?
    cases call.writes paths files <;> simp [Option.or_eq_none_iff, imp_iff_not_or]
  rw [Call.error?_eq, Ne, Option.or_eq_none_iff, not_and_or, ← hwriting,
    FileStore.unreadable_iff faults paths files call]
  tauto

theorem Store.runIn_call_of_contents {call : Call} {vars : Dict String}
    (h : FileStore.contents paths files call.scope = .ok vars) :
    ∃ answer text, runIn files ((Store.file .memory paths).call call) =
      (.ok answer, if call.writes paths files then files.insert (paths.get call.scope) text
        else files) := by
  cases call with
  | list scope =>
    refine ⟨.keys vars.keys, "", ?_⟩
    rw [Store.call, runIn_map, runIn_file_list, show FileStore.contents paths files scope = _ from h]
    rfl
  | get scope key =>
    refine ⟨.value (vars.get? key), "", ?_⟩
    rw [Store.call, runIn_map, runIn_file_get, show FileStore.contents paths files scope = _ from h]
    rfl
  | set scope key value =>
    have hvars : FileStore.contents paths files scope = .ok vars := h
    refine ⟨.done, Toml.encode (vars.alter key value), ?_⟩
    rw [Store.call, runIn_map, runIn_file_set paths files scope key hvars]
    cases value <;> cases hkey : vars.contains key <;>
      simp [Call.writes, Call.scope, hvars, hkey, Except.map]

theorem Store.runIn_call_cases (call : Call) :
    (∃ error, call.error? faults paths files = some error ∧
        runIn files ((Store.file (FileSystem.memory.withFaults faults) paths).call call) =
          (.error error, files)) ∨
      call.error? faults paths files = none ∧ ∃ answer text,
        runIn files ((Store.file (FileSystem.memory.withFaults faults) paths).call call) =
          (.ok answer, if call.writes paths files then files.insert (paths.get call.scope) text
            else files) := by
  rw [runIn_call_withFaults]
  cases herror : call.error? faults paths files with
  | some error => exact .inl ⟨error, rfl, rfl⟩
  | none =>
    rw [Call.error?_eq] at herror
    obtain ⟨vars, hvars⟩ := FileStore.exists_contents faults paths files
      (Option.or_eq_none_iff.mp (Option.or_eq_none_iff.mp herror).1).2
    exact .inr ⟨rfl, runIn_call_of_contents paths files hvars⟩

theorem Store.runIn_call_of_not_writes {call : Call} (h : call.writes paths files = false) :
    (runIn files ((Store.file (FileSystem.memory.withFaults faults) paths).call call)).2 = files := by
  rcases runIn_call_cases faults paths files call with
    ⟨error, -, hcall⟩ | ⟨-, answer, text, hcall⟩
  · rw [hcall]
  · rw [hcall, h]
    rfl

/-- What a call answers and leaves when chosen calls of the file system fail. -/
structure FaultyCall (call : Call) (answer : Except StoreError Answer) (after : Files) : Prop where
  fails_iff : (∃ error, answer = .error error) ↔
    FileStore.Unreadable faults paths files call.scope ∨
      ¬ FileStore.Unreadable faults paths files call.scope ∧ call.writes paths files = true ∧
        (faults.ensureParent ≠ none ∨ faults.write ≠ none)
  error : ∀ error, answer = .error error → call.error? faults paths files = some error
  unchanged : (∃ error, answer = .error error) ∨ call.writes paths files = false → after = files
  elsewhere : ∀ path, path ≠ paths.get call.scope → after.get? path = files.get? path

/-- A call to a store of files fails exactly if it must, with the error of its first failing stage,
and changes no file then. A call that has nothing to write changes no file either, and no call changes
any file but that of its scope. -/
theorem file_call_with_faults (call : Call) :
    FaultyCall faults paths files call
      (runIn files ((Store.file (FileSystem.memory.withFaults faults) paths).call call)).1
      (runIn files ((Store.file (FileSystem.memory.withFaults faults) paths).call call)).2 := by
  have hfails := call.error?_ne_none_iff faults paths files
  rcases Store.runIn_call_cases faults paths files call with
    ⟨error, herror, hcall⟩ | ⟨herror, answer, text, hcall⟩
  · rw [hcall]
    constructor
    case fails_iff => exact iff_of_true ⟨error, rfl⟩ (hfails.mp (by simp [herror]))
    case error =>
      rintro _ ⟨⟩
      exact herror
    case unchanged => exact fun _ => rfl
    case elsewhere => exact fun _ _ => rfl
  · rw [hcall]
    constructor
    case fails_iff => exact iff_of_false nofun (mt hfails.mpr (not_not_intro herror))
    case error => exact nofun
    case unchanged =>
      rintro (⟨_, ⟨⟩⟩ | hwrites)
      simp [hwrites]
    case elsewhere =>
      intro path hpath
      dsimp only
      split
      · rw [Dict.get?_insert, if_neg hpath]
      · rfl

end Faults

/-- A file that is missing is not read, so that a fault of reading does not keep it from being made. -/
example : (Call.set .user "A" (some "b")).error? { read := some .permissionDenied }
    ⟨"/user", "/system"⟩ ∅ = none := by
  decide

end ScopedVars
