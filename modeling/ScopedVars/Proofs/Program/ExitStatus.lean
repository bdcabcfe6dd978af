import Mathlib.Data.List.Basic
import ScopedVars.Proofs.Program.Courses
import ScopedVars.Proofs.Session.Ending
import ScopedVars.Proofs.Settings.Loading
import ScopedVars.Store.Wrapped

/-! # What the exit code tells

The exit code of a run tells its failure. A run that cannot load its settings ends with the failure
of the load. One command ends the run with its own failure; a session goes on after the failures of
its commands, and fails only when it reads a line that is no text.
-/

namespace ScopedVars

def exitCodeOf {α : Type} : Except Failure α → Nat
  | .ok _ => 0
  | .error failure => failure.exitCode

namespace Settings

variable {σ : Type} {system : FileSystem (StateM σ)} {environment : Environment}
  {named : Option String} {state : σ} {failure : Failure}

/-- Whether an exit code tells how loading the settings ends. -/
structure Tells (environment : Environment) (answer : Except Failure Settings) (code : Nat) :
    Prop where
  config : code = 78 ↔ ∃ report, answer = .error (.config report)
  unreachable : code = 101 ↔ ∃ name, answer = .error (.unreachable name)
  failed : Override.unreachable? environment = none →
    (code = 78 ↔ ∃ failure, answer = .error failure)

theorem tells_load_error (h : (runIn state (load system environment named)).1 = .error failure) :
    Tells environment (.error failure) failure.exitCode := by
  rcases load_error h with ⟨report, rfl⟩ | ⟨name, hmissing, rfl⟩
  · constructor <;> simp [Failure.exitCode]
  · constructor <;> simp [Failure.exitCode, hmissing]

theorem tells_ok (environment : Environment) (settings : Settings) {code : Nat}
    (hconfig : code ≠ 78) (hunreachable : code ≠ 101) : Tells environment (.ok settings) code := by
  constructor <;> simp [hconfig, hunreachable]

end Settings

/-- A command on its own fails because it is refused or because a call to the store fails. -/
theorem Store.runOnce_failure {σ : Type} {store : Store (StateM σ)} {tokens : List String}
    {state : σ} {failure : Failure}
    (h : (runIn state (store.runOnce tokens)).1 = .error failure) :
    (∃ problems, failure = .invalid problems) ∨ ∃ error, failure = .store error := by
  rw [runOnce_eq_attempt] at h
  rcases store.attempt_cases (.classify tokens) with ⟨-, hrefused⟩ | ⟨operation, -, -, hperformed⟩
  · rw [hrefused] at h
    cases h
    exact .inl ⟨_, rfl⟩
  · rw [hperformed, runIn_map, runIn_adapt] at h
    rcases hanswer : (runIn state (store.perform (Command.scopeOf tokens) operation)).1 with
      error | result
    · rw [hanswer] at h
      cases h
      exact .inr ⟨error, rfl⟩
    · rw [hanswer] at h
      cases h

/-- Whether the exit code of one command tells its answer. The code 70 of a session that cannot read
is none of them. -/
structure TellsAnswer (answer : Except Failure Outcome) (code : Nat) : Prop where
  known : code ∈ [0, 64, 65, 74, 77]
  success : code = 0 ↔ ∃ outcome, answer = .ok outcome
  invalid : code = 64 ↔ ∃ problems, answer = .error (.invalid problems)
  denied : code = 77 ↔ ∃ scope location, answer = .error (.store (.denied scope location))
  io : code = 74 ↔
    ∃ scope action path cause, answer = .error (.store (.io scope action path cause))
  corrupt : code = 65 ↔
    ∃ scope location report, answer = .error (.store (.corrupt scope location report))

theorem TellsAnswer.ne {answer : Except Failure Outcome} {code other : Nat}
    (h : TellsAnswer answer code) (hother : other ∉ [0, 64, 65, 74, 77]) : code ≠ other := by
  rintro rfl
  exact hother h.known

theorem Store.tellsAnswer_runOnce {σ : Type} (store : Store (StateM σ)) (tokens : List String)
    (state : σ) :
    TellsAnswer (runIn state (store.runOnce tokens)).1
      (exitCodeOf (runIn state (store.runOnce tokens)).1) := by
  rcases hanswer : (runIn state (store.runOnce tokens)).1 with failure | outcome
  · rcases store.runOnce_failure hanswer with ⟨problems, rfl⟩ | ⟨error, rfl⟩
    · constructor <;> simp [exitCodeOf, Failure.exitCode]
    · cases error with
      | denied => constructor <;> simp [exitCodeOf, Failure.exitCode]
      | io => constructor <;> simp [exitCodeOf, Failure.exitCode]
      | corrupt => constructor <;> simp [exitCodeOf, Failure.exitCode]
  · constructor <;> simp [exitCodeOf]

/-- Whether a session that reads these lines comes to one that is no text, with none before that
quits. -/
inductive MeetsNoText : List (Option String) → Prop
  | here (rest : List (Option String)) : MeetsNoText (none :: rest)
  | later {text : String} {rest : List (Option String)} (hstays : quits (words text) = false)
      (hrest : MeetsNoText rest) : MeetsNoText (some text :: rest)

/-- Whether the exit code of a session tells what it reads. -/
structure TellsLines (lines : List (Option String)) (code : Nat) : Prop where
  failed : code = 70 ↔ MeetsNoText lines
  success : code = 0 ↔ ¬ MeetsNoText lines

theorem TellsLines.ne {lines : List (Option String)} {code other : Nat} (h : TellsLines lines code)
    (hother : other ∉ [0, 70]) : code ≠ other := by
  rintro rfl
  by_cases hlines : MeetsNoText lines
  · exact hother (by simp [h.failed.mpr hlines])
  · exact hother (by simp [h.success.mpr hlines])

/-- What a session returns that is given these items. -/
def endingOf (input : List Input) : Except Failure Unit :=
  ((reads input).getLast (reads_ne_nil input)).verdict

theorem endingOf_cons_of_ends {item : Input} (h : item.ends = true) (rest : List Input) :
    endingOf (item :: rest) = item.verdict := by
  simp only [endingOf, reads_cons_of_ends h, List.getLast_singleton]

theorem endingOf_cons_of_not_ends {item : Input} (h : item.ends = false) (rest : List Input) :
    endingOf (item :: rest) = endingOf rest := by
  simp only [endingOf, reads_cons_of_not_ends h, List.getLast_cons (reads_ne_nil rest)]

theorem MeetsNoText.endingOf_eq {lines : List (Option String)} (h : MeetsNoText lines) :
    endingOf (lines.map Input.ofLine ++ [.endOfInput]) =
      .error (.operation "read command line") := by
  induction h with
  | here rest => exact endingOf_cons_of_ends rfl _
  | @later text rest hstays hrest ih =>
    have hends : (Input.line text).ends = false := hstays
    exact (endingOf_cons_of_not_ends hends _).trans ih

theorem endingOf_of_not_meetsNoText {lines : List (Option String)} (h : ¬ MeetsNoText lines) :
    endingOf (lines.map Input.ofLine ++ [.endOfInput]) = .ok () := by
  induction lines with
  | nil => rfl
  | cons line rest ih =>
    cases line with
    | none => exact absurd (.here rest) h
    | some text =>
      cases hends : (Input.line text).ends with
      | true => exact endingOf_cons_of_ends hends _
      | false =>
        have hrest := ih fun hrest => h (.later hends hrest)
        exact (endingOf_cons_of_not_ends hends _).trans hrest

theorem tellsLines_ending (lines : List (Option String)) :
    TellsLines lines (exitCodeOf (endingOf (lines.map Input.ofLine ++ [.endOfInput]))) := by
  by_cases h : MeetsNoText lines
  · rw [h.endingOf_eq]
    constructor <;> simp [exitCodeOf, Failure.exitCode, h]
  · rw [endingOf_of_not_meetsNoText h]
    constructor <;> simp [exitCodeOf, h]

namespace Program

variable {σ : Type} {system : FileSystem (StateM σ)} {request : Request} {state after : σ}
  {arguments : Arguments} {settings : Settings}

theorem returned_sessionIn (system : FileSystem (StateM σ)) (stdin : Content) (state : σ)
    (settings : Settings) :
    (sessionIn system stdin state settings).1.returned =
      endingOf (stdin.lines.map Input.ofLine ++ [.endOfInput]) :=
  (Session.turns_ended (Store.file system settings) rfl true (inputOf stdin) state).returned

def exitCodeIn (system : FileSystem (StateM σ)) (request : Request) (stdin : Content) (state : σ) :
    Nat :=
  ((runWith system request stdin).run state).1.exitCode

theorem exitCodeIn_of_unsettled (h : Proceeds request arguments) {failure : Failure}
    (hfails : loadIn system request state arguments = (.error failure, after)) (stdin : Content) :
    exitCodeIn system request stdin state = failure.exitCode := by
  rw [exitCodeIn, runWith_of_unsettled h hfails]
  rfl

theorem exitCodeIn_of_once (h : StartsIn system request state arguments settings after)
    (houtput : request.outputWorks = true) (honce : arguments.isInteractive = false)
    (stdin : Content) :
    exitCodeIn system request stdin state =
      exitCodeOf (commandIn system after arguments settings).1 := by
  rw [exitCodeIn, runWith_of_once h honce, houtput]
  rcases (commandIn system after arguments settings).1 with failure | ⟨scope, _ | text⟩
  · rfl
  · rfl
  · rfl

theorem exitCodeIn_of_session (h : StartsIn system request state arguments settings after)
    (houtput : request.outputWorks = true) (hinteractive : arguments.isInteractive = true)
    (stdin : Content) :
    exitCodeIn system request stdin state =
      exitCodeOf (endingOf (stdin.lines.map Input.ofLine ++ [.endOfInput])) := by
  rw [exitCodeIn, runWith_of_session h hinteractive houtput, reportOf, Report.append,
    Report.ofFinish, Report.append, ← returned_sessionIn system stdin after settings]
  rcases (sessionIn system stdin after settings).1.returned with failure | ⟨⟩
  · rfl
  · dsimp only
    split
    case isTrue => rfl
    case isFalse => rfl

/-- On any file system, also on one that denies what is asked of it, the exit code tells whether the
settings load, and if they do, what the one command answers or whether the session has read a line
that is no text. Only a variable that leads to an item that no list has ends a run with a code of
its own instead of that of settings which do not load. -/
theorem exit_code_tells_cause (system : FileSystem (StateM σ)) (h : Proceeds request arguments)
    (houtput : request.outputWorks = true) (stdin : Content) (state : σ) :
    Settings.Tells request.environment (loadIn system request state arguments).1
        (exitCodeIn system request stdin state) ∧
      ∀ settings after, loadIn system request state arguments = (.ok settings, after) →
        (arguments.isInteractive = false →
          TellsAnswer (commandIn system after arguments settings).1
            (exitCodeIn system request stdin state)) ∧
        (arguments.isInteractive = true →
          TellsLines stdin.lines (exitCodeIn system request stdin state)) := by
  rcases hloaded : loadIn system request state arguments with ⟨failure | settings, after⟩
  · rw [exitCodeIn_of_unsettled h hloaded]
    exact ⟨Settings.tells_load_error (congrArg Prod.fst hloaded), nofun⟩
  · have hstart : StartsIn system request state arguments settings after := ⟨h, hloaded⟩
    cases hinteractive : arguments.isInteractive with
    | false =>
      have htells : TellsAnswer (commandIn system after arguments settings).1 _ :=
        Store.tellsAnswer_runOnce ..
      rw [exitCodeIn_of_once hstart houtput hinteractive]
      refine ⟨Settings.tells_ok _ _ (htells.ne (by decide)) (htells.ne (by decide)), ?_⟩
      rintro _ _ ⟨⟩
      exact ⟨fun _ => htells, nofun⟩
    | true =>
      have htells := tellsLines_ending stdin.lines
      rw [exitCodeIn_of_session hstart houtput hinteractive]
      refine ⟨Settings.tells_ok _ _ (htells.ne (by decide)) (htells.ne (by decide)), ?_⟩
      rintro _ _ ⟨⟩
      exact ⟨nofun, fun _ => htells⟩

/-- Whether one command ends a run with this failure and this exit code, in an environment that
names both stores. -/
structure FailsWith (system : FileSystem (StateM FileTree)) (tree : FileTree) (words : List String)
    (failure : Failure) (code : Nat) : Prop where
  proceeds : Proceeds (storing words) { tokens := words }
  loaded : loadIn system (storing words) tree { tokens := words } = (.ok ⟨"/u", "/s"⟩, tree)
  answer : (commandIn system tree { tokens := words } ⟨"/u", "/s"⟩).1 = .error failure
  exitCode : exitCodeIn system (storing words) (.text "") tree = code

/-- A file that cannot be written, a directory in the place of a file, a file that is no table, a
name missing of a variable to get, and a session that lists and then reads a line that is no
text. -/
theorem exit_code_tells_cause_failures :
    FailsWith (.withFaults { write := some .permissionDenied } .tree) {} ["set", "A", "1"]
        (.store (.denied .user "/u")) 77 ∧
      FailsWith .tree { entries := [(["u"], .directory)] } ["ls"]
        (.store (.io .user "read" "/u" .isDirectory)) 74 ∧
      FailsWith .tree { entries := [(["u"], .file (.text "A"))] } ["ls"]
        (.store (.corrupt .user "/u"
          "TOML parse error at line 1, column 2\nexpected an equals sign\n")) 65 ∧
      FailsWith .tree {} ["get"] (.invalid [.arity .get]) 64 ∧
      Proceeds (storing []) {} ∧
      loadIn .tree (storing []) {} {} = (.ok ⟨"/u", "/s"⟩, {}) ∧
      MeetsNoText (Content.raw ⟨#[108, 115, 10, 255]⟩).lines ∧
      exitCodeIn .tree (storing []) (.raw ⟨#[108, 115, 10, 255]⟩) {} = 70 := by
  have htells {system : FileSystem (StateM FileTree)} {tree : FileTree} {words : List String}
      (hproceeds : Proceeds (storing words) { tokens := words })
      (honce : Arguments.isInteractive { tokens := words } = false) :
      TellsAnswer (commandIn system tree { tokens := words } ⟨"/u", "/s"⟩).1
        (exitCodeIn system (storing words) (.text "") tree) :=
    ((exit_code_tells_cause system hproceeds rfl (.text "") tree).2 _ _
      (loadIn_storing system words tree rfl)).1 honce
  have hlist : Proceeds (storing ["ls"]) { tokens := ["ls"] } := ⟨by decide, rfl, rfl, rfl⟩
  refine ⟨?denied, ?io, ?corrupt, ?invalid, ?session⟩
  case denied =>
    have hset : Proceeds (storing ["set", "A", "1"]) { tokens := ["set", "A", "1"] } :=
      ⟨by decide, rfl, rfl, rfl⟩
    have hanswer : (commandIn (.withFaults { write := some .permissionDenied } .tree) {}
        { tokens := ["set", "A", "1"] } ⟨"/u", "/s"⟩).1 = .error (.store (.denied .user "/u")) := by
      decide +kernel
    exact ⟨hset, loadIn_storing _ _ _ rfl, hanswer, (htells hset rfl).denied.mpr ⟨_, _, hanswer⟩⟩
  case io =>
    have hanswer : (commandIn .tree { entries := [(["u"], .directory)] } { tokens := ["ls"] }
        ⟨"/u", "/s"⟩).1 = .error (.store (.io .user "read" "/u" .isDirectory)) := by
      decide +kernel
    exact ⟨hlist, loadIn_storing _ _ _ rfl, hanswer,
      (htells hlist rfl).io.mpr ⟨_, _, _, _, hanswer⟩⟩
  case corrupt =>
    have hanswer : (commandIn .tree { entries := [(["u"], .file (.text "A"))] }
        { tokens := ["ls"] } ⟨"/u", "/s"⟩).1 = .error (.store (.corrupt .user "/u"
          "TOML parse error at line 1, column 2\nexpected an equals sign\n")) := by
      decide +kernel
    exact ⟨hlist, loadIn_storing _ _ _ rfl, hanswer,
      (htells hlist rfl).corrupt.mpr ⟨_, _, _, hanswer⟩⟩
  case invalid =>
    have hget : Proceeds (storing ["get"]) { tokens := ["get"] } := ⟨by decide, rfl, rfl, rfl⟩
    have hanswer : (commandIn .tree {} { tokens := ["get"] } ⟨"/u", "/s"⟩).1 =
        .error (.invalid [.arity .get]) := by
      decide +kernel
    exact ⟨hget, loadIn_storing _ _ _ rfl, hanswer, (htells hget rfl).invalid.mpr ⟨_, hanswer⟩⟩
  case session =>
    have hproceeds : Proceeds (storing []) {} := ⟨by decide, rfl, rfl, rfl⟩
    have hloaded : loadIn .tree (storing []) {} {} = (.ok ⟨"/u", "/s"⟩, {}) :=
      loadIn_storing _ _ _ rfl
    have hlines : (Content.raw ⟨#[108, 115, 10, 255]⟩).lines = [some "ls", none] := by
      decide +kernel
    have hmeets : MeetsNoText (Content.raw ⟨#[108, 115, 10, 255]⟩).lines := by
      rw [hlines]
      exact .later (by decide) (.here [])
    obtain ⟨-, hread⟩ :=
      exit_code_tells_cause .tree hproceeds rfl (.raw ⟨#[108, 115, 10, 255]⟩) {}
    exact ⟨hproceeds, hloaded, hmeets, ((hread _ _ hloaded).2 rfl).failed.mpr hmeets⟩

/-- An item below zero ends a run that asks for help as no other failure to load the settings. -/
theorem exit_code_tells_cause_below_zero :
    Proceeds { arguments := ["help"], environment := Settings.withItem "-1" }
        { tokens := ["help"] } ∧
      (loadIn .tree { arguments := ["help"], environment := Settings.withItem "-1" } {}
        { tokens := ["help"] }).1 = .error (.unreachable "ENVEDIT_A[-1]") ∧
      exitCodeIn .tree { arguments := ["help"], environment := Settings.withItem "-1" }
        (.text "") {} = 101 :=
  ⟨⟨by decide, rfl, rfl, rfl⟩, by decide +kernel, by decide +kernel⟩

end Program

end ScopedVars
