import Mathlib.Data.List.Basic
import ScopedVars.Program
import ScopedVars.Proofs.FileTree.Store
import ScopedVars.Proofs.Session.Console

/-! # Courses of a run

A run ends before it comes to a store, or it carries out one command, or it holds a session. Which
of these it does is decided by its command line and its settings. On a file tree a run that does not
come to a store leaves the tree as it is.
-/

namespace ScopedVars

namespace Program

/-- Whether a command line is accepted and asks for no text of the program's own. -/
structure Proceeds (request : Request) (arguments : Arguments) : Prop where
  parsed : Arguments.parse request.arguments = .ok arguments
  completions : arguments.completions = none
  configTemplate : arguments.configTemplate = false
  showConfig : arguments.showConfig = false

section AnyFiles

variable {σ : Type} (system : FileSystem (StateM σ))

/-- How the settings of a run load, and the state that is left. -/
def loadIn (request : Request) (state : σ) (arguments : Arguments) : Except Failure Settings × σ :=
  runIn state (Settings.load system request.environment arguments.config)

/-- Whether a run comes to a store, with these arguments and settings and in this state. -/
structure StartsIn (request : Request) (state : σ) (arguments : Arguments) (settings : Settings)
    (after : σ) : Prop extends Proceeds request arguments where
  loaded : loadIn system request state arguments = (.ok settings, after)

def commandIn (state : σ) (arguments : Arguments) (settings : Settings) :
    Except Failure Outcome × σ :=
  runIn state ((Store.file system settings).runOnce arguments.commandTokens)

def sessionIn (stdin : Content) (state : σ) (settings : Settings) : Session.Finish × σ :=
  (Session.run (Store.file system settings) {} (inputOf stdin)).run state

end AnyFiles

def settings? (request : Request) (tree : FileTree) (arguments : Arguments) :
    Except Failure Settings :=
  (loadIn .tree request tree arguments).1

/-- Whether a run comes to a store, with these arguments and settings. -/
structure Starts (request : Request) (tree : FileTree) (arguments : Arguments)
    (settings : Settings) : Prop extends Proceeds request arguments where
  settled : settings? request tree arguments = .ok settings

def commandOn (tree : FileTree) (arguments : Arguments) (settings : Settings) :
    Except Failure Outcome × FileTree :=
  commandIn .tree tree arguments settings

def sessionOn (stdin : Content) (tree : FileTree) (settings : Settings) :
    Session.Finish × FileTree :=
  sessionIn .tree stdin tree settings

/-- A command line in an environment that names both stores. -/
def storing (arguments : List String) : Request where
  arguments
  environment := ⟨.ofList [("ENVEDIT_USER_STORE", "/u"), ("ENVEDIT_SYSTEM_STORE", "/s")], none⟩

/-- The report of a run that held a session. -/
def reportOf (request : Request) (arguments : Arguments) (finish : Session.Finish) : Report :=
  (remark arguments).append (.ofFinish request.environment.isColored finish)

variable {request : Request} {arguments other : Arguments} {settings : Settings}

theorem Proceeds.eq_of_parsed (h : Proceeds request arguments)
    (hparse : Arguments.parse request.arguments = .ok other) : other = arguments :=
  Except.ok.inj (hparse.symm.trans h.parsed)

theorem announced?_eq_none_iff (outputWorks : Bool) (arguments : Arguments) :
    announced? outputWorks arguments = none ↔
      arguments.completions = none ∧ arguments.configTemplate = false := by
  unfold announced?
  cases arguments.completions <;> cases arguments.configTemplate <;> simp

theorem Proceeds.announced?_eq_none (h : Proceeds request arguments) (outputWorks : Bool) :
    announced? outputWorks arguments = none :=
  (announced?_eq_none_iff ..).mpr ⟨h.completions, h.configTemplate⟩

/-- The session of a run is the one that is given all that standard input brings. -/
theorem runWith_eq {m : Type → Type} [Monad m] [LawfulMonad m] (system : FileSystem m)
    (request : Request) (stdin : Content) :
    runWith system request stdin =
      run system request fun store =>
        Report.ofFinish request.environment.isColored <$>
          Session.run store {} (inputOf stdin) := by
  simp only [runWith, Console.converse_toBytes]

section AnyFiles

variable {σ : Type} {system : FileSystem (StateM σ)} {state after : σ}

theorem loadIn_storing (system : FileSystem (StateM σ)) (words : List String) (state : σ)
    (h : arguments.config = none) :
    loadIn system (storing words) state arguments = (.ok ⟨"/u", "/s"⟩, state) := by
  have heffective : Settings.effective (storing []).environment (.both none) =
      .ok ⟨"/u", "/s"⟩ := by
    decide +kernel
  have hload : Settings.load system (storing words).environment none =
      MonadExcept.ofExcept (Settings.effective (storing []).environment (.both none)) := rfl
  rw [loadIn, h, hload, heffective]
  rfl

/-- All that a run does which proceeds. -/
theorem runWith_of_proceeds (system : FileSystem (StateM σ)) (h : Proceeds request arguments)
    (stdin : Content) (state : σ) :
    (runWith system request stdin).run state =
      match loadIn system request state arguments with
      | (.error failure, after) =>
        ((remark arguments).append (.ofFailure request.environment.isColored failure), after)
      | (.ok settings, after) =>
        if arguments.isInteractive then
          if request.outputWorks then
            (reportOf request arguments (sessionIn system stdin after settings).1,
              (sessionIn system stdin after settings).2)
          else ((remark arguments).append (.ofText false helpText), after)
        else
          ((remark arguments).append (.ofOutcome request.environment.isColored request.outputWorks
              (commandIn system after arguments settings).1),
            (commandIn system after arguments settings).2) := by
  have hload : (Settings.load system request.environment arguments.config).run.run state =
      loadIn system request state arguments := rfl
  rw [runWith_eq, run, h.parsed]
  simp only [perform, h.announced?_eq_none, h.showConfig, bind_pure_comp, StateT.run_map,
    StateT.run_bind, hload]
  rcases loadIn system request state arguments with ⟨failure | settings, after⟩
  · rfl
  · cases arguments.isInteractive with
    | false => rfl
    | true => cases request.outputWorks <;> rfl

theorem runWith_of_unsettled (h : Proceeds request arguments) {failure : Failure}
    (hfails : loadIn system request state arguments = (.error failure, after)) (stdin : Content) :
    (runWith system request stdin).run state =
      ((remark arguments).append (.ofFailure request.environment.isColored failure), after) := by
  rw [runWith_of_proceeds system h, hfails]

theorem runWith_of_once (h : StartsIn system request state arguments settings after)
    (honce : arguments.isInteractive = false) (stdin : Content) :
    (runWith system request stdin).run state =
      ((remark arguments).append (.ofOutcome request.environment.isColored request.outputWorks
          (commandIn system after arguments settings).1),
        (commandIn system after arguments settings).2) := by
  rw [runWith_of_proceeds system h.toProceeds, h.loaded]
  simp only [honce, Bool.false_eq_true, if_false]

theorem runWith_of_session (h : StartsIn system request state arguments settings after)
    (hinteractive : arguments.isInteractive = true) (houtput : request.outputWorks = true)
    (stdin : Content) :
    (runWith system request stdin).run state =
      (reportOf request arguments (sessionIn system stdin after settings).1,
        (sessionIn system stdin after settings).2) := by
  rw [runWith_of_proceeds system h.toProceeds, h.loaded]
  simp only [hinteractive, houtput, if_true]

theorem runWith_of_cutOff (h : StartsIn system request state arguments settings after)
    (hinteractive : arguments.isInteractive = true) (houtput : request.outputWorks = false)
    (stdin : Content) :
    (runWith system request stdin).run state =
      ((remark arguments).append (.ofText false helpText), after) := by
  rw [runWith_of_proceeds system h.toProceeds, h.loaded]
  simp only [hinteractive, houtput, Bool.false_eq_true, if_true, if_false]

end AnyFiles

variable {tree : FileTree}

theorem loadIn_tree (request : Request) (tree : FileTree) (arguments : Arguments) :
    loadIn .tree request tree arguments = (settings? request tree arguments, tree) :=
  Prod.ext rfl (Settings.runIn_load_tree ..)

theorem Starts.startsIn (h : Starts request tree arguments settings) :
    StartsIn .tree request tree arguments settings tree :=
  ⟨h.toProceeds, by rw [loadIn_tree, h.settled]⟩

theorem runOn_of_once (h : Starts request tree arguments settings)
    (honce : arguments.isInteractive = false) (stdin : Content) :
    (runOn request stdin).run tree =
      ((remark arguments).append (.ofOutcome request.environment.isColored request.outputWorks
          (commandOn tree arguments settings).1),
        (commandOn tree arguments settings).2) :=
  runWith_of_once h.startsIn honce stdin

theorem runOn_of_session (h : Starts request tree arguments settings)
    (hinteractive : arguments.isInteractive = true) (houtput : request.outputWorks = true)
    (stdin : Content) :
    (runOn request stdin).run tree =
      (reportOf request arguments (sessionOn stdin tree settings).1,
        (sessionOn stdin tree settings).2) :=
  runWith_of_session h.startsIn hinteractive houtput stdin

theorem runOn_of_cutOff (h : Starts request tree arguments settings)
    (hinteractive : arguments.isInteractive = true) (houtput : request.outputWorks = false)
    (stdin : Content) :
    (runOn request stdin).run tree =
      ((remark arguments).append (.ofText false helpText), tree) :=
  runWith_of_cutOff h.startsIn hinteractive houtput stdin

theorem runOn_of_not_starts
    (h : ∀ arguments settings, ¬ Starts request tree arguments settings) (stdin : Content) :
    ((runOn request stdin).run tree).2 = tree := by
  unfold runOn runWith run
  cases hparse : Arguments.parse request.arguments with
  | error rejection => rfl
  | ok arguments =>
    simp only [perform]
    cases hannounced : announced? request.outputWorks arguments with
    | some report => rfl
    | none =>
      obtain ⟨hcompletions, htemplate⟩ := (announced?_eq_none_iff ..).mp hannounced
      have hload : (Settings.load .tree request.environment arguments.config).run.run tree =
          (settings? request tree arguments, tree) := loadIn_tree request tree arguments
      simp only [bind_pure_comp, StateT.run_map, StateT.run_bind, hload]
      cases hsettled : settings? request tree arguments with
      | error failure => rfl
      | ok settings =>
        cases hshow : arguments.showConfig with
        | true => rfl
        | false =>
          exact absurd ⟨⟨hparse, hcompletions, htemplate, hshow⟩, hsettled⟩
            (h arguments settings)

end Program

end ScopedVars
