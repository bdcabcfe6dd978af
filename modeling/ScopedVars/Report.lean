import ScopedVars.Environment
import ScopedVars.Session

/-! # Reports

What a run leaves beside its files is a report: what it shows and its exit code. Events, failures
and outcomes each have a report, and reports follow one another.
-/

namespace ScopedVars

/-- What a run leaves beside its files. -/
structure Report where
  exitCode : Nat := 0
  stdout : String := ""
  stderr : String := ""
  deriving DecidableEq, Repr

/-- Whether output is colored. It goes to no terminal here, so color must be asked for. -/
def Environment.isColored (environment : Environment) : Bool :=
  (environment.get? "CLICOLOR_FORCE").any (· ≠ "0")

def styled (colored : Bool) (style text : String) : String :=
  if colored then "\x1b[" ++ style ++ "m" ++ text ++ "\x1b[0m" else text

def errorLine (colored : Bool) (message : String) : String :=
  styled colored "1;31" "error" ++ ": " ++ message ++ "\n"

namespace Event

def stdout (colored : Bool) : Event → String
  | prompt text => styled colored "36" text ++ " "
  | print text => text ++ "\n"
  | warn _ | error _ => ""

def stderr (colored : Bool) : Event → String
  | prompt _ | print _ => ""
  | warn text => styled colored "33" "Warning" ++ ": " ++ text ++ "\n"
  | error text => errorLine colored text

end Event

namespace Report

def ofFailure (colored : Bool) (failure : Failure) : Report where
  exitCode := failure.exitCode
  stderr := errorLine colored failure.message

def ofEvents (colored : Bool) (events : List Event) : Report where
  stdout := .join (events.map (Event.stdout colored))
  stderr := .join (events.map (Event.stderr colored))

def append (first second : Report) : Report where
  exitCode := second.exitCode
  stdout := first.stdout ++ second.stdout
  stderr := first.stderr ++ second.stderr

/-- The report of one command. A result that cannot be written is a failure. -/
def ofOutcome (colored outputWorks : Bool) : Except Failure Outcome → Report
  | .error failure => ofFailure colored failure
  | .ok outcome =>
    match outcome.result with
    | none => {}
    | some text =>
      if outputWorks then { stdout := text ++ "\n" } else ofFailure colored (.output "result")

/-- The report of a text that is shown. Without working output the run is cut off. -/
def ofText (outputWorks : Bool) (text : String) : Report :=
  if outputWorks then { stdout := text ++ "\n" } else { exitCode := 101 }

end Report

end ScopedVars
