import ScopedVars.Dispatch
import ScopedVars.Text.Basic

/-! # Interactive sessions

A session keeps a scope and the command that runs next. Each turn carries out the pending command,
shows a prompt and reads the next one. Only `cd` changes the scope, whatever flags are typed; an
unknown command does nothing, and the errors of a command do not end the session.
-/

namespace ScopedVars

/-- What a session finds when it reads a line. -/
inductive Input where
  | line (text : String)
  | endOfInput
  | failure (cause : IoError)
  deriving DecidableEq, Repr

inductive Event where
  | prompt (text : String)
  | print (text : String)
  | warn (text : String)
  | error (text : String)
  deriving DecidableEq, Repr

structure Session where
  scope : Scope := .user
  current : Command := .noop .user
  lastResult : Option String := none

namespace Session

def parseWarning : String := "unrecognized command, performing noop"

def prompt (session : Session) : String := "Current scope: " ++ session.scope.name ++ ">"

def accept (session : Session) (line : String) : Session × List Event :=
  let command := { Command.classify (words line) with scope := session.scope }
  if command.verb = .unknown then
    ({ session with current := { command with verb := .noop } }, [.warn parseWarning])
  else ({ session with current := command }, [])

variable {m : Type → Type} [Monad m] (store : Store m)

/-- Carries out the pending command and shows what it gives. A failed command changes neither the
scope nor the last result. -/
def execute (session : Session) : ExceptT Failure m (Session × List Event) :=
  match session.current.problems with
  | [] =>
    tryCatch (do
      let outcome ← store.dispatch session.current session.scope
      return ({ session with scope := outcome.scope, lastResult := outcome.result },
        outcome.result.toList.map .print))
      fun
      | .missingOperand => throw .missingOperand
      | failure => return (session, [.error failure.message])
  | problems => return (session, [.error (Failure.invalid problems).message])

def isOver (session : Session) : Bool := session.current.verb == .quit

/-- The first half of a turn: carries out the pending command and prompts. A session that begins
with nothing to do also shows the help text. -/
def propose (isFirst : Bool) (session : Session) : ExceptT Failure m (Session × List Event) := do
  let (session, events) ← session.execute store
  let greeting := if isFirst && session.current.verb == .noop then [.print helpText] else []
  return (session, events ++ greeting ++ [.prompt session.prompt])

/-- The second half of a turn: takes what was read. The end of the input makes the pending command
one to quit and leaves its arguments. -/
def receive (session : Session) : Input → Except Failure (Session × List Event)
  | .line text => .ok (session.accept text)
  | .endOfInput => .ok ({ session with current := { session.current with verb := .quit } }, [])
  | .failure _ => .error (.operation "read command line")

structure Finish where
  returned : Except Failure Unit
  events : List Event
  unread : List Input
  session : Session

def Finish.after (events : List Event) (finish : Finish) : Finish :=
  { finish with events := events ++ finish.events }

/-- Takes turns until the session is over. The input that is read is the front of the list; after
the list comes the end of the input. -/
def turns (isFirst : Bool) (session : Session) (input : List Input) : m Finish := do
  if session.isOver then return ⟨.ok (), [], input, session⟩
  match ← (session.propose store isFirst).run with
  | .error failure => return ⟨.error failure, [], input, session⟩
  | .ok (session, shown) =>
    match input with
    | [] =>
      match session.receive .endOfInput with
      | .error failure => return ⟨.error failure, shown, [], session⟩
      | .ok (session, events) => return ⟨.ok (), shown ++ events, [], session⟩
    | item :: rest =>
      match session.receive item with
      | .error failure => return ⟨.error failure, shown, rest, session⟩
      | .ok (session, events) => return (← turns false session rest).after (shown ++ events)

def run (session : Session) (input : List Input) : m Finish := turns store true session input

end Session

end ScopedVars
