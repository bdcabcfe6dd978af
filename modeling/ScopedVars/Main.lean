import ScopedVars.Program

/-! # The command line

Connects the program to the process: its arguments, environment, files and terminal.
-/

namespace ScopedVars.Main

/-- The number of an error of the system; some calls give it with a minus sign. -/
def errorNumber (code : UInt32) : UInt32 := min code (0 - code)

def ioError : IO.Error → IoError
  | .permissionDenied .. => .permissionDenied
  | .noFileOrDirectory .. => .notFound
  | error@(.inappropriateType _ code _) | error@(.invalidArgument _ code _) =>
    match errorNumber code with
    | 20 => .notDirectory
    | 21 => .isDirectory
    | 36 => .nameTooLong
    | _ => .other (toString error)
  | error => .other (toString error)

def guarded {α : Type} (action : IO α) : ExceptT IoError IO α := do
  match ← action.toBaseIO with
  | .ok value => return value
  | .error error => throw (ioError error)

/-- Whether a file that cannot be opened is there all the same. -/
def isPresent : IoError → Bool
  | .permissionDenied | .isDirectory => true
  | _ => false

def parent (path : String) : String :=
  .ofList (path.toList.reverse.dropWhile (· ≠ '/')).reverse

def files : FileSystem IO where
  present path := do
    match ← (guarded (IO.FS.withFile path .read fun _ => return)).run with
    | .ok () => return true
    | .error error => return isPresent error
  read path := do
    match String.fromUTF8? (← guarded (IO.FS.readBinFile path)) with
    | some text => return text
    | none => throw .invalidText
  write path text := guarded (IO.FS.writeFile path text)
  ensureParent path := do
    if parent path ≠ "" then guarded (IO.FS.createDirAll (parent path))

/-- The variables in a block of `NAME=VALUE` entries, a NUL after each. -/
def ofBlock (block : String) : Dict String :=
  .ofList ((block.toList.splitOn '\x00').filterMap fun entry =>
    let name := entry.takeWhile (· ≠ '=')
    if name = [] then none
    else some (.ofList name, .ofList (entry.drop (name.length + 1))))

def fields (separator : Char) (text : String) : List (List String) :=
  (text.toList.splitOn '\n').map fun line => (line.splitOn separator).map .ofList

def userNumber? (status : String) : Option String :=
  (fields '\t' status).findSome? fun
    | "Uid:" :: number :: _ => some number
    | _ => none

def homeOf? (users number : String) : Option String :=
  (fields ':' users).findSome? fun
    | [_, _, other, _, _, home, _] => if other = number ∧ home ≠ "" then some home else none
    | _ => none

def textOf (path : String) : IO String := do
  match ← (IO.FS.readBinFile path).toBaseIO with
  | .ok bytes => return (String.fromUTF8? bytes).getD ""
  | .error _ => return ""

def environment : IO Environment := do
  let vars := ofBlock (← textOf "/proc/self/environ")
  let users ← textOf "/etc/passwd"
  let userHome := (userNumber? (← textOf "/proc/self/status")).bind (homeOf? users)
  return { vars, userHome }

def output (report : Report) : IO Unit := do
  (← IO.getStderr).putStr report.stderr
  let stdout ← IO.getStdout
  stdout.putStr report.stdout
  stdout.flush

def readInput : IO Input := do
  match ← (do (← IO.getStdin).getLine : IO String).toBaseIO with
  | .ok line => return Console.inputOf line
  | .error error => return .failure (ioError error)

partial def converse (colored : Bool) (store : Store IO) (isFirst : Bool) (session : Session) :
    IO Report := do
  if session.isOver then return {}
  match ← (session.propose store isFirst).run with
  | .error failure => return .ofFailure colored failure
  | .ok (session, events) =>
    output (.ofEvents colored events)
    let input ← readInput
    if input = .endOfInput then output { stdout := "\n" }
    match session.receive input with
    | .error failure => return .ofFailure colored failure
    | .ok (session, events) =>
      output (.ofEvents colored events)
      converse colored store false session

end ScopedVars.Main

open ScopedVars in
def main (arguments : List String) : IO UInt32 := do
  let environment ← Main.environment
  let colored := environment.isColored
  let report ← Program.run Main.files { arguments, environment } fun store =>
    Main.converse colored store true {}
  match ← (Main.output report).toBaseIO with
  | .ok () => return report.exitCode.toUInt32
  | .error _ =>
    let failure := Failure.output "result"
    (← IO.getStderr).putStr (errorLine colored failure.message)
    return failure.exitCode.toUInt32
