import ScopedVars.Arguments
import ScopedVars.Console
import ScopedVars.FileTree
import ScopedVars.Settings

/-! # The program

One run of the program reads its command line, loads the settings and either carries out one command
or holds a session. What a run shows and its exit code are a `Report`; what it does to files happens
in the monad of the file system.
-/

namespace ScopedVars

structure Request where
  arguments : List String
  environment : Environment
  outputWorks : Bool := true

namespace Program

def version : String := "envedit 0.3.0"

def usage : String :=
  "Usage: envedit [OPTIONS] [COMMAND]...

Options:
  -s, --system              target system variables
  -i, --interactive         start a session
  -t, --dry-run             show what append would write, and write nothing
  -d, --debug...            more messages
      --config <FILE>       read this configuration file
      --show-config         print the settings
      --config-template     print a configuration file to start from
      --completions <SHELL> name a shell: bash, elvish, fish, powershell or zsh
  -h, --help                print this text
  -V, --version             print the version

Commands: ls, get NAME, set NAME VALUE..., append NAME VALUE..., rm NAME, help."

def rejected (colored : Bool) : Rejection → Report
  | .help => { stdout := usage ++ "\n" }
  | .version => { stdout := version ++ "\n" }
  | .conflict => { exitCode := 2, stderr := errorLine colored "conflicting options\n\n" ++ usage }
  | .tooManyValues =>
    { exitCode := 2, stderr := errorLine colored "an option takes no value\n\n" ++ usage }
  | .invalidValue =>
    { exitCode := 2, stderr := errorLine colored "an option needs a valid value\n\n" ++ usage }

/-- The remark on a debug option that is given more than three times. -/
def remark (arguments : Arguments) : Report :=
  if arguments.debug > 3 then { stderr := "Don't be crazy, max is -d -d -d\n" } else {}

/-- The report of an option that asks for a text and needs no settings. Of a completion script only
the announcement is made here. -/
def announced? (outputWorks : Bool) (arguments : Arguments) : Option Report :=
  match arguments.completions with
  | some shell =>
    some {
      exitCode := if outputWorks then 0 else 101
      stderr := "Generating completion file for " ++ shell.title ++ "...\n" }
  | none =>
    if arguments.configTemplate then some (.ofText outputWorks Settings.template) else none

variable {m : Type → Type} [Monad m]

def oneShot (request : Request) (store : Store m) (tokens : List String) : m Report := do
  return .ofOutcome request.environment.isColored request.outputWorks
    (← (store.runOnce tokens).run)

/-- Carries out a command line that is accepted. `converse` holds the session. -/
def perform (system : FileSystem m) (request : Request) (arguments : Arguments)
    (converse : Store m → m Report) : m Report := do
  let colored := request.environment.isColored
  match announced? request.outputWorks arguments with
  | some report => return report
  | none =>
    match ← (Settings.load system request.environment arguments.config).run with
    | .error failure => return .ofFailure colored failure
    | .ok settings =>
      if arguments.showConfig then return .ofText request.outputWorks settings.toToml
      else if arguments.isInteractive then
        if request.outputWorks then converse (.file system settings)
        else return .ofText request.outputWorks helpText
      else oneShot request (.file system settings) arguments.commandTokens

def run (system : FileSystem m) (request : Request) (converse : Store m → m Report) : m Report := do
  match Arguments.parse request.arguments with
  | .error rejection => return rejected request.environment.isColored rejection
  | .ok arguments => return (remark arguments).append (← perform system request arguments converse)

/-- One run with everything that standard input brings. -/
def runWith (system : FileSystem m) (request : Request) (stdin : Content) : m Report :=
  run system request fun store =>
    Console.converse request.environment.isColored store true {} stdin.toBytes.data.toList

def runOn (request : Request) (stdin : Content) : StateM FileTree Report :=
  runWith .tree request stdin

end Program

end ScopedVars
