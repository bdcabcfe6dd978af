import ScopedVars.Command

/-! # Command lines

Options stand before the command. The first argument that is no option begins the command, and
everything from there on belongs to it, options included. An argument with a hyphen that names no
known option begins the command too, unless an option waits for its value: then it is the value.
-/

namespace ScopedVars

inductive Switch where
  | system
  | interactive
  | dryRun
  | debug
  | showConfig
  | configTemplate
  | help
  | version
  deriving DecidableEq, Repr

namespace Switch

def ofLetter? : Char → Option Switch
  | 's' => some system
  | 'i' => some interactive
  | 't' => some dryRun
  | 'd' => some debug
  | 'h' => some help
  | 'V' => some version
  | _ => none

def ofName? : String → Option Switch
  | "system" => some system
  | "interactive" => some interactive
  | "dry-run" => some dryRun
  | "debug" => some debug
  | "show-config" => some showConfig
  | "config-template" => some configTemplate
  | "help" => some help
  | "version" => some version
  | _ => none

end Switch

inductive Setting where
  | config
  | completions
  deriving DecidableEq, Repr

def Setting.ofName? : String → Option Setting
  | "config" => some config
  | "completions" => some completions
  | _ => none

inductive Shell where
  | bash
  | elvish
  | fish
  | powershell
  | zsh
  deriving DecidableEq, Repr

namespace Shell

def ofName? : String → Option Shell
  | "bash" => some bash
  | "elvish" => some elvish
  | "fish" => some fish
  | "powershell" => some powershell
  | "zsh" => some zsh
  | _ => none

def name : Shell → String
  | bash => "bash"
  | elvish => "elvish"
  | fish => "fish"
  | powershell => "powershell"
  | zsh => "zsh"

def title : Shell → String
  | bash => "Bash"
  | elvish => "Elvish"
  | fish => "Fish"
  | powershell => "PowerShell"
  | zsh => "Zsh"

end Shell

/-- What one argument is, where options are still looked for. -/
inductive Argument where
  | switches (switches : List Switch)
  /-- A switch with a value. -/
  | excess
  | setting (setting : Setting) (value : Option String)
  | separator
  | word
  deriving DecidableEq, Repr

namespace Argument

def ofLong (text : List Char) : Argument :=
  let name := text.takeWhile (· ≠ '=')
  let value := if name.length < text.length then some (text.drop (name.length + 1)) else none
  match Switch.ofName? (.ofList name), Setting.ofName? (.ofList name) with
  | some switch, _ => if value.isSome then excess else switches [switch]
  | none, some option => setting option (value.map .ofList)
  | none, none => word

def ofString (text : String) : Argument :=
  match text.toList with
  | ['-', '-'] => separator
  | '-' :: '-' :: rest => ofLong rest
  | ['-'] => word
  | '-' :: letters =>
    match letters.mapM Switch.ofLetter? with
    | some list => switches list
    | none => word
  | _ => word

end Argument

/-- Why a command line ends before anything is done. -/
inductive Rejection where
  /-- An option is given twice, or two options exclude each other. -/
  | conflict
  | tooManyValues
  | invalidValue
  | help
  | version
  deriving DecidableEq, Repr

def Rejection.exitCode : Rejection → Nat
  | help | version => 0
  | conflict | tooManyValues | invalidValue => 2

structure Arguments where
  system : Bool := false
  interactive : Bool := false
  dryRun : Bool := false
  debug : Nat := 0
  config : Option String := none
  showConfig : Bool := false
  configTemplate : Bool := false
  completions : Option Shell := none
  tokens : List String := []
  deriving DecidableEq, Repr

/-- An option that is given but not added yet, with its value if that has been read. -/
structure Pending where
  setting : Setting
  value : Option String
  deriving DecidableEq, Repr

namespace Arguments

def maxDebug : Nat := 255

/-- Adds a switch; only the debug switch may be given again. -/
def addSwitch (arguments : Arguments) : Switch → Except Rejection Arguments
  | .system => if arguments.system then .error .conflict else .ok { arguments with system := true }
  | .interactive =>
    if arguments.interactive then .error .conflict else .ok { arguments with interactive := true }
  | .dryRun => if arguments.dryRun then .error .conflict else .ok { arguments with dryRun := true }
  | .debug => .ok { arguments with debug := min (arguments.debug + 1) maxDebug }
  | .showConfig =>
    if arguments.showConfig then .error .conflict else .ok { arguments with showConfig := true }
  | .configTemplate =>
    if arguments.configTemplate then .error .conflict
    else .ok { arguments with configTemplate := true }
  | .help => .error .help
  | .version => .error .version

def has (arguments : Arguments) : Setting → Bool
  | .config => arguments.config.isSome
  | .completions => arguments.completions.isSome

/-- Adds an option with its value, which may be missing. -/
def addSetting (arguments : Arguments) (setting : Setting) (value : Option String) :
    Except Rejection Arguments :=
  match value with
  | none => .error .invalidValue
  | some value =>
    if arguments.has setting then .error .conflict
    else
      match setting with
      | .config =>
        if value = "" then .error .invalidValue else .ok { arguments with config := some value }
      | .completions =>
        match Shell.ofName? value with
        | some shell => .ok { arguments with completions := some shell }
        | none => .error .invalidValue

def settle (arguments : Arguments) : Option Pending → Except Rejection Arguments
  | none => .ok arguments
  | some pending => arguments.addSetting pending.setting pending.value

/-- The command line with the tokens of its command, once nothing else is to be read. -/
def finish (arguments : Arguments) (pending : Option Pending) (tokens : List String) :
    Except Rejection Arguments := do
  let settled ← arguments.settle pending
  if settled.configTemplate ∧ settled.showConfig then .error .conflict
  else .ok { settled with tokens }

/-- Reads the arguments that follow those read already. An option whose value is an argument of its
own is pending until the next option, the command or the end of the line; only then is the value
looked at. -/
def parseFrom (arguments : Arguments) (pending : Option Pending) :
    List String → Except Rejection Arguments
  | [] => arguments.finish pending []
  | text :: rest =>
    match Argument.ofString text, pending with
    | .word, some ⟨setting, none⟩ => arguments.parseFrom (some ⟨setting, some text⟩) rest
    | .word, _ => arguments.finish pending (text :: rest)
    | .separator, _ => arguments.finish pending rest
    | .excess, _ => .error .tooManyValues
    | .switches switches, _ => do
      let settled ← arguments.settle pending
      let added ← switches.foldlM addSwitch settled
      added.parseFrom none rest
    | .setting setting (some value), _ => do
      let settled ← arguments.settle pending
      let added ← settled.addSetting setting (some value)
      added.parseFrom none rest
    | .setting setting none, _ => do
      let settled ← arguments.settle pending
      settled.parseFrom (some ⟨setting, none⟩) rest

def parse (texts : List String) : Except Rejection Arguments := parseFrom {} none texts

/-- Whether the command line asks for a session: it has no command, and no option for one. -/
def isInteractive (arguments : Arguments) : Bool :=
  arguments.tokens.isEmpty && !arguments.system && !arguments.dryRun

/-- The tokens of the command, with the options that are flags of the command in front. -/
def commandTokens (arguments : Arguments) : List String :=
  (if arguments.system then [systemFlag] else []) ++ (if arguments.dryRun then [dryRunFlag] else [])
    ++ arguments.tokens

end Arguments

end ScopedVars
