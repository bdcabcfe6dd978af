import ScopedVars.Dict
import ScopedVars.Scope

/-! # Commands

A command is read from a list of tokens. Tokens that begin with a hyphen are flags and may stand
anywhere; of the others the first names the command and the rest are its arguments. Every list of
tokens is a command: one whose first word is missing or unknown has the verb `unknown`. A command is
valid if its verb is known and it has as many arguments as the verb takes; the problems of an
invalid command are reported together.
-/

namespace ScopedVars

inductive Verb where
  | noop
  | help
  | unknown
  | changeScope
  | list
  | get
  | set
  | delete
  | append
  | quit
  deriving DecidableEq, Repr, Inhabited

namespace Verb

def ofWord : Option String → Verb
  | some "cd" => changeScope
  | some "ls" => list
  | some "get" => get
  | some "set" => set
  | some "append" => append
  | some "rm" => delete
  | some "q" => quit
  | some "quit" => quit
  | some "h" => help
  | some "help" => help
  | _ => unknown

/-- The word that stands for a verb in messages. -/
def word : Verb → String
  | changeScope => "cd"
  | list => "ls"
  | get => "get"
  | set => "set"
  | append => "append"
  | delete => "rm"
  | quit => "q"
  | help => "help"
  | noop => "noop"
  | unknown => "noop"

end Verb

/-- Selects the system scope. -/
def systemFlag : String := "-s"

/-- Makes `append` show its value and write nothing. -/
def dryRunFlag : String := "-t"

structure Command where
  verb : Verb
  scope : Scope
  args : List String
  flags : Dict Unit

namespace Command

def noop (scope : Scope) : Command := ⟨.noop, scope, [], ∅⟩

def isFlag (token : String) : Bool := token.toList.head? == some '-'

def hasFlag (command : Command) (flag : String) : Bool := command.flags.contains flag

def isDryRun (command : Command) : Bool := command.hasFlag dryRunFlag

/-- The tokens that are no flags. -/
def positional (tokens : List String) : List String := tokens.filter fun token => !isFlag token

def flagSet (tokens : List String) : Dict Unit :=
  .ofList ((tokens.filter isFlag).map fun token => (token, ()))

/-- The scope that the tokens select: user, unless the system flag is among them. -/
def scopeOf (tokens : List String) : Scope :=
  if systemFlag ∈ tokens then .system else .user

def classify (tokens : List String) : Command where
  verb := .ofWord (positional tokens).head?
  scope := scopeOf tokens
  args := (positional tokens).tail
  flags := flagSet tokens

end Command

inductive Problem where
  | unparsable
  | arity (verb : Verb)
  deriving DecidableEq, Repr

namespace Problem

def message : Problem → String
  | unparsable => "unable to parse command"
  | arity verb => "wrong number of arguments provided for `" ++ verb.word ++ "` command"

/-- The text shown for a rejected command: a banner, one line a message, and a hint. -/
def report (messages : List String) : String :=
  "Invalid command: " ++ "\n".intercalate messages
    ++ "\nUse 'help' command to get available commands."

end Problem

def Verb.admits (verb : Verb) (count : Nat) : Bool :=
  match verb with
  | .list | .changeScope => count == 0
  | .get | .delete => count == 1
  | .set | .append => 2 ≤ count
  | .noop | .help | .quit => true
  | .unknown => false

/-- What is wrong with a command; nothing if it is valid. -/
def Command.problems (command : Command) : List Problem :=
  if command.verb = .unknown then [.unparsable]
  else if command.verb.admits command.args.length then []
  else [.arity command.verb]

def helpText : String :=
  "envedit: a scoped environment variable editor

Can be used through a one-at-a-time command line interface (CLI),
or interactively through a read evaluate print loop (REPL).

To access the REPL, run envedit with no commands,
or alternatively provide the -i flag.

envedit defaults to User variables.
To target System variables, use the -s flag with any of the commands
(CLI only; in the REPL use cd).

Available Commands
------------------
help, h: display this help menu
ls: list the variables available in the current scope
get name: print the value of variable name
set name value...: set the value of variable name (words joined with spaces)
rm name: delete the variable name
append name value...: append value to variable name (-t: show result, do not write)

REPL Specific Commands
----------------------
quit, q: quit the REPL
cd: toggle between user/system scope"

end ScopedVars
