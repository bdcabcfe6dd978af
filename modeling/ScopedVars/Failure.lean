import ScopedVars.Command

/-! # Failures

A call to the file system fails with a cause, and a call to a store with the scope and what was
being done. Everything that can end a run before its result is shown has one message and one exit
code; the codes are those of BSD's `sysexits.h`.
-/

namespace ScopedVars

inductive IoError where
  | permissionDenied
  | notFound
  | isDirectory
  | notDirectory
  | nameTooLong
  | alreadyExists
  | invalidPath
  | invalidText
  | other (text : String)
  deriving DecidableEq, Repr

namespace IoError

def message : IoError → String
  | permissionDenied => "Permission denied (os error 13)"
  | notFound => "No such file or directory (os error 2)"
  | isDirectory => "Is a directory (os error 21)"
  | notDirectory => "Not a directory (os error 20)"
  | nameTooLong => "File name too long (os error 36)"
  | alreadyExists => "File exists (os error 17)"
  | invalidPath => "file name contained an unexpected NUL byte"
  | invalidText => "stream did not contain valid UTF-8"
  | other text => text

end IoError

inductive StoreError where
  | denied (scope : Scope) (location : String)
  | io (scope : Scope) (action : String) (path : String) (cause : IoError)
  | corrupt (scope : Scope) (location : String) (report : String)
  deriving DecidableEq, Repr

namespace StoreError

def message : StoreError → String
  | denied scope location => "access to " ++ scope.name ++ " variables denied: " ++ location
  | io scope action path _ => scope.name ++ " store I/O error: " ++ action ++ ": " ++ path
  | corrupt scope location report =>
    scope.name ++ " store is corrupt (" ++ location ++ "): " ++ report

/-- The failure of an action on a path; a denied permission is a failure of its own kind. -/
def ofIo (scope : Scope) (action path : String) : IoError → StoreError
  | .permissionDenied => denied scope path
  | cause => io scope action path cause

end StoreError

inductive Failure where
  | invalid (problems : List Problem)
  /-- A command that needs an operand was carried out without one. -/
  | missingOperand
  /-- A variable of the environment leads to an item that no list has. -/
  | unreachable (name : String)
  | store (error : StoreError)
  | config (text : String)
  | operation (context : String)
  | output (what : String)
  deriving DecidableEq, Repr

namespace Failure

def message : Failure → String
  | invalid problems => Problem.report (problems.map Problem.message)
  | missingOperand => "missing operand"
  | unreachable name => "no such item: " ++ name
  | store error => error.message
  | config text => "config error: " ++ text
  | operation context => "operation failed: " ++ context
  | output what => "cannot write " ++ what ++ " to stdout"

def exitCode : Failure → Nat
  | invalid _ => 64
  | missingOperand => 101
  | unreachable _ => 101
  | store (.denied _ _) => 77
  | store (.io _ _ _ _) => 74
  | store (.corrupt _ _ _) => 65
  | config _ => 78
  | operation _ => 70
  | output _ => 74

end Failure

end ScopedVars
