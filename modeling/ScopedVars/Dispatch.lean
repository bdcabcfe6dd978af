import ScopedVars.Store.Basic

/-! # Carrying out commands

`dispatch` carries a command out in a scope without looking at its validity; a command that needs
an operand and has none fails before the store is called. `runOnce` reads a command from tokens,
refuses it if it is invalid and otherwise carries it out in the scope that the tokens select.
-/

namespace ScopedVars

structure Outcome where
  scope : Scope
  result : Option String
  deriving DecidableEq, Repr

inductive Operation where
  | nothing
  | help
  | toggle
  | list
  | get (key : String)
  | set (key value : String)
  | append (key suffix : String) (dryRun : Bool)
  | delete (key : String)
  deriving DecidableEq, Repr

def joinWords (words : List String) : String := " ".intercalate words

/-- The operation that a command stands for; none if it lacks its first operand. -/
def Command.operation? (command : Command) : Option Operation :=
  match command.verb, command.args with
  | .changeScope, _ => some .toggle
  | .list, _ => some .list
  | .help, _ => some .help
  | .quit, _ | .noop, _ | .unknown, _ => some .nothing
  | .get, key :: _ => some (.get key)
  | .delete, key :: _ => some (.delete key)
  | .set, key :: values => some (.set key (joinWords values))
  | .append, key :: values => some (.append key (joinWords values) command.isDryRun)
  | .get, [] | .delete, [] | .set, [] | .append, [] => none

namespace Store

variable {m : Type → Type} [Monad m] (store : Store m)

/-- Writes or removes a variable, then reads it again: the answer is what the store now holds. -/
def write (scope : Scope) (key : String) (value : Option String) :
    ExceptT StoreError m (Option String) := do
  store.set scope key value
  store.get scope key

/-- The text that an operation on the variables of a scope shows. -/
def perform (scope : Scope) : Operation → ExceptT StoreError m (Option String)
  | .nothing | .toggle => return none
  | .help => return some helpText
  | .list => return some ("\n".intercalate ((← store.list scope).mergeSort fun a b => a ≤ b))
  | .get key => store.get scope key
  | .set key value => store.write scope key (some value)
  | .append key suffix dryRun => do
    let value := ((← store.get scope key).getD "") ++ suffix
    if dryRun then return some value
    store.write scope key (some value)
  | .delete key => store.write scope key none

def scopeAfter (scope : Scope) : Operation → Scope
  | .toggle => scope.toggled
  | _ => scope

/-- Carries out a command in the given scope, which need not be the command's own. -/
def dispatch (command : Command) (scope : Scope) : ExceptT Failure m Outcome := do
  let some operation := command.operation? | throw .missingOperand
  let result ← (store.perform scope operation).adapt .store
  return ⟨scopeAfter scope operation, result⟩

def runOnce (tokens : List String) : ExceptT Failure m Outcome := do
  let command := Command.classify tokens
  match command.problems with
  | [] => store.dispatch command command.scope
  | problems => throw (.invalid problems)

end Store

end ScopedVars
