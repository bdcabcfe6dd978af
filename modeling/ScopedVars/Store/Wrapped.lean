import ScopedVars.Store.Basic

/-! # Faults and limits

`withFaults` makes chosen calls to a store or a file system fail before they reach it; `keeping n`
passes on only the first `n` characters of a value that is set.
-/

namespace ScopedVars

inductive Fault where
  | denied
  | corrupt
  | io (cause : IoError)
  deriving DecidableEq, Repr

/-- The failure that a fault gives for an action in a scope. -/
def Fault.error (scope : Scope) (action : String) : Fault → StoreError
  | denied => .denied scope "injected"
  | corrupt => .corrupt scope "injected" "bad data"
  | io cause => .ofIo scope action "/injected" cause

structure Faults where
  list : Option Fault := none
  get : Option Fault := none
  set : Option Fault := none

namespace Store

variable {m : Type → Type} [Monad m]

def failing {α : Type} (fault : Option Fault) (scope : Scope) (action : String)
    (call : ExceptT StoreError m α) : ExceptT StoreError m α :=
  match fault with
  | some fault => throw (fault.error scope action)
  | none => call

def withFaults (faults : Faults) (store : Store m) : Store m where
  list scope := failing faults.list scope "list" (store.list scope)
  get scope key := failing faults.get scope "get" (store.get scope key)
  set scope key value := failing faults.set scope "set" (store.set scope key value)

def keeping (count : Nat) (store : Store m) : Store m :=
  { store with
    set := fun scope key value =>
      store.set scope key (value.map fun text => .ofList (text.toList.take count)) }

end Store

structure FileFaults where
  read : Option IoError := none
  write : Option IoError := none
  ensureParent : Option IoError := none
  deriving DecidableEq, Repr

variable {m : Type → Type} [Monad m]

/-- The same files, with calls that fail and change nothing. -/
def FileSystem.withFaults (faults : FileFaults) (system : FileSystem m) : FileSystem m where
  present := system.present
  read path :=
    match faults.read with
    | some error => throw error
    | none => system.read path
  write path text :=
    match faults.write with
    | some error => throw error
    | none => system.write path text
  ensureParent path :=
    match faults.ensureParent with
    | some error => throw error
    | none => system.ensureParent path

end ScopedVars
