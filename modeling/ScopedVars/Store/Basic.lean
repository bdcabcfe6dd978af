import ScopedVars.Failure
import ScopedVars.Toml.Document
import ScopedVars.Toml.Printer

/-! # Stores

A store holds the variables of both scopes behind three calls. Each call runs in a monad, such as
one that changes a state, and may fail. The store of files keeps each scope in one TOML file of
strings: a missing file is an empty scope, every write rewrites the whole file, and removing a
variable that is not there writes nothing.
-/

namespace ScopedVars

structure Store (m : Type → Type) where
  /-- The names of the scope's variables, each once, in any order. -/
  list : Scope → ExceptT StoreError m (List String)
  get : Scope → String → ExceptT StoreError m (Option String)
  /-- Writes a variable or, without a value, removes it. -/
  set : Scope → String → Option String → ExceptT StoreError m Unit

structure FileSystem (m : Type → Type) where
  /-- Whether there is something at a path. This never fails. -/
  present : String → m Bool
  read : String → ExceptT IoError m String
  /-- Replaces the text of a file or makes the file. -/
  write : String → String → ExceptT IoError m Unit
  /-- Makes the directories on the way to a path. -/
  ensureParent : String → ExceptT IoError m Unit

namespace FileStore

variable {m : Type → Type} [Monad m] (system : FileSystem m) (paths : Scoped String)

def load (scope : Scope) : ExceptT StoreError m (Dict String) := do
  let path := paths.get scope
  if ← system.present path then
    let text ← (system.read path).adapt (.ofIo scope "read" path)
    match Toml.decode text with
    | .error report => throw (.corrupt scope path report)
    | .ok vars => return vars
  else return ∅

def save (scope : Scope) (vars : Dict String) : ExceptT StoreError m Unit := do
  let path := paths.get scope
  (system.ensureParent path).adapt (.ofIo scope "create directory for" path)
  (system.write path (Toml.encode vars)).adapt (.ofIo scope "write" path)

end FileStore

def Store.file {m : Type → Type} [Monad m] (system : FileSystem m) (paths : Scoped String) :
    Store m where
  list scope := return (← FileStore.load system paths scope).keys
  get scope key := return (← FileStore.load system paths scope).get? key
  set scope key value := do
    let vars ← FileStore.load system paths scope
    if value.isNone && !vars.contains key then return
    FileStore.save system paths scope (vars.alter key value)

end ScopedVars
