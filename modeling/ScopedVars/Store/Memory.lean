import ScopedVars.Store.Basic

/-! # Variables and files in memory

The store in memory has a dictionary for each scope. A scope that is read only refuses every write,
whether or not the write would change anything. The simplest file system is a dictionary from paths
to texts, in which every path has a parent.
-/

namespace ScopedVars

abbrev Variables := Scoped (Dict String)

namespace Store

def memory (readOnly : Scoped Bool) : Store (StateM Variables) where
  list scope := return ((← getThe Variables).get scope).keys
  get scope key := return ((← getThe Variables).get scope).get? key
  set scope key value := do
    if readOnly.get scope then throw (.denied scope "memory")
    modify fun vars => vars.set scope ((vars.get scope).alter key value)

end Store

abbrev Files := Dict String

def FileSystem.memory : FileSystem (StateM Files) where
  present path := return (← getThe Files).contains path
  read path := do
    match (← getThe Files).get? path with
    | some text => return text
    | none => throw .notFound
  write path text := modify fun files => files.insert path text
  ensureParent _ := return

end ScopedVars
