import ScopedVars.Store.Basic
import ScopedVars.Text.Basic

/-! # File trees

Directories and files below one root, with a current directory. A path is followed name by name,
through directories only; `.` stays, `..` goes up, and a slash at the end asks for a directory.
-/

namespace ScopedVars

/-- The names that lead from the root to a directory or file. -/
abbrev Place := List String

inductive Entry where
  | directory
  | file (content : Content)
  /-- Takes what is written to it and stays empty. -/
  | sink
  deriving DecidableEq

structure FileTree where
  entries : List (Place × Entry) := []
  current : Place := []
  deriving DecidableEq

namespace FileTree

def entry? (tree : FileTree) (place : Place) : Option Entry :=
  if place = [] then some .directory else tree.entries.lookup place

def isDirectory (tree : FileTree) (place : Place) : Bool :=
  match tree.entry? place with
  | some .directory => true
  | _ => false

def insert (tree : FileTree) (place : Place) (entry : Entry) : FileTree :=
  { tree with entries := (place, entry) :: tree.entries.filter fun other => other.1 ≠ place }

/-- Makes the directories at a place and on the way to it. -/
def withDirectories (tree : FileTree) (place : Place) : FileTree :=
  ((List.range (place.length + 1)).map place.take).foldl (fun tree above =>
    if (tree.entry? above).isNone then tree.insert above .directory else tree) tree

def files (tree : FileTree) : List (Place × Content) :=
  tree.entries.filterMap fun
    | (place, .file content) => some (place, content)
    | _ => none

def isAbsolute (path : String) : Bool := path.toList.head? == some '/'

def parts (path : String) : List String :=
  (path.toList.splitOn '/').map .ofList

def start (tree : FileTree) (path : String) : Place :=
  if isAbsolute path then [] else tree.current

def maxName : Nat := 255

def maxPath : Nat := 4095

/-- Follows parts from a place. Every place that a part leads on from must be a directory; there
need be nothing at the last one. -/
def follow (tree : FileTree) (place : Place) : List String → Except IoError Place
  | [] => .ok place
  | part :: rest =>
    match tree.entry? place with
    | none => .error .notFound
    | some (.file _) | some .sink => .error .notDirectory
    | some .directory =>
      if part = "" ∨ part = "." then tree.follow place rest
      else if part = ".." then tree.follow place.dropLast rest
      else if part.utf8ByteSize > maxName then .error .nameTooLong
      else tree.follow (place ++ [part]) rest

def locate (tree : FileTree) (path : String) : Except IoError Place :=
  if '\x00' ∈ path.toList then .error .invalidPath
  else if path.utf8ByteSize > maxPath then .error .nameTooLong
  else if path = "" then .error .notFound
  else tree.follow (tree.start path) (parts path)

def present (tree : FileTree) (path : String) : Bool :=
  match tree.locate path with
  | .ok place => (tree.entry? place).isSome
  | .error _ => false

def read (tree : FileTree) (path : String) : Except IoError String := do
  match tree.entry? (← tree.locate path) with
  | none => .error .notFound
  | some .directory => .error .isDirectory
  | some .sink => .ok ""
  | some (.file (.raw _)) => .error .invalidText
  | some (.file (.text text)) => .ok text

def write (tree : FileTree) (path text : String) : Except IoError FileTree := do
  let place ← tree.locate path
  match tree.entry? place with
  | some .directory => .error .isDirectory
  | some .sink => return tree
  | some (.file _) | none => return tree.insert place (.file (.text text))

def makeDirectory (tree : FileTree) (path : String) : Except IoError FileTree := do
  let place ← tree.locate path
  if (tree.entry? place).isSome then .error .alreadyExists
  else return tree.insert place .directory

def leadsToDirectory (tree : FileTree) (path : String) : Bool :=
  match tree.locate path with
  | .ok place => tree.isDirectory place
  | .error _ => false

/-- Makes a directory unless it is there, and answers with the tree also if that fails. -/
def tryDirectory (tree : FileTree) (path : String) : Except IoError Unit × FileTree :=
  match tree.makeDirectory path with
  | .ok tree => (.ok (), tree)
  | .error error => (if tree.leadsToDirectory path then .ok () else .error error, tree)

/-- A part of a path that leads nowhere else. -/
def isFiller (part : String) : Bool := part == "" || part == "."

/-- The parts of a path, given in reverse, without the fillers at its end. The first part of a path
stays: it says where the path begins. -/
def dropFillers : List String → List String
  | [] => []
  | part :: above =>
    if isFiller part && !above.isEmpty then dropFillers above else part :: above

def ofParts (reversed : List String) : String :=
  if reversed = [""] then "/" else "/".intercalate reversed.reverse

/-- Makes the directory that parts lead to, given in reverse. It is tried first; if something on the
way is missing, the directory above is made and it is tried again. -/
def makeDirectories (tree : FileTree) : List String → Except IoError Unit × FileTree
  | [] => (.ok (), tree)
  | part :: above =>
    if isFiller part && !above.isEmpty then tree.makeDirectories above
    else
      match tree.tryDirectory (ofParts (part :: above)) with
      | (.error .notFound, tree) =>
        match tree.makeDirectories above with
        | (.ok (), tree) => tree.tryDirectory (ofParts (part :: above))
        | failed => failed
      | done => done

def ensureParent (tree : FileTree) (path : String) : Except IoError Unit × FileTree :=
  tree.makeDirectories (dropFillers (parts path).reverse).tail

end FileTree

def FileSystem.tree : FileSystem (StateM FileTree) where
  present path := return (← getThe FileTree).present path
  read path := do
    match (← getThe FileTree).read path with
    | .ok text => return text
    | .error error => throw error
  write path text := do
    match (← getThe FileTree).write path text with
    | .ok tree => set tree
    | .error error => throw error
  ensureParent path := do
    let (result, tree) := (← getThe FileTree).ensureParent path
    set tree
    match result with
    | .ok () => return
    | .error error => throw error

end ScopedVars
