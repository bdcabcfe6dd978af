import ScopedVars.Expansion
import ScopedVars.Store.Basic

/-! # Settings

The settings are the paths of the two stores. Each path comes from the environment, else from the
configuration file, else from a default, and is then expanded. A configuration file that is named
must be readable; the usual one need not exist.
-/

namespace ScopedVars

/-- The paths of the files that hold the scopes. -/
abbrev Settings := Scoped String

def joinPath (base name : String) : String :=
  if base = "" ∨ base.toList.getLast? = some '/' then base ++ name else base ++ "/" ++ name

namespace Settings

def names : Scoped String := ⟨"user_store", "system_store"⟩

/-- The directory that a variable names by an absolute path, or else one below the home directory;
none without a home directory. -/
def baseDirectory? (environment : Environment) (name fallback : String) : Option String :=
  environment.home?.map fun home =>
    match environment.get? name with
    | some path => if path.toList.head? = some '/' then path else joinPath home fallback
    | none => joinPath home fallback

def usualConfig? (environment : Environment) : Option String :=
  (baseDirectory? environment "XDG_CONFIG_HOME" ".config").map fun base =>
    joinPath (joinPath base "envedit") "envedit.toml"

def defaults (environment : Environment) : Settings where
  user :=
    match baseDirectory? environment "XDG_DATA_HOME" ".local/share" with
    | some base => joinPath (joinPath base "envedit") "user.toml"
    | none => "~/.envedit/user.toml"
  system := "/etc/envedit/system.toml"

/-- The settings in the entries of a configuration file, or a key whose value is no string. -/
def ofEntries (entries : Toml.Entries) : Except String (Scoped (Option String)) := do
  return ⟨← entries.string? names.user, ← entries.string? names.system⟩

def ofText (path text : String) : Except Failure (Scoped (Option String)) :=
  match Toml.readWith ofEntries text with
  | .ok layer => .ok layer
  | .error report => .error (.config ("parse " ++ path ++ ": " ++ report))

/-- The effective settings, given those of the configuration file. -/
def resolve (environment : Environment) (layer : Scoped (Option String)) : Settings :=
  ⟨field .user, field .system⟩
where
  field (scope : Scope) : String :=
    Expansion.expand environment
      ((Override.value? environment (names.get scope)).getD
        ((layer.get scope).getD ((defaults environment).get scope)))

/-- The effective settings, if every variable of the environment can be followed. -/
def effective (environment : Environment) (layer : Scoped (Option String)) :
    Except Failure Settings :=
  match Override.unreachable? environment with
  | none => .ok (resolve environment layer)
  | some name => .error (.unreachable name)

variable {m : Type → Type} [Monad m]

/-- The configuration file in force: the one that is named, or else the usual one if it exists. -/
def configPath? (system : FileSystem m) (environment : Environment) (named : Option String) :
    m (Option String) := do
  match named, usualConfig? environment with
  | some path, _ => return some path
  | none, none => return none
  | none, some path => if ← system.present path then return some path else return none

def layer (system : FileSystem m) (environment : Environment) (named : Option String) :
    ExceptT Failure m (Scoped (Option String)) := do
  match ← (configPath? system environment named : m (Option String)) with
  | none => return .both none
  | some path =>
    let text ← (system.read path).adapt fun error =>
      .config ("read " ++ path ++ ": " ++ error.message)
    MonadExcept.ofExcept (ofText path text)

/-- The effective settings. The configuration file is read before the environment. -/
def load (system : FileSystem m) (environment : Environment) (named : Option String) :
    ExceptT Failure m Settings := do
  MonadExcept.ofExcept (effective environment (← layer system environment named))

def toToml (settings : Settings) : String :=
  Toml.writeStrings [(names.user, settings.user), (names.system, settings.system)]

/-- A configuration file to start from: everything in it is a comment. -/
def template : String :=
  "# envedit configuration
#
# Locations (by precedence, lowest to highest):
#   Global: ~/.config/envedit/envedit.toml  (or --config PATH)
#   Env:    ENVEDIT_USER_STORE, ENVEDIT_SYSTEM_STORE
#
# Each store is a TOML table of NAME = \"value\" pairs, one file per scope.
# `~` and $VAR are expanded.

# Variables edited without -s (default: <data dir>/envedit/user.toml)
# user_store = \"~/.local/share/envedit/user.toml\"

# Variables edited with -s or after `cd` in the REPL
# system_store = \"/etc/envedit/system.toml\"
"

end Settings

end ScopedVars
