import ScopedVars.Environment
import ScopedVars.Text.Alphanumeric

/-! # Expansion of paths

A path may name variables of the environment and begin with `~` for the home directory. If a
variable is named that is not set and has no default, the whole path stays as it is.
-/

namespace ScopedVars

namespace Expansion

def isNameChar (c : Char) : Bool := isAlphanumeric c || c == '_'

/-- The name and the default in braces; they part at the first `:-`, unless nothing is before it. -/
def splitDefault (inner : List Char) : List Char × Option (List Char) :=
  match go inner with
  | some (c :: name, default) => (c :: name, some default)
  | _ => (inner, none)
where
  go : List Char → Option (List Char × List Char)
    | [] => none
    | ':' :: '-' :: rest => some ([], rest)
    | c :: rest => (go rest).map fun (name, default) => (c :: name, default)

def braced? (environment : Environment) (inner : List Char) : Option (List Char) :=
  let (name, default) := splitDefault inner
  environment.value? name <|> default

/-- The reference at the front of a text, after its dollar: how many characters it has and the text
that stands for it; none if its variable has no value. -/
def reference? (environment : Environment) (text : List Char) : Option (Nat × List Char) :=
  match text with
  | '$' :: _ => some (1, ['$'])
  | '{' :: rest =>
    let inner := rest.takeWhile (· ≠ '}')
    if inner.length < rest.length then
      (braced? environment inner).map fun value => (inner.length + 2, value)
    else some (1, ['$', '{'])
  | _ =>
    let name := text.takeWhile isNameChar
    if name.isEmpty then some (0, ['$'])
    else (environment.value? name).map fun value => (name.length, value)

/-- The text after `skip` characters, with its variables replaced; none if one of them has no value.
What is put in is not expanded again. -/
def variables? (environment : Environment) (skip : Nat) : List Char → Option (List Char)
  | [] => some []
  | c :: rest =>
    match skip with
    | skip + 1 => variables? environment skip rest
    | 0 =>
      if c == '$' then do
        let (count, value) ← reference? environment rest
        return value ++ (← variables? environment count rest)
      else (variables? environment 0 rest).map (c :: ·)

/-- The text with a tilde at its front, alone or before a slash, replaced by the home directory. -/
def homePath (environment : Environment) : List Char → List Char
  | '~' :: rest =>
    match environment.home? with
    | some home => if rest = [] ∨ rest.head? = some '/' then home.toList ++ rest else '~' :: rest
    | none => '~' :: rest
  | text => text

/-- The path with variables and a leading tilde replaced. A tilde that a variable put there is no
leading tilde. -/
def expand (environment : Environment) (path : String) : String :=
  match variables? environment 0 path.toList with
  | none => path
  | some text =>
    .ofList (if path.toList.head? = some '~' then homePath environment text else text)

end Expansion

end ScopedVars
