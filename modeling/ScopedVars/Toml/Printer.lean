import ScopedVars.Dict
import ScopedVars.Toml.Quoted

/-! # Writing TOML

A key is written bare if it can be, and a value in the first of four string forms that holds it
without escapes; failing that, in a basic form with escapes. Tabs are escaped in the basic forms.
-/

namespace ScopedVars.Toml

def hexDigit (n : Nat) : Char := if n < 10 then .ofNat (n + '0'.toNat) else .ofNat (n - 10 + 'A'.toNat)

def escape (c : Char) : List Char :=
  match escapeLetters.find? fun entry => entry.2 = c with
  | some (letter, _) => ['\\', letter]
  | none =>
    if isPlain c then [c]
    else ['\\', 'u', '0', '0', hexDigit (c.toNat / 16), hexDigit (c.toNat % 16)]

def basic (text : List Char) : List Char := '"' :: text.flatMap escape ++ ['"']

def literal (text : List Char) : List Char := '\'' :: text ++ ['\'']

/-- The body of a basic string over lines, after `quotes` quotes in a row: the third of every three
is escaped, so that they do not close the string. -/
def escapeLines : Nat → List Char → List Char
  | _, [] => []
  | quotes, c :: rest =>
    if c = '"' then
      if quotes = 2 then escape c ++ escapeLines 0 rest else c :: escapeLines (quotes + 1) rest
    else if c = '\n' then c :: escapeLines 0 rest
    else escape c ++ escapeLines 0 rest

/-- The line end after opening triple quotes; only a text with line ends has one. -/
def opening (text : List Char) : List Char := if '\n' ∈ text then ['\n'] else []

inductive Form where
  | basic
  | literal
  | basicLines
  | literalLines
  deriving DecidableEq, Repr

def hasTriple (quote : Char) : List Char → Bool
  | a :: b :: c :: rest => (a == quote && b == quote && c == quote) || hasTriple quote (b :: c :: rest)
  | _ => false

namespace Form

/-- Whether a text is free of control characters other than tab and line feed. -/
def isClean (text : List Char) : Bool := text.all fun c => isPlain c || c == '\n'

def ofValue (text : List Char) : Form :=
  if text.all fun c => isPlain c && c != '\\' && c != '"' then basic
  else if text.all fun c => isPlain c && c != '\'' then literal
  else if isClean text ∧ '\\' ∉ text ∧ hasTriple '"' text = false then basicLines
  else if isClean text ∧ hasTriple '\'' text = false then literalLines
  else if '\n' ∈ text then basicLines
  else basic

def write (text : List Char) : Form → List Char
  | basic => Toml.basic text
  | literal => Toml.literal text
  | basicLines => ['"', '"', '"'] ++ opening text ++ escapeLines 0 text ++ ['"', '"', '"']
  | literalLines => ['\'', '\'', '\''] ++ opening text ++ text ++ ['\'', '\'', '\'']

end Form

def writeValue (text : List Char) : List Char := (Form.ofValue text).write text

def writeKey (key : List Char) : List Char :=
  if key ≠ [] ∧ key.all isBare then key
  else if key.all fun c => isPlain c && c != '\\' && c != '"' then basic key
  else if key.all fun c => isPlain c && c != '\'' then literal key
  else basic key

def writeLine (key value : String) : List Char :=
  writeKey key.toList ++ [' ', '=', ' '] ++ writeValue value.toList ++ ['\n']

def writeStrings (entries : List (String × String)) : String :=
  .ofList (entries.flatMap fun entry => writeLine entry.1 entry.2)

def encode (dict : Dict String) : String := writeStrings dict.entries

end ScopedVars.Toml
