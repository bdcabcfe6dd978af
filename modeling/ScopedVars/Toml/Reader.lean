/-! # Reading TOML text

A reader takes a value off the front of a text. It answers with the value and the text that is
left, which is always shorter, so that reading a sequence ends; or it fails at a place in the text.
The character classes and the text between values stand here as well.
-/

namespace ScopedVars.Toml

inductive Reason where
  | expected (what : String)
  | escape
  | word (text : String)
  | nesting
  | duplicate (key : String)
  | closed (key : String)
  | notString (key : String)
  deriving DecidableEq, Repr

namespace Reason

def message : Reason → String
  | expected what => "expected " ++ what
  | escape => "invalid escape sequence"
  | word text => "invalid value `" ++ text ++ "`"
  | nesting => "too many nested values or keys"
  | duplicate key => "duplicate key `" ++ key ++ "`"
  | closed key => "key `" ++ key ++ "` cannot be extended"
  | notString key => "invalid type for key `" ++ key ++ "`, expected a string"

end Reason

/-- A text is refused at the place where `rest` begins. -/
structure Refusal where
  reason : Reason
  rest : List Char
  deriving DecidableEq, Repr

/-- The message about a refused text, with the line and column of the place. -/
def Refusal.report (refusal : Refusal) (text : List Char) : String :=
  let before := text.take (text.length - refusal.rest.length)
  let line := before.count '\n' + 1
  let column := (before.reverse.takeWhile (· ≠ '\n')).length + 1
  "TOML parse error at line " ++ toString line ++ ", column " ++ toString column ++ "\n"
    ++ refusal.reason.message ++ "\n"

/-- A value taken off the front of a text, and the text that is left. -/
structure Read (α : Type) (text : List Char) where
  value : α
  rest : List Char
  shorter : rest.length < text.length

abbrev Reader (α : Type) := (text : List Char) → Except Refusal (Read α text)

variable {α β γ : Type} {text inner rest : List Char} {c : Char}

def refuse (reason : Reason) (rest : List Char) : Except Refusal α := .error ⟨reason, rest⟩

theorem length_drop_lt {count : Nat} (h : 0 < count ∧ count ≤ text.length) :
    (text.drop count).length < text.length := by
  rw [List.length_drop]
  omega

namespace Read

def map (f : α → β) (read : Read α text) : Read β text :=
  ⟨f read.value, read.rest, read.shorter⟩

def here (value : α) : Read α (c :: rest) := ⟨value, rest, Nat.lt_succ_self rest.length⟩

/-- A value for the first `count` characters, if there are so many. -/
def first? (count : Nat) (value : α) (text : List Char) : Option (Read α text) :=
  if h : 0 < count ∧ count ≤ text.length then some ⟨value, text.drop count, length_drop_lt h⟩
  else none

/-- A value read off a later part of the text. -/
def within (read : Read α inner) (h : inner.length ≤ text.length) : Read α text :=
  ⟨read.value, read.rest, Nat.lt_of_lt_of_le read.shorter h⟩

def behind (read : Read α rest) : Read α (c :: rest) := read.within (Nat.le_succ rest.length)

def andThen (first : Read α text) (second : Read β first.rest) (f : α → β → γ) : Read γ text :=
  ⟨f first.value second.value, second.rest, Nat.lt_trans second.shorter first.shorter⟩

end Read

def isSpace (c : Char) : Bool := c == ' ' || c == '\t'

/-- Every character but the control characters other than tab. -/
def isPlain (c : Char) : Bool := c == '\t' || (' ' ≤ c && c != '\x7F')

def isBare (c : Char) : Bool := c.isAlphanum || c == '-' || c == '_'

/-- Whether the text is at a carriage return that belongs to a line end. -/
def atReturn (c : Char) (rest : List Char) : Bool := c == '\r' && rest.head? == some '\n'

def symbol? (symbol text : List Char) : Option (Read Unit text) :=
  if symbol.isPrefixOf text then Read.first? symbol.length () text else none

/-- Takes a line feed, or a carriage return and a line feed. -/
def lineEnd? : (text : List Char) → Option (Read Unit text)
  | [] => none
  | c :: rest =>
    if c == '\n' then some (.here ())
    else
      match c, rest with
      | '\r', '\n' :: _ => some (Read.here ()).behind
      | _, _ => none

def skipSpaces (text : List Char) : List Char := text.dropWhile isSpace

def skipComment : List Char → List Char
  | '#' :: rest => rest.dropWhile isPlain
  | text => text

/-- Skips spaces, line ends and comments; `inComment` if a comment goes on at the front. -/
def skipFiller (inComment : Bool) : List Char → List Char
  | [] => []
  | c :: rest =>
    if inComment && isPlain c || c == '#' then skipFiller true rest
    else if isSpace c || c == '\n' || atReturn c rest then skipFiller false rest
    else c :: rest

theorem length_skipSpaces_le (text : List Char) : (skipSpaces text).length ≤ text.length :=
  (List.dropWhile_suffix isSpace).length_le

theorem length_skipComment_le (text : List Char) : (skipComment text).length ≤ text.length := by
  unfold skipComment
  split
  · exact Nat.le_succ_of_le (List.dropWhile_suffix isPlain).length_le
  · exact Nat.le_refl _

theorem length_skipFiller_le (inComment : Bool) (text : List Char) :
    (skipFiller inComment text).length ≤ text.length := by
  fun_induction skipFiller inComment text <;> grind

namespace Read

def afterSpaces (read : Read α (skipSpaces text)) : Read α text :=
  read.within (length_skipSpaces_le text)

def afterComment (read : Read α (skipComment text)) : Read α text :=
  read.within (length_skipComment_le text)

def afterFiller (read : Read α (skipFiller false text)) : Read α text :=
  read.within (length_skipFiller_le false text)

end Read

end ScopedVars.Toml
