import ScopedVars.Toml.Reader

/-! # Quoted strings

A basic string stands in double quotes and has escapes, a literal string stands in single quotes
and has none. Either may span lines, between triple quotes: a line end directly after the opening
quotes is dropped, and up to two quotes may stand directly before the closing ones.
-/

namespace ScopedVars.Toml

def escapeLetters : List (Char × Char) :=
  [('b', '\x08'), ('t', '\t'), ('n', '\n'), ('f', '\x0C'), ('r', '\r'), ('"', '"'), ('\\', '\\')]

def hexValue? (c : Char) : Option Nat :=
  if '0' ≤ c ∧ c ≤ '9' then some (c.toNat - '0'.toNat)
  else if 'a' ≤ c ∧ c ≤ 'f' then some (c.toNat - 'a'.toNat + 10)
  else if 'A' ≤ c ∧ c ≤ 'F' then some (c.toNat - 'A'.toNat + 10)
  else none

def hexNumber? (digits : List Char) : Option Nat :=
  digits.foldl (fun number c => do return 16 * (← number) + (← hexValue? c)) (some 0)

/-- The character whose number stands in the first `count` digits. -/
def codePoint? (count : Nat) (text : List Char) : Option Char := do
  let digits := text.take count
  let number ← hexNumber? digits
  if digits.length = count ∧ number.isValidChar then some (.ofNat number) else none

/-- The escape at the front of a text, after its backslash: how many characters it has and what it
stands for. -/
def unescape? : List Char → Option (Nat × Char)
  | [] => none
  | c :: rest =>
    match escapeLetters.lookup c with
    | some d => some (1, d)
    | none =>
      if c == 'u' then (codePoint? 4 rest).map fun d => (5, d)
      else if c == 'U' then (codePoint? 8 rest).map fun d => (9, d)
      else none

/-- The rest of a basic string after its opening quote and after `skip` characters. -/
def basicBody (skip : Nat) : (text : List Char) → Except Refusal (Read (List Char) text)
  | [] => refuse (.expected "a closing quote") []
  | c :: rest =>
    match skip with
    | skip + 1 => do return (← basicBody skip rest).behind
    | 0 =>
      if c == '"' then .ok (.here [])
      else if c == '\\' then
        match unescape? rest with
        | some (count, d) => do return ((← basicBody count rest).map (d :: ·)).behind
        | none => refuse .escape rest
      else if isPlain c then do return ((← basicBody 0 rest).map (c :: ·)).behind
      else refuse (.expected "a closing quote") (c :: rest)

def literalBody : (text : List Char) → Except Refusal (Read (List Char) text)
  | [] => refuse (.expected "a closing quote") []
  | c :: rest =>
    if c == '\'' then .ok (.here [])
    else if isPlain c then do return ((← literalBody rest).map (c :: ·)).behind
    else refuse (.expected "a closing quote") (c :: rest)

/-- The end of a string over lines, if the text is there: up to two quotes that belong to the
string and then the three closing ones. -/
def closing? (quote : Char) (text : List Char) : Option (Read (List Char) text) :=
  let run := (text.takeWhile (· == quote)).length
  let kept := min (run - 3) 2
  if 3 ≤ run then Read.first? (kept + 3) (.replicate kept quote) text else none

/-- Whether only spaces stand before the end of the line. -/
def atLineEnd (text : List Char) : Bool := (lineEnd? (skipSpaces text)).isSome

/-- The rest of a basic string over lines, after `skip` characters. A backslash at the end of a line
takes the line end and all spaces and line ends after it; `folding` if it goes on at the front. -/
def basicLines (skip : Nat) (folding : Bool) :
    (text : List Char) → Except Refusal (Read (List Char) text)
  | [] => refuse (.expected "three closing quotes") []
  | c :: rest =>
    match skip with
    | skip + 1 => do return (← basicLines skip folding rest).behind
    | 0 =>
      if folding && (isSpace c || c == '\n' || atReturn c rest) then do
        return (← basicLines 0 true rest).behind
      else
        match closing? '"' (c :: rest) with
        | some last => .ok last
        | none =>
          if c == '\\' then
            if atLineEnd rest then do return (← basicLines 0 true rest).behind
            else
              match unescape? rest with
              | some (count, d) => do return ((← basicLines count false rest).map (d :: ·)).behind
              | none => refuse .escape rest
          else if atReturn c rest then do return (← basicLines 0 false rest).behind
          else if isPlain c || c == '\n' then do
            return ((← basicLines 0 false rest).map (c :: ·)).behind
          else refuse (.expected "three closing quotes") (c :: rest)

def literalLines : (text : List Char) → Except Refusal (Read (List Char) text)
  | [] => refuse (.expected "three closing quotes") []
  | c :: rest =>
    match closing? '\'' (c :: rest) with
    | some last => .ok last
    | none =>
      if atReturn c rest then do return (← literalLines rest).behind
      else if isPlain c || c == '\n' then do return ((← literalLines rest).map (c :: ·)).behind
      else refuse (.expected "three closing quotes") (c :: rest)

def dropLineEnd (text : List Char) : List Char :=
  match lineEnd? text with
  | some read => read.rest
  | none => text

theorem length_dropLineEnd_le (text : List Char) : (dropLineEnd text).length ≤ text.length := by
  unfold dropLineEnd
  split
  · exact Nat.le_of_lt (Read.shorter _)
  · exact Nat.le_refl _

def Read.afterLineEnd {α : Type} {text : List Char} (read : Read α (dropLineEnd text)) :
    Read α text :=
  read.within (length_dropLineEnd_le text)

def quotedLine : Reader String
  | '"' :: rest => do return ((← basicBody 0 rest).map .ofList).behind
  | '\'' :: rest => do return ((← literalBody rest).map .ofList).behind
  | text => refuse (.expected "a quoted string") text

def quoted : Reader String
  | '"' :: '"' :: '"' :: rest => do
    return ((← basicLines 0 false (dropLineEnd rest)).map .ofList).afterLineEnd.behind.behind.behind
  | '\'' :: '\'' :: '\'' :: rest => do
    return ((← literalLines (dropLineEnd rest)).map .ofList).afterLineEnd.behind.behind.behind
  | text => quotedLine text

end ScopedVars.Toml
