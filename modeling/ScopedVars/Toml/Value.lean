import ScopedVars.Toml.Word
import ScopedVars.Toml.Quoted

/-! # TOML values

A value is a string, a word (a number, truth value or moment), an array or an inline table. Tables
remember how they came about, because that decides what may extend them.
-/

namespace ScopedVars.Toml

inductive Origin where
  /-- Written as a value, in braces. -/
  | inline
  /-- Named by a header. -/
  | header
  /-- Implied by a dotted key. -/
  | dotted
  /-- Implied by a header that names a table inside it. -/
  | parent
  deriving DecidableEq, Repr

inductive Scalar where
  | integer (number : Int)
  | float (text : String)
  | boolean (truth : Bool)
  | moment (text : String)
  deriving DecidableEq, Repr

inductive Value where
  | string (text : String)
  | scalar (scalar : Scalar)
  | array (items : List Value)
  | table (origin : Origin) (entries : List (String × Value))
  /-- The tables that headers in double brackets name one by one. -/
  | tables (items : List (List (String × Value)))

/-- The entries of a table, in the order in which they were written. -/
abbrev Entries := List (String × Value)

/-- A key of one or more names: the tables on the way, and the name in the last of them. -/
structure KeyPath where
  parents : List String
  name : String
  deriving DecidableEq, Repr

namespace KeyPath

def length (path : KeyPath) : Nat := path.parents.length + 1

def first (path : KeyPath) : String := path.parents.headD path.name

end KeyPath

/-- The most values inside one another, and the most names in a key. -/
def nestingLimit : Nat := 79

def isWordChar (c : Char) : Bool := c.isAlphanum || c ∈ ['+', '-', '.', '_', ':']

def Scalar.ofWord? (word : List Char) : Option Scalar :=
  match boolean? word with
  | some truth => some (.boolean truth)
  | none =>
    match integer? word with
    | some number => some (.integer number)
    | none =>
      if isFloat word then some (.float (.ofList word))
      else if isMoment word then some (.moment (.ofList word))
      else none

/-- The first word of a text. A date takes in a time of day that follows it after one space. -/
def firstWord (text : List Char) : List Char :=
  let word := text.takeWhile isWordChar
  let next := text.drop word.length
  if date? word = some [] ∧ next.head? = some ' ' ∧ (next.drop 1).head?.any Char.isDigit then
    word ++ 'T' :: (next.drop 1).takeWhile isWordChar
  else word

def scalar : Reader Scalar := fun text =>
  let word := firstWord text
  match (Scalar.ofWord? word).bind fun value => Read.first? word.length value text with
  | some read => .ok read
  | none => refuse (.word (.ofList word)) text

def bareKey : Reader String := fun text =>
  let word := text.takeWhile isBare
  match Read.first? word.length (.ofList word) text with
  | some read => .ok read
  | none => refuse (.expected "a key") text

def keyName : Reader String
  | '"' :: rest => quotedLine ('"' :: rest)
  | '\'' :: rest => quotedLine ('\'' :: rest)
  | text => bareKey text

theorem Read.skipSpaces_lt {α β : Type} {text : List Char} (first : Read α text)
    (second : Read β (skipSpaces first.rest)) : (skipSpaces second.rest).length < text.length := by
  have := first.shorter
  have := second.shorter
  have := length_skipSpaces_le first.rest
  have := length_skipSpaces_le second.rest
  omega

def keyNames (text : List Char) : Except Refusal (Read KeyPath text) := do
  let first ← keyName text
  match symbol? ['.'] (skipSpaces first.rest) with
  | none => return first.map fun name => ⟨[], name⟩
  | some point => do
    let tail ← keyNames (skipSpaces point.rest)
    return first.andThen (point.andThen tail.afterSpaces fun _ path => path).afterSpaces
      fun name path => ⟨name :: path.parents, path.name⟩
termination_by text.length
decreasing_by exact first.skipSpaces_lt point

def keyPath : Reader KeyPath := fun text => do
  let path ← keyNames text
  if path.value.length ≤ nestingLimit then return path else refuse .nesting text

end ScopedVars.Toml
