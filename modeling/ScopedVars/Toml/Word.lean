/-! # Numbers, truth values and moments as words

A number is a word: decimal, hexadecimal, octal or binary digits, with single underscores between
digits. Integers have sixty-four bits with a sign. A float is refused if the nearest double is
positive infinity, unless it is written so. A moment is a date, a time of day, or a date and a time
with or without an offset from universal time. Days fit their month in the Gregorian calendar, and a
second may be the sixtieth.
-/

namespace ScopedVars.Toml

/-- The digits of a word in which every underscore stands between two of them. -/
def digits? (isDigit : Char → Bool) (word : List Char) : Option (List Char) :=
  let groups := word.splitOn '_'
  if groups.all fun group => group ≠ [] ∧ group.all isDigit then some groups.flatten else none

def digitValue (c : Char) : Nat :=
  if c.isDigit then c.toNat - '0'.toNat
  else if c.isLower then c.toNat - 'a'.toNat + 10
  else c.toNat - 'A'.toNat + 10

def natValue (base : Nat) (digits : List Char) : Nat :=
  digits.foldl (fun number c => base * number + digitValue c) 0

def isDigitOf (base : Nat) (c : Char) : Bool :=
  (c.isDigit || ('a' ≤ c && c ≤ 'f') || ('A' ≤ c && c ≤ 'F')) && digitValue c < base

/-- Decimal digits without a superfluous zero in front. -/
def decimal? (word : List Char) : Option (List Char) := do
  let digits ← digits? Char.isDigit word
  if digits.head? = some '0' ∧ digits.length ≠ 1 then none else some digits

def splitSign : List Char → Bool × List Char
  | '-' :: word => (true, word)
  | '+' :: word => (false, word)
  | word => (false, word)

def maxInteger : Nat := 0x7FFFFFFFFFFFFFFF

def integer? : List Char → Option Int
  | '0' :: 'x' :: word => unsigned 16 word
  | '0' :: 'o' :: word => unsigned 8 word
  | '0' :: 'b' :: word => unsigned 2 word
  | word => do
    let (negative, digits) := splitSign word
    let number := natValue 10 (← decimal? digits)
    if negative then
      if number ≤ maxInteger + 1 then some (-number) else none
    else if number ≤ maxInteger then some number else none
where
  unsigned (base : Nat) (word : List Char) : Option Int := do
    let number := natValue base (← digits? (isDigitOf base) word)
    if number ≤ maxInteger then some number else none

/-- The least number whose nearest double is infinite. -/
def doubleBound : Nat := Nat.pow 2 1024 - Nat.pow 2 970

/-- Whether the nearest double to `digits * 10 ^ exponent` is infinite. -/
def exceedsDouble (digits : Nat) (exponent : Int) : Bool :=
  if digits = 0 then false
  else if exponent ≥ 309 then true
  else if exponent ≥ 0 then doubleBound ≤ digits * Nat.pow 10 exponent.toNat
  else if Nat.log2 digits < -exponent then false
  else doubleBound * Nat.pow 10 (-exponent).toNat ≤ digits

def exponent? (word : List Char) : Option Int := do
  let (negative, digits) := splitSign word
  let number := natValue 10 (← digits? Char.isDigit digits)
  return if negative then -number else number

/-- Whether a word without a sign is a float: its sign tells which infinity is refused. -/
def isUnsignedFloat (negative : Bool) (word : List Char) : Bool :=
  if word = ['i', 'n', 'f'] ∨ word = ['n', 'a', 'n'] then true
  else
    let mantissa := word.takeWhile fun c => c ≠ 'e' ∧ c ≠ 'E'
    let power := word.drop (mantissa.length + 1)
    let whole := mantissa.takeWhile (· ≠ '.')
    let fraction := mantissa.drop (whole.length + 1)
    let hasPoint := whole.length < mantissa.length
    let hasPower := mantissa.length < word.length
    let parts : Option (List Char × List Char × Int) := do
      let wholeDigits ← decimal? whole
      let fractionDigits ← if hasPoint then digits? Char.isDigit fraction else some []
      let exponent ← if hasPower then exponent? power else some 0
      return (wholeDigits, fractionDigits, exponent)
    match parts with
    | some (wholeDigits, fractionDigits, exponent) =>
      (hasPoint || hasPower) &&
        (negative || !exceedsDouble (natValue 10 (wholeDigits ++ fractionDigits))
          (exponent - fractionDigits.length))
    | none => false

def isFloat (word : List Char) : Bool :=
  let (negative, rest) := splitSign word
  isUnsignedFloat negative rest

def boolean? (word : List Char) : Option Bool :=
  if word = "true".toList then some true
  else if word = "false".toList then some false
  else none

/-- The number at the front of a word that is written with exactly `count` digits. -/
def fixedNumber? (count : Nat) (word : List Char) : Option (Nat × List Char) :=
  let digits := word.take count
  if digits.length = count ∧ digits.all Char.isDigit then
    some (digits.foldl (fun number c => 10 * number + (c.toNat - '0'.toNat)) 0, word.drop count)
  else none

def after? (separator : Char) : List Char → Option (List Char)
  | [] => none
  | c :: word => if c = separator then some word else none

def isLeapYear (year : Nat) : Bool := year % 4 = 0 && (year % 100 ≠ 0 || year % 400 = 0)

def daysInMonth (year month : Nat) : Nat :=
  if month = 2 then if isLeapYear year then 29 else 28
  else if month ∈ [4, 6, 9, 11] then 30
  else 31

def date? (word : List Char) : Option (List Char) := do
  let (year, word) ← fixedNumber? 4 word
  let (month, word) ← fixedNumber? 2 (← after? '-' word)
  let (day, word) ← fixedNumber? 2 (← after? '-' word)
  if 1 ≤ month ∧ month ≤ 12 ∧ 1 ≤ day ∧ day ≤ daysInMonth year month then some word else none

def clock? (word : List Char) : Option (List Char) := do
  let (hour, word) ← fixedNumber? 2 word
  let (minute, word) ← fixedNumber? 2 (← after? ':' word)
  if hour ≤ 23 ∧ minute ≤ 59 then some word else none

def time? (word : List Char) : Option (List Char) := do
  let (second, word) ← fixedNumber? 2 (← after? ':' (← clock? word))
  if second > 60 then none
  else
    match word with
    | '.' :: fraction =>
      if (fraction.takeWhile Char.isDigit) = [] then none
      else some (fraction.dropWhile Char.isDigit)
    | _ => some word

/-- Whether a word is an offset from universal time, or nothing. -/
def isOffset : List Char → Bool
  | [] | ['Z'] | ['z'] => true
  | '+' :: word | '-' :: word => clock? word = some []
  | _ => false

def isMoment (word : List Char) : Bool :=
  match date? word with
  | some [] => true
  | some (c :: rest) => (c = 'T' ∨ c = 't') && (time? rest).any isOffset
  | none => time? word = some []

end ScopedVars.Toml
