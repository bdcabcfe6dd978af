import ScopedVars.Dict

/-! # Environments

What a process is given: variables by their names, and beside them the home directory that the
system keeps for the user. A look-up of a variable goes by entries `NAME=VALUE`.

A variable whose name begins with `ENVEDIT_`, in letters of any case, gives a value to a place in a
tree. The rest of the name leads there: words with points between them, for which two underscores
may stand, and after a word the numbers of items in brackets. A place that is no setting has no
effect; but a number that no list reaches cannot be followed.
-/

namespace ScopedVars

structure Environment where
  vars : Dict String
  /-- The home directory of the user, if the system knows one. -/
  userHome : Option String := none

namespace Environment

def get? (environment : Environment) (name : String) : Option String :=
  environment.vars.get? name

/-- The home directory: the variable for it unless it is missing or empty, else what the system
knows. -/
def home? (environment : Environment) : Option String :=
  match environment.get? "HOME" with
  | none | some "" => environment.userHome
  | some home => some home

/-- The value that is found for a name: what is behind the name and an equals sign at the front of
an entry. So a name that holds an equals sign goes on in the value of a variable. A name that is
empty or holds NUL is never found. -/
def value? (environment : Environment) (name : List Char) : Option (List Char) :=
  let key := name.takeWhile (· ≠ '=')
  let beginning := (name ++ ['=']).drop (key.length + 1)
  if key = [] ∨ '\x00' ∈ name then none
  else (environment.get? (.ofList key)).bind fun value => beginning.isPrefixOf? value.toList

end Environment

namespace Override

/-- The small letter of a letter. Beyond ASCII only the kelvin sign has a small letter in ASCII. -/
def lower (c : Char) : Char := if c = '\u212A' then 'k' else c.toLower

def withPoints : List Char → List Char
  | '_' :: '_' :: rest => '.' :: withPoints rest
  | c :: rest => c :: withPoints rest
  | [] => []

/-- What leads to the place of a variable in the tree, if the variable has one. -/
def route? (name : String) : Option (List Char) :=
  ("envedit_".toList.isPrefixOf? (name.toList.map lower)).map withPoints

/-- The value that the environment gives to the setting of a name. -/
def value? (environment : Environment) (setting : String) : Option String :=
  (environment.vars.entries.find? fun entry => route? entry.1 = some setting.toList).map Prod.snd

def isWordChar (c : Char) : Bool := c.isAlphanum || c == ' ' || c == '_' || c == '-'

def trim (text : List Char) : List Char :=
  let rest := text.dropWhile fun c => c == ' ' || c == '\t'
  (rest.reverse.dropWhile fun c => c == ' ' || c == '\t').reverse

def natural? (digits : List Char) : Option Nat :=
  if digits ≠ [] ∧ digits.all Char.isDigit then
    some (digits.foldl (fun number c => 10 * number + (c.toNat - '0'.toNat)) 0)
  else none

def integer? (text : List Char) : Option Int := do
  let number ← match text with
    | '-' :: digits => (natural? digits).map fun n => -(n : Int)
    | digits => (natural? digits).map Int.ofNat
  if Int64.minValue.toInt ≤ number ∧ number ≤ Int64.maxValue.toInt then some number else none

def index? (text : List Char) : Option Int :=
  match text.reverse with
  | ']' :: inner => integer? (trim inner.reverse)
  | _ => none

def wordIndices? (part : List Char) : Option (List Int) :=
  match part.splitOn '[' with
  | word :: brackets => if word ≠ [] ∧ word.all isWordChar then brackets.mapM index? else none
  | [] => none

/-- All numbers of a route; none if it is not made of words with points between them and numbers
behind them. -/
def indices? (route : List Char) : Option (List Int) :=
  ((route.splitOn '.').mapM wordIndices?).map List.flatten

def tooMany : Int := 0x100000000000000

/-- Whether a list can be made that has an item of this number. Numbers below zero count from the
end of a list, and every list is empty at first. Another variable may have filled the list before,
such as `ENVEDIT_A[0]` beside `ENVEDIT_A[-1]`; but nothing settles in which order variables are
followed, and so a number below zero counts as out of reach also where one order would reach it. -/
def isReachable (index : Int) : Bool := 0 ≤ index && index < tooMany

def isUnreachable (name : String) : Bool :=
  ((route? name).bind indices?).any fun indices => !indices.all isReachable

/-- A variable that leads to an item that no list has, if there is one. -/
def unreachable? (environment : Environment) : Option String :=
  environment.vars.keys.find? isUnreachable

end Override

end ScopedVars
