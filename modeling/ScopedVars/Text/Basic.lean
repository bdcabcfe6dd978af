/-! # Texts

What a file holds or standard input brings is a text, or bytes that are no text. A text has lines,
each up to its line feed, and words, which are its longest stretches without a blank. The blank
characters are the twenty-five of Unicode's `White_Space` property.
-/

namespace ScopedVars

inductive Content where
  | text (string : String)
  /-- Bytes that are not UTF-8. -/
  | raw (bytes : ByteArray)

namespace Content

instance : DecidableEq Content
  | .text string, .text other => decidable_of_iff (string = other) (by simp)
  | .raw bytes, .raw other =>
    decidable_of_iff (bytes.data.toList = other.data.toList)
      (by simp [ByteArray.ext_iff, Array.toList_inj])
  | .text _, .raw _ => isFalse (by simp)
  | .raw _, .text _ => isFalse (by simp)

def ofBytes (bytes : ByteArray) : Content :=
  match String.fromUTF8? bytes with
  | some string => .text string
  | none => .raw bytes

def toBytes : Content → ByteArray
  | .text string => string.toUTF8
  | .raw bytes => bytes

/-- The items up to and with the first line feed, and those behind it. -/
def takeLine {α : Type} [BEq α] (feed : α) : List α → List α × List α
  | [] => ([], [])
  | item :: rest =>
    if item == feed then ([item], rest)
    else
      let (line, behind) := takeLine feed rest
      (item :: line, behind)

end Content

/-- The Unicode property `White_Space`. -/
def isBlank (c : Char) : Bool :=
  let n := c.toNat
  (0x09 ≤ n && n ≤ 0x0D) || n == 0x20 || n == 0x85 || n == 0xA0 || n == 0x1680
    || (0x2000 ≤ n && n ≤ 0x200A) || n == 0x2028 || n == 0x2029 || n == 0x202F
    || n == 0x205F || n == 0x3000

def words (text : String) : List String :=
  ((text.toList.splitOnP isBlank).filter (· ≠ [])).map String.ofList

end ScopedVars
