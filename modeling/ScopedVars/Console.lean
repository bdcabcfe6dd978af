import ScopedVars.Report
import ScopedVars.Text.Basic

/-! # Consoles

A session is held at a console. Standard input is read a line at a time, and only when the session
asks for a line; what the session says is shown as it goes. Bytes that are not UTF-8 cannot be read
as a line.
-/

namespace ScopedVars

namespace Console

/-- A line without the returns and feeds at its end. -/
def trimEnd (line : String) : String :=
  .ofList (line.toList.reverse.dropWhile fun c => c = '\r' ∨ c = '\n').reverse

/-- What a session finds in a line. Nothing at all, not even a feed, is the end of the input. -/
def inputOf (line : String) : Input := if line = "" then .endOfInput else .line (trimEnd line)

def inputOfBytes (line : List UInt8) : Input :=
  match String.fromUTF8? ⟨line.toArray⟩ with
  | some text => inputOf text
  | none => .failure .invalidText

def readLine (unread : List UInt8) : Input × List UInt8 :=
  (inputOfBytes (Content.takeLine 10 unread).1, (Content.takeLine 10 unread).2)

theorem length_takeLine {α : Type} [BEq α] (feed : α) (items : List α) :
    (Content.takeLine feed items).1.length + (Content.takeLine feed items).2.length =
      items.length := by
  induction items with
  | nil => rfl
  | cons item rest ih =>
    rw [Content.takeLine]
    split
    case isTrue => simp; omega
    case isFalse => simp; omega

theorem length_readLine_lt {unread rest : List UInt8} {input : Input}
    (h : readLine unread = (input, rest)) (hinput : input ≠ .endOfInput) :
    rest.length < unread.length := by
  obtain ⟨rfl, rfl⟩ := Prod.mk.inj h
  have hlength := length_takeLine 10 unread
  have hline : (Content.takeLine 10 unread).1 ≠ [] := by
    intro hnil
    apply hinput
    rw [hnil]
    decide
  have hpos := List.length_pos_iff.mpr hline
  omega

variable {m : Type → Type} [Monad m]

/-- Holds a session with the input that is not read yet. At its end a line end follows the
prompt. -/
def converse (colored : Bool) (store : Store m) (isFirst : Bool) (session : Session)
    (unread : List UInt8) : m Report := do
  if session.isOver then return {}
  match ← (session.propose store isFirst).run with
  | .error failure => return .ofFailure colored failure
  | .ok (session, events) =>
    let asked := Report.ofEvents colored events
    match hread : readLine unread with
    | (input, rest) =>
      if hend : input = .endOfInput then return asked.append { stdout := "\n" }
      else
        have := length_readLine_lt hread hend
        match session.receive input with
        | .error failure => return asked.append (.ofFailure colored failure)
        | .ok (session, events) =>
          return (asked.append (.ofEvents colored events)).append
            (← converse colored store false session rest)
termination_by unread.length

end Console

end ScopedVars
