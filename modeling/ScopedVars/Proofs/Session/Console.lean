import Mathlib.Data.List.Basic
import ScopedVars.Console
import ScopedVars.Proofs.Session.Turns
import ScopedVars.Proofs.Text.Lines

/-! # Sessions at a console

A console reads bytes on demand and reports as it goes. What it finds in them are the lines of the
bytes and then the end of the input, and its reports add up to that of the whole session: a session
at a console is the session that is given all these items beforehand.
-/

namespace ScopedVars

namespace Report

theorem append_assoc (first second third : Report) :
    (first.append second).append third = first.append (second.append third) := by
  simp [append, String.append_assoc]

theorem ofEvents_append (colored : Bool) (events more : List Event) :
    ofEvents colored (events ++ more) =
      (ofEvents colored events).append (ofEvents colored more) := by
  simp [ofEvents, append, String.join_append]

theorem ofEvents_nil_append (colored : Bool) (report : Report) :
    (ofEvents colored []).append report = report := by
  simp [ofEvents, append]

/-- The report of a session. When the whole input was read, a line end follows the last prompt. -/
def ofFinish (colored : Bool) (finish : Session.Finish) : Report :=
  (ofEvents colored finish.events).append
    (match finish.returned with
    | .error failure => ofFailure colored failure
    | .ok () => if finish.unread = [] then { stdout := "\n" } else {})

theorem ofFinish_after (colored : Bool) (events : List Event) (finish : Session.Finish) :
    ofFinish colored (finish.after events) =
      (ofEvents colored events).append (ofFinish colored finish) := by
  rw [ofFinish, ofFinish, Session.Finish.after, ofEvents_append, append_assoc]

end Report

/-- What a session finds in a line that has its text or none. -/
def Input.ofLine : Option String → Input
  | some text => .line text
  | none => .failure .invalidText

def Program.inputOf (stdin : Content) : List Input :=
  stdin.lines.map Input.ofLine ++ [.endOfInput]

namespace Console

theorem dropWhile_congr {α : Type} {p q : α → Bool} {items : List α}
    (h : ∀ item ∈ items, p item = q item) : items.dropWhile p = items.dropWhile q := by
  induction items with
  | nil => rfl
  | cons item rest ih =>
    rw [List.dropWhile_cons, List.dropWhile_cons, h item List.mem_cons_self,
      ih fun item hitem => h item (List.mem_cons_of_mem _ hitem)]

theorem trimEnd_of_not_mem {line : String} (h : '\n' ∉ line.toList) :
    trimEnd line = .ofList (Content.trimReturns line.toList) := by
  rw [trimEnd, Content.trimReturns, dropWhile_congr]
  intro c hc
  have hne : c ≠ '\n' := by
    rintro rfl
    exact h (List.mem_reverse.mp hc)
  simp [hne]

theorem trimEnd_feed (line : String) : trimEnd (line ++ "\n") = trimEnd line := by
  simp [trimEnd]

theorem inputOf_of_ne {line : String} (h : line ≠ "") : inputOf line = .line (trimEnd line) :=
  if_neg h

def lineOf (line : List UInt8) : Input :=
  .ofLine ((String.fromUTF8? ⟨line.toArray⟩).map fun line =>
    .ofList (Content.trimReturns line.toList))

theorem lineOf_ne_endOfInput (line : List UInt8) : lineOf line ≠ .endOfInput := by
  unfold lineOf
  cases String.fromUTF8? ⟨line.toArray⟩ <;> nofun

theorem inputOfBytes_of_not_mem {line : List UInt8} (hline : line ≠ []) (h : 10 ∉ line) :
    inputOfBytes line = lineOf line := by
  unfold inputOfBytes lineOf
  cases hbytes : String.fromUTF8? ⟨line.toArray⟩ with
  | none => rfl
  | some text =>
    obtain rfl := (Content.fromUTF8?_eq_some_iff ..).mp hbytes
    have htext : text ≠ "" := by
      rintro rfl
      exact hline rfl
    rw [Content.mem_encode_iff] at h
    simp only [inputOf_of_ne htext, trimEnd_of_not_mem h]
    rfl

theorem inputOfBytes_concat {line : List UInt8} (h : 10 ∉ line) :
    inputOfBytes (line ++ [10]) = lineOf line := by
  unfold inputOfBytes lineOf
  rw [Content.fromUTF8?_concat]
  cases hbytes : String.fromUTF8? ⟨line.toArray⟩ with
  | none => rfl
  | some text =>
    obtain rfl := (Content.fromUTF8?_eq_some_iff ..).mp hbytes
    have htext : text ++ "\n" ≠ "" := by simp
    rw [Content.mem_encode_iff] at h
    simp only [Option.map_some, inputOf_of_ne htext, trimEnd_feed, trimEnd_of_not_mem h]
    rfl

theorem readLine_nil : readLine [] = (.endOfInput, []) := by
  decide

theorem readLine_of_not_mem {line : List UInt8} (hline : line ≠ []) (h : 10 ∉ line) :
    readLine line = (lineOf line, []) := by
  rw [readLine, Content.takeLine_of_not_mem h, inputOfBytes_of_not_mem hline h]

theorem readLine_append_cons {line : List UInt8} (h : 10 ∉ line) (rest : List UInt8) :
    readLine (line ++ 10 :: rest) = (lineOf line, rest) := by
  rw [readLine, Content.takeLine_append_cons h, inputOfBytes_concat h]

/-- All that a session can find in bytes. -/
def inputs (unread : List UInt8) : List Input :=
  (Content.cut 10 unread).map lineOf ++ [.endOfInput]

theorem inputs_toBytes (stdin : Content) :
    inputs stdin.toBytes.data.toList = Program.inputOf stdin := by
  rw [Program.inputOf, ← Content.lines_raw_toBytes, Content.lines, List.map_map]
  rfl

variable {m : Type → Type} [Monad m] {unread rest : List UInt8} {input : Input}

theorem converse_of_readLine (h : readLine unread = (input, rest)) (colored : Bool)
    (store : Store m) (isFirst : Bool) (session : Session) :
    converse colored store isFirst session unread =
      if session.isOver then return {}
      else do
        match ← (session.propose store isFirst).run with
        | .error failure => return .ofFailure colored failure
        | .ok (session, events) =>
          if input = .endOfInput then
            return (Report.ofEvents colored events).append { stdout := "\n" }
          else
            match session.receive input with
            | .error failure =>
              return (Report.ofEvents colored events).append (.ofFailure colored failure)
            | .ok (session, more) =>
              return ((Report.ofEvents colored events).append (.ofEvents colored more)).append
                (← converse colored store false session rest) := by
  rw [converse]
  split
  · rfl
  · congr 1
    funext answer
    cases answer with
    | error failure => rfl
    | ok proposed =>
      simp only [h]
      exact dite_eq_ite

variable [LawfulMonad m]

theorem converse_of_isOver {session : Session} (h : session.isOver = true) {others : List Input}
    (hothers : others ≠ []) (colored : Bool) (store : Store m) (isFirst : Bool)
    (unread : List UInt8) :
    converse colored store isFirst session unread =
      Report.ofFinish colored <$> session.turns store isFirst others := by
  rw [converse, if_pos h, Session.turns_of_isOver store h, map_pure]
  simp [Report.ofFinish, Report.ofEvents_nil_append, hothers]

theorem converse_nil (colored : Bool) (store : Store m) (isFirst : Bool) (session : Session) :
    converse colored store isFirst session [] =
      Report.ofFinish colored <$> session.turns store isFirst [.endOfInput] := by
  by_cases hover : session.isOver = true
  · exact converse_of_isOver hover (by simp) ..
  · rw [converse_of_readLine readLine_nil, if_neg hover, Session.turns, if_neg hover, map_bind]
    refine bind_congr fun answer => ?_
    cases answer with
    | error failure => simp [Report.ofFinish, Report.ofEvents_nil_append]
    | ok proposed =>
      obtain ⟨proposed, shown⟩ := proposed
      have hquits : Session.isOver
          { proposed with current := { proposed.current with verb := .quit } } = true := rfl
      simp [Session.receive, Session.turns_of_isOver store hquits, Session.Finish.after,
        Report.ofFinish]

theorem converse_step (h : readLine unread = (input, rest)) (hinput : input ≠ .endOfInput)
    {others : List Input} {colored : Bool} {store : Store m}
    (hrest : ∀ session, converse colored store false session rest =
      Report.ofFinish colored <$> session.turns store false others)
    (isFirst : Bool) (session : Session) :
    converse colored store isFirst session unread =
      Report.ofFinish colored <$> session.turns store isFirst (input :: others) := by
  by_cases hover : session.isOver = true
  · exact converse_of_isOver hover (by simp) ..
  · rw [converse_of_readLine h, if_neg hover, Session.turns, if_neg hover, map_bind]
    refine bind_congr fun answer => ?_
    cases answer with
    | error failure => simp [Report.ofFinish, Report.ofEvents_nil_append]
    | ok proposed =>
      obtain ⟨proposed, shown⟩ := proposed
      simp only [if_neg hinput]
      cases proposed.receive input with
      | error failure => simp [Report.ofFinish]
      | ok received => simp [hrest, Report.ofFinish_after, Report.ofEvents_append]

/-- A session at a console is the session that is given all that the console finds. -/
theorem converse_eq_turns (colored : Bool) (store : Store m) (isFirst : Bool) (session : Session)
    (unread : List UInt8) :
    converse colored store isFirst session unread =
      Report.ofFinish colored <$> session.turns store isFirst (inputs unread) := by
  induction unread using Content.lines_induction (10 : UInt8) generalizing isFirst session with
  | nil => exact converse_nil ..
  | last line hline hmem =>
    rw [inputs, Content.cut_of_not_mem hline hmem]
    exact converse_step (readLine_of_not_mem hline hmem) (lineOf_ne_endOfInput line)
      (converse_nil colored store false) isFirst session
  | more line rest hmem ih =>
    rw [inputs, Content.cut_append_cons hmem]
    exact converse_step (readLine_append_cons hmem rest) (lineOf_ne_endOfInput line)
      (ih false) isFirst session

theorem converse_toBytes (colored : Bool) (store : Store m) (stdin : Content) :
    converse colored store true {} stdin.toBytes.data.toList =
      Report.ofFinish colored <$> Session.run store {} (Program.inputOf stdin) := by
  rw [converse_eq_turns, inputs_toBytes, Session.run]

end Console

end ScopedVars
