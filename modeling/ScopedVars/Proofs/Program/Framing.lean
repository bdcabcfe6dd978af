import ScopedVars.Proofs.Program.Courses

/-! # Lines of standard input

An interactive run on a text leaves what the session leaves that is given the lines of the text. So
a run takes no notice of how its lines end: with a line feed or with a return before it, and the
last one with nothing at all.
-/

namespace ScopedVars

namespace Program

/-- The lines of a text, without their feeds and the returns before them. -/
def textLines (text : String) : List String :=
  (Content.cut '\n' text.toList).map fun line => .ofList (Content.trimReturns line)

def withReturns (text : String) : String := .ofList (Content.withReturns text.toList)

theorem textLines_withReturns (text : String) : textLines (withReturns text) = textLines text := by
  have hlines := congrArg (List.map String.ofList)
    (Content.map_trimReturns_cut_withReturns text.toList)
  rw [List.map_map, List.map_map] at hlines
  rw [textLines, withReturns, String.toList_ofList]
  exact hlines

theorem textLines_feed {text : String} {last : Char} (hlast : text.toList.getLast? = some last)
    (hfeed : last ≠ '\n') : textLines (text ++ "\n") = textLines text := by
  rw [textLines, String.toList_append]
  exact congrArg _ (Content.cut_concat text.toList hlast hfeed)

theorem inputOf_text (text : String) :
    inputOf (.text text) = (textLines text).map .line ++ [.endOfInput] := by
  simp only [inputOf, Content.lines, textLines, List.map_map]
  rfl

theorem runWith_congr {m : Type → Type} [Monad m] [LawfulMonad m] (system : FileSystem m)
    (request : Request) {text other : String} (h : textLines text = textLines other) :
    runWith system request (.text text) = runWith system request (.text other) := by
  rw [runWith_eq, runWith_eq, inputOf_text, inputOf_text, h]

theorem map_reportOf_run_of_line {m : Type → Type} [Monad m] [LawfulMonad m] (store : Store m)
    (request : Request) (arguments : Arguments) (text : String) (rest : List Input) :
    reportOf request arguments <$> Session.run store {} (.line text :: rest) =
      (((remark arguments).append (.ofEvents request.environment.isColored
          (.print helpText :: .prompt "Current scope: User>" :: (Session.accept {} text).2))).append
        ·) <$> Report.ofFinish request.environment.isColored <$>
          Session.turns store false (Session.accept {} text).1 rest := by
  rw [Session.run_of_line, Functor.map_map, Functor.map_map]
  simp only [reportOf, Report.ofFinish_after, Report.append_assoc]

variable {σ : Type}

/-- An interactive run on a text reports what the session does that is given its lines, and leaves
the files as that session leaves them; without working output it ends before it reads. The run is
the same with returns before the line feeds or with a line feed behind an unterminated last line. -/
theorem line_framing (system : FileSystem (StateM σ)) (request : Request) (text : String) :
    (∀ arguments settings state after, StartsIn system request state arguments settings after →
        arguments.isInteractive = true →
        (runWith system request (.text text)).run state =
          if request.outputWorks then
            (reportOf request arguments <$> Session.run (Store.file system settings) {}
              ((textLines text).map .line ++ [.endOfInput])).run after
          else ((remark arguments).append (.ofText false helpText), after)) ∧
      runWith system request (.text (withReturns text)) = runWith system request (.text text) ∧
      ∀ last, text.toList.getLast? = some last → last ≠ '\n' →
        runWith system request (.text (text ++ "\n")) = runWith system request (.text text) := by
  refine ⟨?_, ?_, ?_⟩
  · intro arguments settings state after hstart hinteractive
    cases houtput : request.outputWorks with
    | true =>
      rw [runWith_of_session hstart hinteractive houtput, sessionIn, inputOf_text]
      rfl
    | false => exact runWith_of_cutOff hstart hinteractive houtput (.text text)
  · exact runWith_congr system request (textLines_withReturns text)
  · intro last hlast hfeed
    exact runWith_congr system request (textLines_feed hlast hfeed)

def leftUnread : Report × FileTree where
  fst := {
    stdout := helpText ++ "\nCurrent scope: User> b c\nCurrent scope: User> Current scope: User> "
    stderr := "Warning: unrecognized command, performing noop\n" }
  snd := { entries := [(["u"], .file (.text "A = \"b c\"\n"))] }

/-- A lone return, a blank line and a last line without a line feed behind the one that quits. -/
theorem line_framing_unread :
    StartsIn .tree (storing ["-i"]) {} { interactive := true } ⟨"/u", "/s"⟩ {} ∧
      (Arguments.isInteractive { interactive := true }) = true ∧
      (runWith .tree (storing ["-i"]) (.text "set A b\rc\r\r\n\nq\nls")).run {} = leftUnread ∧
      withReturns "set A b\rc\r\r\n\nq\nls" = "set A b\rc\r\r\r\n\r\nq\r\nls" ∧
      (runWith .tree (storing ["-i"]) (.text "set A b\rc\r\r\r\n\r\nq\r\nls")).run {} =
        leftUnread ∧
      (runWith .tree (storing ["-i"]) (.text ("set A b\rc\r\r\n\nq\nls" ++ "\n"))).run {} =
        leftUnread := by
  have hstart : StartsIn .tree (storing ["-i"]) {} { interactive := true } ⟨"/u", "/s"⟩ {} :=
    ⟨⟨by decide, rfl, rfl, rfl⟩, loadIn_storing _ _ _ rfl⟩
  have hlines : textLines "set A b\rc\r\r\n\nq\nls" = ["set A b\rc", "", "q", "ls"] := by decide
  have hcolor : (storing ["-i"]).environment.isColored = false := by decide
  have hbegins : (remark { interactive := true }).append (.ofEvents false
      (.print helpText :: .prompt "Current scope: User>" :: (Session.accept {} "set A b\rc").2)) =
        { stdout := helpText ++ "\nCurrent scope: User> " } := by
    have haccept : (Session.accept {} "set A b\rc").2 = [] := by decide
    rw [haccept]
    simp [remark, Report.append, Report.ofEvents, Event.stdout, Event.stderr, styled,
      String.append_assoc]
  have hgoesOn : (Report.ofFinish false <$> Session.turns (Store.file .tree ⟨"/u", "/s"⟩) false
      (Session.accept {} "set A b\rc").1 [.line "", .line "q", .line "ls", .endOfInput]).run {} =
        (⟨0, "b c\nCurrent scope: User> Current scope: User> ",
          "Warning: unrecognized command, performing noop\n"⟩, leftUnread.2) :=
    Prod.ext (by decide +kernel) (by decide +kernel)
  have hsession : (reportOf (storing ["-i"]) { interactive := true } <$>
      Session.run (Store.file .tree ⟨"/u", "/s"⟩) {}
        ((textLines "set A b\rc\r\r\n\nq\nls").map .line ++ [.endOfInput])).run {} =
      leftUnread := by
    rw [hlines, List.map_cons, List.cons_append, map_reportOf_run_of_line, hcolor, hbegins]
    refine (congrArg (Prod.map (Report.append _) id) hgoesOn).trans ?_
    simp [leftUnread, Report.append, String.append_assoc]
  have hreturns : withReturns "set A b\rc\r\r\n\nq\nls" = "set A b\rc\r\r\r\n\r\nq\r\nls" := by
    decide
  obtain ⟨hruns, hsame, hfeed⟩ :=
    line_framing .tree (storing ["-i"]) "set A b\rc\r\r\n\nq\nls"
  have hrun : (runWith .tree (storing ["-i"]) (.text "set A b\rc\r\r\n\nq\nls")).run {} =
      leftUnread :=
    (hruns _ _ _ _ hstart rfl).trans hsession
  rw [hreturns] at hsame
  refine ⟨hstart, rfl, hrun, hreturns, ?_, ?_⟩
  · rw [hsame, hrun]
  · rw [hfeed 's' (by decide) (by decide), hrun]

end Program

end ScopedVars
