import Mathlib.Data.List.Forall2
import ScopedVars.Proofs.Session.Ending
import ScopedVars.Proofs.Session.Replay

/-! # Flags in a session

Of the flags on a line a session looks at none but the dry-run flag, and at that only to append. Two
inputs whose lines agree on all else are read, carried out and shown alike.
-/

namespace ScopedVars

/-- Whether two lists of tokens agree beside flags and, if they append, on the dry-run flag. -/
structure SameBesideFlags (tokens others : List String) : Prop where
  positional : Command.positional tokens = Command.positional others
  dryRun : (Command.positional tokens).head? = some "append" →
    (dryRunFlag ∈ tokens ↔ dryRunFlag ∈ others)

/-- Whether two items are the same, or lines that differ at most in blanks and flags. -/
inductive Input.Alike : Input → Input → Prop
  | same (item : Input) : Alike item item
  | lines {text other : String} (h : SameBesideFlags (words text) (words other)) :
      Alike (.line text) (.line other)

theorem SameBesideFlags.insert {flag : String} (hflag : Command.isFlag flag = true)
    (before after : List String)
    (h : flag ≠ dryRunFlag ∨ (Command.positional (before ++ after)).head? ≠ some "append") :
    SameBesideFlags (before ++ after) (before ++ flag :: after) where
  positional := by simp [Command.positional, hflag]
  dryRun happend := by
    have hne : dryRunFlag ≠ flag := (h.resolve_right (not_not_intro happend)).symm
    simp [hne]

namespace Input.Alike

theorem ends {item other : Input} (h : item.Alike other) : item.ends = other.ends := by
  cases h with
  | same => rfl
  | lines h => rw [Input.ends, Input.ends, quits, quits, h.positional]

theorem verdict {item other : Input} (h : item.Alike other) : item.verdict = other.verdict := by
  cases h with
  | same => rfl
  | lines h => rfl

theorem reads {input others : List Input} (h : List.Forall₂ Alike input others) :
    List.Forall₂ Alike (reads input) (ScopedVars.reads others) := by
  induction h with
  | nil => exact .cons (.same _) .nil
  | @cons item other rest others hitem hrest ih =>
    cases hends : item.ends with
    | true =>
      rw [reads_cons_of_ends hends, reads_cons_of_ends (hitem.ends.symm.trans hends)]
      exact .cons hitem .nil
    | false =>
      rw [reads_cons_of_not_ends hends, reads_cons_of_not_ends (hitem.ends.symm.trans hends)]
      exact .cons hitem ih

theorem getLast_verdict {items others : List Input} (h : List.Forall₂ Alike items others)
    (hitems : items ≠ []) (hothers : others ≠ []) :
    (items.getLast hitems).verdict = (others.getLast hothers).verdict := by
  induction h with
  | nil => exact absurd rfl hitems
  | cons hitem hrest ih =>
    cases hrest with
    | nil => exact hitem.verdict
    | cons => exact ih (List.cons_ne_nil _ _) (List.cons_ne_nil _ _)

end Input.Alike

theorem Verb.ofWord_eq_append_iff (word : Option String) :
    Verb.ofWord word = .append ↔ word = some "append" := by
  unfold Verb.ofWord
  split <;> simp_all

theorem SameBesideFlags.isDryRun {tokens others : List String} (h : SameBesideFlags tokens others)
    (happend : (Command.classify tokens).verb = .append) :
    (Command.classify tokens).isDryRun = (Command.classify others).isDryRun := by
  have hflag := h.dryRun ((Verb.ofWord_eq_append_iff _).mp happend)
  rw [Bool.eq_iff_iff, Command.isDryRun, Command.isDryRun, Command.hasFlag_classify,
    Command.hasFlag_classify, hflag]

variable {m : Type → Type} [Monad m] (store : Store m)

theorem SameBesideFlags.runOnce_rescoped {tokens others : List String}
    (h : SameBesideFlags tokens others) (scope : Scope) :
    store.runOnce (rescoped scope tokens) = store.runOnce (rescoped scope others) := by
  rw [ScopedVars.runOnce_rescoped, ScopedVars.runOnce_rescoped]
  refine congrFun (Store.attempt_congr store ?_ ?_ h.isDryRun) scope
  · simp [Command.classify, h.positional]
  · simp [Command.classify, h.positional]

theorem Transcript.advance_alike {item other : Input} (h : item.Alike other)
    (transcript : Transcript) : transcript.advance store item = transcript.advance store other := by
  cases h with
  | same => rfl
  | @lines text other h =>
    have hcommand : isCommand (words text) = isCommand (words other) := by
      rw [isCommand, isCommand, h.positional]
    rw [advance, advance, answer, answer, hcommand, h.runOnce_rescoped]

/-- Inputs that are alike are replayed alike. -/
theorem replay_alike {items others : List Input} (h : List.Forall₂ Input.Alike items others)
    (transcript : Transcript) : replay store items transcript = replay store others transcript := by
  induction h generalizing transcript with
  | nil => rfl
  | cons hitem _ ih =>
    rw [replay, replay, List.foldlM_cons, List.foldlM_cons, transcript.advance_alike store hitem]
    exact congrArg _ (funext ih)

namespace Session

def Finish.seen (finish : Finish) :
    Except Failure Unit × List Event × Nat × Scope × Option String :=
  (finish.returned, finish.events, finish.unread.length, finish.session.scope,
    finish.session.lastResult)

/-- Whether fresh sessions look the same on two inputs and leave the same state. -/
def RunsAlike {σ : Type} (store : Store (StateM σ)) (state : σ) (input others : List Input) : Prop :=
  ((run store {} input).run state).map Finish.seen id =
    ((run store {} others).run state).map Finish.seen id

variable {σ : Type} (store : Store (StateM σ)) (state : σ)

theorem runsAlike_of_alike {input others : List Input} (h : List.Forall₂ Input.Alike input others) :
    RunsAlike store state input others := by
  have hreads := Input.Alike.reads h
  have hreplayed : List.Forall₂ Input.Alike (reads input).dropLast (reads others).dropLast := by
    rw [List.dropLast_eq_take, List.dropLast_eq_take, hreads.length_eq]
    exact List.forall₂_take _ hreads
  have hrun := run_replay store input
  rw [replay_alike store hreplayed, ← run_replay store others] at hrun
  obtain ⟨htranscript, hstate⟩ := Prod.mk.inj (congrArg (fun action => action.run state) hrun)
  obtain ⟨hscope, hresult, hevents⟩ := Transcript.mk.inj htranscript
  have hended := turns_ended store (show isOver {} = false from rfl) true input state
  have hended' := turns_ended store (show isOver {} = false from rfl) true others state
  have hreturned : ((run store {} input).run state).1.returned =
      ((run store {} others).run state).1.returned := by
    rw [run, run, hended.returned, hended'.returned]
    exact Input.Alike.getLast_verdict hreads _ _
  have hunread : ((run store {} input).run state).1.unread.length =
      ((run store {} others).run state).1.unread.length := by
    rw [run, run, hended.unread, hended'.unread, List.length_drop, List.length_drop,
      h.length_eq, hreads.length_eq]
  refine Prod.ext ?_ hstate
  simp only [Prod.map_fst, Finish.seen, Prod.mk.injEq]
  exact ⟨hreturned, hevents, hunread, hscope, hresult⟩

/-- Blanks and flags that mean nothing on a line never change what a session does, on however many
lines they differ. A flag that is typed anywhere on one more line changes nothing, unless it is the
dry-run flag on a line to append. -/
theorem run_ignores_flags :
    (∀ input others, List.Forall₂ Input.Alike input others → RunsAlike store state input others) ∧
      ∀ earlier later text flagged before flag after, words text = before ++ after →
        words flagged = before ++ flag :: after → Command.isFlag flag = true →
        (flag ≠ dryRunFlag ∨ (Command.positional (words text)).head? ≠ some "append") →
        RunsAlike store state (earlier ++ .line text :: later)
          (earlier ++ .line flagged :: later) := by
  refine ⟨fun _ _ => runsAlike_of_alike store state, ?_⟩
  intro earlier later text flagged before flag after htext hflagged hflag hmeaning
  rw [htext] at hmeaning
  have hline : Input.Alike (.line text) (.line flagged) := by
    apply Input.Alike.lines
    rw [htext, hflagged]
    exact SameBesideFlags.insert hflag before after hmeaning
  have hsame (items : List Input) : List.Forall₂ Input.Alike items items :=
    List.forall₂_same.mpr fun item _ => .same item
  exact runsAlike_of_alike store state (List.rel_append (hsame earlier) (.cons hline (hsame later)))

theorem run_ignores_flags_dryRun :
    List.Forall₂ Input.Alike [.line "append A b -t", .failure .invalidText]
        [.line "-i\tappend -t A  b", .failure .invalidText] ∧
      RunsAlike (Store.memory ⟨false, true⟩) (.both ∅)
        [.line "append A b -t", .failure .invalidText]
        [.line "-i\tappend -t A  b", .failure .invalidText] ∧
      words "ls" = ["ls"] ++ [] ∧ words "ls -s" = ["ls"] ++ "-s" :: [] ∧
      Command.isFlag "-s" = true ∧
      ("-s" ≠ dryRunFlag ∨ (Command.positional (words "ls")).head? ≠ some "append") ∧
      RunsAlike (Store.memory ⟨false, true⟩) (.both ∅) ([.line "cd"] ++ [.line "ls"])
        ([.line "cd"] ++ [.line "ls -s"]) := by
  have hlines : List.Forall₂ Input.Alike [.line "append A b -t", .failure .invalidText]
      [.line "-i\tappend -t A  b", .failure .invalidText] :=
    .cons (.lines ⟨by decide, by decide⟩) (.cons (.same _) .nil)
  have hneutral :
      "-s" ≠ dryRunFlag ∨ (Command.positional (words "ls")).head? ≠ some "append" := by
    decide
  have h := run_ignores_flags (Store.memory ⟨false, true⟩) (.both ∅)
  exact ⟨hlines, h.1 _ _ hlines, by decide, by decide, by decide, hneutral,
    h.2 [.line "cd"] [] "ls" "ls -s" ["ls"] "-s" [] (by decide) (by decide) (by decide) hneutral⟩

end Session

end ScopedVars
