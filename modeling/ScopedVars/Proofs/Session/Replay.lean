import ScopedVars.Proofs.Session.Turns
import ScopedVars.Store.Memory

/-! # Sessions replay single commands

A session shows and does what its lines do when each is carried out on its own by `runOnce`. The
system flags of a line are dropped, and one is added if the session is in the system scope.
-/

namespace ScopedVars

/-- What a user knows of a session. -/
structure Transcript where
  scope : Scope := .user
  lastResult : Option String := none
  events : List Event := [.print helpText]

/-- The tokens of a line, with the system flag exactly in the system scope. -/
def rescoped (scope : Scope) (tokens : List String) : List String :=
  let others := tokens.filter (· ≠ systemFlag)
  match scope with
  | .user => others
  | .system => systemFlag :: others

namespace Transcript

def ask (transcript : Transcript) : Transcript :=
  { transcript with
    events := transcript.events ++ [.prompt ("Current scope: " ++ transcript.scope.name ++ ">")] }

def warn (transcript : Transcript) : Transcript :=
  { transcript with
    lastResult := none
    events := transcript.events ++ [.warn Session.parseWarning] }

def record (transcript : Transcript) : Except Failure Outcome → Transcript
  | .ok outcome =>
    { scope := outcome.scope
      lastResult := outcome.result
      events := transcript.events ++ outcome.result.toList.map .print }
  | .error failure => { transcript with events := transcript.events ++ [.error failure.message] }

variable {m : Type → Type} [Monad m] (store : Store m)

def answer (transcript : Transcript) (tokens : List String) : m Transcript := do
  if isCommand tokens then
    return transcript.record (← (store.runOnce (rescoped transcript.scope tokens)).run)
  else return transcript.warn

/-- Prompts for an item and, if it is a line, carries it out. -/
def advance (transcript : Transcript) : Input → m Transcript
  | .line text => transcript.ask.answer store (words text)
  | .endOfInput => return transcript.ask
  | .failure _ => return transcript.ask

end Transcript

def replay {m : Type → Type} [Monad m] (store : Store m) (items : List Input)
    (transcript : Transcript) : m Transcript :=
  items.foldlM (Transcript.advance store) transcript

theorem scopeOf_rescoped (scope : Scope) (tokens : List String) :
    Command.scopeOf (rescoped scope tokens) = scope := by
  cases scope <;> simp [Command.scopeOf, rescoped]

theorem positional_rescoped (scope : Scope) (tokens : List String) :
    Command.positional (rescoped scope tokens) = Command.positional tokens := by
  have hothers :
      Command.positional (tokens.filter (· ≠ systemFlag)) = Command.positional tokens := by
    rw [Command.positional, List.filter_filter]
    refine List.filter_congr fun token _ => ?_
    by_cases h : token = systemFlag
    · subst h
      decide
    · simp [h]
  cases scope with
  | user => exact hothers
  | system => exact (List.filter_cons_of_neg (by decide)).trans hothers

theorem isDryRun_rescoped (scope : Scope) (tokens : List String) :
    (Command.classify (rescoped scope tokens)).isDryRun = (Command.classify tokens).isDryRun := by
  have hne : dryRunFlag ≠ systemFlag := by decide
  rw [Bool.eq_iff_iff, Command.isDryRun, Command.isDryRun, Command.hasFlag_classify,
    Command.hasFlag_classify]
  cases scope <;> simp [rescoped, hne]

theorem runOnce_rescoped {m : Type → Type} [Monad m] (store : Store m) (scope : Scope)
    (tokens : List String) :
    store.runOnce (rescoped scope tokens) =
      store.attempt { Command.classify tokens with scope := scope } scope := by
  rw [Store.runOnce_eq_attempt, scopeOf_rescoped]
  refine congrFun (Store.attempt_congr store ?_ ?_ ?_) scope
  · simp [Command.classify, positional_rescoped]
  · simp [Command.classify, positional_rescoped]
  · exact fun _ => isDryRun_rescoped scope tokens

theorem Transcript.answer_of_isCommand {m : Type → Type} [Monad m] [LawfulMonad m]
    (store : Store m) {tokens : List String} (h : isCommand tokens = true)
    (transcript : Transcript) :
    transcript.answer store tokens =
      transcript.record <$> (store.runOnce (rescoped transcript.scope tokens)).run := by
  rw [answer, if_pos h, bind_pure_comp]

theorem Transcript.answer_of_not_isCommand {m : Type → Type} [Monad m] (store : Store m)
    {tokens : List String} (h : isCommand tokens = false) (transcript : Transcript) :
    transcript.answer store tokens = pure transcript.warn := by
  rw [answer, h, if_neg Bool.false_ne_true]

namespace Session

def transcript (session : Session) (events : List Event) : Transcript :=
  ⟨session.scope, session.lastResult, events⟩

variable {m : Type → Type} [Monad m] [LawfulMonad m] (store : Store m)

theorem advance_line (session : Session) (events : List Event) (text : String) :
    (session.transcript events).advance store (.line text) =
      (fun answer =>
          ((session.accept text).1.absorb answer).1.transcript
            (events ++ [.prompt session.prompt] ++ (session.accept text).2 ++
              ((session.accept text).1.absorb answer).2)) <$>
        (store.attempt (session.accept text).1.current (session.accept text).1.scope).run := by
  rw [Transcript.advance]
  cases h : isCommand (words text) with
  | true =>
    rw [Transcript.answer_of_isCommand store h, accept_of_isCommand h, runOnce_rescoped]
    refine map_congr fun answer => ?_
    cases answer <;> simp [Transcript.record, Transcript.ask, transcript, absorb, prompt_eq]
  | false =>
    rw [Transcript.answer_of_not_isCommand store h, accept_of_not_isCommand h,
      Store.attempt_nothing store (.inl rfl), ExceptT.run_pure, map_pure]
    simp [Transcript.warn, Transcript.ask, transcript, absorb, prompt_eq]

theorem transcript_ask (session : Session) (events : List Event) :
    (session.transcript events).ask = session.transcript (events ++ [.prompt session.prompt]) := rfl

theorem close_transcript {item : Input} (h : item.ends = true) (session : Session)
    (rest : List Input) (events : List Event) :
    ((session.close item rest).session.transcript (events ++ (session.close item rest).events)) =
      session.transcript events := by
  obtain ⟨current, hclose, -⟩ := close_of_ends h session rest
  rw [hclose, List.append_nil]
  rfl

theorem turns_replay_of_ends {session : Session} (hover : session.isOver = false) {item : Input}
    (hitem : item.ends = true) (isFirst : Bool) (rest : List Input) (before : List Event) :
    (fun finish => finish.session.transcript (before ++ finish.events)) <$>
        turns store isFirst session (item :: rest) =
      (fun answer =>
          ((session.absorb answer).1.transcript
            (before ++ (session.absorb answer).2 ++
              (session.absorb answer).1.greeting isFirst)).ask) <$>
        (store.attempt session.current session.scope).run := by
  rw [turns_of_ends store hover hitem, Functor.map_map]
  refine map_congr fun answer => ?_
  rw [transcript_ask]
  refine Eq.trans ?_ (close_transcript hitem _ rest _)
  simp [Finish.after, asking]

/-- The turns of a session carry out the pending command, replay the items that are read but the
last one and prompt for that. -/
theorem turns_replay {session : Session} (hover : session.isOver = false) (isFirst : Bool)
    (input : List Input) (before : List Event) :
    (fun finish => finish.session.transcript (before ++ finish.events)) <$>
        turns store isFirst session input =
      (store.attempt session.current session.scope).run >>= fun answer =>
        Transcript.ask <$>
          replay store (reads input).dropLast
            ((session.absorb answer).1.transcript
              (before ++ (session.absorb answer).2 ++
                (session.absorb answer).1.greeting isFirst)) := by
  -- What the turns before have shown is generalized: the turns after it add to it.
  induction input generalizing session isFirst before with
  | nil =>
    rw [turns_nil store hover, turns_replay_of_ends store hover rfl, reads_nil]
    simp [replay]
  | cons item rest ih =>
    cases hitem : item.ends with
    | true =>
      rw [turns_replay_of_ends store hover hitem, reads_cons_of_ends hitem]
      simp [replay]
    | false =>
      obtain ⟨text, rfl⟩ := Input.exists_line hitem
      have hreads :
          (reads (.line text :: rest)).dropLast = .line text :: (reads rest).dropLast := by
        rw [reads_cons_of_not_ends hitem, List.dropLast_cons_of_ne_nil (reads_ne_nil rest)]
      rw [turns_of_line store hover, map_bind]
      refine bind_congr fun answer => ?_
      generalize session.absorb answer = carried
      have hnext : (carried.1.accept text).1.isOver = false := (isOver_accept ..).trans hitem
      have hrest := ih hnext false
        (before ++ carried.2 ++ carried.1.asking isFirst ++ (carried.1.accept text).2)
      rw [hreads, replay, List.foldlM_cons, advance_line, bind_map_left, map_bind, Functor.map_map]
      simp only [Finish.after, asking, greeting_false, replay, List.append_assoc,
        List.append_nil] at hrest ⊢
      exact hrest

theorem advance_of_ends {item : Input} (hitem : item.ends = true) (transcript : Transcript) :
    (fun transcript => (transcript.events, transcript.scope)) <$>
        transcript.advance store item =
      pure (transcript.ask.events, transcript.scope) := by
  cases item with
  | line text =>
    have hquit := (Verb.ofWord_eq_quit_iff _).mpr (of_decide_eq_true hitem)
    rw [Transcript.advance, Transcript.answer_of_isCommand store (isCommand_of_quits hitem),
      runOnce_rescoped, Store.attempt_nothing store (.inr hquit)]
    simp [Transcript.record, Transcript.ask]
  | endOfInput => simp [Transcript.advance, Transcript.ask]
  | failure cause => simp [Transcript.advance, Transcript.ask]

theorem run_replay (input : List Input) :
    (fun finish => finish.session.transcript finish.events) <$> run store {} input =
      Transcript.ask <$> replay store (reads input).dropLast {} := by
  have hturns := turns_replay store (show isOver {} = false from rfl) true input []
  rw [Store.attempt_nothing store (.inl rfl), ExceptT.run_pure, pure_bind] at hturns
  exact hturns

/-- A fresh session does and shows what its lines do and show when each is carried out alone,
whatever the store is and whichever way its calls end. The item that ends the session may be carried
out as well or be left out; if it is left out then also the last result is the same. -/
theorem run_eq_replay (input : List Input) :
    (fun finish => (finish.events, finish.session.scope)) <$> run store {} input =
        (fun transcript => (transcript.events, transcript.scope)) <$>
          replay store (reads input) {} ∧
      (fun finish => (finish.session.scope, finish.session.lastResult)) <$> run store {} input =
        (fun transcript => (transcript.scope, transcript.lastResult)) <$>
          replay store (reads input).dropLast {} := by
  have hrun := run_replay store input
  constructor
  · obtain ⟨items, last, hreads, hlast⟩ := exists_reads_eq input
    rw [hreads, List.dropLast_concat] at hrun
    calc
      _ = (fun transcript => (transcript.events, transcript.scope)) <$>
            (fun finish => finish.session.transcript finish.events) <$> run store {} input :=
        (Functor.map_map ..).symm
      _ = replay store items {} >>= fun transcript =>
            pure (transcript.ask.events, transcript.scope) := by
        rw [hrun, Functor.map_map, bind_pure_comp]
        rfl
      _ = _ := by
        rw [hreads, replay, replay, List.foldlM_append]
        simp only [List.foldlM_cons, List.foldlM_nil, bind_pure, map_bind,
          advance_of_ends store hlast]
  · have hleft := congrArg
      (Functor.map fun transcript => (transcript.scope, transcript.lastResult)) hrun
    rw [Functor.map_map, Functor.map_map] at hleft
    exact hleft

theorem run_eq_replay_memory :
    LawfulMonad (StateM Variables) ∧
      (fun finish => (finish.events, finish.session.scope)) <$>
          run (Store.memory ⟨false, true⟩) {}
            [.line "set A b", .line "cd -s", .line "append A c", .line "x", .line "q", .line "ls"] =
        (fun transcript => (transcript.events, transcript.scope)) <$>
          replay (Store.memory ⟨false, true⟩)
            (reads [.line "set A b", .line "cd -s", .line "append A c", .line "x", .line "q",
              .line "ls"]) {} ∧
      (fun finish => (finish.session.scope, finish.session.lastResult)) <$>
          run (Store.memory ⟨false, true⟩) {}
            [.line "set A b", .line "cd -s", .line "append A c", .line "x", .line "q", .line "ls"] =
        (fun transcript => (transcript.scope, transcript.lastResult)) <$>
          replay (Store.memory ⟨false, true⟩)
            (reads [.line "set A b", .line "cd -s", .line "append A c", .line "x", .line "q",
              .line "ls"]).dropLast {} := by
  have hlawful : LawfulMonad (StateM Variables) := inferInstance
  exact ⟨hlawful, run_eq_replay (Store.memory ⟨false, true⟩) _⟩

end Session

end ScopedVars
