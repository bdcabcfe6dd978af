import ScopedVars.Proofs.Attempts
import ScopedVars.Session

/-! # The turns of a session

A turn attempts the pending command, absorbs what comes of it, prompts and receives an item. An item
either ends the session or is a line that becomes the pending command of the next turn.
-/

namespace ScopedVars

def commandWords : List String :=
  ["cd", "ls", "get", "set", "append", "rm", "q", "quit", "h", "help"]

/-- Whether the first token that is no flag names a command. -/
def isCommand (tokens : List String) : Bool :=
  (Command.positional tokens).head?.any fun word => word ∈ commandWords

def quits (tokens : List String) : Bool :=
  (Command.positional tokens).head? = some "q" ∨ (Command.positional tokens).head? = some "quit"

/-- Whether a session reads nothing after this item. -/
def Input.ends : Input → Bool
  | .line text => quits (words text)
  | .endOfInput => true
  | .failure _ => true

theorem Input.exists_line {item : Input} (h : item.ends = false) : ∃ text, item = .line text := by
  cases item with
  | line text => exact ⟨text, rfl⟩
  | endOfInput => cases h
  | failure cause => cases h

def Input.verdict : Input → Except Failure Unit
  | .line _ => .ok ()
  | .endOfInput => .ok ()
  | .failure _ => .error (.operation "read command line")

/-- The items that are read, up to and including the first one that ends the session. After the
input comes its end. -/
def reads (input : List Input) : List Input :=
  let script := input ++ [.endOfInput]
  script.take (script.findIdx Input.ends + 1)

theorem reads_nil : reads [] = [.endOfInput] := rfl

theorem reads_cons_of_ends {item : Input} (h : item.ends = true) (rest : List Input) :
    reads (item :: rest) = [item] := by
  simp [reads, List.findIdx_cons, h]

theorem reads_cons_of_not_ends {item : Input} (h : item.ends = false) (rest : List Input) :
    reads (item :: rest) = item :: reads rest := by
  simp [reads, List.findIdx_cons, h]

theorem exists_reads_eq (input : List Input) :
    ∃ before last, reads input = before ++ [last] ∧ last.ends = true := by
  induction input with
  | nil => exact ⟨[], .endOfInput, rfl, rfl⟩
  | cons item rest ih =>
    cases hends : item.ends with
    | true => exact ⟨[], item, reads_cons_of_ends hends rest, hends⟩
    | false =>
      obtain ⟨before, last, hreads, hlast⟩ := ih
      refine ⟨item :: before, last, ?_, hlast⟩
      rw [reads_cons_of_not_ends hends, hreads, List.cons_append]

theorem reads_ne_nil (input : List Input) : reads input ≠ [] := by
  obtain ⟨before, last, h, -⟩ := exists_reads_eq input
  simp [h]

theorem Verb.ofWord_eq_unknown_iff (word : Option String) :
    Verb.ofWord word = .unknown ↔ (word.any fun word => word ∈ commandWords) = false := by
  unfold Verb.ofWord
  split
  case h_11 =>
    cases word with
    | none => simp
    | some word => simp_all [commandWords]
  all_goals simp [commandWords]

theorem Verb.ofWord_eq_quit_iff (word : Option String) :
    Verb.ofWord word = .quit ↔ word = some "q" ∨ word = some "quit" := by
  unfold Verb.ofWord
  split <;> simp_all

theorem Verb.ofWord_eq_changeScope_iff (word : Option String) :
    Verb.ofWord word = .changeScope ↔ word = some "cd" := by
  unfold Verb.ofWord
  split <;> simp_all

theorem isCommand_of_quits {tokens : List String} (h : quits tokens = true) :
    isCommand tokens = true := by
  rcases of_decide_eq_true h with h | h <;> rw [isCommand, h] <;> decide

namespace Session

variable {session : Session} {isFirst : Bool} {item : Input}

theorem accept_of_isCommand {text : String} (h : isCommand (words text) = true)
    (session : Session) :
    session.accept text =
      ({ session with current := { Command.classify (words text) with scope := session.scope } },
        []) := by
  have hknown : Verb.ofWord (Command.positional (words text)).head? ≠ .unknown := by
    rw [Ne, Verb.ofWord_eq_unknown_iff]
    exact Bool.ne_false_iff.mpr h
  exact if_neg hknown

theorem accept_of_not_isCommand {text : String} (h : isCommand (words text) = false)
    (session : Session) :
    session.accept text =
      ({ session with
          current := { Command.classify (words text) with verb := .noop, scope := session.scope } },
        [.warn parseWarning]) :=
  if_pos ((Verb.ofWord_eq_unknown_iff _).mpr h)

theorem isOver_accept (session : Session) (text : String) :
    (session.accept text).1.isOver = quits (words text) := by
  rw [Bool.eq_iff_iff, quits, decide_eq_true_iff, ← Verb.ofWord_eq_quit_iff, isOver, beq_iff_eq]
  cases h : isCommand (words text) with
  | true => rw [accept_of_isCommand h, Command.classify]
  | false =>
    rw [accept_of_not_isCommand h, (Verb.ofWord_eq_unknown_iff _).mpr h]
    simp

theorem scope_accept (session : Session) (text : String) :
    (session.accept text).1.scope = session.scope := by
  unfold accept
  dsimp only
  split <;> rfl

/-- What a session makes of an attempt. -/
def absorb (session : Session) : Except Failure Outcome → Session × List Event
  | .ok outcome =>
    ({ session with scope := outcome.scope, lastResult := outcome.result },
      outcome.result.toList.map .print)
  | .error failure => (session, [.error failure.message])

variable {m : Type → Type} [Monad m] [LawfulMonad m] (store : Store m)

theorem run_execute (session : Session) :
    (session.execute store).run =
      (fun answer => .ok (session.absorb answer)) <$>
        (store.attempt session.current session.scope).run := by
  unfold execute Store.attempt
  cases hproblems : session.current.problems with
  | cons problem problems => simp [absorb]
  | nil =>
    obtain ⟨operation, hoperation⟩ := Command.exists_operation hproblems
    simp only [ExceptT.run_tryCatch, ExceptT.run_bind, Store.dispatch, hoperation,
      ExceptT.run_adapt, bind_map_left, bind_assoc, map_bind]
    refine bind_congr fun answer => ?_
    cases answer <;> simp [absorb]

theorem prompt_eq (session : Session) :
    session.prompt = "Current scope: " ++ session.scope.name ++ ">" := rfl

def greeting (isFirst : Bool) (session : Session) : List Event :=
  if isFirst && session.current.verb == .noop then [.print helpText] else []

@[simp]
theorem greeting_false (session : Session) : session.greeting false = [] := rfl

def asking (isFirst : Bool) (session : Session) : List Event :=
  session.greeting isFirst ++ [.prompt session.prompt]

theorem run_propose (isFirst : Bool) (session : Session) :
    (session.propose store isFirst).run =
      (fun answer =>
          .ok ((session.absorb answer).1,
            (session.absorb answer).2 ++ (session.absorb answer).1.asking isFirst)) <$>
        (store.attempt session.current session.scope).run := by
  simp only [propose, asking, greeting, bind_pure_comp, ExceptT.run_map, run_execute,
    Functor.map_map, Except.map, List.append_assoc]

def close (session : Session) (item : Input) (rest : List Input) : Finish :=
  match session.receive item with
  | .error failure => ⟨.error failure, [], rest, session⟩
  | .ok (session, events) => ⟨.ok (), events, rest, session⟩

theorem close_of_ends (hitem : item.ends = true) (session : Session) (rest : List Input) :
    ∃ current,
      session.close item rest = ⟨item.verdict, [], rest, { session with current := current }⟩ ∧
        (item.verdict = .ok () → current.verb = .quit) := by
  cases item with
  | line text =>
    have hquit := (Verb.ofWord_eq_quit_iff _).mpr (of_decide_eq_true hitem)
    rw [close, receive, accept_of_isCommand (isCommand_of_quits hitem)]
    exact ⟨_, rfl, fun _ => hquit⟩
  | endOfInput => exact ⟨_, rfl, fun _ => rfl⟩
  | failure cause => exact ⟨_, rfl, nofun⟩

omit [LawfulMonad m] in
theorem turns_of_isOver (hover : session.isOver = true) (isFirst : Bool) (input : List Input) :
    turns store isFirst session input = return ⟨.ok (), [], input, session⟩ := by
  rw [turns, if_pos hover]

theorem turns_of_ends (hover : session.isOver = false) (hitem : item.ends = true)
    (rest : List Input) :
    turns store isFirst session (item :: rest) =
      (fun answer =>
          ((session.absorb answer).1.close item rest).after
            ((session.absorb answer).2 ++ (session.absorb answer).1.asking isFirst)) <$>
        (store.attempt session.current session.scope).run := by
  rw [turns, hover, run_propose, bind_map_left, ← bind_pure_comp]
  refine bind_congr fun answer => ?_
  generalize (session.absorb answer).1 = session
  cases item with
  | line text =>
    have hquits : (session.accept text).1.isOver = true := (isOver_accept ..).trans hitem
    simp [receive, close, turns_of_isOver store hquits, Finish.after]
  | endOfInput => simp [receive, close, turns, isOver, Finish.after]
  | failure cause => simp [receive, close, Finish.after]

theorem turns_nil (hover : session.isOver = false) :
    turns store isFirst session [] = turns store isFirst session [.endOfInput] := by
  rw [turns_of_ends store hover rfl, turns, hover, run_propose, bind_map_left, ← bind_pure_comp]
  rfl

theorem turns_of_line (hover : session.isOver = false) (text : String) (rest : List Input) :
    turns store isFirst session (.line text :: rest) =
      (store.attempt session.current session.scope).run >>= fun answer =>
        Finish.after
            ((session.absorb answer).2 ++ (session.absorb answer).1.asking isFirst ++
              ((session.absorb answer).1.accept text).2) <$>
          turns store false ((session.absorb answer).1.accept text).1 rest := by
  rw [turns, hover, run_propose, bind_map_left]
  simp [receive, bind_pure_comp]

theorem run_of_line (text : String) (rest : List Input) :
    run store {} (.line text :: rest) =
      Finish.after (.print helpText :: .prompt "Current scope: User>" :: (accept {} text).2) <$>
        turns store false (accept {} text).1 rest := by
  rw [run, turns_of_line store rfl, Store.attempt_nothing store (.inl rfl), ExceptT.run_pure,
    pure_bind]
  rfl

end Session

end ScopedVars
