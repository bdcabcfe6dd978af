import ScopedVars.Proofs.Session.Ending
import ScopedVars.Proofs.Store.Recording
import ScopedVars.Store.Memory

/-! # Missing operands

A command that is carried out without a look at its validity may need an operand that it does not
have. Valid commands have their operands, and commands on their own and in sessions are carried out
only if they are valid, so that no operand is ever missed.
-/

namespace ScopedVars

namespace Command

/-- Whether a command needs an operand and has none. -/
def LacksOperand (command : Command) : Prop :=
  (command.verb = .get ∨ command.verb = .set ∨ command.verb = .append ∨
      command.verb = .delete) ∧
    command.args = []

theorem operation?_eq_none_iff (command : Command) :
    command.operation? = none ↔ command.LacksOperand := by
  obtain ⟨verb, scope, args, flags⟩ := command
  cases args <;> cases verb <;> simp [operation?, LacksOperand]

theorem not_lacksOperand {command : Command} (h : command.problems = []) :
    ¬ command.LacksOperand := by
  obtain ⟨operation, hoperation⟩ := exists_operation h
  rw [← operation?_eq_none_iff, hoperation]
  exact Option.some_ne_none operation

end Command

namespace Store

theorem dispatch_of_lacksOperand {m : Type → Type} [Monad m] (store : Store m) {command : Command}
    (h : command.LacksOperand) (scope : Scope) :
    store.dispatch command scope = throw .missingOperand := by
  unfold dispatch
  rw [command.operation?_eq_none_iff.mpr h]

variable {σ : Type} (store : Store (StateM σ)) (command : Command) (scope : Scope) (state : σ)

theorem dispatch_missingOperand_iff :
    (runIn state (store.dispatch command scope)).1 = .error .missingOperand ↔
      command.LacksOperand := by
  constructor
  · intro h
    rw [← command.operation?_eq_none_iff]
    cases hoperation : command.operation? with
    | none => rfl
    | some operation =>
      simp only [dispatch, hoperation, bind_pure_comp, runIn_map, runIn_adapt] at h
      cases hresult : (runIn state (store.perform scope operation)).1 with
      | error error =>
        rw [hresult] at h
        cases h
      | ok result =>
        rw [hresult] at h
        cases h
  · intro h
    rw [store.dispatch_of_lacksOperand h]
    rfl

theorem attempt_ne_missingOperand :
    (runIn state (store.attempt command scope)).1 ≠ .error .missingOperand := by
  unfold attempt
  cases hproblems : command.problems with
  | cons problem problems => exact nofun
  | nil =>
    exact mt (store.dispatch_missingOperand_iff command scope state).mp
      (Command.not_lacksOperand hproblems)

end Store

/-- What can be done with a session and the store that it is held on. -/
inductive Use (σ : Type) where
  /-- Carries out one command beside the session. -/
  | once (tokens : List String)
  | run (input : List Input)
  | accept (line : String)
  | execute
  /-- Changes the state behind the store, and the faults of its calls if they are part of it. -/
  | meanwhile (change : σ → σ)

namespace Session

variable {σ : Type} (store : Store (StateM σ))

def use (session : Session) (state : σ) : Use σ → Except Failure Unit × Session × σ
  | .once tokens =>
    let (answer, after) := runIn state (store.runOnce tokens)
    (answer.map fun _ => (), session, after)
  | .run input =>
    let (finish, after) := (run store session input).run state
    (finish.returned, finish.session, after)
  | .accept line => (.ok (), (session.accept line).1, state)
  | .execute =>
    match runIn state (session.execute store) with
    | (.ok (carried, _), after) => (.ok (), carried, after)
    | (.error failure, after) => (.error failure, session, after)
  | .meanwhile change => (.ok (), session, change state)

def answers (session : Session) (state : σ) : List (Use σ) → List (Except Failure Unit)
  | [] => []
  | next :: uses =>
    let (answer, carried, after) := session.use store state next
    answer :: answers carried after uses

theorem run_ne_missingOperand (session : Session) (input : List Input) (state : σ) :
    ((run store session input).run state).1.returned ≠ .error .missingOperand := by
  cases hover : session.isOver with
  | true =>
    rw [run, turns.eq_def, hover]
    rintro ⟨⟩
  | false =>
    rw [run, (turns_ended store hover true input state).returned]
    cases (reads input).getLast (reads_ne_nil input) <;> rintro ⟨⟩

theorem runIn_execute (session : Session) (state : σ) :
    runIn state (session.execute store) =
      (.ok (session.carriedOut store state),
        (runIn state (store.attempt session.current session.scope)).2) := by
  rw [runIn, run_execute]
  rfl

theorem use_ne_missingOperand (session : Session) (state : σ) (next : Use σ) :
    (session.use store state next).1 ≠ .error .missingOperand := by
  cases next with
  | once tokens =>
    have hattempt := store.attempt_ne_missingOperand (.classify tokens) (Command.scopeOf tokens) state
    rw [← Store.runOnce_eq_attempt] at hattempt
    simp only [use]
    cases hanswer : (runIn state (store.runOnce tokens)).1 with
    | error failure =>
      rw [hanswer] at hattempt
      rintro ⟨⟩
      exact hattempt rfl
    | ok outcome => exact nofun
  | run input => exact run_ne_missingOperand store session input state
  | accept line => exact nofun
  | execute =>
    simp only [use, runIn_execute]
    exact nofun
  | meanwhile change => exact nofun

/-- Carried out unchecked, exactly a command that lacks its operand misses it, and it calls the store
not once. No valid command lacks its operand, and none is ever missed however a session and its store
are used. -/
theorem no_operand_is_missed :
    (∀ command scope state,
        (runIn state (store.dispatch command scope)).1 = .error .missingOperand ↔
          command.LacksOperand) ∧
      (∀ command scope state, command.LacksOperand →
        runIn (state, []) (store.recording.dispatch command scope) =
          (.error .missingOperand, state, [])) ∧
      (∀ command : Command, command.problems = [] → ¬ command.LacksOperand) ∧
      ∀ uses session state, ∀ answer ∈ answers store session state uses,
        answer ≠ .error .missingOperand := by
  refine ⟨store.dispatch_missingOperand_iff, ?_, fun _ => Command.not_lacksOperand, ?_⟩
  · intro command scope state h
    rw [Store.dispatch_of_lacksOperand _ h]
    rfl
  · intro uses
    induction uses with
    | nil => exact fun _ _ _ => nofun
    | cons next uses ih =>
      intro session state answer hanswer
      rcases List.mem_cons.mp hanswer with rfl | hrest
      · exact use_ne_missingOperand store session state next
      · exact ih _ _ answer hrest

theorem no_operand_is_missed_get :
    (Command.classify ["get"]).LacksOperand ∧
      runIn (.both ∅, []) ((Store.memory (.both true)).recording.dispatch (.classify ["get"]) .user) =
        (.error .missingOperand, .both ∅, []) ∧
      (Command.classify ["get", "A"]).problems = [] ∧
      ¬ (Command.classify ["get", "A"]).LacksOperand ∧
      .error (.invalid [.arity .get]) ∈ answers (Store.memory (.both true)) {} (.both ∅)
          [.once ["get"], .accept "get", .execute] ∧
      (.error (.invalid [.arity .get]) : Except Failure Unit) ≠ .error .missingOperand := by
  have hlacks : (Command.classify ["get"]).LacksOperand := ⟨.inl rfl, rfl⟩
  have hvalid : (Command.classify ["get", "A"]).problems = [] := rfl
  obtain ⟨-, hdispatch, hoperands, hanswers⟩ := no_operand_is_missed (Store.memory (.both true))
  have hanswer : .error (.invalid [.arity .get]) ∈
      answers (Store.memory (.both true)) {} (.both ∅) [.once ["get"], .accept "get", .execute] :=
    List.mem_cons_self
  exact ⟨hlacks, hdispatch _ .user (.both ∅) hlacks, hvalid, hoperands _ hvalid, hanswer,
    hanswers _ _ _ _ hanswer⟩

end Session

end ScopedVars
