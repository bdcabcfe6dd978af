import Mathlib.Logic.Function.Iterate
import ScopedVars.Proofs.Session.Turns

/-! # How a session ends

The items alone decide how many of them a session reads, what it returns and which scope each prompt
names. The store and the failures of its calls have no part in it.
-/

namespace ScopedVars

/-- Whether an item is a line that has `cd` as its only token beside flags. -/
def Input.toggles : Input → Bool
  | .line text => Command.positional (words text) = ["cd"]
  | .endOfInput => false
  | .failure _ => false

def Scope.toggledBy (scope : Scope) (items : List Input) : Scope :=
  Scope.toggled^[items.countP Input.toggles] scope

@[simp]
theorem Scope.toggledBy_nil (scope : Scope) : scope.toggledBy [] = scope := rfl

theorem Scope.toggledBy_cons (scope : Scope) (item : Input) (rest : List Input) :
    scope.toggledBy (item :: rest) = (scope.toggledBy [item]).toggledBy rest := by
  cases h : item.toggles <;> simp [toggledBy, h]

theorem Scope.toggledBy_of_ends (scope : Scope) {item : Input} (h : item.ends = true) :
    scope.toggledBy [item] = scope := by
  have htoggles : item.toggles = false := by
    cases item with
    | line text =>
      refine decide_eq_false fun hcd => ?_
      rw [Input.ends, quits, hcd] at h
      exact absurd h (by decide)
    | endOfInput => rfl
    | failure cause => rfl
  simp [toggledBy, htoggles]

namespace Session

theorem accept_toggles_iff (session : Session) (text : String) :
    (session.accept text).1.current.Toggles ↔ (Input.line text).toggles = true := by
  have hcd := Verb.ofWord_eq_changeScope_iff (Command.positional (words text)).head?
  have hline : (Input.line text).toggles = true ↔
      (Command.positional (words text)).head? = some "cd" ∧
        (Command.positional (words text)).tail = [] := by
    rw [Input.toggles, decide_eq_true_iff]
    cases Command.positional (words text) <;> simp
  rw [hline, ← hcd]
  cases h : isCommand (words text) with
  | true => rw [accept_of_isCommand h]; rfl
  | false =>
    rw [accept_of_not_isCommand h, (Verb.ofWord_eq_unknown_iff _).mpr h]
    simp [Command.Toggles]

variable {σ : Type} (store : Store (StateM σ)) {session : Session} {item : Input}

def carriedOut (session : Session) (state : σ) : Session × List Event :=
  session.absorb (runIn state (store.attempt session.current session.scope)).1

theorem scope_carriedOut_accept (session : Session) (text : String) (state : σ) :
    ((session.accept text).1.carriedOut store state).1.scope =
      session.scope.toggledBy [.line text] := by
  have hscope := session.scope_accept text
  have htoggles := accept_toggles_iff session text
  rw [carriedOut, hscope]
  by_cases h : (session.accept text).1.current.Toggles
  · rw [store.attempt_of_toggles h, runIn_pure]
    simp [absorb, Scope.toggledBy, htoggles.mp h]
  · obtain ⟨call, hcall⟩ := store.attempt_of_not_toggles h session.scope
    have hnot := mt htoggles.mpr h
    rw [hcall, runIn_map]
    rcases (runIn state call).1 with failure | result
    · simp [absorb, Scope.toggledBy, hnot, Except.map, hscope]
    · simp [absorb, Scope.toggledBy, hnot, Except.map]

end Session

def Event.isPrompt : Event → Bool
  | .prompt _ => true
  | .print _ => false
  | .warn _ => false
  | .error _ => false

/-- One prompt for each item. It names the scope after the items before. -/
def prompts (scope : Scope) (items : List Input) : List Event :=
  (List.range items.length).map fun k =>
    .prompt ("Current scope: " ++ (scope.toggledBy (items.take k)).name ++ ">")

theorem prompts_cons (scope : Scope) (item : Input) (rest : List Input) :
    prompts scope (item :: rest) =
      .prompt ("Current scope: " ++ scope.name ++ ">") ::
        prompts (scope.toggledBy [item]) rest := by
  rw [prompts, List.length_cons, List.range_succ_eq_map, List.map_cons, List.map_map, prompts]
  congr 1
  refine List.map_congr_left fun k _ => ?_
  rw [Function.comp_apply, List.take_succ_cons, Scope.toggledBy_cons]

/-- How a session ends that is in the given scope when it begins to read. -/
structure Ended (scope : Scope) (input : List Input) (finish : Session.Finish) : Prop where
  unread : finish.unread = input.drop (reads input).length
  prompts : finish.events.filter Event.isPrompt = prompts scope (reads input)
  scope : finish.session.scope = scope.toggledBy (reads input)
  returned : finish.returned = ((reads input).getLast (reads_ne_nil input)).verdict
  quit : finish.returned = .ok () → finish.session.current.verb = .quit

theorem Ended.cons {scope : Scope} {item : Input} {rest : List Input} {finish : Session.Finish}
    {events : List Event} (hitem : item.ends = false)
    (hevents : events.filter Event.isPrompt =
      [.prompt ("Current scope: " ++ scope.name ++ ">")])
    (h : Ended (scope.toggledBy [item]) rest finish) :
    Ended scope (item :: rest) (finish.after events) where
  unread := by
    rw [reads_cons_of_not_ends hitem]
    exact h.unread
  prompts := by
    rw [reads_cons_of_not_ends hitem, prompts_cons, Session.Finish.after, List.filter_append,
      hevents, h.prompts]
    rfl
  scope := by
    rw [reads_cons_of_not_ends hitem, Scope.toggledBy_cons]
    exact h.scope
  returned := by
    simp only [reads_cons_of_not_ends hitem, List.getLast_cons (reads_ne_nil rest)]
    exact h.returned
  quit := h.quit

namespace Session

theorem filter_absorb (session : Session) (answer : Except Failure Outcome) :
    (session.absorb answer).2.filter Event.isPrompt = [] := by
  rcases answer with failure | ⟨scope, _ | text⟩ <;> rfl

theorem filter_accept (session : Session) (text : String) :
    (session.accept text).2.filter Event.isPrompt = [] := by
  cases h : isCommand (words text) with
  | true => rw [accept_of_isCommand h]; rfl
  | false => rw [accept_of_not_isCommand h]; rfl

theorem filter_asking (isFirst : Bool) (session : Session) :
    (session.asking isFirst).filter Event.isPrompt = [.prompt session.prompt] := by
  unfold asking greeting
  split <;> rfl

variable {σ : Type} (store : Store (StateM σ)) {session : Session} {item : Input}

theorem ended_close (hitem : item.ends = true) (session : Session) (rest : List Input)
    {events : List Event} (hevents : events.filter Event.isPrompt = [.prompt session.prompt]) :
    Ended session.scope (item :: rest) ((session.close item rest).after events) := by
  obtain ⟨current, hclose, hquit⟩ := close_of_ends hitem session rest
  rw [hclose]
  constructor
  case unread => simp [reads_cons_of_ends hitem, Finish.after]
  case prompts => simp [reads_cons_of_ends hitem, Finish.after, hevents, prompts, prompt_eq]
  case scope => simp [reads_cons_of_ends hitem, Finish.after, Scope.toggledBy_of_ends _ hitem]
  case returned => simp [reads_cons_of_ends hitem, Finish.after]
  case quit => exact hquit

theorem turns_ended_of_ends (hover : session.isOver = false) (hitem : item.ends = true)
    (isFirst : Bool) (rest : List Input) (state : σ) :
    Ended (session.carriedOut store state).1.scope (item :: rest)
      ((turns store isFirst session (item :: rest)).run state).1 := by
  rw [turns_of_ends store hover hitem]
  refine ended_close hitem (session.carriedOut store state).1 rest ?_
  rw [List.filter_append, carriedOut, filter_absorb, filter_asking, List.nil_append]
  rfl

/-- The turns of a session end as the input and the scope after the pending command say. -/
theorem turns_ended (hover : session.isOver = false) (isFirst : Bool) (input : List Input)
    (state : σ) :
    Ended (session.carriedOut store state).1.scope input
      ((turns store isFirst session input).run state).1 := by
  induction input generalizing session isFirst state with
  | nil =>
    have hended : Ended (session.carriedOut store state).1.scope [.endOfInput] _ :=
      turns_ended_of_ends store hover rfl isFirst [] state
    rw [turns_nil store hover]
    exact ⟨hended.unread, hended.prompts, hended.scope, hended.returned, hended.quit⟩
  | cons item rest ih =>
    cases hitem : item.ends with
    | true => exact turns_ended_of_ends store hover hitem isFirst rest state
    | false =>
      obtain ⟨text, rfl⟩ := Input.exists_line hitem
      rw [turns_of_line store hover]
      let carried := session.carriedOut store state
      have hnext : (carried.1.accept text).1.isOver = false := (isOver_accept ..).trans hitem
      have hrest := ih hnext false (runIn state (store.attempt session.current session.scope)).2
      rw [scope_carriedOut_accept] at hrest
      have hevents : (carried.2 ++ carried.1.asking isFirst ++
          (carried.1.accept text).2).filter Event.isPrompt = [.prompt carried.1.prompt] := by
        rw [List.filter_append, List.filter_append, filter_asking, filter_accept]
        simp [carried, carriedOut, filter_absorb]
      exact hrest.cons hitem hevents

/-- Whatever the store is and whichever way its calls end, a fresh session ends as its input
says. -/
theorem run_ended (input : List Input) (state : σ) :
    Ended .user input ((run store {} input).run state).1 := by
  have hturns := turns_ended store (show isOver {} = false from rfl) true input state
  rw [carriedOut, Store.attempt_nothing store (.inl rfl)] at hturns
  exact hturns

end Session

end ScopedVars
