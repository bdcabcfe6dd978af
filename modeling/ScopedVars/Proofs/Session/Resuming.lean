import ScopedVars.Proofs.Session.Ending


/-! # Sessions step by step

On lines that do not end it, a session can be cut at any of them: the lines before leave a session
and a state in which the others go on. So what holds at every cut holds throughout a run, and a
property that every attempt keeps is kept by the whole run. One that every call to a scope keeps is
kept by commands on that scope, and by sessions if it is so for both scopes.
-/

namespace ScopedVars

namespace Session

variable {σ : Type} (store : Store (StateM σ)) {session : Session}

theorem run_turns_of_ends (hover : session.isOver = false) {item : Input}
    (hitem : item.ends = true) (isFirst : Bool) (rest : List Input) (state : σ) :
    (turns store isFirst session (item :: rest)).run state =
      (((session.carriedOut store state).1.close item rest).after
          ((session.carriedOut store state).2 ++
            (session.carriedOut store state).1.asking isFirst),
        (runIn state (store.attempt session.current session.scope)).2) := by
  rw [turns_of_ends store hover hitem]
  rfl

theorem run_turns_of_line (hover : session.isOver = false) (text : String) (isFirst : Bool)
    (rest : List Input) (state : σ) :
    (turns store isFirst session (.line text :: rest)).run state =
      let carried := session.carriedOut store state
      let finish := (turns store false (carried.1.accept text).1 rest).run
        (runIn state (store.attempt session.current session.scope)).2
      (finish.1.after (carried.2 ++ carried.1.asking isFirst ++ (carried.1.accept text).2),
        finish.2) := by
  rw [turns_of_line store hover]
  rfl

theorem accept_current (session : Session) (current : Command) (text : String) :
    { session with current := current }.accept text = session.accept text := rfl

/-- A session goes on with a line where the lines before it, as the whole input, have left it. -/
theorem turns_resume (hover : session.isOver = false) {before : List Input}
    (hbefore : ∀ item ∈ before, item.ends = false) (text : String) (after : List Input)
    (isFirst : Bool) (state : σ) :
    (turns store isFirst session (before ++ .line text :: after)).run state =
      let stop := (turns store isFirst session before).run state
      let accepted := stop.1.session.accept text
      let finish := (turns store false accepted.1 after).run stop.2
      (finish.1.after (stop.1.events ++ accepted.2), finish.2) := by
  induction before generalizing session isFirst state with
  | nil =>
    rw [List.nil_append, run_turns_of_line store hover, turns_nil store hover,
      run_turns_of_ends store hover rfl]
    simp [close, receive, Finish.after, accept_current]
  | cons item before ih =>
    obtain ⟨hitem, hrest⟩ := List.forall_mem_cons.mp hbefore
    obtain ⟨line, rfl⟩ := Input.exists_line hitem
    have hnext (carried : Session) : (carried.accept line).1.isOver = false :=
      (isOver_accept ..).trans hitem
    rw [List.cons_append, run_turns_of_line store hover, run_turns_of_line store hover]
    simp [ih (hnext _) hrest, Finish.after]

theorem events_turns (hover : session.isOver = false) (isFirst : Bool) (input : List Input)
    (state : σ) :
    ∃ rest, ((turns store isFirst session input).run state).1.events =
      (session.carriedOut store state).2 ++ rest := by
  have hends {item : Input} (hitem : item.ends = true) (rest : List Input) :
      ∃ shown, ((turns store isFirst session (item :: rest)).run state).1.events =
        (session.carriedOut store state).2 ++ shown := by
    rw [run_turns_of_ends store hover hitem]
    exact ⟨_, List.append_assoc ..⟩
  cases input with
  | nil =>
    rw [turns_nil store hover]
    exact hends rfl []
  | cons item rest =>
    cases hitem : item.ends with
    | true => exact hends hitem rest
    | false =>
      obtain ⟨text, rfl⟩ := Input.exists_line hitem
      rw [run_turns_of_line store hover]
      simp only [Finish.after, List.append_assoc]
      exact ⟨_, rfl⟩

/-- What every attempt keeps at commands of a kind, if all accepted commands are of that kind, is kept
by a whole session. -/
theorem turns_preserve {P : σ → Prop} {Q : Command → Prop}
    (hattempt : ∀ command scope state, Q command → P state →
      P (runIn state (store.attempt command scope)).2)
    (haccept : ∀ (session : Session) text, Q (session.accept text).1.current)
    (hover : session.isOver = false) (hcurrent : Q session.current) (isFirst : Bool)
    (input : List Input) {state : σ} (hstate : P state) :
    P ((turns store isFirst session input).run state).2 := by
  have hafter := hattempt session.current session.scope state hcurrent hstate
  induction input generalizing session isFirst state with
  | nil =>
    rw [turns_nil store hover, run_turns_of_ends store hover rfl]
    exact hafter
  | cons item rest ih =>
    cases hitem : item.ends with
    | true =>
      rw [run_turns_of_ends store hover hitem]
      exact hafter
    | false =>
      obtain ⟨text, rfl⟩ := Input.exists_line hitem
      rw [run_turns_of_line store hover]
      have hnext : ((session.carriedOut store state).1.accept text).1.isOver = false :=
        (isOver_accept ..).trans hitem
      exact ih hnext (haccept _ text) false hafter (hattempt _ _ _ (haccept _ text) hafter)

end Session

/-- Whether every call to a scope of the store keeps a property of its states. -/
structure Store.Maintains {σ : Type} (P : σ → Prop) (store : Store (StateM σ)) (scope : Scope) :
    Prop where
  list : ∀ state, P state → P (runIn state (store.list scope)).2
  get : ∀ key state, P state → P (runIn state (store.get scope key)).2
  set : ∀ key value state, P state → P (runIn state (store.set scope key value)).2

variable {σ : Type} {P : σ → Prop} {store : Store (StateM σ)} {scope : Scope} {state : σ}

namespace Store.Maintains

theorem write (h : store.Maintains P scope) (key : String) (value : Option String)
    (hstate : P state) : P (runIn state (store.write scope key value)).2 :=
  after_bind (h.set key value state hstate) fun _ => h.get key _ (h.set key value state hstate)

theorem perform (h : store.Maintains P scope) (operation : Operation) (hstate : P state) :
    P (runIn state (store.perform scope operation)).2 := by
  cases operation with
  | nothing => exact hstate
  | toggle => exact hstate
  | help => exact hstate
  | list =>
    simp only [Store.perform, bind_pure_comp, runIn_map]
    exact h.list state hstate
  | get key => exact h.get key state hstate
  | set key value => exact h.write key (some value) hstate
  | append key suffix dryRun =>
    have hget := h.get key state hstate
    refine after_bind hget fun old => ?_
    cases dryRun with
    | true => exact hget
    | false => exact h.write key _ hget
  | delete key => exact h.write key none hstate

theorem attempt (h : store.Maintains P scope) (command : Command) (hstate : P state) :
    P (runIn state (store.attempt command scope)).2 := by
  rcases store.attempt_cases command with ⟨-, hrefused⟩ | ⟨operation, -, -, hperformed⟩
  · rw [hrefused]
    exact hstate
  · rw [hperformed, runIn_map, runIn_adapt]
    exact h.perform operation hstate

theorem session (h : ∀ scope, store.Maintains P scope) (input : List Input) (hstate : P state) :
    P ((Session.run store {} input).run state).2 :=
  Session.turns_preserve (Q := fun _ => True) store
    (fun command scope _ _ hbefore => (h scope).attempt command hbefore) (fun _ _ => trivial) rfl
    trivial true input hstate

end Store.Maintains

end ScopedVars
