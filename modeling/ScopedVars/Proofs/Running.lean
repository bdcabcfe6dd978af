/-! # Calls run in a state

A call that may fail and that changes a state is known by what it answers in each state and by the
state that it leaves. The lemmas give both for the ways to build a call.
-/

namespace ScopedVars

variable {σ ε ε' α β : Type} {state : σ}

@[simp]
theorem mapError_ok (f : ε → ε') (a : α) : (.ok a : Except ε α).mapError f = .ok a := rfl

@[simp]
theorem mapError_error (f : ε → ε') (error : ε) :
    (.error error : Except ε α).mapError f = .error (f error) := rfl

theorem exists_of_bind_ok {answer : Except ε α} {next : α → Except ε β} {b : β}
    (h : (answer >>= next) = .ok b) : ∃ a, answer = .ok a ∧ next a = .ok b := by
  cases answer with
  | error error => cases h
  | ok a => exact ⟨a, rfl, h⟩

/-- What a call answers in a state, and the state that it leaves. -/
def runIn (state : σ) (call : ExceptT ε (StateM σ) α) : Except ε α × σ := call.run.run state

@[simp]
theorem runIn_pure (a : α) : runIn state (pure a : ExceptT ε (StateM σ) α) = (.ok a, state) := rfl

@[simp]
theorem runIn_throw (error : ε) :
    runIn state (throw error : ExceptT ε (StateM σ) α) = (.error error, state) := rfl

@[simp]
theorem runIn_bind (call : ExceptT ε (StateM σ) α) (next : α → ExceptT ε (StateM σ) β) :
    runIn state (call >>= next) =
      match runIn state call with
      | (.ok a, after) => runIn after (next a)
      | (.error error, after) => (.error error, after) := by
  unfold runIn
  rw [ExceptT.run_bind, StateT.run_bind]
  change (match call.run.run state with | (a, after) => _ : Id _) = _
  rcases call.run.run state with ⟨a | a, after⟩ <;> rfl

theorem exists_of_runIn_bind {call : ExceptT ε (StateM σ) α} {next : α → ExceptT ε (StateM σ) β}
    {b : β} {after : σ} (h : runIn state (call >>= next) = (.ok b, after)) :
    ∃ a between, runIn state call = (.ok a, between) ∧ runIn between (next a) = (.ok b, after) := by
  rw [runIn_bind] at h
  rcases hfirst : runIn state call with ⟨error | a, between⟩
  · rw [hfirst] at h
    cases h
  · rw [hfirst] at h
    exact ⟨a, between, rfl, h⟩

theorem error_of_runIn_bind {call : ExceptT ε (StateM σ) α} {next : α → ExceptT ε (StateM σ) β}
    {error : ε} (h : (runIn state (call >>= next)).1 = .error error) :
    (runIn state call).1 = .error error ∨
      ∃ a between, runIn state call = (.ok a, between) ∧
        (runIn between (next a)).1 = .error error := by
  rw [runIn_bind] at h
  rcases hfirst : runIn state call with ⟨failure | a, between⟩
  · rw [hfirst] at h
    cases h
    exact .inl rfl
  · rw [hfirst] at h
    exact .inr ⟨a, between, rfl, h⟩

/-- What holds of the state after the first part of a call, and after each way to go on from there,
holds after the whole call. -/
theorem after_bind {P : σ → Prop} {call : ExceptT ε (StateM σ) α}
    {next : α → ExceptT ε (StateM σ) β} (hcall : P (runIn state call).2)
    (hnext : ∀ a, P (runIn (runIn state call).2 (next a)).2) :
    P (runIn state (call >>= next)).2 := by
  rw [runIn_bind]
  rcases hfirst : runIn state call with ⟨error | a, after⟩
  · rwa [hfirst] at hcall
  · have hrest := hnext a
    rwa [hfirst] at hrest

@[simp]
theorem runIn_map (f : α → β) (call : ExceptT ε (StateM σ) α) :
    runIn state (f <$> call) = ((runIn state call).1.map f, (runIn state call).2) := by
  rw [← bind_pure_comp, runIn_bind]
  rcases runIn state call with ⟨a | a, after⟩ <;> rfl

theorem unchanged_bind {call : ExceptT ε (StateM σ) α} {next : α → ExceptT ε (StateM σ) β}
    (hcall : (runIn state call).2 = state) (hnext : ∀ a, (runIn state (next a)).2 = state) :
    (runIn state (call >>= next)).2 = state := by
  refine after_bind (P := (· = state)) hcall fun a => ?_
  rw [hcall]
  exact hnext a

theorem exists_of_runIn_map {f : α → β} {call : ExceptT ε (StateM σ) α} {b : β} {after : σ}
    (h : runIn state (f <$> call) = (.ok b, after)) :
    ∃ a, runIn state call = (.ok a, after) ∧ f a = b := by
  rw [← bind_pure_comp] at h
  obtain ⟨a, between, hcall, hpure⟩ := exists_of_runIn_bind h
  cases hpure
  exact ⟨a, hcall, rfl⟩

theorem runIn_mapM_cons {call : α → ExceptT ε (StateM σ) β} {item : α} {items : List α} {b : β}
    {bs : List β} {between after : σ} (hfirst : runIn state (call item) = (.ok b, between))
    (hrest : runIn between (items.mapM call) = (.ok bs, after)) :
    runIn state ((item :: items).mapM call) = (.ok (b :: bs), after) := by
  rw [List.mapM_cons, runIn_bind, hfirst]
  dsimp only
  rw [runIn_bind, hrest]
  rfl

@[simp]
theorem runIn_adapt (f : ε → ε') (call : ExceptT ε (StateM σ) α) :
    runIn state (call.adapt f) = ((runIn state call).1.mapError f, (runIn state call).2) := rfl

theorem runIn_of_adapt {f : ε → ε'} {call : ExceptT ε (StateM σ) α} {a : α} {after : σ}
    (h : runIn state (call.adapt f) = (.ok a, after)) : runIn state call = (.ok a, after) := by
  rw [runIn_adapt] at h
  rcases hcall : runIn state call with ⟨error | other, last⟩
  · rw [hcall] at h
    cases h
  · rw [hcall] at h
    cases h
    rfl

@[simp]
theorem runIn_lift (action : StateM σ α) :
    runIn state (liftM action : ExceptT ε (StateM σ) α) =
      (.ok (action.run state).1, (action.run state).2) := rfl

@[simp]
theorem runIn_getThe : runIn state (getThe σ : ExceptT ε (StateM σ) σ) = (.ok state, state) := rfl

@[simp]
theorem runIn_modify (f : σ → σ) :
    runIn state (modify f : ExceptT ε (StateM σ) PUnit) = (.ok ⟨⟩, f state) := rfl

end ScopedVars
