import ScopedVars.Dispatch
import ScopedVars.Proofs.Running

/-! # Attempts

An attempt carries a command out if it is valid and refuses it otherwise. It depends on the verb and
the arguments of the command alone, and to append also on the dry-run flag. It is what `runOnce`
makes of tokens.
-/

namespace ScopedVars

namespace Command

theorem hasFlag_classify (tokens : List String) (flag : String) :
    (classify tokens).hasFlag flag = true ↔ isFlag flag = true ∧ flag ∈ tokens := by
  simp only [hasFlag, classify, flagSet, Dict.contains_ofList, List.map_map, List.mem_map,
    List.mem_filter, Function.comp_apply, exists_eq_right]
  exact and_comm

theorem isDryRun_classify_iff (tokens : List String) :
    (classify tokens).isDryRun = true ↔ dryRunFlag ∈ tokens := by
  rw [isDryRun, hasFlag_classify]
  exact and_iff_right rfl

theorem scopeOf_eq_system_iff (tokens : List String) :
    scopeOf tokens = .system ↔ systemFlag ∈ tokens := by
  unfold scopeOf
  split
  case isTrue hmem => exact iff_of_true rfl hmem
  case isFalse hmem => exact iff_of_false nofun hmem

theorem problems_congr {command other : Command} (hverb : command.verb = other.verb)
    (hargs : command.args = other.args) : command.problems = other.problems := by
  unfold problems
  rw [hverb, hargs]

/-- A valid command has the operands that it needs. -/
theorem exists_operation {command : Command} (h : command.problems = []) :
    ∃ operation, command.operation? = some operation := by
  obtain ⟨verb, scope, args, flags⟩ := command
  unfold problems at h
  unfold operation?
  cases args with
  | nil => cases verb <;> simp_all [Verb.admits]
  | cons key values => cases verb <;> exact ⟨_, rfl⟩

/-- Whether carrying out the command changes the scope. -/
def Toggles (command : Command) : Prop := command.verb = .changeScope ∧ command.args = []

theorem toggles_of_operation {command : Command} (hvalid : command.problems = [])
    (h : command.operation? = some .toggle) : command.Toggles := by
  obtain ⟨verb, scope, args, flags⟩ := command
  unfold problems at hvalid
  unfold operation? at h
  cases args with
  | nil => cases verb <;> simp_all [Toggles]
  | cons key values => cases verb <;> simp_all [Verb.admits]

end Command

namespace Store

variable {m : Type → Type} [Monad m] (store : Store m)

/-- Carries out a command in the given scope if it is valid. -/
def attempt (command : Command) (scope : Scope) : ExceptT Failure m Outcome :=
  match command.problems with
  | [] => store.dispatch command scope
  | problems => throw (.invalid problems)

theorem runOnce_eq_attempt (tokens : List String) :
    store.runOnce tokens = store.attempt (.classify tokens) (Command.scopeOf tokens) := rfl

theorem attempt_congr {command other : Command} (hverb : command.verb = other.verb)
    (hargs : command.args = other.args)
    (hflag : command.verb = .append → command.isDryRun = other.isDryRun) :
    store.attempt command = store.attempt other := by
  have hproblems := Command.problems_congr hverb hargs
  have hoperation : command.operation? = other.operation? := by
    unfold Command.operation?
    rw [← hverb, ← hargs]
    cases hcommand : command.verb with
    | append => rw [hflag hcommand]
    | _ => cases command.args <;> rfl
  funext scope
  unfold attempt dispatch
  rw [hproblems, hoperation]

variable [LawfulMonad m] {command : Command}

theorem attempt_of_operation {operation : Operation} (hvalid : command.problems = [])
    (h : command.operation? = some operation) (scope : Scope) :
    store.attempt command scope =
      Outcome.mk (scopeAfter scope operation) <$>
        (store.perform scope operation).adapt .store := by
  unfold attempt dispatch
  rw [hvalid, h]
  exact bind_pure_comp _ _

/-- An attempt refuses the command, or carries out the operation that it stands for. -/
theorem attempt_cases (command : Command) :
    (command.problems ≠ [] ∧
        ∀ scope, store.attempt command scope = throw (.invalid command.problems)) ∨
      ∃ operation, command.problems = [] ∧ command.operation? = some operation ∧
        ∀ scope, store.attempt command scope =
          Outcome.mk (scopeAfter scope operation) <$>
            (store.perform scope operation).adapt .store := by
  cases hproblems : command.problems with
  | cons problem problems =>
    refine .inl ⟨List.cons_ne_nil _ _, fun scope => ?_⟩
    rw [attempt, hproblems]
  | nil =>
    obtain ⟨operation, hoperation⟩ := Command.exists_operation hproblems
    exact .inr ⟨operation, rfl, hoperation, store.attempt_of_operation hproblems hoperation⟩

theorem attempt_of_idle {operation : Operation} (hvalid : command.problems = [])
    (h : command.operation? = some operation) (hidle : operation = .nothing ∨ operation = .toggle)
    (scope : Scope) :
    store.attempt command scope = pure ⟨scopeAfter scope operation, none⟩ := by
  rw [store.attempt_of_operation hvalid h]
  apply ExceptT.ext
  rcases hidle with rfl | rfl <;> simp [perform, ExceptT.run_adapt, Except.map]

theorem attempt_nothing (h : command.verb = .noop ∨ command.verb = .quit) (scope : Scope) :
    store.attempt command scope = pure ⟨scope, none⟩ := by
  obtain ⟨verb, own, args, flags⟩ := command
  rcases h with rfl | rfl <;> exact store.attempt_of_idle rfl rfl (.inl rfl) scope

theorem attempt_of_toggles (h : command.Toggles) (scope : Scope) :
    store.attempt command scope = pure ⟨scope.toggled, none⟩ := by
  obtain ⟨verb, own, args, flags⟩ := command
  obtain ⟨rfl, rfl⟩ := h
  exact store.attempt_of_idle rfl rfl (.inr rfl) scope

theorem attempt_of_not_toggles (h : ¬ command.Toggles) (scope : Scope) :
    ∃ call : ExceptT Failure m (Option String),
      store.attempt command scope = Outcome.mk scope <$> call := by
  rcases store.attempt_cases command with
    ⟨-, hrefused⟩ | ⟨operation, hproblems, hoperation, hperformed⟩
  · refine ⟨throw (.invalid command.problems), ?_⟩
    rw [hrefused]
    simp
  · have hscope : scopeAfter scope operation = scope := by
      cases operation with
      | toggle => exact absurd (Command.toggles_of_operation hproblems hoperation) h
      | _ => rfl
    refine ⟨(store.perform scope operation).adapt .store, ?_⟩
    rw [hperformed, hscope]

end Store

end ScopedVars
