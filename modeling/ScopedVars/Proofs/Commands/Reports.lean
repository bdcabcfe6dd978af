import ScopedVars.Proofs.Commands.Frame
import ScopedVars.Proofs.Store.Limits

/-! # What commands report

A command that writes or removes a variable reads it again, so that it reports what the store holds
and not what it was asked to write. The same is read afterwards, by whoever reads the variable.
-/

namespace ScopedVars

/-- The value that a command asks its variable to have, given the value that it has: the words
behind the name with one space between them, after the old value if they are appended. -/
def Command.asked? (command : Command) (old : Option String) : Option String :=
  match command.verb with
  | .set => some (" ".intercalate command.args.tail)
  | .append => some (old.getD "" ++ " ".intercalate command.args.tail)
  | _ => none

def Operation.asked? (old : Option String) : Operation → Option String
  | .set _ value => some value
  | .append _ suffix _ => some (old.getD "" ++ suffix)
  | _ => none

theorem Command.operation_of_writesTo {command : Command} {key : String}
    (h : command.WritesTo key) :
    ∃ operation, command.operation? = some operation ∧ operation.target? = some key ∧
      ∀ old, operation.asked? old = command.asked? old := by
  obtain ⟨verb, scope, args, flags⟩ := command
  obtain ⟨hverb, hkey⟩ := h
  obtain ⟨values, rfl⟩ := List.head?_eq_some_iff.mp hkey
  rcases hverb with rfl | rfl | ⟨rfl, hdry⟩
  · exact ⟨_, rfl, rfl, fun _ => rfl⟩
  · exact ⟨_, rfl, rfl, fun _ => rfl⟩
  · exact ⟨_, rfl, by simp [Operation.target?, hdry], fun _ => rfl⟩

namespace Store

variable {σ : Type} {limit : Option Nat} {medium : Medium σ} {store : Store (StateM σ)}
  {scope : Scope} {key : String} {state after : σ} {result : Option String}

theorem KeptUpTo.contents_of_write (h : store.KeptUpTo limit medium) {value : Option String}
    (hwrite : runIn state (store.write scope key value) = (.ok result, after)) :
    result = value.map (cut limit) ∧ runIn after (store.get scope key) = (.ok result, after) ∧
      ∃ vars, medium.contents? state scope = some vars ∧
        medium.contents? after scope = some (vars.alter key result) := by
  obtain ⟨⟨⟩, between, hset, hread⟩ := exists_of_runIn_bind hwrite
  have hget := h.keptIn.provided.atomic.get scope key between
  rw [hread] at hget
  obtain rfl : after = between := hget
  obtain ⟨vars, hvars, hafter⟩ := h.contents_of_set hset
  obtain ⟨held, hheld, hresult⟩ := h.keptIn.get_eq_get? (congrArg Prod.fst hread)
  obtain rfl := Option.some.inj (hafter.symm.trans hheld)
  rw [Dict.get?_alter, if_pos rfl] at hresult
  rw [← hresult] at hafter
  exact ⟨hresult, hread, vars, hvars, hafter⟩

/-- An operation that writes a variable and succeeds has given it the value asked for, as far as the
store keeps it, and shows that value. -/
theorem KeptUpTo.contents_of_perform (h : store.KeptUpTo limit medium) {operation : Operation}
    (htarget : operation.target? = some key)
    (hperform : runIn state (store.perform scope operation) = (.ok result, after)) :
    runIn after (store.get scope key) = (.ok result, after) ∧
      ∃ vars, medium.contents? state scope = some vars ∧
        result = (operation.asked? (vars.get? key)).map (cut limit) ∧
        medium.contents? after scope = some (vars.alter key result) := by
  cases operation with
  | set name value =>
    obtain rfl : name = key := Option.some.inj htarget
    obtain ⟨hresult, hread, vars, hvars, hafter⟩ := h.contents_of_write hperform
    exact ⟨hread, vars, hvars, hresult, hafter⟩
  | delete name =>
    obtain rfl : name = key := Option.some.inj htarget
    obtain ⟨hresult, hread, vars, hvars, hafter⟩ := h.contents_of_write hperform
    exact ⟨hread, vars, hvars, hresult, hafter⟩
  | append name suffix dryRun =>
    cases dryRun with
    | true => cases htarget
    | false =>
      obtain rfl : name = key := Option.some.inj htarget
      obtain ⟨old, between, hold, hwrite⟩ := exists_of_runIn_bind hperform
      have hget := h.keptIn.provided.atomic.get scope name state
      rw [hold] at hget
      obtain rfl : between = state := hget
      obtain ⟨found, hfound, rfl⟩ := h.keptIn.get_eq_get? (congrArg Prod.fst hold)
      obtain ⟨hresult, hread, vars, hvars, hafter⟩ := h.contents_of_write hwrite
      obtain rfl := Option.some.inj (hfound.symm.trans hvars)
      exact ⟨hread, found, hvars, hresult, hafter⟩
  | _ => cases htarget

theorem runOnce_get {m : Type → Type} [Monad m] [LawfulMonad m] (store : Store m)
    {tokens : List String} (h : Command.positional tokens = ["get", key]) :
    store.runOnce tokens =
      Outcome.mk (Command.scopeOf tokens) <$>
        (store.get (Command.scopeOf tokens) key).adapt .store := by
  have hvalid : (Command.classify tokens).problems = [] := by
    simp [Command.problems, Command.classify, h, Verb.ofWord, Verb.admits]
  have hoperation : (Command.classify tokens).operation? = some (.get key) := by
    simp [Command.operation?, Command.classify, h, Verb.ofWord]
  rw [runOnce_eq_attempt, store.attempt_of_operation hvalid hoperation]
  rfl

def Gets (tokens : List String) (scope : Scope) (key : String) : Prop :=
  Command.positional tokens = ["get", key] ∧ Command.scopeOf tokens = scope

/-- What a command that has written a variable reports. It is what the state holds, what the same
store gives when the variable is read, and what any other store on the same records gives that does
not fail. -/
structure Reported (limit : Option Nat) (medium : Medium σ) (store : Store (StateM σ))
    (command : Command) (scope : Scope) (key : String) (state : σ) (outcome : Outcome)
    (after : σ) : Prop where
  asked : ∃ vars, medium.contents? state scope = some vars ∧
    outcome.result = (command.asked? (vars.get? key)).map (cut limit)
  held : ∃ vars, medium.contents? after scope = some vars ∧ vars.get? key = outcome.result
  read : ∀ tokens, Gets tokens scope key →
    runIn after (store.runOnce tokens) = (.ok outcome, after)
  readAnew : ∀ other : Store (StateM σ), other.KeptIn medium → ∀ tokens, Gets tokens scope key →
    ∀ answer, (runIn after (other.runOnce tokens)).1 = .ok answer → answer = outcome

/-- A command that sets, appends to or removes a variable and succeeds reports the value that the
store keeps of it: what was asked for, cut to what the store keeps of a value. -/
theorem runOnce_reports_stored (hstore : store.KeptUpTo limit medium) {tokens : List String}
    {outcome : Outcome} (hwrites : (Command.classify tokens).WritesTo key)
    (hrun : runIn state (store.runOnce tokens) = (.ok outcome, after)) :
    Reported limit medium store (.classify tokens) (Command.scopeOf tokens) key state outcome
      after := by
  obtain ⟨operation, hoperation, htarget, hasked⟩ := Command.operation_of_writesTo hwrites
  rw [runOnce_eq_attempt] at hrun
  rcases store.attempt_cases (.classify tokens) with
    ⟨-, hrefused⟩ | ⟨performed, -, hperformed, hattempt⟩
  · rw [hrefused] at hrun
    cases hrun
  obtain rfl := Option.some.inj (hoperation.symm.trans hperformed)
  rw [hattempt] at hrun
  obtain ⟨result, hadapt, rfl⟩ := exists_of_runIn_map hrun
  obtain ⟨hread, vars, hvars, hresult, hafter⟩ :=
    hstore.contents_of_perform htarget (runIn_of_adapt hadapt)
  have hscope : scopeAfter (Command.scopeOf tokens) operation = Command.scopeOf tokens := by
    cases operation with
    | toggle => cases htarget
    | _ => rfl
  rw [hscope]
  constructor
  case asked => exact ⟨vars, hvars, by rw [← hasked]; exact hresult⟩
  case held => exact ⟨_, hafter, by simp⟩
  case read =>
    rintro getting ⟨hget, hsame⟩
    rw [store.runOnce_get hget, hsame, runIn_map, runIn_adapt, hread]
    rfl
  case readAnew =>
    rintro other hother getting ⟨hget, hsame⟩ answer hanswer
    rw [other.runOnce_get hget, hsame] at hanswer
    obtain ⟨value, hvalue, rfl⟩ := exists_of_runIn_map (Prod.ext hanswer rfl)
    obtain ⟨found, hfound, rfl⟩ := hother.get_eq_get? (congrArg Prod.fst (runIn_of_adapt hvalue))
    obtain rfl := Option.some.inj (hafter.symm.trans hfound)
    simp

def holding (value : String) : Variables := ⟨(∅ : Dict String).insert "A" value, ∅⟩

/-- Four characters are kept of a value and the spaces in it: of words that are appended to an
accented letter, and of words that are then set. -/
theorem runOnce_reports_stored_spaces :
    ((memory ⟨false, true⟩).keeping 4).KeptUpTo (some 4) .memory ∧
      (Command.classify ["append", "A", "b", "c", "d"]).WritesTo "A" ∧
      (Command.classify ["append", "A", "b", "c", "d"]).asked? (some "é") = some "éb c d" ∧
      runIn (holding "é")
          (((memory ⟨false, true⟩).keeping 4).runOnce ["append", "A", "b", "c", "d"]) =
        (.ok ⟨.user, some "éb c"⟩, holding "éb c") ∧
      Reported (some 4) .memory ((memory ⟨false, true⟩).keeping 4)
        (.classify ["append", "A", "b", "c", "d"]) .user "A" (holding "é") ⟨.user, some "éb c"⟩
        (holding "éb c") ∧
      (Command.classify ["set", "A", "b", "cd", "e"]).WritesTo "A" ∧
      (Command.classify ["set", "A", "b", "cd", "e"]).asked? (some "éb c") = some "b cd e" ∧
      runIn (holding "éb c")
          (((memory ⟨false, true⟩).keeping 4).runOnce ["set", "A", "b", "cd", "e"]) =
        (.ok ⟨.user, some "b cd"⟩, holding "b cd") ∧
      Reported (some 4) .memory ((memory ⟨false, true⟩).keeping 4)
        (.classify ["set", "A", "b", "cd", "e"]) .user "A" (holding "éb c") ⟨.user, some "b cd"⟩
        (holding "b cd") := by
  have hstore : ((memory ⟨false, true⟩).keeping 4).KeptUpTo (some 4) .memory :=
    (KeptUpTo.memory ⟨false, true⟩).keeping 4
  have happends : (Command.classify ["append", "A", "b", "c", "d"]).WritesTo "A" :=
    ⟨.inr (.inr ⟨rfl, by decide⟩), rfl⟩
  have happended : runIn (holding "é")
      (((memory ⟨false, true⟩).keeping 4).runOnce ["append", "A", "b", "c", "d"]) =
        (.ok ⟨.user, some "éb c"⟩, holding "éb c") := by
    rfl
  have hsets : (Command.classify ["set", "A", "b", "cd", "e"]).WritesTo "A" := ⟨.inl rfl, rfl⟩
  have hset : runIn (holding "éb c")
      (((memory ⟨false, true⟩).keeping 4).runOnce ["set", "A", "b", "cd", "e"]) =
        (.ok ⟨.user, some "b cd"⟩, holding "b cd") := by
    rfl
  exact ⟨hstore, happends, by decide, happended, runOnce_reports_stored hstore happends happended,
    hsets, by decide, hset, runOnce_reports_stored hstore hsets hset⟩

end Store

end ScopedVars
