import ScopedVars.Proofs.Store.Medium

/-! # What stores keep of a value

A store may keep only the first characters of the values that are set. With this limit known, a call
that succeeds is known by the contents of its scope: it answers by them, and it leaves them with its
change made.
-/

namespace ScopedVars

/-- As many characters from the front of a value as a limit allows, or all without one. -/
def cut (limit : Option Nat) (value : String) : String :=
  match limit with
  | none => value
  | some count => .ofList (value.toList.take count)

theorem cut_take (limit : Option Nat) (count : Nat) (value : String) :
    cut limit (.ofList (value.toList.take count)) =
      cut (some (min (limit.getD count) count)) value := by
  cases limit with
  | none => simp [cut]
  | some bound => simp [cut, List.take_take]

namespace Call

def answer (vars : Dict String) : Call → Answer
  | list _ => .keys vars.keys
  | get _ key => .value (vars.get? key)
  | set _ _ _ => .done

def change (limit : Option Nat) (vars : Dict String) : Call → Dict String
  | list _ => vars
  | get _ _ => vars
  | set _ key value => vars.alter key (value.map (cut limit))

theorem change_set (vars : Dict String) (scope : Scope) (key : String) (value : Option String) :
    (set scope key value).change none vars = vars.alter key value := by
  cases value <;> rfl

/-- The call that reaches a store behind one that keeps only the first characters of a value. -/
def shortened (count : Nat) : Call → Call
  | set scope key value => .set scope key (value.map fun text => .ofList (text.toList.take count))
  | call => call

end Call

namespace Store

variable {σ : Type} {limit : Option Nat} {medium : Medium σ} {store : Store (StateM σ)}

/-- The stores there are, each with the medium of its states and with the limit to what it keeps of
a value. -/
inductive KeptUpTo : {σ : Type} → Option Nat → Medium σ → Store (StateM σ) → Prop
  | memory (readOnly : Scoped Bool) : KeptUpTo none .memory (memory readOnly)
  | file (faults : FileFaults) {paths : Scoped String} (hpaths : paths.user ≠ paths.system) :
      KeptUpTo none (.files paths) (file (FileSystem.memory.withFaults faults) paths)
  | keeping {σ : Type} {limit : Option Nat} {medium : Medium σ} {store : Store (StateM σ)}
      (count : Nat) (h : KeptUpTo limit medium store) :
      KeptUpTo (some (min (limit.getD count) count)) medium (store.keeping count)
  | withFaults {σ : Type} {limit : Option Nat} {medium : Medium σ} {store : Store (StateM σ)}
      (faults : Faults) (h : KeptUpTo limit medium store) :
      KeptUpTo limit medium (store.withFaults faults)

theorem KeptUpTo.keptIn (h : store.KeptUpTo limit medium) : store.KeptIn medium := by
  induction h with
  | memory readOnly => exact .memory readOnly
  | file faults hpaths => exact .file faults hpaths
  | keeping count _ ih => exact ih.keeping count
  | withFaults faults _ ih => exact ih.withFaults faults

theorem KeptIn.exists_limit (h : store.KeptIn medium) : ∃ limit, store.KeptUpTo limit medium := by
  induction h with
  | memory readOnly => exact ⟨none, .memory readOnly⟩
  | file faults hpaths => exact ⟨none, .file faults hpaths⟩
  | keeping count _ ih =>
    obtain ⟨limit, h⟩ := ih
    exact ⟨_, h.keeping count⟩
  | withFaults faults _ ih =>
    obtain ⟨limit, h⟩ := ih
    exact ⟨limit, h.withFaults faults⟩

theorem call_keeping (store : Store (StateM σ)) (count : Nat) (call : Call) :
    (store.keeping count).call call = store.call (call.shortened count) := by
  cases call <;> rfl

theorem call_withFaults_cases (store : Store (StateM σ)) (faults : Faults) (call : Call) :
    (∃ error, (store.withFaults faults).call call = throw error) ∨
      (store.withFaults faults).call call = store.call call := by
  cases call with
  | list scope =>
    simp only [Store.call, Store.withFaults, failing]
    cases faults.list with
    | none => exact .inr rfl
    | some fault => exact .inl ⟨_, rfl⟩
  | get scope key =>
    simp only [Store.call, Store.withFaults, failing]
    cases faults.get with
    | none => exact .inr rfl
    | some fault => exact .inl ⟨_, rfl⟩
  | set scope key value =>
    simp only [Store.call, Store.withFaults, failing]
    cases faults.set with
    | none => exact .inr rfl
    | some fault => exact .inl ⟨_, rfl⟩

theorem contents_of_call_memory (readOnly : Scoped Bool) {call : Call} {answer : Answer}
    {vars after : Variables}
    (hcall : runIn vars ((memory readOnly).call call) = (.ok answer, after)) :
    answer = call.answer (vars.get call.scope) ∧
      after.get call.scope = call.change none (vars.get call.scope) := by
  cases call with
  | list scope =>
    cases hcall
    exact ⟨rfl, rfl⟩
  | get scope key =>
    cases hcall
    exact ⟨rfl, rfl⟩
  | set scope key value =>
    simp only [call, memory, runIn_map] at hcall
    cases hscope : readOnly.get scope with
    | true => simp [hscope, Except.map] at hcall
    | false =>
      rw [hscope] at hcall
      cases hcall
      rw [Call.change_set]
      exact ⟨rfl, (Scoped.get_set ..).trans (if_pos rfl)⟩

theorem contents_of_call_file {paths : Scoped String} {call : Call} {answer : Answer}
    {files after : Files} {vars : Dict String}
    (hvars : FileStore.contents paths files call.scope = .ok vars)
    (hcall : runIn files ((file .memory paths).call call) = (.ok answer, after)) :
    answer = call.answer vars ∧
      FileStore.contents paths after call.scope = .ok (call.change none vars) := by
  cases call with
  | list scope =>
    rw [call, runIn_map, runIn_file_list, show FileStore.contents paths files scope = _ from hvars]
      at hcall
    cases hcall
    exact ⟨rfl, hvars⟩
  | get scope key =>
    rw [call, runIn_map, runIn_file_get, show FileStore.contents paths files scope = _ from hvars]
      at hcall
    cases hcall
    exact ⟨rfl, hvars⟩
  | set scope key value =>
    rw [call, runIn_map, runIn_file_set paths files scope key hvars] at hcall
    cases hcall
    refine ⟨rfl, ?_⟩
    rw [Call.change_set]
    split
    case isTrue hskip =>
      rw [Bool.and_eq_true, Option.isNone_iff_eq_none, Bool.not_eq_true'] at hskip
      obtain ⟨rfl, habsent⟩ := hskip
      rw [Dict.alter, Dict.erase_of_not_contains habsent]
      exact hvars
    case isFalse => exact FileStore.contents_insert_encode paths files scope _

/-- A call that succeeds has found the contents of its scope. It answers by them, and leaves them as
it changes them. -/
theorem KeptUpTo.contents_of_call (h : store.KeptUpTo limit medium) {call : Call} {answer : Answer}
    {state after : σ} (hcall : runIn state (store.call call) = (.ok answer, after)) :
    ∃ vars, medium.contents? state call.scope = some vars ∧ answer = call.answer vars ∧
      medium.contents? after call.scope = some (call.change limit vars) := by
  induction h generalizing call with
  | memory readOnly =>
    obtain ⟨hanswer, hafter⟩ := contents_of_call_memory readOnly hcall
    exact ⟨_, rfl, hanswer, congrArg some hafter⟩
  | file faults hpaths =>
    rcases exists_contents_of_call faults _ state call with ⟨error, hfailed⟩ | ⟨vars, hvars, hsame⟩
    · cases hfailed.symm.trans hcall
    · obtain ⟨hanswer, hafter⟩ := contents_of_call_file hvars (hsame.symm.trans hcall)
      exact ⟨vars, Medium.contents?_files.mpr hvars, hanswer, Medium.contents?_files.mpr hafter⟩
  | keeping count _ ih =>
    rw [call_keeping] at hcall
    obtain ⟨vars, hvars, hanswer, hafter⟩ := ih hcall
    cases call with
    | set scope key value =>
      refine ⟨vars, hvars, hanswer, hafter.trans ?_⟩
      rw [Call.shortened, Call.change, Call.change, Option.map_map]
      simp only [Function.comp_def, cut_take]
    | _ => exact ⟨vars, hvars, hanswer, hafter⟩
  | withFaults faults _ ih =>
    rcases call_withFaults_cases _ faults call with ⟨error, hfailed⟩ | hsame
    · rw [hfailed] at hcall
      cases hcall
    · rw [hsame] at hcall
      exact ih hcall

theorem KeptIn.list_eq_keys (h : store.KeptIn medium) {scope : Scope} {state : σ}
    {names : List String} (hlist : (runIn state (store.list scope)).1 = .ok names) :
    ∃ vars, medium.contents? state scope = some vars ∧ names = vars.keys := by
  obtain ⟨limit, hlimit⟩ := h.exists_limit
  have hcall : runIn state (store.call (.list scope)) =
      (.ok (.keys names), (runIn state (store.list scope)).2) := by
    rw [call, runIn_map, hlist]
    rfl
  obtain ⟨vars, hvars, hanswer, -⟩ := hlimit.contents_of_call hcall
  exact ⟨vars, hvars, Answer.keys.inj hanswer⟩

theorem KeptIn.get_eq_get? (h : store.KeptIn medium) {scope : Scope} {key : String} {state : σ}
    {value : Option String} (hget : (runIn state (store.get scope key)).1 = .ok value) :
    ∃ vars, medium.contents? state scope = some vars ∧ value = vars.get? key := by
  obtain ⟨limit, hlimit⟩ := h.exists_limit
  have hcall : runIn state (store.call (.get scope key)) =
      (.ok (.value value), (runIn state (store.get scope key)).2) := by
    rw [call, runIn_map, hget]
    rfl
  obtain ⟨vars, hvars, hanswer, -⟩ := hlimit.contents_of_call hcall
  exact ⟨vars, hvars, Answer.value.inj hanswer⟩

theorem KeptUpTo.contents_of_set (h : store.KeptUpTo limit medium) {scope : Scope} {key : String}
    {value : Option String} {state after : σ}
    (hset : runIn state (store.set scope key value) = (.ok (), after)) :
    ∃ vars, medium.contents? state scope = some vars ∧
      medium.contents? after scope = some (vars.alter key (value.map (cut limit))) := by
  have hcall : runIn state (store.call (.set scope key value)) = (.ok .done, after) := by
    rw [call, runIn_map, hset]
    rfl
  obtain ⟨vars, hvars, -, hafter⟩ := h.contents_of_call hcall
  exact ⟨vars, hvars, hafter⟩

end Store

end ScopedVars
