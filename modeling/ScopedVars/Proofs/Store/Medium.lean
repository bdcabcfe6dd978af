import ScopedVars.Proofs.Store.Atomicity

/-! # Where variables are kept

A state keeps a record for each scope, in memory or in a file. A call that lists reads the record of
its scope. A call that sets changes that record only, and of the variables in it only the one that it
is about; a record that cannot be decoded stays as it is.
-/

namespace ScopedVars

structure Medium (σ : Type) where
  Record : Type
  record : σ → Scope → Record
  /-- The variables in a record, unless it cannot be decoded. -/
  decode? : Record → Option (Dict String)

namespace Medium

variable {σ : Type} (medium : Medium σ)

/-- The variables that a state keeps for a scope, whatever keeps a call from reading them. -/
def contents? (state : σ) (scope : Scope) : Option (Dict String) :=
  medium.decode? (medium.record state scope)

def memory : Medium Variables where
  Record := Dict String
  record vars scope := vars.get scope
  decode? := some

/-- Each record is the text of a file, if there is one. -/
def files (paths : Scoped String) : Medium Files where
  Record := Option String
  record files scope := files.get? (paths.get scope)
  decode?
    | none => some ∅
    | some text => (Toml.decode text).toOption

theorem contents?_files {paths : Scoped String} {state : Files} {scope : Scope}
    {vars : Dict String} :
    (files paths).contents? state scope = some vars ↔
      FileStore.contents paths state scope = .ok vars := by
  simp only [contents?, files, FileStore.contents]
  cases state.get? (paths.get scope) with
  | none => simp
  | some text => cases hdecode : Toml.decode text <;> simp [hdecode, Except.toOption]

/-- Whether a change of state leaves all alone but one variable of a scope, if it names one. -/
structure Spares (scope : Scope) (key? : Option String) (before after : σ) : Prop where
  elsewhere : ∀ other, other ≠ scope → medium.record after other = medium.record before other
  others : ∀ vars, medium.contents? before scope = some vars →
    ∃ changed, medium.contents? after scope = some changed ∧
      ∀ name, key? ≠ some name → changed.get? name = vars.get? name
  corrupt : medium.contents? before scope = none →
    medium.record after scope = medium.record before scope

namespace Spares

variable {medium} {scope : Scope} {key? : Option String} {before after : σ}

theorem refl (scope : Scope) (key? : Option String) (state : σ) :
    medium.Spares scope key? state state where
  elsewhere _ _ := rfl
  others vars hvars := ⟨vars, hvars, fun _ _ => rfl⟩
  corrupt _ := rfl

theorem mono {other? : Option String} (h : medium.Spares scope key? before after)
    (hkey : ∀ key, key? = some key → other? = some key) :
    medium.Spares scope other? before after where
  elsewhere := h.elsewhere
  others vars hvars := by
    obtain ⟨changed, hchanged, hsame⟩ := h.others vars hvars
    exact ⟨changed, hchanged, fun name hname => hsame name (mt (hkey name) hname)⟩
  corrupt := h.corrupt

end Spares

end Medium

namespace Store

variable {σ : Type} {medium : Medium σ} {store other : Store (StateM σ)}

/-- The stores there are, each with the medium of its states. The files of a store have paths of
their own. -/
inductive KeptIn : {σ : Type} → Medium σ → Store (StateM σ) → Prop
  | memory (readOnly : Scoped Bool) : KeptIn .memory (memory readOnly)
  | file (faults : FileFaults) {paths : Scoped String} (hpaths : paths.user ≠ paths.system) :
      KeptIn (.files paths) (file (FileSystem.memory.withFaults faults) paths)
  | keeping {σ : Type} {medium : Medium σ} {store : Store (StateM σ)} (count : Nat)
      (h : KeptIn medium store) : KeptIn medium (store.keeping count)
  | withFaults {σ : Type} {medium : Medium σ} {store : Store (StateM σ)} (faults : Faults)
      (h : KeptIn medium store) : KeptIn medium (store.withFaults faults)

theorem KeptIn.provided (h : store.KeptIn medium) : store.Provided := by
  induction h with
  | memory readOnly => exact .memory readOnly
  | file faults => exact .file faults _
  | keeping count _ ih => exact ih.keeping count
  | withFaults faults _ ih => exact ih.withFaults faults

/-- A call to files that succeeds has read its scope and does what it does without faults. -/
theorem exists_contents_of_call (faults : FileFaults) (paths : Scoped String) (files : Files)
    (call : Call) :
    (∃ error, runIn files ((file (FileSystem.memory.withFaults faults) paths).call call) =
        (.error error, files)) ∨
      ∃ vars, FileStore.contents paths files call.scope = .ok vars ∧
        runIn files ((file (FileSystem.memory.withFaults faults) paths).call call) =
          runIn files ((file .memory paths).call call) := by
  rw [runIn_call_withFaults]
  cases herror : call.error? faults paths files with
  | some error => exact .inl ⟨error, rfl⟩
  | none =>
    rw [Call.error?_eq] at herror
    have hreading := (Option.or_eq_none_iff.mp herror).1
    obtain ⟨vars, hvars⟩ := FileStore.exists_contents faults paths files
      (Option.or_eq_none_iff.mp hreading).2
    exact .inr ⟨vars, hvars, rfl⟩

theorem spares_memory_set (readOnly : Scoped Bool) (scope : Scope) (key : String)
    (value : Option String) (vars : Variables) :
    Medium.memory.Spares scope (some key) vars
      (runIn vars ((memory readOnly).set scope key value)).2 := by
  simp only [memory]
  cases readOnly.get scope with
  | true => exact .refl scope (some key) vars
  | false =>
    constructor
    case elsewhere =>
      intro other hother
      exact (Scoped.get_set ..).trans (if_neg hother)
    case others =>
      rintro _ ⟨⟩
      refine ⟨_, congrArg some ((Scoped.get_set ..).trans (if_pos rfl)), ?_⟩
      intro name hname
      have hne : name ≠ key := fun heq => hname (congrArg some heq.symm)
      exact (Dict.get?_alter ..).trans (if_neg hne)
    case corrupt => rintro ⟨⟩

theorem spares_files_insert {paths : Scoped String} (hpaths : paths.user ≠ paths.system)
    {files : Files} {scope : Scope} {vars : Dict String}
    (h : FileStore.contents paths files scope = .ok vars) (key : String) (value : Option String) :
    (Medium.files paths).Spares scope (some key) files
      (files.insert (paths.get scope) (Toml.encode (vars.alter key value))) where
  elsewhere other hother := by
    have hpath : paths.get other ≠ paths.get scope := mt (Scoped.get_inj hpaths).mp hother
    exact (Dict.get?_insert ..).trans (if_neg hpath)
  others before hbefore := by
    obtain rfl : vars = before := Except.ok.inj (h.symm.trans (Medium.contents?_files.mp hbefore))
    have hafter := FileStore.contents_insert_encode paths files scope (vars.alter key value)
    refine ⟨_, Medium.contents?_files.mpr hafter, ?_⟩
    intro name hname
    have hne : name ≠ key := fun heq => hname (congrArg some heq.symm)
    rw [Dict.get?_alter, if_neg hne]
  corrupt hnone := nomatch hnone.symm.trans (Medium.contents?_files.mpr h)

theorem spares_file_set (faults : FileFaults) {paths : Scoped String}
    (hpaths : paths.user ≠ paths.system) (scope : Scope) (key : String) (value : Option String)
    (files : Files) :
    (Medium.files paths).Spares scope (some key) files
      (runIn files ((file (FileSystem.memory.withFaults faults) paths).set scope key value)).2 := by
  rcases exists_contents_of_call faults paths files (.set scope key value) with
    ⟨error, hcall⟩ | ⟨vars, hvars, hcall⟩
  · have hstate := congrArg Prod.snd hcall
    simp only [call, runIn_map] at hstate
    rw [hstate]
    exact .refl scope (some key) files
  · have hstate := congrArg Prod.snd hcall
    simp only [call, runIn_map] at hstate
    rw [hstate, runIn_file_set paths files scope key hvars]
    dsimp only
    split
    · exact .refl scope (some key) files
    · exact spares_files_insert hpaths hvars key value

theorem KeptIn.spares_set (h : store.KeptIn medium) (scope : Scope) (key : String)
    (value : Option String) (state : σ) :
    medium.Spares scope (some key) state (runIn state (store.set scope key value)).2 := by
  induction h generalizing value with
  | memory readOnly => exact spares_memory_set readOnly scope key value state
  | file faults hpaths => exact spares_file_set faults hpaths scope key value state
  | keeping count _ ih => exact ih _ state
  | withFaults faults _ ih =>
    simp only [Store.withFaults, failing]
    cases faults.set with
    | some fault => exact .refl scope (some key) state
    | none => exact ih value state

/-- Whether two stores differ at most in the writes that they refuse: in scopes that are read only,
and in the faults of setting a variable, of writing a file and of making its directory. -/
inductive DiffersInWrites : {σ : Type} → Store (StateM σ) → Store (StateM σ) → Prop
  | memory (readOnly others : Scoped Bool) : DiffersInWrites (memory readOnly) (memory others)
  | file (faults others : FileFaults) (hread : faults.read = others.read) (paths : Scoped String) :
      DiffersInWrites (file (FileSystem.memory.withFaults faults) paths)
        (file (FileSystem.memory.withFaults others) paths)
  | keeping {σ : Type} {store other : Store (StateM σ)} (count : Nat)
      (h : DiffersInWrites store other) : DiffersInWrites (store.keeping count) (other.keeping count)
  | withFaults {σ : Type} {store other : Store (StateM σ)} (faults others : Faults)
      (hlist : faults.list = others.list) (hget : faults.get = others.get)
      (h : DiffersInWrites store other) :
      DiffersInWrites (store.withFaults faults) (other.withFaults others)

theorem DiffersInWrites.reads_eq (h : store.DiffersInWrites other) :
    store.list = other.list ∧ store.get = other.get := by
  induction h with
  | memory => exact ⟨rfl, rfl⟩
  | file faults others hread paths =>
    have hsystem : (FileSystem.memory.withFaults faults).read =
        (FileSystem.memory.withFaults others).read := by
      simp only [FileSystem.withFaults, hread]
    have hload : FileStore.load (FileSystem.memory.withFaults faults) paths =
        FileStore.load (FileSystem.memory.withFaults others) paths := by
      funext scope
      simp only [FileStore.load, hsystem]
      rfl
    exact ⟨by simp only [Store.file, hload], by simp only [Store.file, hload]⟩
  | keeping count _ ih => exact ih
  | withFaults faults others hlist hget _ ih =>
    simp only [Store.withFaults, hlist, hget, ih.1, ih.2, and_self]

end Store

end ScopedVars
