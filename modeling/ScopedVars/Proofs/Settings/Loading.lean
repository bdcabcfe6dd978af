import ScopedVars.Proofs.Settings.RoundTrip

/-! # How settings load

Settings load if the configuration file in force holds a document in which the settings are strings,
and if every variable of the environment can be followed. Otherwise the failure tells which of the
two is missing; the file comes first.
-/

namespace ScopedVars

theorem Scope.forall_iff {P : Scope → Prop} : (∀ scope, P scope) ↔ P .user ∧ P .system := by
  constructor
  · intro h
    exact ⟨h .user, h .system⟩
  · rintro ⟨huser, hsystem⟩ (_ | _)
    · exact huser
    · exact hsystem

namespace Toml

theorem Entries.string?_eq_ok_iff (entries : Entries) (key : String) (text? : Option String) :
    entries.string? key = .ok text? ↔
      (∀ value, entries.lookup key = some value → ∃ text, value = .string text) ∧
        ∀ text, entries.lookup key = some (.string text) ↔ text? = some text := by
  unfold string?
  cases entries.lookup key with
  | none => simp [eq_comm, Option.eq_none_iff_forall_ne_some]
  | some value =>
    cases value with
    | string text =>
      simp only [Except.ok.injEq, Option.some.injEq, Value.string.injEq, forall_eq',
        exists_eq', true_and]
      constructor
      · rintro rfl other
        exact Option.some_inj.symm
      · intro h
        exact ((h text).mp rfl).symm
    | _ => simp

theorem Entries.exists_string? {entries : Entries} {key : String}
    (h : ∀ value, entries.lookup key = some value → ∃ text, value = .string text) :
    ∃ text?, entries.string? key = .ok text? := by
  unfold string?
  cases hlookup : entries.lookup key with
  | none => exact ⟨none, rfl⟩
  | some value =>
    obtain ⟨text, rfl⟩ := h value hlookup
    exact ⟨some text, rfl⟩

end Toml

namespace Settings

theorem ofEntries_eq_ok_iff (entries : Toml.Entries) (layer : Scoped (Option String)) :
    ofEntries entries = .ok layer ↔
      ∀ scope, entries.string? (names.get scope) = .ok (layer.get scope) := by
  rw [Scope.forall_iff, ofEntries]
  change _ ↔ entries.string? names.user = .ok layer.user ∧
    entries.string? names.system = .ok layer.system
  cases entries.string? names.user with
  | error key => simp [bind, Except.bind]
  | ok user =>
    cases entries.string? names.system with
    | error key => simp [bind, Except.bind]
    | ok system => simp [bind, Except.bind, pure, Except.pure, Scoped.ext_iff]

theorem ofText_eq_ok_iff (path text : String) (layer : Scoped (Option String)) :
    ofText path text = .ok layer ↔
      ∃ document, Toml.Document.read text.toList = .ok document ∧
        ofEntries document.entries = .ok layer := by
  rw [ofText, Toml.readWith]
  cases Toml.Document.read text.toList with
  | error refusal => simp
  | ok document => cases hentries : ofEntries document.entries <;> simp [hentries]

theorem exists_ofEntries {entries : Toml.Entries}
    (h : ∀ scope value, entries.lookup (names.get scope) = some value →
      ∃ text, value = .string text) : ∃ layer, ofEntries entries = .ok layer := by
  obtain ⟨user, huser⟩ := Toml.Entries.exists_string? (h .user)
  obtain ⟨system, hsystem⟩ := Toml.Entries.exists_string? (h .system)
  exact ⟨⟨user, system⟩, (ofEntries_eq_ok_iff ..).mpr (Scope.forall_iff.mpr ⟨huser, hsystem⟩)⟩

variable {σ : Type} {system : FileSystem (StateM σ)} {environment : Environment}
  {named : Option String} {state : σ} {failure : Failure}

theorem effective_error {layer : Scoped (Option String)}
    (h : effective environment layer = .error failure) :
    ∃ name, Override.unreachable? environment = some name ∧ failure = .unreachable name := by
  unfold effective at h
  cases hmissing : Override.unreachable? environment with
  | none =>
    rw [hmissing] at h
    cases h
  | some name =>
    rw [hmissing] at h
    cases h
    exact ⟨name, rfl, rfl⟩

theorem ofText_error {path text : String} (h : ofText path text = .error failure) :
    ∃ report, failure = .config report := by
  unfold ofText at h
  split at h
  case h_1 => cases h
  case h_2 =>
    cases h
    exact ⟨_, rfl⟩

theorem layer_error (h : (runIn state (layer system environment named)).1 = .error failure) :
    ∃ report, failure = .config report := by
  unfold layer at h
  rcases error_of_runIn_bind h with hpath | ⟨path?, between, -, h⟩
  · rw [runIn_lift] at hpath
    cases hpath
  · cases path? with
    | none => cases h
    | some path =>
      rcases error_of_runIn_bind h with hread | ⟨text, last, -, h⟩
      · rw [runIn_adapt] at hread
        rcases hanswer : (runIn between (system.read path)).1 with error | text
        · rw [hanswer] at hread
          cases hread
          exact ⟨_, rfl⟩
        · rw [hanswer] at hread
          cases hread
      · rw [runIn_ofExcept] at h
        exact ofText_error h

/-- Settings that do not load have a configuration file that cannot be used, or a variable of the
environment leads to an item that no list has. -/
theorem load_error (h : (runIn state (load system environment named)).1 = .error failure) :
    (∃ report, failure = .config report) ∨
      ∃ name, Override.unreachable? environment = some name ∧ failure = .unreachable name := by
  unfold load at h
  rcases error_of_runIn_bind h with hlayer | ⟨layer, between, -, h⟩
  · exact .inl (layer_error hlayer)
  · rw [runIn_ofExcept] at h
    exact .inr (effective_error h)

theorem answer_load (system : FileSystem (StateM σ)) (environment : Environment)
    (named : Option String) (state : σ) :
    (runIn state (load system environment named)).1 =
      (runIn state (layer system environment named)).1.bind (effective environment) := by
  rw [load, runIn_bind]
  rcases runIn state (layer system environment named) with ⟨failure | layer, after⟩
  · rfl
  · exact congrArg Prod.fst (runIn_ofExcept (effective environment layer))

end Settings

end ScopedVars
