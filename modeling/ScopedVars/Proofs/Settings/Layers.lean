import ScopedVars.Proofs.Expansion
import ScopedVars.Proofs.FileTree.Store
import ScopedVars.Proofs.Settings.Loading

/-! # Layers of settings

A setting comes from the environment, else from the configuration file in force, else from its
default, and is then expanded. Loading fails for the configuration file exactly if there is one in
force that holds no settings, whatever the environment says beside. What says something about one
setting has no part in the other.
-/

namespace ScopedVars

namespace Settings

/-- What settings are loaded from: files, an environment, and the path of a configuration file if
one is named. -/
structure Surroundings where
  tree : FileTree
  environment : Environment
  named : Option String := none

/-- Whether a variable of this name is for the setting of a scope. -/
def IsNameOf (name : String) (scope : Scope) : Prop :=
  Override.route? name = some (names.get scope).toList

instance (name : String) (scope : Scope) : Decidable (IsNameOf name scope) :=
  inferInstanceAs (Decidable (_ = _))

namespace Surroundings

variable (given other : Surroundings)

def answer : Except Failure Settings :=
  (runIn given.tree (load .tree given.environment given.named)).1

/-- Whether at most one variable is for each setting. -/
def NamedOnce : Prop :=
  ∀ scope, ∀ name ∈ given.environment.vars.keys, ∀ name' ∈ given.environment.vars.keys,
    IsNameOf name scope → IsNameOf name' scope → name = name'

def Overrides (scope : Scope) (value : String) : Prop :=
  ∃ name, given.environment.get? name = some value ∧ IsNameOf name scope

/-- Whether the configuration file at a path counts: the one that is named, or else the usual one if
there is something at its path. -/
def InForce (path : String) : Prop :=
  given.named = some path ∨
    given.named = none ∧ usualConfig? given.environment = some path ∧
      given.tree.present path = true

/-- Whether the text of a file is a document with these entries, and the settings among them are
strings. -/
structure Holds (path : String) (entries : Toml.Entries) : Prop where
  document : ∃ text document, given.tree.read path = .ok text ∧
    Toml.Document.read text.toList = .ok document ∧ document.entries = entries
  strings : ∀ scope value, entries.lookup (names.get scope) = some value →
    ∃ text, value = .string text

def Configures (scope : Scope) (value : String) : Prop :=
  ∃ path entries, given.InForce path ∧ given.Holds path entries ∧
    entries.lookup (names.get scope) = some (.string value)

/-- What the setting of a scope is before it is expanded. -/
inductive Source (scope : Scope) : String → Prop
  | environment {value : String} (h : given.Overrides scope value) : Source scope value
  | file {value : String} (hnone : ∀ value, ¬ given.Overrides scope value)
      (h : given.Configures scope value) : Source scope value
  | default (hnone : ∀ value, ¬ given.Overrides scope value)
      (hsilent : ∀ value, ¬ given.Configures scope value) :
      Source scope ((defaults given.environment).get scope)

structure AgreeAbout (scope : Scope) : Prop where
  environment : ∀ value, given.Overrides scope value ↔ other.Overrides scope value
  file : ∀ value, given.Configures scope value ↔ other.Configures scope value
  default : (defaults given.environment).get scope = (defaults other.environment).get scope

/-- How settings come about from the layers. In `stops` a number below zero is out of reach whatever
other variables there are: where one of them fills the same list, variables that are followed in
another order need not stop the load. -/
structure Layered : Prop where
  config_iff : (∃ report, given.answer = .error (.config report)) ↔
    ∃ path, given.InForce path ∧ ∀ entries, ¬ given.Holds path entries
  loads : (∀ path, given.InForce path → ∃ entries, given.Holds path entries) →
    Override.unreachable? given.environment = none →
      ∃ settings, given.answer = .ok settings ∧
        ∀ scope, ∃ path, (∀ source, given.Source scope source ↔ source = path) ∧
          settings.get scope = Expansion.expand given.environment path
  stops : (∀ path, given.InForce path → ∃ entries, given.Holds path entries) →
    ∀ name, Override.unreachable? given.environment = some name →
      given.answer = .error (.unreachable name)
  apart : ∀ other : Surroundings, other.NamedOnce → ∀ settings settings',
    given.answer = .ok settings → other.answer = .ok settings' →
      ∀ scope, given.AgreeAbout other scope →
        (∀ path, given.Source scope path →
          given.environment.AgreeOn other.environment path.toList) →
        settings'.get scope = settings.get scope

variable {given other : Surroundings} {scope : Scope} {layer : Scoped (Option String)}

theorem InForce.unique {path path' : String} (h : given.InForce path) (h' : given.InForce path') :
    path = path' := by
  rcases h with h | ⟨hnamed, husual, -⟩ <;> rcases h' with h' | ⟨hnamed', husual', -⟩
  · exact Option.some.inj (h.symm.trans h')
  · cases h.symm.trans hnamed'
  · cases hnamed.symm.trans h'
  · exact Option.some.inj (husual.symm.trans husual')

theorem Holds.unique {path : String} {entries entries' : Toml.Entries}
    (h : given.Holds path entries) (h' : given.Holds path entries') : entries = entries' := by
  obtain ⟨text, document, hread, hdocument, rfl⟩ := h.document
  obtain ⟨text', document', hread', hdocument', rfl⟩ := h'.document
  obtain rfl := Except.ok.inj (hread.symm.trans hread')
  obtain rfl := Except.ok.inj (hdocument.symm.trans hdocument')
  rfl

theorem Holds.exists_layer {path text : String} {entries : Toml.Entries}
    (h : given.Holds path entries) (hread : given.tree.read path = .ok text) :
    ∃ layer, ofText path text = .ok layer := by
  obtain ⟨text', document, hread', hdocument, rfl⟩ := h.document
  obtain rfl := Except.ok.inj (hread.symm.trans hread')
  obtain ⟨layer, hlayer⟩ := exists_ofEntries h.strings
  exact ⟨layer, (ofText_eq_ok_iff ..).mpr ⟨document, hdocument, hlayer⟩⟩

theorem exists_holds {path text : String} (hread : given.tree.read path = .ok text)
    (h : ofText path text = .ok layer) :
    ∃ entries, given.Holds path entries ∧ ∀ scope value,
      layer.get scope = some value ↔ entries.lookup (names.get scope) = some (.string value) := by
  obtain ⟨document, hdocument, hentries⟩ := (ofText_eq_ok_iff ..).mp h
  have hstrings (scope : Scope) := (Toml.Entries.string?_eq_ok_iff ..).mp
    ((ofEntries_eq_ok_iff ..).mp hentries scope)
  refine ⟨document.entries, ⟨⟨text, document, hread, hdocument, rfl⟩, ?_⟩, ?_⟩
  · intro scope
    exact (hstrings scope).1
  · intro scope value
    exact ((hstrings scope).2 value).symm

theorem exists_configPath (given : Surroundings) :
    ∃ path?, (configPath? .tree given.environment given.named).run given.tree =
        (path?, given.tree) ∧
      ∀ path, path? = some path ↔ given.InForce path := by
  unfold configPath? InForce
  cases given.named with
  | some path => exact ⟨some path, rfl, by simp⟩
  | none =>
    cases usualConfig? given.environment with
    | none => exact ⟨none, rfl, by simp⟩
    | some usual =>
      dsimp only
      rw [StateT.run_bind, FileSystem.run_tree_present]
      cases hpresent : given.tree.present usual with
      | true =>
        refine ⟨some usual, rfl, fun path => ⟨?_, ?_⟩⟩
        · rintro ⟨⟩
          exact .inr ⟨rfl, rfl, hpresent⟩
        · rintro (hnamed | ⟨-, husual, -⟩)
          · cases hnamed
          · exact husual
      | false =>
        refine ⟨none, rfl, fun path => ⟨?_, ?_⟩⟩
        · rintro ⟨⟩
        · rintro (hnamed | ⟨-, husual, hthere⟩)
          · cases hnamed
          · obtain rfl := Option.some.inj husual
            cases hpresent.symm.trans hthere

/-- The settings in the configuration file in force, if the file holds settings. -/
theorem layer_cases (given : Surroundings) :
    (∃ path, given.InForce path ∧ (∀ entries, ¬ given.Holds path entries) ∧
        ∃ failure, (runIn given.tree (Settings.layer .tree given.environment given.named)).1 =
          .error failure) ∨
      (∀ path, given.InForce path → ∃ entries, given.Holds path entries) ∧
        ∃ layer, (runIn given.tree (Settings.layer .tree given.environment given.named)).1 =
            .ok layer ∧
          ∀ scope value, layer.get scope = some value ↔ given.Configures scope value := by
  obtain ⟨path?, hpath, hforce⟩ := given.exists_configPath
  rw [Settings.layer, runIn_bind, runIn_lift, hpath]
  cases path? with
  | none =>
    have hnone (path : String) : ¬ given.InForce path := by
      intro h
      cases (hforce path).mpr h
    refine .inr ⟨fun path h => absurd h (hnone path), .both none, rfl, ?_⟩
    intro scope value
    rw [Scoped.get_both]
    constructor
    · rintro ⟨⟩
    · rintro ⟨path, entries, h, -⟩
      exact absurd h (hnone path)
  | some path =>
    have hpathForce := (hforce path).mp rfl
    simp only [runIn_bind, runIn_adapt, FileSystem.runIn_tree_read]
    cases hread : given.tree.read path with
    | error error =>
      refine .inl ⟨path, hpathForce, ?_, _, rfl⟩
      intro entries h
      obtain ⟨text, document, hread', -⟩ := h.document
      cases hread.symm.trans hread'
    | ok text =>
      simp only [mapError_ok, runIn_ofExcept]
      cases hlayer : ofText path text with
      | error failure =>
        refine .inl ⟨path, hpathForce, ?_, failure, rfl⟩
        intro entries h
        obtain ⟨layer, hlayer'⟩ := h.exists_layer hread
        cases hlayer.symm.trans hlayer'
      | ok layer =>
        obtain ⟨entries, hentries, hvalues⟩ := exists_holds hread hlayer
        refine .inr ⟨?_, layer, rfl, ?_⟩
        · intro path' h
          rw [← hpathForce.unique h]
          exact ⟨entries, hentries⟩
        · intro scope value
          rw [hvalues]
          constructor
          · intro h
            exact ⟨path, entries, hpathForce, hentries, h⟩
          · rintro ⟨path', entries', h, hentries', hvalue⟩
            obtain rfl := hpathForce.unique h
            rwa [hentries.unique hentries']

theorem Overrides.unique (honce : given.NamedOnce) {value value' : String}
    (h : given.Overrides scope value) (h' : given.Overrides scope value') : value = value' := by
  have hkeys {name text : String} (hget : given.environment.get? name = some text) :
      name ∈ given.environment.vars.keys :=
    List.mem_map.mpr ⟨_, (Dict.get?_eq_some_iff_mem ..).mp hget, rfl⟩
  obtain ⟨name, hget, hname⟩ := h
  obtain ⟨name', hget', hname'⟩ := h'
  obtain rfl := honce scope name (hkeys hget) name' (hkeys hget') hname hname'
  exact Option.some.inj (hget.symm.trans hget')

theorem value?_eq_some_iff (honce : given.NamedOnce) (scope : Scope) (value : String) :
    Override.value? given.environment (names.get scope) = some value ↔
      given.Overrides scope value := by
  have hfound {entry : String × String} (hfind : (given.environment.vars.entries.find? fun entry =>
      Override.route? entry.1 = some (names.get scope).toList) = some entry) :
      given.Overrides scope entry.2 := by
    have hroute := List.find?_some hfind
    refine ⟨entry.1, ?_, of_decide_eq_true hroute⟩
    exact (Dict.get?_eq_some_iff_mem ..).mpr (List.mem_of_find?_eq_some hfind)
  rw [Override.value?, Option.map_eq_some_iff]
  constructor
  · rintro ⟨entry, hfind, rfl⟩
    exact hfound hfind
  · intro h
    cases hfind : given.environment.vars.entries.find? fun entry =>
        Override.route? entry.1 = some (names.get scope).toList with
    | none =>
      obtain ⟨name, hget, hname⟩ := h
      rw [List.find?_eq_none] at hfind
      have hmem := (Dict.get?_eq_some_iff_mem ..).mp hget
      exact absurd (decide_eq_true hname) (hfind (name, value) hmem)
    | some entry => exact ⟨entry, rfl, (hfound hfind).unique honce h⟩

theorem Configures.unique {value value' : String} (h : given.Configures scope value)
    (h' : given.Configures scope value') : value = value' := by
  obtain ⟨path, entries, hforce, hentries, hlookup⟩ := h
  obtain ⟨path', entries', hforce', hentries', hlookup'⟩ := h'
  obtain rfl := hforce.unique hforce'
  obtain rfl := hentries.unique hentries'
  exact Toml.Value.string.inj (Option.some.inj (hlookup.symm.trans hlookup'))

theorem Source.unique (honce : given.NamedOnce) {path path' : String}
    (h : given.Source scope path) (h' : given.Source scope path') : path = path' := by
  cases h with
  | environment h =>
    cases h' with
    | environment h' => exact h.unique honce h'
    | file hnone | default hnone => exact absurd h (hnone path)
  | file hnone h =>
    cases h' with
    | environment h' => exact absurd h' (hnone path')
    | file _ h' => exact h.unique h'
    | default _ hsilent => exact absurd h (hsilent path)
  | default hnone hsilent =>
    cases h' with
    | environment h' => exact absurd h' (hnone path')
    | file _ h' => exact absurd h' (hsilent path')
    | default => rfl

theorem exists_source (honce : given.NamedOnce)
    (hlayer : ∀ scope value, layer.get scope = some value ↔ given.Configures scope value)
    (scope : Scope) :
    ∃ path, given.Source scope path ∧
      (resolve given.environment layer).get scope = Expansion.expand given.environment path := by
  have hfield : (resolve given.environment layer).get scope =
      resolve.field given.environment layer scope := by
    cases scope <;> rfl
  have hoverride := value?_eq_some_iff honce scope
  rw [hfield, resolve.field]
  cases hvalue : Override.value? given.environment (names.get scope) with
  | some value => exact ⟨value, .environment ((hoverride value).mp hvalue), rfl⟩
  | none =>
    have hnone (value : String) : ¬ given.Overrides scope value := by
      rw [← hoverride, hvalue]
      rintro ⟨⟩
    cases hconfig : layer.get scope with
    | some value => exact ⟨value, .file hnone ((hlayer scope value).mp hconfig), rfl⟩
    | none =>
      refine ⟨_, .default hnone ?_, rfl⟩
      intro value
      rw [← hlayer, hconfig]
      rintro ⟨⟩

theorem exists_layer_of_answer {settings : Settings} (h : given.answer = .ok settings) :
    ∃ layer, (∀ scope value, layer.get scope = some value ↔ given.Configures scope value) ∧
      settings = resolve given.environment layer := by
  rw [answer, answer_load] at h
  rcases given.layer_cases with ⟨-, -, -, failure, hfails⟩ | ⟨-, layer, hlayer, hvalues⟩
  · rw [hfails] at h
    cases h
  · rw [hlayer] at h
    refine ⟨layer, hvalues, ?_⟩
    unfold Except.bind effective at h
    cases hmissing : Override.unreachable? given.environment with
    | none =>
      rw [hmissing] at h
      exact (Except.ok.inj h).symm
    | some name =>
      rw [hmissing] at h
      cases h

theorem AgreeAbout.symm (h : given.AgreeAbout other scope) : other.AgreeAbout given scope where
  environment value := (h.environment value).symm
  file value := (h.file value).symm
  default := h.default.symm

theorem AgreeAbout.source (h : given.AgreeAbout other scope) {path : String}
    (hpath : given.Source scope path) : other.Source scope path := by
  cases hpath with
  | environment hvalue => exact .environment ((h.environment path).mp hvalue)
  | file hnone hvalue =>
    exact .file (fun value => mt (h.environment value).mpr (hnone value)) ((h.file path).mp hvalue)
  | default hnone hsilent =>
    rw [h.default]
    exact .default (fun value => mt (h.environment value).mpr (hnone value))
      (fun value => mt (h.file value).mpr (hsilent value))

/-- Settings come from their layers if at most one variable is for each of them. -/
theorem load_layers (given : Surroundings) (honce : given.NamedOnce) : given.Layered := by
  constructor
  case config_iff =>
    rw [answer, answer_load]
    rcases given.layer_cases with ⟨path, hforce, hnone, failure, hfails⟩ | ⟨hall, layer, hlayer, -⟩
    · obtain ⟨report, rfl⟩ := layer_error hfails
      rw [hfails]
      exact iff_of_true ⟨report, rfl⟩ ⟨path, hforce, hnone⟩
    · rw [hlayer]
      refine iff_of_false ?_ ?_
      · rintro ⟨report, h⟩
        obtain ⟨name, -, hname⟩ := effective_error h
        cases hname
      · rintro ⟨path, hforce, hnone⟩
        obtain ⟨entries, hentries⟩ := hall path hforce
        exact hnone entries hentries
  case loads =>
    intro hall hreach
    rw [answer, answer_load]
    rcases given.layer_cases with ⟨path, hforce, hnone, -⟩ | ⟨-, layer, hlayer, hvalues⟩
    · obtain ⟨entries, hentries⟩ := hall path hforce
      exact absurd hentries (hnone entries)
    · refine ⟨resolve given.environment layer, ?_, ?_⟩
      · rw [hlayer, Except.bind, effective, hreach]
      · intro scope
        obtain ⟨path, hpath, hfield⟩ := exists_source honce hvalues scope
        refine ⟨path, fun source => ⟨?_, ?_⟩, hfield⟩
        · intro hsource
          exact hsource.unique honce hpath
        · rintro rfl
          exact hpath
  case stops =>
    intro hall name hname
    rw [answer, answer_load]
    rcases given.layer_cases with ⟨path, hforce, hnone, -⟩ | ⟨-, layer, hlayer, -⟩
    · obtain ⟨entries, hentries⟩ := hall path hforce
      exact absurd hentries (hnone entries)
    · rw [hlayer, Except.bind, effective, hname]
  case apart =>
    intro other honce' settings settings' hanswer hanswer' scope hagree hexpand
    obtain ⟨layer, hvalues, rfl⟩ := exists_layer_of_answer hanswer
    obtain ⟨layer', hvalues', rfl⟩ := exists_layer_of_answer hanswer'
    obtain ⟨path, hpath, hfield⟩ := exists_source honce hvalues scope
    obtain ⟨path', hpath', hfield'⟩ := exists_source honce' hvalues' scope
    obtain rfl : path = path' := (hagree.source hpath).unique honce' hpath'
    rw [hfield, hfield', Expansion.expand_congr (hexpand path hpath)]

def mixedText : String := "user_store = \"$HOME/u\"\nsystem_store = \"/s\"\nother = 1\n"

def mixed : Surroundings where
  tree := { entries := [(["c"], .file (.text mixedText))] }
  environment := ⟨.ofList [("EnvEdit_System_Store", ""), ("HOME", "/h")], none⟩
  named := some "/c"

theorem load_layers_mixed :
    mixed.NamedOnce ∧ mixed.InForce "/c" ∧ mixed.Source .user "$HOME/u" ∧
      mixed.Source .system "" ∧ mixed.answer = .ok ⟨"/h/u", ""⟩ := by
  have honce : mixed.NamedOnce := by
    rintro (_ | _)
    · decide
    · decide
  have hforce : mixed.InForce "/c" := .inl rfl
  have hread : mixed.tree.read "/c" = .ok mixedText := by decide
  have hlayer : ofText "/c" mixedText = .ok ⟨some "$HOME/u", some "/s"⟩ := by decide +kernel
  obtain ⟨entries, hentries, hvalues⟩ := exists_holds hread hlayer
  have huser : mixed.Source .user "$HOME/u" := by
    refine .file ?_ ⟨"/c", entries, hforce, hentries, (hvalues .user "$HOME/u").mp rfl⟩
    intro value hvalue
    have hnone : Override.value? mixed.environment (names.get .user) = none := by decide
    cases hnone.symm.trans ((value?_eq_some_iff honce .user value).mpr hvalue)
  have hsystem : mixed.Source .system "" :=
    .environment ⟨"EnvEdit_System_Store", by decide, by decide⟩
  obtain ⟨settings, hanswer, hfields⟩ := (load_layers mixed honce).loads
    (by
      intro path h
      rw [← hforce.unique h]
      exact ⟨entries, hentries⟩)
    (by decide)
  obtain ⟨path, hpath, hsettings⟩ := hfields .user
  obtain rfl := (hpath "$HOME/u").mp huser
  obtain ⟨path, hpath, hsettings'⟩ := hfields .system
  obtain rfl := (hpath "").mp hsystem
  obtain rfl : settings = ⟨"/h/u", ""⟩ :=
    Scoped.ext (hsettings.trans (by decide +kernel)) (hsettings'.trans (by decide +kernel))
  exact ⟨honce, hforce, huser, hsystem, hanswer⟩

def belowZero : Surroundings where
  tree := {}
  environment := withItem "-1"

/-- An item below zero, though no variable leads to a setting or below one, keeps the settings from
being loaded, and it is no fault of a configuration file. -/
theorem load_layers_below_zero :
    belowZero.environment.get? "HOME" = some "/h" ∧
      (∀ scope, ∀ name ∈ belowZero.environment.vars.keys, ∀ route ∈ Override.route? name,
        ¬ (names.get scope).toList <+: route) ∧
      (∀ path, ¬ belowZero.InForce path) ∧
      belowZero.answer = .error (.unreachable "ENVEDIT_A[-1]") := by
  have hpresent : belowZero.tree.present "/h/.config/envedit/envedit.toml" = false := by decide
  refine ⟨by decide, ?_, ?_, by decide +kernel⟩
  · rintro (_ | _)
    · decide
    · decide
  · rintro path (hnamed | ⟨-, husual, hthere⟩)
    · cases hnamed
    · have hpath : usualConfig? belowZero.environment = some "/h/.config/envedit/envedit.toml" := by
        decide
      obtain rfl := Option.some.inj (hpath.symm.trans husual)
      cases hpresent.symm.trans hthere

end Surroundings

end Settings

end ScopedVars
