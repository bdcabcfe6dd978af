import ScopedVars.Proofs.Expansion
import ScopedVars.Proofs.Store.Persistence
import ScopedVars.Settings

/-! # Settings that are written load back

The text that shows the settings is a configuration file. When it is loaded as such, each path is
read as it was written and nothing in a plain path is expanded. Variables of the environment that
give no value to a setting have no effect, but a number in the name of one may lead nowhere.
-/

namespace ScopedVars

namespace Settings

theorem ofEntries_strings (settings : Settings) :
    ofEntries [(names.user, .string settings.user), (names.system, .string settings.system)] =
      .ok (settings.map some) := rfl

theorem ofText_toToml (path : String) (settings : Settings) :
    ofText path settings.toToml = .ok (settings.map some) := by
  have hkeys : ([(names.user, settings.user), (names.system, settings.system)].map
      Prod.fst).Nodup := by
    simp [names]
  obtain ⟨document, hread, hentries⟩ := Toml.read_writeStrings hkeys
  rw [ofText, Toml.readWith, toToml, hread]
  simp only [hentries, List.map_cons, List.map_nil, ofEntries_strings]

theorem resolve_map_some {environment : Environment} {settings : Settings}
    (hplain : ∀ scope, IsPlainPath (settings.get scope))
    (hoverride : ∀ scope, Override.value? environment (names.get scope) = none) :
    resolve environment (settings.map some) = settings := by
  have hfield (scope : Scope) :
      resolve.field environment (settings.map some) scope = settings.get scope := by
    rw [resolve.field, hoverride, Scoped.get_map]
    exact Expansion.expand_of_isPlainPath environment (hplain scope)
  exact Scoped.ext (hfield .user) (hfield .system)

variable {σ : Type} {state after : σ} {system : FileSystem (StateM σ)} {path text : String}

theorem runIn_ofExcept {ε α : Type} (answer : Except ε α) :
    runIn state (MonadExcept.ofExcept answer : ExceptT ε (StateM σ) α) = (answer, state) := by
  cases answer <;> rfl

theorem runIn_load_of_read (hread : runIn state (system.read path) = (.ok text, after))
    (environment : Environment) :
    runIn state (load system environment (some path)) =
      ((ofText path text).bind (effective environment), after) := by
  have hlayer : runIn state (layer system environment (some path)) = (ofText path text, after) := by
    simp [layer, configPath?, hread, runIn_ofExcept]
  simp only [load, runIn_bind, hlayer]
  cases ofText path text with
  | error failure => rfl
  | ok layer => exact runIn_ofExcept _

/-- If the text of settings with plain paths is the configuration file that is named, and the
environment gives no value to a setting, then loading gives the same settings, unless a variable of
the environment leads to an item that no list has. -/
theorem load_toToml {settings : Settings} {environment : Environment}
    (hplain : ∀ scope, IsPlainPath (settings.get scope))
    (hoverride : ∀ scope, Override.value? environment (names.get scope) = none)
    (hread : runIn state (system.read path) = (.ok settings.toToml, after)) :
    runIn state (load system environment (some path)) =
      (match Override.unreachable? environment with
        | none => .ok settings
        | some name => .error (.unreachable name), after) := by
  have hresolve := resolve_map_some hplain hoverride
  rw [runIn_load_of_read hread, ofText_toToml]
  cases hmissing : Override.unreachable? environment with
  | none => simp only [Except.bind, effective, hmissing, hresolve]
  | some name => simp only [Except.bind, effective, hmissing]

/-- A home directory, and a variable for an item of a list that is no setting. -/
def withItem (index : String) : Environment :=
  ⟨.ofList [("HOME", "/h"), ("ENVEDIT_A[" ++ index ++ "]", "x")], none⟩

theorem runIn_read_toToml (settings : Settings) :
    runIn ((∅ : Files).insert "c" settings.toToml) (FileSystem.memory.read "c") =
      (.ok settings.toToml, (∅ : Files).insert "c" settings.toToml) := by
  simp

def odd : Settings := ⟨"a'\"\"\"\nb", "\\\r'''"⟩

theorem load_toToml_odd :
    (∀ scope, IsPlainPath (odd.get scope)) ∧
      (∀ scope, Override.value? (withItem "1") (names.get scope) = none) ∧
      runIn ((∅ : Files).insert "c" odd.toToml) (FileSystem.memory.read "c") =
        (.ok odd.toToml, (∅ : Files).insert "c" odd.toToml) ∧
      runIn ((∅ : Files).insert "c" odd.toToml) (load .memory (withItem "1") (some "c")) =
        (.ok odd, (∅ : Files).insert "c" odd.toToml) := by
  have hplain : ∀ scope, IsPlainPath (odd.get scope) := by
    rintro (_ | _)
    · exact ⟨by decide, by decide⟩
    · exact ⟨by decide, by decide⟩
  have hoverride : ∀ scope, Override.value? (withItem "1") (names.get scope) = none := by
    rintro (_ | _)
    · decide
    · decide
  have hreach : Override.unreachable? (withItem "1") = none := by decide
  have hload := load_toToml hplain hoverride (runIn_read_toToml odd)
  rw [hreach] at hload
  exact ⟨hplain, hoverride, runIn_read_toToml odd, hload⟩

/-- An item below zero, though it is of no setting, keeps the settings from being loaded. -/
theorem load_toToml_below_zero :
    (∀ scope, IsPlainPath (Scoped.get (⟨"/u", "/s"⟩ : Settings) scope)) ∧
      (withItem "-1").get? "HOME" = some "/h" ∧
      (∀ scope, Override.value? (withItem "-1") (names.get scope) = none) ∧
      runIn ((∅ : Files).insert "c" (toToml ⟨"/u", "/s"⟩)) (FileSystem.memory.read "c") =
        (.ok (toToml ⟨"/u", "/s"⟩), (∅ : Files).insert "c" (toToml ⟨"/u", "/s"⟩)) ∧
      runIn ((∅ : Files).insert "c" (toToml ⟨"/u", "/s"⟩))
          (load .memory (withItem "-1") (some "c")) =
        (.error (.unreachable "ENVEDIT_A[-1]"),
          (∅ : Files).insert "c" (toToml ⟨"/u", "/s"⟩)) := by
  have hplain : ∀ scope, IsPlainPath (Scoped.get (⟨"/u", "/s"⟩ : Settings) scope) := by
    rintro (_ | _)
    · exact ⟨by decide, by decide⟩
    · exact ⟨by decide, by decide⟩
  have hoverride : ∀ scope, Override.value? (withItem "-1") (names.get scope) = none := by
    rintro (_ | _)
    · decide
    · decide
  have hreach : Override.unreachable? (withItem "-1") = some "ENVEDIT_A[-1]" := by decide
  refine ⟨hplain, by decide, hoverride, runIn_read_toToml _, ?_⟩
  rw [runIn_load_of_read (runIn_read_toToml _), ofText_toToml, Except.bind, effective, hreach]

end Settings

end ScopedVars
