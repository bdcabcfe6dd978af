import ScopedVars.Proofs.Store.Medium

/-! # Files that are written over

A call that sets or removes a variable acts on the file of its scope alone, and what it makes of
this file depends only on what is there. A value that is set hides what was set before, and calls
about distinct variables can change places: in both cases the file has the same text afterwards.
-/

namespace ScopedVars

namespace Dict

variable {α : Type} (dict : Dict α)

theorem alter_get? (key : String) : dict.alter key (dict.get? key) = dict := by
  ext1 name
  grind

theorem alter_alter (key : String) (old value : Option α) :
    (dict.alter key old).alter key value = dict.alter key value := by
  ext1 name
  grind

theorem alter_comm {key other : String} (h : key ≠ other) (value old : Option α) :
    (dict.alter other old).alter key value = (dict.alter key value).alter other old := by
  ext1 name
  grind

theorem contains_alter {key other : String} (h : key ≠ other) (old : Option α) :
    (dict.alter other old).contains key = dict.contains key := by
  simp [contains, h]

end Dict

namespace FileStore

/-- The variables in a file, which may be missing; none if it is no store file. -/
def variables? : Option String → Option (Dict String)
  | none => some ∅
  | some text => (Toml.decode text).toOption

/-- Whether a variable is to be removed that is not there. -/
def isSpared (vars : Dict String) (key : String) (value : Option String) : Bool :=
  value.isNone && !vars.contains key

/-- What takes the place of a file when a variable in it is set or removed. A file that is no store
file stays, and so does one that lacks the variable to remove. -/
def rewritten (key : String) (value file? : Option String) : Option String :=
  match variables? file? with
  | none => file?
  | some vars =>
    if isSpared vars key value then file? else some (Toml.encode (vars.alter key value))

variable {key other : String} {value old file? : Option String} {vars : Dict String}

theorem alter_of_isSpared (h : isSpared vars key value = true) : vars.alter key value = vars := by
  rw [isSpared, Bool.and_eq_true, Option.isNone_iff_eq_none, Bool.not_eq_true'] at h
  obtain ⟨rfl, habsent⟩ := h
  exact Dict.erase_of_not_contains habsent

theorem isSpared_alter (vars : Dict String) (h : key ≠ other) (value old : Option String) :
    isSpared (vars.alter other old) key value = isSpared vars key value := by
  rw [isSpared, isSpared, vars.contains_alter h]

theorem variables?_encode (vars : Dict String) :
    variables? (some (Toml.encode vars)) = some vars := by
  simp only [variables?, Toml.decode_encode, Except.toOption]

theorem rewritten_of_none (h : variables? file? = none) : rewritten key value file? = file? := by
  rw [rewritten, h]

theorem rewritten_of_isSpared (h : variables? file? = some vars)
    (hspared : isSpared vars key value = true) : rewritten key value file? = file? := by
  rw [rewritten, h]
  exact if_pos hspared

theorem rewritten_of_not_isSpared (h : variables? file? = some vars)
    (hspared : isSpared vars key value = false) :
    rewritten key value file? = some (Toml.encode (vars.alter key value)) := by
  rw [rewritten, h]
  exact if_neg (Bool.eq_false_iff.mp hspared)

theorem variables?_rewritten (h : variables? file? = some vars) (key : String)
    (value : Option String) :
    variables? (rewritten key value file?) = some (vars.alter key value) := by
  cases hspared : isSpared vars key value with
  | true => rw [rewritten_of_isSpared h hspared, h, alter_of_isSpared hspared]
  | false => rw [rewritten_of_not_isSpared h hspared, variables?_encode]

theorem rewritten_some_rewritten (key text : String) (old file? : Option String) :
    rewritten key (some text) (rewritten key old file?) = rewritten key (some text) file? := by
  cases h : variables? file? with
  | none =>
    have hstays : rewritten key old file? = file? := rewritten_of_none h
    rw [hstays]
  | some vars =>
    have hafter := variables?_rewritten h key old
    rw [rewritten_of_not_isSpared hafter rfl, rewritten_of_not_isSpared h rfl, Dict.alter_alter]

theorem rewritten_comm (h : key ≠ other) (value old file? : Option String) :
    rewritten key value (rewritten other old file?) =
      rewritten other old (rewritten key value file?) := by
  cases hvars : variables? file? with
  | none =>
    have hstays (name : String) (asked : Option String) : rewritten name asked file? = file? :=
      rewritten_of_none hvars
    simp only [hstays]
  | some vars =>
    have hkey := variables?_rewritten hvars key value
    have hother := variables?_rewritten hvars other old
    have hkeeps := isSpared_alter vars h value old
    have hkeeps' := isSpared_alter vars h.symm old value
    cases hspared : isSpared vars key value with
    | true =>
      rw [rewritten_of_isSpared hother (hkeeps.trans hspared), rewritten_of_isSpared hvars hspared]
    | false =>
      cases hspared' : isSpared vars other old with
      | true =>
        rw [rewritten_of_isSpared hvars hspared',
          rewritten_of_isSpared hkey (hkeeps'.trans hspared')]
      | false =>
        rw [rewritten_of_not_isSpared hother (hkeeps.trans hspared),
          rewritten_of_not_isSpared hkey (hkeeps'.trans hspared'), vars.alter_comm h]

variable (paths : Scoped String) {files : Files} {scope : Scope}

theorem contents?_eq_variables? (files : Files) (scope : Scope) :
    (Medium.files paths).contents? files scope = variables? (files.get? (paths.get scope)) := by
  simp only [Medium.contents?, Medium.files]
  cases files.get? (paths.get scope) <;> rfl

theorem variables?_eq_some_iff :
    variables? (files.get? (paths.get scope)) = some vars ↔
      contents paths files scope = .ok vars := by
  rw [← contents?_eq_variables?, Medium.contents?_files]

theorem variables?_of_contents_error {error : StoreError}
    (h : contents paths files scope = .error error) :
    variables? (files.get? (paths.get scope)) = none := by
  rw [Option.eq_none_iff_forall_ne_some]
  intro vars hvars
  cases h.symm.trans ((variables?_eq_some_iff paths).mp hvars)

theorem contents_congr {after : Files}
    (h : after.get? (paths.get scope) = files.get? (paths.get scope)) :
    contents paths after scope = contents paths files scope := by
  rw [contents, h, contents]

/-- All that a call does that sets or removes a variable. -/
theorem runIn_set (files : Files) (scope : Scope) (key : String) (value : Option String) :
    runIn files ((Store.file .memory paths).set scope key value) =
      ((contents paths files scope).map fun _ => (),
        files.alter (paths.get scope) (rewritten key value (files.get? (paths.get scope)))) := by
  cases hcontents : contents paths files scope with
  | error error =>
    rw [rewritten_of_none (variables?_of_contents_error paths hcontents), Dict.alter_get?]
    simp [Store.file, runIn_load, hcontents, Except.map]
  | ok vars =>
    have hvars := (variables?_eq_some_iff paths).mpr hcontents
    rw [Store.runIn_file_set paths files scope key hcontents]
    refine Prod.ext rfl ?_
    cases hspared : isSpared vars key value with
    | true =>
      rw [rewritten_of_isSpared hvars hspared, Dict.alter_get?]
      exact if_pos hspared
    | false =>
      rw [rewritten_of_not_isSpared hvars hspared]
      exact if_neg (Bool.eq_false_iff.mp hspared)

theorem readable_alter (files : Files) (scope : Scope) (key : String) (value : Option String) :
    ((contents paths (files.alter (paths.get scope)
        (rewritten key value (files.get? (paths.get scope)))) scope).map fun _ => ()) =
      (contents paths files scope).map fun _ => () := by
  cases hcontents : contents paths files scope with
  | error error =>
    rw [rewritten_of_none (variables?_of_contents_error paths hcontents), Dict.alter_get?,
      hcontents]
  | ok vars =>
    have hvars := variables?_rewritten ((variables?_eq_some_iff paths).mpr hcontents) key value
    have hafter : contents paths (files.alter (paths.get scope)
        (rewritten key value (files.get? (paths.get scope)))) scope =
          .ok (vars.alter key value) := by
      rw [← variables?_eq_some_iff, Dict.get?_alter, if_pos rfl, hvars]
    rw [hafter]
    rfl

end FileStore

end ScopedVars
