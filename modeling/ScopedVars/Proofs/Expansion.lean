import Mathlib.Data.List.Infix
import ScopedVars.Expansion

/-! # What an expansion depends on

To expand a path, the environment is asked for the home directory and for variables whose names
stand in the path, and for nothing else. Environments that agree on these expand the path alike, and
a plain path asks for nothing.
-/

namespace ScopedVars

/-- Whether two environments agree on the home directory, and on every variable whose name stands
somewhere in a text. -/
structure Environment.AgreeOn (environment other : Environment) (text : List Char) : Prop where
  home : environment.home? = other.home?
  vars : ∀ name : String, name.toList <:+: text → environment.get? name = other.get? name

variable {environment other : Environment} {text inner : List Char}

namespace Environment

theorem AgreeOn.mono (h : environment.AgreeOn other text) (hinner : inner <:+: text) :
    environment.AgreeOn other inner where
  home := h.home
  vars name hname := h.vars name (hname.trans hinner)

theorem value?_congr (h : environment.AgreeOn other text) {name : List Char}
    (hname : name <:+: text) : environment.value? name = other.value? name := by
  have hkey : environment.get? (.ofList (name.takeWhile (· ≠ '='))) =
      other.get? (.ofList (name.takeWhile (· ≠ '='))) := by
    apply h.vars
    rw [String.toList_ofList]
    exact (List.takeWhile_prefix _).isInfix.trans hname
  simp only [value?, hkey]

end Environment

namespace Expansion

theorem name_at_front_of_go {name default : List Char}
    (h : splitDefault.go text = some (name, default)) : name <+: text := by
  fun_induction splitDefault.go text generalizing name with
  | case1 => cases h
  | case2 rest =>
    cases h
    exact List.nil_prefix
  | case3 c rest _ ih =>
    obtain ⟨⟨tail, _⟩, hgo, heq⟩ := Option.map_eq_some_iff.mp h
    cases heq
    exact (List.prefix_cons_inj c).mpr (ih hgo)

theorem name_at_front (inner : List Char) : (splitDefault inner).1 <+: inner := by
  unfold splitDefault
  split
  case h_1 c name default hgo => exact name_at_front_of_go hgo
  case h_2 => exact List.prefix_rfl

theorem braced?_congr (h : environment.AgreeOn other inner) :
    braced? environment inner = braced? other inner := by
  have hname := Environment.value?_congr h (name_at_front inner).isInfix
  simp only [braced?, hname]

theorem reference?_congr (h : environment.AgreeOn other text) :
    reference? environment text = reference? other text := by
  unfold reference?
  split
  case h_1 => rfl
  case h_2 rest =>
    have hinner : rest.takeWhile (· ≠ '}') <:+: '{' :: rest :=
      (List.takeWhile_prefix _).isInfix.trans (List.suffix_cons '{' rest).isInfix
    simp only [braced?_congr (h.mono hinner)]
  case h_3 =>
    simp only [Environment.value?_congr h (List.takeWhile_prefix isNameChar).isInfix]

theorem variables?_congr (h : environment.AgreeOn other text) (skip : Nat) :
    variables? environment skip text = variables? other skip text := by
  induction text generalizing skip with
  | nil => rfl
  | cons c rest ih =>
    have hrest := h.mono (List.suffix_cons c rest).isInfix
    cases skip with
    | succ skip => exact ih hrest skip
    | zero => simp only [variables?, reference?_congr hrest, ih hrest]

/-- Environments that agree on the home directory and on the variables whose names stand in a path
expand it alike. -/
theorem expand_congr {path : String} (h : environment.AgreeOn other path.toList) :
    expand environment path = expand other path := by
  have hhome (text : List Char) : homePath environment text = homePath other text := by
    unfold homePath
    rw [h.home]
  simp only [expand, variables?_congr h, hhome]

end Expansion

/-- Whether a path has no dollar in it and no tilde in front. -/
def IsPlainPath (path : String) : Prop := '$' ∉ path.toList ∧ path.toList.head? ≠ some '~'

namespace Expansion

theorem variables?_of_not_mem (environment : Environment) {text : List Char} (h : '$' ∉ text) :
    variables? environment 0 text = some text := by
  induction text with
  | nil => rfl
  | cons c rest ih =>
    rw [List.mem_cons, not_or] at h
    have hc : (c == '$') = false := beq_false_of_ne (Ne.symm h.1)
    simp [variables?, hc, ih h.2]

theorem expand_of_isPlainPath (environment : Environment) {path : String} (h : IsPlainPath path) :
    expand environment path = path := by
  rw [expand, variables?_of_not_mem environment h.1]
  dsimp only
  rw [if_neg h.2, String.ofList_toList]

end Expansion

end ScopedVars
