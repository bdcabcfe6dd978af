import ScopedVars.Proofs.Expansion.Pieces

/-! # References of a path

A path requires the variables that it refers to without a default. If one of them is not set, the
whole path stays as it is; otherwise all its references are replaced, and then a leading tilde.
-/

namespace ScopedVars

namespace Environment

/-- Whether a name is not set in an environment. An empty name never is, nor one with NUL in it. No
variable has an equals sign in its name, but such a name counts as set if the value of the variable
before the sign begins with the rest of the name and another equals sign. -/
inductive Unset (environment : Environment) : List Char → Prop
  | empty : Unset environment []
  | nul {name : List Char} (hnul : '\x00' ∈ name) : Unset environment name
  | missing {name : List Char} (hname : '=' ∉ name)
      (hmissing : environment.get? (.ofList name) = none) : Unset environment name
  | nameless (more : List Char) : Unset environment ('=' :: more)
  | broken {key more : List Char} (hkey : '=' ∉ key)
      (hbroken : ∀ value, environment.get? (.ofList key) = some value →
        ¬ more ++ ['='] <+: value.toList) : Unset environment (key ++ '=' :: more)

variable {environment : Environment} {name key more : List Char}

theorem value?_of_not_mem (hname : '=' ∉ name) (hne : name ≠ []) (hnul : '\x00' ∉ name) :
    environment.value? name = (environment.get? (.ofList name)).map String.toList := by
  have hrest : (name ++ ['=']).drop (name.length + 1) = [] := by simp
  simp only [value?, Expansion.takeWhile_ne_of_not_mem hname, hrest, hne, hnul, or_self, if_false,
    List.isPrefixOf?, Option.map_eq_bind]
  rfl

theorem value?_append_cons (hkey : '=' ∉ key) (hne : key ≠ [])
    (hnul : '\x00' ∉ key ++ '=' :: more) :
    environment.value? (key ++ '=' :: more) =
      (environment.get? (.ofList key)).bind fun value =>
        (more ++ ['=']).isPrefixOf? value.toList := by
  have hrest : (key ++ '=' :: more ++ ['=']).drop (key.length + 1) = more ++ ['='] := by
    simp [List.drop_append]
  simp only [value?, Expansion.takeWhile_ne_append_cons hkey, hrest, hne, hnul, or_self, if_false]

theorem isPrefixOf?_eq_none_iff {start text : List Char} :
    start.isPrefixOf? text = none ↔ ¬ start <+: text := by
  rw [← Option.not_isSome_iff_eq_none, Option.isSome_iff_exists]
  simp only [List.isPrefixOf?_eq_some_iff_append_eq]
  rfl

theorem value?_eq_none_iff : environment.value? name = none ↔ environment.Unset name := by
  constructor
  · intro h
    by_cases hnul : '\x00' ∈ name
    case pos => exact .nul hnul
    by_cases hname : '=' ∈ name
    · obtain ⟨key, more, rfl, hkey⟩ := List.eq_append_cons_of_mem hname
      by_cases hne : key = []
      · rw [hne]
        exact .nameless more
      · rw [value?_append_cons hkey hne hnul] at h
        refine .broken hkey fun value hvalue => ?_
        rw [hvalue, Option.bind_some, isPrefixOf?_eq_none_iff] at h
        exact h
    · by_cases hne : name = []
      · rw [hne]
        exact .empty
      · rw [value?_of_not_mem hname hne hnul, Option.map_eq_none_iff] at h
        exact .missing hname h
  · intro h
    by_cases hnul : '\x00' ∈ name
    · simp [value?, hnul]
    cases h with
    | empty => simp [value?]
    | nul hmem => exact absurd hmem hnul
    | missing hname hmissing =>
      by_cases hne : name = []
      · simp [value?, hne]
      · rw [value?_of_not_mem hname hne hnul, hmissing, Option.map_none]
    | nameless more => simp [value?]
    | @broken key more hkey hbroken =>
      by_cases hne : key = []
      · simp [value?, hne]
      · rw [value?_append_cons hkey hne hnul, Option.bind_eq_none_iff]
        intro value hvalue
        exact isPrefixOf?_eq_none_iff.mpr (hbroken value hvalue)

end Environment

namespace Expansion

/-- Whether one of the pieces is a reference to a variable without a default. -/
def Requires (pieces : List Piece) (name : List Char) : Prop :=
  .bare name ∈ pieces ∨ .braced name none ∈ pieces

variable {environment : Environment} {pieces : List Piece} {path : String}

theorem Piece.value?_eq_none_iff {piece : Piece} :
    piece.value? environment = none ↔
      ∃ name, environment.Unset name ∧ (piece = .bare name ∨ piece = .braced name none) := by
  cases piece with
  | bare name => simp [Piece.value?, Environment.value?_eq_none_iff]
  | braced name default? => cases default? <;> simp [Piece.value?, Environment.value?_eq_none_iff]
  | _ => simp [Piece.value?]

theorem mapM_eq_none_iff :
    pieces.mapM (Piece.value? environment) = none ↔
      ∃ piece ∈ pieces, piece.value? environment = none := by
  induction pieces with
  | nil => simp
  | cons piece pieces ih =>
    rw [List.mapM_cons, List.exists_mem_cons_iff, ← ih]
    cases piece.value? environment with
    | none => simp
    | some value => cases pieces.mapM (Piece.value? environment) <;> simp

theorem mapM_eq_none_iff_requires :
    pieces.mapM (Piece.value? environment) = none ↔
      ∃ name, Requires pieces name ∧ environment.Unset name := by
  simp only [mapM_eq_none_iff, Piece.value?_eq_none_iff, Requires]
  constructor
  · rintro ⟨piece, hpiece, name, hunset, rfl | rfl⟩
    · exact ⟨name, .inl hpiece, hunset⟩
    · exact ⟨name, .inr hpiece, hunset⟩
  · rintro ⟨name, hpiece | hpiece, hunset⟩
    · exact ⟨_, hpiece, name, hunset, .inl rfl⟩
    · exact ⟨_, hpiece, name, hunset, .inr rfl⟩

def joined (environment : Environment) (path : String) (values : List (List Char)) : String :=
  .ofList (if path.toList.head? = some '~' then homePath environment values.flatten
    else values.flatten)

theorem expand_of_divides (h : Divides pieces path.toList) (environment : Environment) :
    expand environment path =
      ((pieces.mapM (Piece.value? environment)).map (joined environment path)).getD path := by
  rw [expand, variables?_of_divides h]
  cases pieces.mapM (Piece.value? environment) <;> rfl

/-- A path is expanded alike in environments of one user that agree on `HOME` and on every variable
whose name stands in the path. If it requires a variable that is not set, nothing in it is expanded;
otherwise everything is. In a plain path there is nothing to expand. -/
theorem expand_whole_or_unchanged (path : String) :
    (∀ vars others userHome, vars.get? "HOME" = others.get? "HOME" →
        (∀ name : String, name.toList <:+: path.toList → vars.get? name = others.get? name) →
        expand ⟨vars, userHome⟩ path = expand ⟨others, userHome⟩ path) ∧
      (∃ pieces, Divides pieces path.toList) ∧
      (∀ pieces, Divides pieces path.toList → ∀ environment,
        (∀ name, Requires pieces name → environment.Unset name →
            expand environment path = path) ∧
          ((∀ name, Requires pieces name → ¬ environment.Unset name) →
            ∃ values, pieces.mapM (Piece.value? environment) = some values ∧
              expand environment path = joined environment path values)) ∧
      (IsPlainPath path → ∀ environment, expand environment path = path) := by
  refine ⟨?_, exists_divides _, ?_, fun hplain environment => expand_of_isPlainPath _ hplain⟩
  · intro vars others userHome hhome hvars
    apply expand_congr
    exact ⟨by simp only [Environment.home?, Environment.get?, hhome], hvars⟩
  · intro pieces hpieces environment
    rw [expand_of_divides hpieces]
    constructor
    · intro name hrequires hunset
      rw [mapM_eq_none_iff_requires.mpr ⟨name, hrequires, hunset⟩]
      rfl
    · intro hset
      have hvalues : pieces.mapM (Piece.value? environment) ≠ none := by
        rw [Ne, mapM_eq_none_iff_requires]
        rintro ⟨name, hrequires, hunset⟩
        exact hset name hrequires hunset
      obtain ⟨values, hvalues⟩ := Option.ne_none_iff_exists'.mp hvalues
      refine ⟨values, hvalues, ?_⟩
      rw [hvalues]
      rfl

def half : Environment := ⟨.ofList [("A", "1"), ("HOME", "/h")], none⟩

def whole : Environment := ⟨.ofList [("A", "1"), ("B", "2"), ("HOME", "/h")], none⟩

def mixed : List Piece := [.letter '~', .letter '/', .bare ['A'], .braced ['B'] none]

theorem divides_mixed : Divides mixed "~/$A$\x7bB\x7d".toList := by
  have hbraced : Piece.Fits [] (.braced ['B'] none) := ⟨by decide, fun h => absurd h (by decide)⟩
  have hbare : Piece.Fits "$\x7bB\x7d".toList (.bare ['A']) := by
    have hname : isNameChar 'A' = true := by decide +kernel
    have hdollar : isNameChar '$' = false := by decide +kernel
    exact ⟨by decide, by simpa using hname, by simpa using hdollar⟩
  have hslash : Piece.Fits "$A$\x7bB\x7d".toList (.letter '/') := (by decide : '/' ≠ '$')
  have htilde : Piece.Fits "/$A$\x7bB\x7d".toList (.letter '~') := (by decide : '~' ≠ '$')
  exact .cons htilde (.cons hslash (.cons hbare (.cons hbraced .nil)))

theorem expand_whole_or_unchanged_mixed :
    half.vars.get? "HOME" = (half.vars.insert "C" "3").get? "HOME" ∧
      (∀ name : String, name.toList <:+: "~/$A$\x7bB\x7d".toList →
        half.vars.get? name = (half.vars.insert "C" "3").get? name) ∧
      expand half "~/$A$\x7bB\x7d" = expand ⟨half.vars.insert "C" "3", none⟩ "~/$A$\x7bB\x7d" ∧
      Divides mixed "~/$A$\x7bB\x7d".toList ∧ Requires mixed ['B'] ∧ half.Unset ['B'] ∧
      expand half "~/$A$\x7bB\x7d" = "~/$A$\x7bB\x7d" ∧
      (∀ name, Requires mixed name → ¬ whole.Unset name) ∧
      expand whole "~/$A$\x7bB\x7d" = "/h/12" ∧
      IsPlainPath "/u" ∧ expand half "/u" = "/u" := by
  have hhome : half.vars.get? "HOME" = (half.vars.insert "C" "3").get? "HOME" := by decide
  have hvars : ∀ name : String, name.toList <:+: "~/$A$\x7bB\x7d".toList →
      half.vars.get? name = (half.vars.insert "C" "3").get? name := by
    intro name hname
    rw [Dict.get?_insert, if_neg]
    rintro rfl
    exact absurd hname (by decide)
  have hrequires : Requires mixed ['B'] := .inr (by simp [mixed])
  have hunset : half.Unset ['B'] := .missing (by decide) (by decide)
  have hset : ∀ name, Requires mixed name → ¬ whole.Unset name := by
    intro name hname
    rw [← Environment.value?_eq_none_iff]
    obtain rfl | rfl : name = ['A'] ∨ name = ['B'] := by simpa [Requires, mixed] using hname
    · decide
    · decide
  have hplain : IsPlainPath "/u" := ⟨by decide, by decide⟩
  obtain ⟨hlocal, -, hdivided, -⟩ := expand_whole_or_unchanged "~/$A$\x7bB\x7d"
  obtain ⟨values, hvalues, hwhole⟩ := (hdivided mixed divides_mixed whole).2 hset
  obtain rfl : values = [['~'], ['/'], ['1'], ['2']] :=
    Option.some.inj (hvalues.symm.trans (by decide))
  exact ⟨hhome, hvars, hlocal _ _ none hhome hvars, divides_mixed, hrequires, hunset,
    (hdivided mixed divides_mixed half).1 _ hrequires hunset, hset, hwhole.trans (by decide),
    hplain, (expand_whole_or_unchanged "/u").2.2.2 hplain half⟩

/-- A reference with an equals sign in its name is replaced though no variable has this name. -/
theorem expand_name_with_equals :
    Divides [.braced ['A', '=', 'B'] none] "$\x7bA=B\x7d".toList ∧
      Requires [.braced ['A', '=', 'B'] none] ['A', '=', 'B'] ∧
      (⟨.ofList [("A", "B=C"), ("HOME", "/h")], none⟩ : Environment).get? "A=B" = none ∧
      expand ⟨.ofList [("A", "B=C"), ("HOME", "/h")], none⟩ "$\x7bA=B\x7d" = "C" ∧
      "C" ≠ "$\x7bA=B\x7d" := by
  have hfits : Piece.Fits [] (.braced ['A', '=', 'B'] none) :=
    ⟨by decide, fun h => absurd h (by decide)⟩
  exact ⟨.cons hfits .nil, .inr List.mem_cons_self, by decide, by decide, by decide⟩

end Expansion

end ScopedVars
