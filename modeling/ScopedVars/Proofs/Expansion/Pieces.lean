import Mathlib.Data.List.TakeWhile
import ScopedVars.Proofs.Expansion

/-! # The pieces of a path

A path is divided into references to variables and the characters between them. Every path can be
divided, and its variables are replaced piece by piece: by what all the pieces stand for, or not at
all if one of them stands for nothing.
-/

namespace ScopedVars

namespace Expansion

def separator : List Char := [':', '-']

/-- What a path is made of. -/
inductive Piece where
  /-- A character that stands for itself. -/
  | letter (c : Char)
  /-- A dollar with nothing behind it that makes it a reference. -/
  | dollar
  /-- Two dollars, which stand for one. -/
  | dollars
  /-- A brace that nothing closes. -/
  | unclosed
  | bare (name : List Char)
  | braced (name : List Char) (default? : Option (List Char))

namespace Piece

def inside (name : List Char) : Option (List Char) → List Char
  | none => name
  | some default => name ++ separator ++ default

def written : Piece → List Char
  | letter c => [c]
  | dollar => ['$']
  | dollars => ['$', '$']
  | unclosed => ['$', '{']
  | bare name => '$' :: name
  | braced name default? => '$' :: '{' :: (inside name default? ++ ['}'])

/-- Whether a name ends where its default begins: at the first separator, unless nothing is before
it. -/
def Parts (name : List Char) : Option (List Char) → Prop
  | none => separator <:+: name → separator <+: name
  | some _ => name ≠ [] ∧ ¬ separator <:+: name

/-- Whether a piece can stand before the rest of a path: it would be no longer, and no other piece,
with that rest behind it. -/
def Fits (rest : List Char) : Piece → Prop
  | letter c => c ≠ '$'
  | dollar => ∀ c ∈ rest.head?, c ≠ '$' ∧ c ≠ '{' ∧ isNameChar c = false
  | dollars => True
  | unclosed => '}' ∉ rest
  | bare name =>
    name ≠ [] ∧ (∀ c ∈ name, isNameChar c = true) ∧ ∀ c ∈ rest.head?, isNameChar c = false
  | braced name default? => '}' ∉ inside name default? ∧ Parts name default?

def value? (environment : Environment) : Piece → Option (List Char)
  | letter c => some [c]
  | dollar => some ['$']
  | dollars => some ['$']
  | unclosed => some ['$', '{']
  | bare name => environment.value? name
  | braced name default? => environment.value? name <|> default?

end Piece

/-- Whether a text is divided into pieces. -/
inductive Divides : List Piece → List Char → Prop
  | nil : Divides [] []
  | cons {piece : Piece} {pieces : List Piece} {rest : List Char} (hfits : piece.Fits rest)
      (hrest : Divides pieces rest) : Divides (piece :: pieces) (piece.written ++ rest)

variable {environment : Environment} {c : Char} {name default rest text inner : List Char}
  {default? : Option (List Char)} {piece : Piece} {pieces : List Piece}

theorem takeWhile_ne_of_not_mem (h : c ∉ text) : text.takeWhile (· ≠ c) = text := by
  rw [List.takeWhile_eq_self_iff]
  intro d hd
  exact decide_eq_true (ne_of_mem_of_not_mem hd h)

theorem takeWhile_ne_append_cons (h : c ∉ text) (rest : List Char) :
    (text ++ c :: rest).takeWhile (· ≠ c) = text := by
  rw [List.takeWhile_append_of_pos]
  · simp
  · intro d hd
    exact decide_eq_true (ne_of_mem_of_not_mem hd h)

theorem go_of_prefix (rest : List Char) : splitDefault.go (separator ++ rest) = some ([], rest) :=
  rfl

theorem go_cons (h : ¬ separator <+: c :: rest) :
    splitDefault.go (c :: rest) =
      (splitDefault.go rest).map fun (name, default) => (c :: name, default) := by
  rw [splitDefault.go]
  rintro more rfl rfl
  exact h ⟨more, rfl⟩

theorem separator_prefix_append_iff (c : Char) (name default : List Char) :
    separator <+: c :: (name ++ separator ++ default) ↔ separator <+: c :: name := by
  cases name <;> simp [separator]

theorem go_eq_none_iff : splitDefault.go text = none ↔ ¬ separator <:+: text := by
  induction text with
  | nil => simp [splitDefault.go, separator]
  | cons c rest ih =>
    rw [List.infix_cons_iff]
    by_cases hprefix : separator <+: c :: rest
    · obtain ⟨more, hmore⟩ := hprefix
      simp [← hmore, go_of_prefix]
    · simp [go_cons hprefix, hprefix, ih]

theorem go_eq_some_iff :
    splitDefault.go text = some (name, default) ↔
      text = name ++ separator ++ default ∧ ¬ separator <:+: name := by
  induction text generalizing name with
  | nil => simp [splitDefault.go, separator]
  | cons c rest ih =>
    by_cases hprefix : separator <+: c :: rest
    · obtain ⟨more, hmore⟩ := hprefix
      rw [← hmore, go_of_prefix]
      cases name with
      | nil => simp [separator]
      | cons d name =>
        refine iff_of_false (by simp) ?_
        rintro ⟨heq, hnone⟩
        have hname : separator <+: d :: name := by
          rw [← separator_prefix_append_iff d name default]
          exact ⟨more, heq⟩
        exact hnone hname.isInfix
    · rw [go_cons hprefix]
      cases name with
      | nil =>
        refine iff_of_false (by simp) ?_
        rintro ⟨heq, -⟩
        exact hprefix ⟨default, heq.symm⟩
      | cons d name =>
        have hgo : (splitDefault.go rest).map (fun (name, default) => (c :: name, default)) =
            some (d :: name, default) ↔ c = d ∧ splitDefault.go rest = some (name, default) := by
          cases splitDefault.go rest <;> simp [Prod.ext_iff, and_assoc]
        rw [hgo, ih, List.infix_cons_iff, not_or]
        constructor
        · rintro ⟨rfl, rfl, hnone⟩
          exact ⟨rfl, mt (separator_prefix_append_iff c name default).mpr hprefix, hnone⟩
        · rintro ⟨heq, -, hnone⟩
          obtain ⟨rfl, rfl⟩ := List.cons.inj heq
          exact ⟨rfl, rfl, hnone⟩

theorem splitDefault_eq_iff :
    splitDefault inner = (name, default?) ↔
      inner = Piece.inside name default? ∧ Piece.Parts name default? := by
  constructor
  · intro h
    unfold splitDefault at h
    split at h
    case h_1 c first default hgo =>
      obtain ⟨hinner, hnone⟩ := go_eq_some_iff.mp hgo
      cases h
      exact ⟨hinner, List.cons_ne_nil _ _, hnone⟩
    case h_2 hgo =>
      cases h
      refine ⟨rfl, fun hinfix => ?_⟩
      obtain ⟨⟨first, default⟩, hfound⟩ :=
        Option.ne_none_iff_exists'.mp (mt go_eq_none_iff.mp (not_not_intro hinfix))
      cases first with
      | nil => exact ⟨default, (go_eq_some_iff.mp hfound).1.symm⟩
      | cons c first => exact absurd hfound (hgo c first default)
  · rintro ⟨rfl, hparts⟩
    cases default? with
    | none =>
      unfold splitDefault
      split
      case h_1 c first default hgo =>
        obtain ⟨heq, hnone⟩ := go_eq_some_iff.mp hgo
        have hprefix : separator <+: c :: (first ++ separator ++ default) := by
          rw [Piece.inside] at heq
          rw [← List.cons_append, ← List.cons_append, ← heq]
          apply hparts
          rw [heq]
          exact List.infix_append _ _ _
        rw [separator_prefix_append_iff] at hprefix
        exact absurd hprefix.isInfix hnone
      case h_2 => rfl
    | some default =>
      obtain ⟨hname, hnone⟩ := hparts
      obtain ⟨c, first, rfl⟩ := List.exists_cons_of_ne_nil hname
      rw [splitDefault, Piece.inside, go_eq_some_iff.mpr ⟨rfl, hnone⟩]

theorem takeWhile_isNameChar (h : ∀ c ∈ rest.head?, isNameChar c = false) :
    rest.takeWhile isNameChar = [] := by
  cases rest with
  | nil => rfl
  | cons c rest => simp [h c rfl]

theorem isNameChar_ne (h : isNameChar c = true) : c ≠ '$' ∧ c ≠ '{' := by
  constructor
  · rintro rfl
    exact absurd h (by decide +kernel)
  · rintro rfl
    exact absurd h (by decide +kernel)

theorem reference?_of_head (h : ∀ c ∈ text.head?, c ≠ '$' ∧ c ≠ '{') :
    reference? environment text =
      if (text.takeWhile isNameChar).isEmpty then some (0, ['$'])
      else (environment.value? (text.takeWhile isNameChar)).map fun value =>
        ((text.takeWhile isNameChar).length, value) := by
  unfold reference?
  split
  case h_1 => exact absurd rfl (h '$' rfl).1
  case h_2 => exact absurd rfl (h '{' rfl).2
  case h_3 => rfl

theorem reference?_unclosed (h : '}' ∉ rest) :
    reference? environment ('{' :: rest) = some (1, ['$', '{']) := by
  simp only [reference?, takeWhile_ne_of_not_mem h, lt_irrefl, if_false]

theorem reference?_closed (h : '}' ∉ inner) (rest : List Char) :
    reference? environment ('{' :: (inner ++ '}' :: rest)) =
      (braced? environment inner).map fun value => (inner.length + 2, value) := by
  have hlength : inner.length < (inner ++ '}' :: rest).length := by simp
  simp only [reference?, takeWhile_ne_append_cons h, if_pos hlength]

theorem reference?_of_fits {tail : List Char} (hwritten : piece.written = '$' :: tail)
    (hfits : piece.Fits rest) :
    reference? environment (tail ++ rest) =
      (piece.value? environment).map fun value => (tail.length, value) := by
  cases piece with
  | letter c =>
    obtain ⟨rfl, -⟩ := List.cons.inj hwritten
    exact absurd rfl hfits
  | dollar =>
    obtain ⟨-, rfl⟩ := List.cons.inj hwritten
    have hhead : ∀ c ∈ rest.head?, c ≠ '$' ∧ c ≠ '{' := fun c hc =>
      ⟨(hfits c hc).1, (hfits c hc).2.1⟩
    have hname := takeWhile_isNameChar fun c hc => (hfits c hc).2.2
    rw [List.nil_append, reference?_of_head hhead, hname]
    rfl
  | dollars =>
    obtain ⟨-, rfl⟩ := List.cons.inj hwritten
    rfl
  | unclosed =>
    obtain ⟨-, rfl⟩ := List.cons.inj hwritten
    exact reference?_unclosed hfits
  | bare name =>
    obtain ⟨-, rfl⟩ := List.cons.inj hwritten
    obtain ⟨hne, hchars, hrest⟩ := hfits
    have hhead : ∀ c ∈ (name ++ rest).head?, c ≠ '$' ∧ c ≠ '{' := by
      intro c hc
      rw [List.head?_append_of_ne_nil _ hne] at hc
      exact isNameChar_ne (hchars c (List.mem_of_mem_head? hc))
    have hname : (name ++ rest).takeWhile isNameChar = name := by
      rw [List.takeWhile_append_of_pos hchars, takeWhile_isNameChar hrest, List.append_nil]
    rw [reference?_of_head hhead, hname, if_neg (by simpa using hne)]
    rfl
  | braced name default? =>
    obtain ⟨-, rfl⟩ := List.cons.inj hwritten
    obtain ⟨hclosed, hparts⟩ := hfits
    have hbraced : braced? environment (Piece.inside name default?) =
        (environment.value? name <|> default?) := by
      rw [braced?, splitDefault_eq_iff.mpr ⟨rfl, hparts⟩]
    rw [List.cons_append, List.append_assoc, List.singleton_append, reference?_closed hclosed,
      hbraced, List.length_cons, List.length_append, List.length_singleton, Piece.value?]

theorem Piece.letter_or_written (piece : Piece) :
    (∃ c, piece = .letter c) ∨ ∃ tail, piece.written = '$' :: tail := by
  cases piece with
  | letter c => exact .inl ⟨c, rfl⟩
  | dollar => exact .inr ⟨_, rfl⟩
  | dollars => exact .inr ⟨_, rfl⟩
  | unclosed => exact .inr ⟨_, rfl⟩
  | bare name => exact .inr ⟨_, rfl⟩
  | braced name default? => exact .inr ⟨_, rfl⟩

theorem variables?_drop (environment : Environment) (skip : Nat) (text : List Char) :
    variables? environment skip text = variables? environment 0 (text.drop skip) := by
  induction text generalizing skip with
  | nil => simp [variables?]
  | cons c rest ih =>
    cases skip with
    | zero => rfl
    | succ skip => exact ih skip

/-- A piece is put as what it stands for, before what the rest becomes. -/
theorem variables?_append (h : piece.Fits rest) :
    variables? environment 0 (piece.written ++ rest) =
      (piece.value? environment).bind fun value =>
        (variables? environment 0 rest).map (value ++ ·) := by
  rcases piece.letter_or_written with ⟨c, rfl⟩ | ⟨tail, htail⟩
  · have hc : (c == '$') = false := beq_false_of_ne h
    simp only [Piece.written, List.singleton_append, variables?, hc, Piece.value?]
    rfl
  · have hrest : variables? environment tail.length (tail ++ rest) =
        variables? environment 0 rest := by
      rw [variables?_drop, List.drop_left]
    rw [htail, List.cons_append, variables?, reference?_of_fits htail h]
    cases piece.value? environment with
    | none => rfl
    | some value =>
      change (variables? environment tail.length (tail ++ rest)).bind _ = _
      rw [hrest]
      cases variables? environment 0 rest <;> rfl

theorem variables?_of_divides (h : Divides pieces text) :
    variables? environment 0 text =
      (pieces.mapM (Piece.value? environment)).map List.flatten := by
  induction h with
  | nil => rfl
  | @cons piece pieces rest hfits _ ih =>
    rw [variables?_append hfits, ih, List.mapM_cons]
    cases piece.value? environment with
    | none => rfl
    | some value => cases pieces.mapM (Piece.value? environment) <;> rfl

theorem exists_fits_of_brace (rest : List Char) :
    ∃ piece behind, Piece.Fits behind piece ∧ piece.written ++ behind = '$' :: '{' :: rest := by
  by_cases hclosed : '}' ∈ rest
  · obtain ⟨inner, behind, rfl, hinner⟩ := List.eq_append_cons_of_mem hclosed
    rcases hsplit : splitDefault inner with ⟨name, default?⟩
    obtain ⟨rfl, hparts⟩ := splitDefault_eq_iff.mp hsplit
    exact ⟨.braced name default?, behind, ⟨hinner, hparts⟩, by simp [Piece.written]⟩
  · exact ⟨.unclosed, rest, hclosed, rfl⟩

theorem exists_fits_of_head (h : ∀ c ∈ rest.head?, c ≠ '$' ∧ c ≠ '{') :
    ∃ piece behind, Piece.Fits behind piece ∧ piece.written ++ behind = '$' :: rest := by
  have hbehind : ∀ c ∈ (rest.dropWhile isNameChar).head?, isNameChar c = false := by
    intro c hc
    have hnot := List.head?_dropWhile_not isNameChar rest
    rwa [Option.mem_def.mp hc] at hnot
  have hrest := List.takeWhile_append_dropWhile (p := isNameChar) (l := rest)
  by_cases hname : rest.takeWhile isNameChar = []
  · rw [hname, List.nil_append] at hrest
    rw [hrest] at hbehind
    exact ⟨.dollar, rest, fun c hc => ⟨(h c hc).1, (h c hc).2, hbehind c hc⟩, rfl⟩
  · refine ⟨.bare (rest.takeWhile isNameChar), rest.dropWhile isNameChar, ⟨hname, ?_, hbehind⟩, ?_⟩
    · intro c hc
      exact List.mem_takeWhile_imp hc
    · rw [Piece.written, List.cons_append, hrest]

theorem exists_fits (h : text ≠ []) :
    ∃ piece rest, Piece.Fits rest piece ∧ piece.written ++ rest = text := by
  obtain ⟨c, tail, rfl⟩ := List.exists_cons_of_ne_nil h
  by_cases hc : c = '$'
  case neg => exact ⟨.letter c, tail, hc, rfl⟩
  case pos =>
    subst hc
    by_cases hhead : ∀ c ∈ tail.head?, c ≠ '$' ∧ c ≠ '{'
    · exact exists_fits_of_head hhead
    · cases tail with
      | nil => exact absurd nofun hhead
      | cons d tail =>
        by_cases hdollar : d = '$'
        · exact ⟨.dollars, tail, trivial, by rw [hdollar]; rfl⟩
        · obtain rfl : d = '{' := by simpa [hdollar] using hhead
          exact exists_fits_of_brace tail

theorem Piece.length_written_pos (piece : Piece) : 0 < piece.written.length := by
  rcases piece.letter_or_written with ⟨c, rfl⟩ | ⟨tail, htail⟩
  · exact Nat.one_pos
  · rw [htail]
    exact Nat.succ_pos _

/-- Every path can be divided. -/
theorem exists_divides (text : List Char) : ∃ pieces, Divides pieces text := by
  induction hlength : text.length using Nat.strongRecOn generalizing text with
  | ind length ih =>
    by_cases htext : text = []
    · exact ⟨[], htext ▸ .nil⟩
    · obtain ⟨piece, rest, hfits, rfl⟩ := exists_fits htext
      have hshorter : rest.length < length := by
        rw [← hlength, List.length_append]
        have hwritten := piece.length_written_pos
        omega
      obtain ⟨pieces, hpieces⟩ := ih rest.length hshorter rest rfl
      exact ⟨piece :: pieces, .cons hfits hpieces⟩

end Expansion

end ScopedVars
