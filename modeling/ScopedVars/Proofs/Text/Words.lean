import Mathlib.Data.List.Basic
import ScopedVars.Text.Basic

/-! # Words on a line

Words are laid out on a line with any blanks around them and at least one between two of them. The
words of such a line are the words that were laid out, and every line is laid out like this.
-/

namespace ScopedVars

structure IsWord (text : String) : Prop where
  nonempty : text ≠ ""
  unbroken : ∀ c ∈ text.toList, isBlank c = false

instance (text : String) : Decidable (IsWord text) :=
  decidable_of_iff (text ≠ "" ∧ text.toList.all fun c => !isBlank c)
    ⟨fun h => ⟨h.1, by simpa using h.2⟩, fun h => ⟨h.nonempty, by simpa using h.unbroken⟩⟩

def IsGap (text : String) : Prop := ∀ c ∈ text.toList, isBlank c = true

instance (text : String) : Decidable (IsGap text) :=
  decidable_of_iff (text.toList.all isBlank) List.all_eq_true

/-- The line that has a margin before its words, and behind each word the gap that comes with it. -/
def layOut (margin : String) : List (String × String) → String
  | [] => margin
  | (word, gap) :: rest => margin ++ word ++ layOut gap rest

/-- Whether blanks stand around the words of a layout, and between any two of them. -/
structure IsLayout (margin : String) (pieces : List (String × String)) : Prop where
  margin : IsGap margin
  words : ∀ piece ∈ pieces, IsWord piece.1
  gaps : ∀ piece ∈ pieces, IsGap piece.2
  apart : ∀ piece ∈ pieces.dropLast, piece.2 ≠ ""

instance (margin : String) (pieces : List (String × String)) : Decidable (IsLayout margin pieces) :=
  decidable_of_iff
    (IsGap margin ∧ (∀ piece ∈ pieces, IsWord piece.1) ∧ (∀ piece ∈ pieces, IsGap piece.2) ∧
      ∀ piece ∈ pieces.dropLast, piece.2 ≠ "")
    ⟨fun h => ⟨h.1, h.2.1, h.2.2.1, h.2.2.2⟩, fun h => ⟨h.margin, h.words, h.gaps, h.apart⟩⟩

variable {margin word gap line : String} {pieces : List (String × String)} {c : Char}

theorem layOut_eq (margin : String) (pieces : List (String × String)) :
    layOut margin pieces = margin ++ layOut "" pieces := by
  cases pieces <;> simp [layOut, String.append_assoc]

theorem isLayout_nil : IsLayout margin [] ↔ IsGap margin := by
  constructor
  · intro h
    exact h.margin
  · intro h
    exact ⟨h, nofun, nofun, nofun⟩

theorem isLayout_cons :
    IsLayout margin ((word, gap) :: pieces) ↔
      IsGap margin ∧ IsWord word ∧ (gap = "" → pieces = []) ∧ IsLayout gap pieces := by
  constructor
  · rintro ⟨hmargin, hwords, hgaps, hapart⟩
    rw [List.forall_mem_cons] at hwords hgaps
    cases pieces with
    | nil => exact ⟨hmargin, hwords.1, fun _ => rfl, isLayout_nil.mpr hgaps.1⟩
    | cons piece pieces =>
      rw [List.dropLast_cons_cons, List.forall_mem_cons] at hapart
      exact ⟨hmargin, hwords.1, fun h => absurd h hapart.1, hgaps.1, hwords.2, hgaps.2, hapart.2⟩
  · rintro ⟨hmargin, hword, hlast, hgap, hwords, hgaps, hapart⟩
    refine ⟨hmargin, List.forall_mem_cons.mpr ⟨hword, hwords⟩,
      List.forall_mem_cons.mpr ⟨hgap, hgaps⟩, ?_⟩
    cases pieces with
    | nil => exact nofun
    | cons piece pieces =>
      rw [List.dropLast_cons_cons, List.forall_mem_cons]
      exact ⟨fun h => absurd (hlast h) (List.cons_ne_nil _ _), hapart⟩

theorem words_of_toList_eq {before after : List Char} (hc : isBlank c = true)
    (hline : line.toList = before ++ c :: after) :
    words line = words (.ofList before) ++ words (.ofList after) := by
  simp [words, hline, List.splitOnP_append_cons before after hc]

theorem words_gap_append (h : IsGap gap) (line : String) : words (gap ++ line) = words line := by
  obtain ⟨chars, rfl⟩ := gap.exists_eq_ofList
  rw [IsGap, String.toList_ofList] at h
  induction chars with
  | nil => rw [String.ofList_nil, String.empty_append]
  | cons c chars ih =>
    obtain ⟨hc, hchars⟩ := List.forall_mem_cons.mp h
    have hline : (String.ofList (c :: chars) ++ line).toList =
        [] ++ c :: (chars ++ line.toList) := by
      simp
    rw [words_of_toList_eq hc hline, String.ofList_append, String.ofList_toList, ih hchars]
    rfl

theorem words_of_isWord (h : IsWord word) : words word = [word] := by
  have hsplit := List.splitOnP_eq_singleton h.unbroken
  simp [words, hsplit, h.nonempty]

theorem words_word_append (hword : IsWord word) (hgap : IsGap gap) (hne : gap ≠ "")
    (line : String) : words (word ++ (gap ++ line)) = word :: words (gap ++ line) := by
  obtain ⟨_ | ⟨c, chars⟩, rfl⟩ := gap.exists_eq_ofList
  case nil => exact absurd String.ofList_nil hne
  case cons =>
    have hc : isBlank c = true := hgap c (by simp)
    have hchars : IsGap (.ofList chars) := fun d hd => hgap d (by simp_all)
    have hline : (word ++ (String.ofList (c :: chars) ++ line)).toList =
        word.toList ++ c :: (chars ++ line.toList) := by
      simp
    rw [words_of_toList_eq hc hline, String.ofList_append, String.ofList_toList,
      String.ofList_toList, words_of_isWord hword, words_gap_append hgap, words_gap_append hchars,
      List.singleton_append]

/-- The words of a line are the words that were laid out on it. -/
theorem words_layOut (h : IsLayout margin pieces) :
    words (layOut margin pieces) = pieces.map Prod.fst := by
  induction pieces generalizing margin with
  | nil =>
    have hmargin := words_gap_append h.margin ""
    rwa [String.append_empty] at hmargin
  | cons piece pieces ih =>
    obtain ⟨word, gap⟩ := piece
    obtain ⟨hmargin, hword, hlast, hrest⟩ := isLayout_cons.mp h
    rw [layOut, String.append_assoc, words_gap_append hmargin, List.map_cons, ← ih hrest]
    by_cases hgap : gap = ""
    · rw [hgap, hlast hgap, layOut, String.append_empty, words_of_isWord hword]
      rfl
    · rw [layOut_eq, words_word_append hword hrest.margin hgap]

example : words "\u200ba\u2003b\u180ec\u0085" = ["\u200ba", "b\u180ec"] := by decide

theorem forall_mem_singleton_append {p : Char → Prop} {text : String} :
    (∀ d ∈ (String.singleton c ++ text).toList, p d) ↔ p c ∧ ∀ d ∈ text.toList, p d := by
  simp

theorem isWord_singleton_append (hc : isBlank c = false) (h : word = "" ∨ IsWord word) :
    IsWord (String.singleton c ++ word) where
  nonempty := by simp
  unbroken := by
    rw [forall_mem_singleton_append]
    rcases h with rfl | h
    · exact ⟨hc, nofun⟩
    · exact ⟨hc, h.unbroken⟩

theorem exists_isLayout (line : String) :
    ∃ margin pieces, IsLayout margin pieces ∧ layOut margin pieces = line := by
  obtain ⟨chars, rfl⟩ := line.exists_eq_ofList
  induction chars with
  | nil => exact ⟨"", [], isLayout_nil.mpr nofun, rfl⟩
  | cons c chars ih =>
    obtain ⟨margin, pieces, hlayout, hline⟩ := ih
    rw [String.ofList_cons, ← hline]
    cases hc : isBlank c with
    | true =>
      refine ⟨String.singleton c ++ margin, pieces, { hlayout with margin := ?_ }, ?_⟩
      · exact forall_mem_singleton_append.mpr ⟨hc, hlayout.margin⟩
      · rw [layOut_eq, layOut_eq margin, String.append_assoc]
    | false =>
      by_cases hbegins : margin = "" → pieces = []
      · have hword := isWord_singleton_append hc (.inl rfl)
        rw [String.append_empty] at hword
        refine ⟨"", (String.singleton c, margin) :: pieces, ?_, ?_⟩
        · exact isLayout_cons.mpr ⟨nofun, hword, hbegins, hlayout⟩
        · rw [layOut, String.empty_append]
      · obtain ⟨rfl, hpieces⟩ := Classical.not_imp.mp hbegins
        obtain ⟨⟨word, gap⟩, rest, rfl⟩ := List.exists_cons_of_ne_nil hpieces
        obtain ⟨-, hword, hlast, hrest⟩ := isLayout_cons.mp hlayout
        refine ⟨"", (String.singleton c ++ word, gap) :: rest, ?_, ?_⟩
        · exact isLayout_cons.mpr ⟨nofun, isWord_singleton_append hc (.inr hword), hlast, hrest⟩
        · simp only [layOut, String.empty_append, String.append_assoc]

theorem isWord_of_mem_words (h : word ∈ words line) : IsWord word := by
  obtain ⟨margin, pieces, hlayout, rfl⟩ := exists_isLayout line
  rw [words_layOut hlayout, List.mem_map] at h
  obtain ⟨piece, hpiece, rfl⟩ := h
  exact hlayout.words piece hpiece

end ScopedVars
