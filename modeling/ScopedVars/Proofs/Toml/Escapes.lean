import ScopedVars.Toml.Document
import ScopedVars.Toml.Printer

/-! # Escapes read back

A reader takes a value off the front of a text if it answers with the value and with what is left.
Readers compose: one that goes on where another one stopped takes what both take. An escaped
character is itself or a backslash with a code that stands for it, and so the bodies of strings on
one line are read back as the texts from which they were written.
-/

namespace ScopedVars.Toml

variable {α β : Type} {text other rest left : List Char} {a : α} {b : β} {c : Char}

/-- The reader takes the value `a` off the text and leaves `rest`. -/
def Takes (reader : Reader α) (text : List Char) (a : α) (rest : List Char) : Prop :=
  ∃ shorter, reader text = .ok ⟨a, rest, shorter⟩

namespace Takes

variable {reader : Reader β} {inner : Reader α}

theorem congr {same : Reader α} (h : Takes inner text a rest) (heq : same text = inner text) :
    Takes same text a rest := by
  obtain ⟨shorter, hread⟩ := h
  exact ⟨shorter, heq.trans hread⟩

theorem bind {next : Read α other → Except Refusal (Read β text)} (h : Takes inner other a rest)
    (heq : reader text = inner other >>= next)
    (hnext : ∀ shorter, ∃ read, next ⟨a, rest, shorter⟩ = .ok read ∧ read.value = b ∧
      read.rest = left) : Takes reader text b left := by
  obtain ⟨shorter, hread⟩ := h
  obtain ⟨read, hdone, rfl, rfl⟩ := hnext shorter
  exact ⟨read.shorter, by rw [heq, hread, ← hdone]; rfl⟩

theorem behind {outer : Reader α} (h : Takes inner text a rest)
    (heq : outer (c :: text) = do return (← inner text).behind) : Takes outer (c :: text) a rest :=
  h.bind heq fun _ => ⟨_, rfl, rfl, rfl⟩

theorem map_behind (f : α → β) (h : Takes inner text a rest)
    (heq : reader (c :: text) = do return ((← inner text).map f).behind) :
    Takes reader (c :: text) (f a) rest :=
  h.bind heq fun _ => ⟨_, rfl, rfl, rfl⟩

end Takes

theorem first?_append {word : List Char} (h : word ≠ []) (a : α) (rest : List Char) :
    ∃ shorter, Read.first? word.length a (word ++ rest) = some ⟨a, rest, shorter⟩ := by
  have hword : 0 < word.length ∧ word.length ≤ (word ++ rest).length := by
    simp [List.length_pos_iff.mpr h]
  have shorter : rest.length < (word ++ rest).length := by
    simpa using List.length_pos_iff.mpr h
  exact ⟨shorter, by simp only [Read.first?, dif_pos hword, List.drop_left]⟩

variable {value tail : List Char}

theorem lookup_escapeLetters :
    ∀ entry ∈ escapeLetters, escapeLetters.lookup entry.1 = some entry.2 := by decide

theorem escapeLetters_not_blank :
    ∀ entry ∈ escapeLetters, isSpace entry.1 = false ∧ entry.1 ≠ '\n' ∧ entry.1 ≠ '\r' := by
  decide

theorem hexValue?_hexDigit : ∀ n < 16, hexValue? (hexDigit n) = some n := by decide

theorem toNat_lt_of_not_plain (h : isPlain c = false) : c.toNat < 128 := by
  simp only [isPlain, Bool.or_eq_false_iff, Bool.and_eq_false_iff, decide_eq_false_iff_not,
    Char.not_le, bne_eq_false_iff_eq] at h
  obtain ⟨-, h | rfl⟩ := h
  · have hlt : c.toNat < ' '.toNat := h
    exact Nat.lt_trans hlt (by decide)
  · decide

theorem plain_ne (h : isPlain c = true) : c ≠ '\n' ∧ c ≠ '\r' := by
  constructor <;> (rintro rfl; revert h; decide)

theorem codePoint?_hexDigit (h : c.toNat < 256) (tail : List Char) :
    codePoint? 4 ('0' :: '0' :: hexDigit (c.toNat / 16) :: hexDigit (c.toNat % 16) :: tail) =
      some c := by
  have hz : hexValue? '0' = some 0 := by decide
  have hhi := hexValue?_hexDigit (c.toNat / 16) (by omega)
  have hlo := hexValue?_hexDigit (c.toNat % 16) (by omega)
  have hsum : 16 * (c.toNat / 16) + c.toNat % 16 = c.toNat := Nat.div_add_mod _ _
  have hvalid : c.toNat.isValidChar := c.valid
  simp [codePoint?, hexNumber?, hz, hhi, hlo, hsum, hvalid]

theorem lineEnd?_cons (hn : c ≠ '\n') (hr : c ≠ '\r') : lineEnd? (c :: tail) = none := by
  simp only [lineEnd?, beq_iff_eq, hn, if_false]
  split
  · exact absurd rfl hr
  · rfl

theorem atLineEnd_cons (hs : isSpace c = false) (hn : c ≠ '\n') (hr : c ≠ '\r') :
    atLineEnd (c :: tail) = false := by
  have hskip : skipSpaces (c :: tail) = c :: tail := by simp [skipSpaces, hs]
  unfold atLineEnd
  rw [hskip, lineEnd?_cons hn hr]
  rfl

theorem escape_cases (c : Char) :
    (escape c = [c] ∧ isPlain c = true ∧ c ≠ '"' ∧ c ≠ '\\') ∨
      ∃ code, escape c = '\\' :: code ∧ ∀ tail,
        unescape? (code ++ tail) = some (code.length, c) ∧ atLineEnd (code ++ tail) = false := by
  unfold escape
  split
  case h_1 letter d hfind =>
    obtain rfl : d = c := by simpa using List.find?_some hfind
    have hmem := List.mem_of_find?_eq_some hfind
    obtain ⟨hs, hn, hr⟩ := escapeLetters_not_blank _ hmem
    refine Or.inr ⟨[letter], rfl, fun tail => ⟨?_, atLineEnd_cons hs hn hr⟩⟩
    simp [unescape?, lookup_escapeLetters _ hmem]
  case h_2 hfind =>
    split
    case isTrue hp =>
      refine Or.inl ⟨rfl, hp, ?_, ?_⟩ <;> (rintro rfl; revert hfind; decide)
    case isFalse hp =>
      have hc := toNat_lt_of_not_plain (by simpa using hp)
      have hu : escapeLetters.lookup 'u' = none := by decide
      refine Or.inr ⟨_, rfl, fun tail => ⟨?_, atLineEnd_cons (by decide) (by decide) (by decide)⟩⟩
      simp [unescape?, hu, codePoint?_hexDigit (show c.toNat < 256 by omega)]

theorem Takes.basicBody_skip (code : List Char) (h : Takes (basicBody 0) tail value rest) :
    Takes (basicBody code.length) (code ++ tail) value rest := by
  induction code with
  | nil => exact h
  | cons c code ih => exact ih.behind rfl

theorem Takes.basicBody_escape (c : Char) (h : Takes (basicBody 0) tail value rest) :
    Takes (basicBody 0) (escape c ++ tail) (c :: value) rest := by
  rcases escape_cases c with ⟨he, hp, hq, hb⟩ | ⟨code, he, hcode⟩
  · rw [he]
    exact h.map_behind (c :: ·) (by simp [basicBody, hp, hq, hb])
  · rw [he]
    exact (h.basicBody_skip code).map_behind (c :: ·) (by simp [basicBody, hcode])

theorem takes_basicBody (text rest : List Char) :
    Takes (basicBody 0) (text.flatMap escape ++ '"' :: rest) text rest := by
  induction text with
  | nil => exact ⟨Nat.lt_succ_self _, rfl⟩
  | cons c text ih =>
    rw [List.flatMap_cons, List.append_assoc]
    exact ih.basicBody_escape c

theorem takes_literalBody (h : ∀ c ∈ text, isPlain c = true ∧ c ≠ '\'') (rest : List Char) :
    Takes literalBody (text ++ '\'' :: rest) text rest := by
  induction text with
  | nil => exact ⟨Nat.lt_succ_self _, rfl⟩
  | cons c text ih =>
    obtain ⟨hp, hq⟩ := h c List.mem_cons_self
    have ih := ih fun d hd => h d (List.mem_cons_of_mem _ hd)
    exact ih.map_behind (c :: ·) (by simp [literalBody, hp, hq])

theorem takes_quotedLine_basic (text rest : List Char) :
    Takes quotedLine (basic text ++ rest) (.ofList text) rest := by
  have htext : basic text ++ rest = '"' :: (text.flatMap escape ++ '"' :: rest) := by simp [basic]
  rw [htext]
  exact (takes_basicBody text rest).map_behind String.ofList rfl

theorem takes_quotedLine_literal (h : ∀ c ∈ text, isPlain c = true ∧ c ≠ '\'')
    (rest : List Char) : Takes quotedLine (literal text ++ rest) (.ofList text) rest := by
  have htext : literal text ++ rest = '\'' :: (text ++ '\'' :: rest) := by simp [literal]
  rw [htext]
  exact (takes_literalBody h rest).map_behind String.ofList rfl

end ScopedVars.Toml
