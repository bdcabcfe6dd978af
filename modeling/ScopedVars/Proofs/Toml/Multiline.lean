import ScopedVars.Proofs.Toml.Escapes

/-! # Strings over lines read back

The reader closes such a string at the first three quotes in a row, and up to two more before them
belong to the text. A written body has at most two quotes in a row that do not close it, so quotes
are read back wherever they stand, also at its end.
-/

namespace ScopedVars.Toml

variable {text value rest tail body : List Char} {c quote : Char}

theorem takeWhile_replicate_append (n : Nat) (h : rest.head? ≠ some quote) :
    (List.replicate n quote ++ rest).takeWhile (· == quote) = List.replicate n quote := by
  rw [List.takeWhile_append_of_pos (by simp)]
  cases rest with
  | nil => simp
  | cons c rest =>
    have hc : (c == quote) = false := by simpa using h
    simp [hc]

theorem takeWhile_eq_nil (h : text.head? ≠ some quote) : text.takeWhile (· == quote) = [] := by
  simpa using takeWhile_replicate_append 0 h

theorem closing?_eq_none (h : (text.takeWhile (· == quote)).length ≤ 2) :
    closing? quote text = none := by
  simp only [closing?]
  exact if_neg (by omega)

theorem closing?_replicate {n : Nat} (hn : n ≤ 2) (h : rest.head? ≠ some quote) :
    ∃ shorter, closing? quote (List.replicate n quote ++ (List.replicate 3 quote ++ rest)) =
      some ⟨List.replicate n quote, rest, shorter⟩ := by
  have hkept : min (n + 3 - 3) 2 = n := by omega
  have hword : List.replicate (n + 3) quote ≠ [] := by simp
  obtain ⟨shorter, hread⟩ := first?_append hword (List.replicate n quote) rest
  rw [← List.append_assoc, List.replicate_append_replicate]
  refine ⟨shorter, ?_⟩
  simp only [closing?, takeWhile_replicate_append _ h, List.length_replicate, hkept]
  rw [if_pos (by omega)]
  simpa using hread

theorem exists_cons_replicate (n : Nat) (quote : Char) (rest : List Char) :
    ∃ tail, List.replicate n quote ++ (List.replicate 3 quote ++ rest) = quote :: tail := by
  cases n with
  | zero => exact ⟨_, rfl⟩
  | succ n => exact ⟨_, rfl⟩

theorem takes_closing {reader : Reader (List Char)}
    (hreader : ∀ text read, closing? quote (quote :: text) = some read →
      reader (quote :: text) = .ok read) {n : Nat} (hn : n ≤ 2) (h : rest.head? ≠ some quote) :
    Takes reader (List.replicate n quote ++ (List.replicate 3 quote ++ rest))
      (List.replicate n quote) rest := by
  obtain ⟨shorter, hclose⟩ := closing?_replicate hn h
  obtain ⟨tail, htail⟩ := exists_cons_replicate n quote rest
  refine ⟨shorter, ?_⟩
  generalize List.replicate n quote ++ (List.replicate 3 quote ++ rest) = body at *
  subst htail
  exact hreader tail _ hclose

theorem not_atReturn (h : isPlain c = true ∨ c = '\n') : atReturn c tail = false := by
  have hr : c ≠ '\r' := by
    rintro rfl
    revert h
    decide
  simp [atReturn, hr]

theorem escapeLines_two (text : List Char) :
    escapeLines 2 ('"' :: text) = '\\' :: (['"'] ++ escapeLines 0 text) := rfl

theorem escapeLines_quote {quotes : Nat} (h : quotes ≠ 2) :
    escapeLines quotes ('"' :: text) = '"' :: escapeLines (quotes + 1) text := by
  simp [escapeLines, h]

theorem escapeLines_feed (quotes : Nat) :
    escapeLines quotes ('\n' :: text) = '\n' :: escapeLines 0 text := by
  simp [escapeLines]

theorem escapeLines_other (quotes : Nat) (hq : c ≠ '"') (hn : c ≠ '\n') :
    escapeLines quotes (c :: text) = escape c ++ escapeLines 0 text := by
  simp [escapeLines, hq, hn]

theorem escapeLines_replicate {n quotes : Nat} (h : n + quotes ≤ 2) :
    escapeLines quotes (List.replicate n '"') = List.replicate n '"' := by
  induction n generalizing quotes with
  | zero => rfl
  | succ n ih => rw [List.replicate_succ, escapeLines_quote (by omega), ih (by omega)]

theorem head?_escapeLines {quotes : Nat} (h : c ≠ '"') :
    (escapeLines quotes (c :: text) ++ tail).head? ≠ some '"' := by
  by_cases hn : c = '\n'
  · subst hn
    simp [escapeLines_feed]
  · rw [escapeLines_other _ h hn]
    rcases escape_cases c with ⟨he, -⟩ | ⟨code, he, -⟩
    · simpa [he] using h
    · simp [he]

theorem escapeLines_quotes (text tail : List Char) (quotes : Nat) (hq : quotes ≤ 2) :
    (∃ n, n + quotes ≤ 2 ∧ text = List.replicate n '"') ∨
      ((escapeLines quotes text ++ tail).takeWhile (· == '"')).length + quotes ≤ 2 := by
  induction text generalizing quotes with
  | nil => exact .inl ⟨0, by omega, rfl⟩
  | cons c text ih =>
    by_cases hc : c = '"'
    · subst hc
      by_cases h2 : quotes = 2
      · subst h2
        exact .inr (by simp [escapeLines_two])
      · rcases ih (quotes + 1) (by omega) with ⟨n, hn, rfl⟩ | hrun
        · exact .inl ⟨n + 1, by omega, rfl⟩
        · refine .inr ?_
          simp only [escapeLines_quote h2, List.cons_append, List.takeWhile_cons,
            beq_self_eq_true, if_true, List.length_cons]
          omega
    · refine .inr ?_
      rw [takeWhile_eq_nil (head?_escapeLines hc)]
      simpa using hq

namespace Takes

theorem basicLines_cons (h : Takes (basicLines 0 false) tail value rest)
    (hclose : closing? '"' (c :: tail) = none) (hc : isPlain c = true ∨ c = '\n') (hb : c ≠ '\\') :
    Takes (basicLines 0 false) (c :: tail) (c :: value) rest := by
  have hplain : (isPlain c || c == '\n') = true := by simpa using hc
  exact h.map_behind (c :: ·) (by simp [basicLines, hclose, hb, not_atReturn hc, hplain])

theorem basicLines_skip (code : List Char) (h : Takes (basicLines 0 false) tail value rest) :
    Takes (basicLines code.length false) (code ++ tail) value rest := by
  induction code with
  | nil => exact h
  | cons c code ih => exact ih.behind rfl

theorem basicLines_code (h : Takes (basicLines 0 false) tail value rest) (code : List Char)
    (hcode : unescape? (code ++ tail) = some (code.length, c))
    (hend : atLineEnd (code ++ tail) = false) :
    Takes (basicLines 0 false) ('\\' :: (code ++ tail)) (c :: value) rest := by
  have hclose : closing? '"' ('\\' :: (code ++ tail)) = none := closing?_eq_none (by simp)
  exact (h.basicLines_skip code).map_behind (c :: ·) (by simp [basicLines, hclose, hend, hcode])

end Takes

theorem takes_basicLines_replicate {n : Nat} (hn : n ≤ 2) (h : rest.head? ≠ some '"') :
    Takes (basicLines 0 false) (List.replicate n '"' ++ (List.replicate 3 '"' ++ rest))
      (List.replicate n '"') rest :=
  takes_closing (fun text read hread => by simp [basicLines, hread]) hn h

/-- The body written for a text is read back, wherever the count of quotes stood. -/
theorem takes_basicLines (text : List Char) (quotes : Nat) (hq : quotes ≤ 2)
    (h : rest.head? ≠ some '"') :
    Takes (basicLines 0 false) (escapeLines quotes text ++ (List.replicate 3 '"' ++ rest))
      text rest := by
  induction text generalizing quotes with
  | nil => exact takes_basicLines_replicate (Nat.zero_le 2) h
  | cons c text ih =>
    rcases escapeLines_quotes (c :: text) (List.replicate 3 '"' ++ rest) quotes hq with
      ⟨n, hn, htext⟩ | hrun
    · rw [htext, escapeLines_replicate hn]
      exact takes_basicLines_replicate (by omega) h
    · have hclose := closing?_eq_none (Nat.le_trans (Nat.le_add_right _ _) hrun)
      have hreset := ih 0 (by omega)
      by_cases hc : c = '"'
      · subst hc
        by_cases h2 : quotes = 2
        · subst h2
          exact hreset.basicLines_code ['"'] rfl rfl
        · rw [escapeLines_quote h2] at hclose ⊢
          exact (ih (quotes + 1) (by omega)).basicLines_cons hclose (by decide) (by decide)
      · by_cases hn : c = '\n'
        · subst hn
          rw [escapeLines_feed] at hclose ⊢
          exact hreset.basicLines_cons hclose (by decide) (by decide)
        · rw [escapeLines_other _ hc hn, List.append_assoc] at hclose ⊢
          rcases escape_cases c with ⟨he, hp, -, hb⟩ | ⟨code, he, hcode⟩
          · rw [he] at hclose ⊢
            exact hreset.basicLines_cons hclose (.inl hp) hb
          · rw [he]
            exact hreset.basicLines_code code (hcode _).1 (hcode _).2

theorem hasTriple_tail (h : hasTriple quote (c :: text) = false) :
    hasTriple quote text = false := by
  match text with
  | [] => rfl
  | [_] => rfl
  | d :: e :: text =>
    rw [hasTriple, Bool.or_eq_false_iff] at h
    exact h.2

theorem hasTriple_quotes (h : hasTriple quote text = false) (tail : List Char) :
    (∃ n ≤ 2, text = List.replicate n quote) ∨
      ((text ++ tail).takeWhile (· == quote)).length ≤ 2 := by
  match text with
  | [] => exact .inl ⟨0, by omega, rfl⟩
  | [a] =>
    by_cases ha : a = quote
    · exact .inl ⟨1, by omega, by simp [ha]⟩
    · exact .inr (by simp [ha])
  | [a, b] =>
    by_cases ha : a = quote
    · by_cases hb : b = quote
      · exact .inl ⟨2, by omega, by simp [ha, hb, List.replicate_succ]⟩
      · exact .inr (by simp [ha, hb])
    · exact .inr (by simp [ha])
  | a :: b :: c :: text =>
    simp only [hasTriple, Bool.or_eq_false_iff, Bool.and_eq_false_iff, beq_eq_false_iff_ne] at h
    refine .inr ?_
    rcases h.1 with (ha | hb) | hc
    · simp [ha]
    · by_cases ha : a = quote <;> simp [ha, hb]
    · by_cases ha : a = quote <;> by_cases hb : b = quote <;> simp [ha, hb, hc]

theorem Takes.literalLines_cons (h : Takes literalLines tail value rest)
    (hclose : closing? '\'' (c :: tail) = none) (hc : isPlain c = true ∨ c = '\n') :
    Takes literalLines (c :: tail) (c :: value) rest := by
  have hplain : (isPlain c || c == '\n') = true := by simpa using hc
  exact h.map_behind (c :: ·) (by simp [literalLines, hclose, not_atReturn hc, hplain])

theorem takes_literalLines_replicate {n : Nat} (hn : n ≤ 2) (h : rest.head? ≠ some '\'') :
    Takes literalLines (List.replicate n '\'' ++ (List.replicate 3 '\'' ++ rest))
      (List.replicate n '\'') rest :=
  takes_closing (fun text read hread => by simp [literalLines, hread]) hn h

theorem takes_literalLines (hclean : ∀ c ∈ text, isPlain c = true ∨ c = '\n')
    (htriple : hasTriple '\'' text = false) (h : rest.head? ≠ some '\'') :
    Takes literalLines (text ++ (List.replicate 3 '\'' ++ rest)) text rest := by
  induction text with
  | nil => exact takes_literalLines_replicate (Nat.zero_le 2) h
  | cons c text ih =>
    rcases hasTriple_quotes htriple (List.replicate 3 '\'' ++ rest) with ⟨n, hn, htext⟩ | hrun
    · rw [htext]
      exact takes_literalLines_replicate hn h
    · have ih := ih (fun d hd => hclean d (List.mem_cons_of_mem _ hd)) (hasTriple_tail htriple)
      exact ih.literalLines_cons (closing?_eq_none hrun) (hclean c List.mem_cons_self)

theorem dropLineEnd_eq_self (h : ∀ c ∈ text.head?, c ≠ '\n' ∧ c ≠ '\r') :
    dropLineEnd text = text := by
  have hnone : lineEnd? text = none := by
    cases text with
    | nil => rfl
    | cons c text => exact lineEnd?_cons (h c rfl).1 (h c rfl).2
  simp only [dropLineEnd, hnone]

theorem dropLineEnd_opening (h : '\n' ∉ text → ∀ c ∈ body.head?, c ≠ '\n' ∧ c ≠ '\r') :
    dropLineEnd (opening text ++ body) = body := by
  unfold opening
  split
  case isTrue => rfl
  case isFalse hn => exact dropLineEnd_eq_self (h hn)

theorem escapeLines_head (hn : '\n' ∉ text) :
    ∀ c ∈ (escapeLines 0 text ++ (List.replicate 3 '"' ++ rest)).head?, c ≠ '\n' ∧ c ≠ '\r' := by
  intro d hd
  cases text with
  | nil =>
    obtain rfl : '"' = d := by simpa [escapeLines] using hd
    decide
  | cons c text =>
    have hc : c ≠ '\n' := fun h => hn (h ▸ List.mem_cons_self)
    by_cases hq : c = '"'
    · subst hq
      obtain rfl : '"' = d := by simpa [escapeLines_quote] using hd
      decide
    · rw [escapeLines_other _ hq hc] at hd
      rcases escape_cases c with ⟨he, hp, -⟩ | ⟨code, he, -⟩
      · obtain rfl : c = d := by simpa [he] using hd
        exact plain_ne hp
      · obtain rfl : '\\' = d := by simpa [he] using hd
        decide

theorem literalLines_head (hclean : ∀ c ∈ text, isPlain c = true ∨ c = '\n') (hn : '\n' ∉ text) :
    ∀ c ∈ (text ++ (List.replicate 3 '\'' ++ rest)).head?, c ≠ '\n' ∧ c ≠ '\r' := by
  intro d hd
  cases text with
  | nil =>
    obtain rfl : '\'' = d := by simpa using hd
    decide
  | cons c text =>
    obtain rfl : c = d := by simpa using hd
    rcases hclean c List.mem_cons_self with hp | rfl
    · exact plain_ne hp
    · exact absurd List.mem_cons_self hn

end ScopedVars.Toml
