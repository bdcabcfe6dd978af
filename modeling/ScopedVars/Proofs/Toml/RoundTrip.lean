import ScopedVars.Proofs.Toml.Written
import ScopedVars.Toml.Document

/-! # Dictionaries read back

The document written for a dictionary has one line a key. Its statements are the entries in order,
the table that they build holds the same strings, and no two dictionaries have the same text.
-/

namespace ScopedVars.Toml

variable {text rest : List Char}

theorem statements_nil : statements [] = .ok [] := by
  rw [statements]
  rfl

theorem statement?_cons {c : Char} (h : BeginsKey c) (rest : List Char) :
    statement? (c :: rest) = do return some (← statement (c :: rest)) := by
  obtain ⟨-, -, hn, hr, hc, -⟩ := h.ne
  have hskip : (c == '#' || c == '\n' || atReturn c rest) = false := by simp [hn, hr, hc, atReturn]
  simp only [statement?, hskip, Bool.false_eq_true, if_false]

theorem lineRest_feed (rest : List Char) :
    ∃ shorter, lineRest ('\n' :: rest) = .ok (some ⟨(), rest, shorter⟩) := ⟨_, rfl⟩

theorem statements_cons {a : Statement} {c : Char} (hc : BeginsKey c)
    (h : Takes statement (c :: text) a ('\n' :: rest)) :
    statements (c :: text) = do return (a, c :: text) :: (← statements rest) := by
  have hskip : skipSpaces (c :: text) = c :: text := skipSpaces_cons hc.ne.1 hc.ne.2.1
  have hread := statement?_cons hc text
  rw [← hskip] at h hread
  obtain ⟨shorter, h⟩ := h
  obtain ⟨lineShorter, hline⟩ := lineRest_feed rest
  rw [statements, hread, h]
  simp only [bind, Except.bind, pure, Except.pure, hline, hskip]

theorem statements_writeLine (key value : String) (rest : List Char) :
    statements (writeLine key value ++ rest) = do
      return (assignment (key, value), writeLine key value ++ rest) :: (← statements rest) := by
  obtain ⟨c, body, hwrite, hc⟩ := writeLine_eq_cons key value rest
  have h := takes_statement key value rest
  rw [hwrite] at h ⊢
  exact statements_cons hc h

theorem statements_writeStrings (entries : List (String × String)) :
    ∃ lines, statements (entries.flatMap fun entry => writeLine entry.1 entry.2) = .ok lines ∧
      lines.map Prod.fst = entries.map assignment := by
  induction entries with
  | nil => exact ⟨[], statements_nil, rfl⟩
  | cons entry entries ih =>
    obtain ⟨lines, hlines, hmap⟩ := ih
    rw [List.flatMap_cons, statements_writeLine, hlines]
    exact ⟨_, rfl, by simp [hmap]⟩

theorem put_eq_append {key : String} {entries : Entries} (h : entries.lookup key = none)
    (value : Value) : entries.put key value = entries ++ [(key, value)] := by
  induction entries with
  | nil => rfl
  | cons entry entries ih =>
    rw [List.lookup_eq_none_iff, List.forall_mem_cons] at h
    have hne : entry.1 ≠ key := by
      rintro rfl
      simp at h
    rw [Entries.put, if_neg hne, ih (List.lookup_eq_none_iff.mpr h.2), List.cons_append]

theorem step_assignment {entries : Entries} {entry : String × String}
    (h : entries.lookup entry.1 = none) :
    Draft.step { root := (.header, entries) } (assignment entry) =
      .ok { root := (.header, entries ++ [(entry.1, .string entry.2)]) } := by
  have hadd : Table.add entry.1 (.string entry.2) (.header, entries) =
      .ok (.header, entries ++ [(entry.1, .string entry.2)]) := by
    simp only [Table.add, h, put_eq_append h]
  have hassign : Table.assign ⟨[], entry.1⟩ (.string entry.2) (.header, entries) =
      .ok (.header, entries ++ [(entry.1, .string entry.2)]) := by
    rw [Table.assign, Table.alter, if_neg (by simp), hadd]
  simp only [Draft.step, assignment, Table.alter, hassign]
  rfl

theorem build_assignments {entries : List (String × String)} {lines : List (Statement × List Char)}
    (hlines : lines.map Prod.fst = entries.map assignment)
    (hkeys : (entries.map Prod.fst).Nodup) {before : Entries}
    (hbefore : ∀ entry ∈ entries, before.lookup entry.1 = none) :
    Draft.build { root := (.header, before) } lines =
      .ok (before ++ entries.map fun entry => (entry.1, .string entry.2)) := by
  induction entries generalizing lines before with
  | nil =>
    obtain rfl : lines = [] := by simpa using hlines
    simp [Draft.build]
  | cons entry entries ih =>
    obtain ⟨⟨statement, place⟩, lines, rfl, rfl, htail⟩ := List.map_eq_cons_iff.mp hlines
    rw [List.map_cons, List.nodup_cons] at hkeys
    rw [List.forall_mem_cons] at hbefore
    have hnext : ∀ other ∈ entries,
        (before ++ [(entry.1, Value.string entry.2)]).lookup other.1 = none := by
      intro other hother
      have hne : other.1 ≠ entry.1 := by
        intro heq
        exact hkeys.1 (heq ▸ List.mem_map_of_mem hother)
      simpa [List.lookup_append, hbefore.2 other hother] using hne
    simp only [Draft.build, step_assignment hbefore.1, ih htail hkeys.2 hnext]
    simp

theorem strings_map (entries : List (String × String)) :
    Entries.strings (entries.map fun entry => (entry.1, Value.string entry.2)) = .ok entries := by
  induction entries with
  | nil => rfl
  | cons entry entries ih =>
    rw [List.map_cons, Entries.strings, ih]
    rfl

theorem head?_writeStrings (entries : List (String × String)) :
    (entries.flatMap fun entry => writeLine entry.1 entry.2).head? ≠ some '\uFEFF' := by
  cases entries with
  | nil => simp
  | cons entry entries =>
    obtain ⟨c, body, hwrite, hc⟩ := writeLine_eq_cons entry.1 entry.2
      (entries.flatMap fun entry => writeLine entry.1 entry.2)
    rw [List.flatMap_cons, hwrite]
    simpa using hc.ne.2.2.2.2.2.2

theorem read_eq_of_head? (h : text.head? ≠ some '\uFEFF') :
    Document.read text = do
      let lines ← statements text
      return ⟨lines, ← Draft.build {} lines⟩ := by
  unfold Document.read
  split
  · simp at h
  · rfl

theorem read_writeStrings {entries : List (String × String)}
    (hkeys : (entries.map Prod.fst).Nodup) :
    ∃ document, Document.read (writeStrings entries).toList = .ok document ∧
      document.entries = entries.map fun entry => (entry.1, .string entry.2) := by
  obtain ⟨lines, hlines, hmap⟩ := statements_writeStrings entries
  have hbuild := build_assignments hmap hkeys fun _ _ => List.lookup_nil
  rw [writeStrings, String.toList_ofList, read_eq_of_head? (head?_writeStrings entries), hlines]
  exact ⟨_, by simp only [bind, Except.bind, hbuild]; rfl, rfl⟩

theorem readWith_writeStrings {entries : List (String × String)}
    (hkeys : (entries.map Prod.fst).Nodup) :
    readWith Entries.strings (writeStrings entries) = .ok entries := by
  obtain ⟨document, hread, hentries⟩ := read_writeStrings hkeys
  simp only [readWith, hread, hentries, strings_map]

/-- What is written for a dictionary is read back as the same dictionary. -/
theorem decode_encode (dict : Dict String) : decode (encode dict) = .ok dict := by
  rw [decode, encode, readWith_writeStrings dict.nodup_keys, Except.map, Dict.ofList_entries]

end ScopedVars.Toml
