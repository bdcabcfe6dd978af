import ScopedVars.Proofs.Toml.Multiline

/-! # Written lines read back

A value is written in a form that holds it, and every form that holds a text gives it back. So do
the three ways to write a key, and the line that assigns a value to a key.
-/

namespace ScopedVars.Toml

variable {text rest body : List Char} {c : Char}

/-- Whether a text can be written in a form. The basic forms hold every text. -/
def Form.Holds (text : List Char) : Form → Prop
  | basic | basicLines => True
  | literal => ∀ c ∈ text, isPlain c = true ∧ c ≠ '\''
  | literalLines => (∀ c ∈ text, isPlain c = true ∨ c = '\n') ∧ hasTriple '\'' text = false

theorem Form.holds_ofValue (text : List Char) : (Form.ofValue text).Holds text := by
  unfold Form.ofValue
  split
  · trivial
  split
  case isTrue h => simpa [Holds] using h
  split
  · trivial
  split
  case isTrue h => simpa [Holds, isClean] using h
  split <;> trivial

theorem quoted_basic (h : ∀ tail, body ≠ '"' :: '"' :: tail) :
    quoted ('"' :: body) = quotedLine ('"' :: body) :=
  quoted.eq_3 _ (fun tail heq => h tail (List.cons.inj heq).2) (fun tail heq => by simp at heq)

theorem quoted_literal (h : ∀ tail, body ≠ '\'' :: '\'' :: tail) :
    quoted ('\'' :: body) = quotedLine ('\'' :: body) :=
  quoted.eq_3 _ (fun tail heq => by simp at heq) (fun tail heq => h tail (List.cons.inj heq).2)

/-- A form gives back the text that it holds, unless a quote follows. -/
theorem takes_quoted_write {form : Form} (hform : form.Holds text) (hq : rest.head? ≠ some '"')
    (hl : rest.head? ≠ some '\'') :
    Takes quoted (form.write text ++ rest) (.ofList text) rest := by
  cases form with
  | basic =>
    have hbody : ∀ tail, text.flatMap escape ++ '"' :: rest ≠ '"' :: '"' :: tail := by
      intro tail heq
      cases text with
      | nil => simp_all
      | cons c text => rcases escape_cases c with ⟨he, -, hc, -⟩ | ⟨code, he, -⟩ <;> simp_all
    refine (takes_quotedLine_basic text rest).congr ?_
    have hwrite : basic text ++ rest = '"' :: (text.flatMap escape ++ '"' :: rest) := by
      simp [basic]
    change quoted (basic text ++ rest) = quotedLine (basic text ++ rest)
    rw [hwrite, quoted_basic hbody]
  | literal =>
    have hbody : ∀ tail, text ++ '\'' :: rest ≠ '\'' :: '\'' :: tail := by
      intro tail heq
      cases text with
      | nil => simp_all
      | cons c text => exact (hform c List.mem_cons_self).2 (List.cons.inj heq).1
    refine (takes_quotedLine_literal hform rest).congr ?_
    have hwrite : literal text ++ rest = '\'' :: (text ++ '\'' :: rest) := by simp [literal]
    change quoted (literal text ++ rest) = quotedLine (literal text ++ rest)
    rw [hwrite, quoted_literal hbody]
  | basicLines =>
    have h := takes_basicLines text 0 (by omega) hq
    rw [← dropLineEnd_opening escapeLines_head] at h
    have hwrite : Form.basicLines.write text ++ rest = '"' :: '"' :: '"' ::
        (opening text ++ (escapeLines 0 text ++ (List.replicate 3 '"' ++ rest))) := by
      simp [Form.write]
    rw [hwrite]
    exact h.bind rfl fun _ => ⟨_, rfl, rfl, rfl⟩
  | literalLines =>
    have h := takes_literalLines hform.1 hform.2 hl
    rw [← dropLineEnd_opening (literalLines_head hform.1)] at h
    have hwrite : Form.literalLines.write text ++ rest = '\'' :: '\'' :: '\'' ::
        (opening text ++ (text ++ (List.replicate 3 '\'' ++ rest))) := by
      simp [Form.write]
    rw [hwrite]
    exact h.bind rfl fun _ => ⟨_, rfl, rfl, rfl⟩

theorem writeValue_eq_cons (text : List Char) :
    ∃ c body, writeValue text = c :: body ∧ (c = '"' ∨ c = '\'') := by
  unfold writeValue
  cases Form.ofValue text with
  | basic => exact ⟨_, _, rfl, .inl rfl⟩
  | literal => exact ⟨_, _, rfl, .inr rfl⟩
  | basicLines => exact ⟨_, _, rfl, .inl rfl⟩
  | literalLines => exact ⟨_, _, rfl, .inr rfl⟩

theorem value_quote (depth : Nat) (h : c = '"' ∨ c = '\'') :
    value depth (c :: rest) = do return (← quoted (c :: rest)).map .string := by
  have hquote : (c == '"' || c == '\'') = true := by simpa using h
  rw [value.eq_def]
  exact if_pos hquote

theorem takes_value (depth : Nat) (text rest : List Char) :
    Takes (value depth) (writeValue text ++ '\n' :: rest) (.string (.ofList text))
      ('\n' :: rest) := by
  have h : Takes quoted (writeValue text ++ '\n' :: rest) (.ofList text) ('\n' :: rest) :=
    takes_quoted_write (Form.holds_ofValue text) (by simp) (by simp)
  obtain ⟨c, body, hwrite, hc⟩ := writeValue_eq_cons text
  rw [hwrite, List.cons_append] at h ⊢
  exact h.bind (value_quote depth hc) fun _ => ⟨_, rfl, rfl, rfl⟩

theorem takes_bareKey (hne : text ≠ []) (htext : ∀ c ∈ text, isBare c = true)
    (hrest : ∀ c ∈ rest.head?, isBare c = false) :
    Takes bareKey (text ++ rest) (.ofList text) rest := by
  have hword : (text ++ rest).takeWhile isBare = text := by
    rw [List.takeWhile_append_of_pos htext]
    cases rest with
    | nil => simp
    | cons c rest => simp [hrest c rfl]
  obtain ⟨shorter, hread⟩ := first?_append hne (String.ofList text) rest
  refine ⟨shorter, ?_⟩
  simp only [bareKey, hword, hread]

def BeginsKey (c : Char) : Prop := isBare c = true ∨ c = '"' ∨ c = '\''

theorem BeginsKey.ne (h : BeginsKey c) :
    c ≠ ' ' ∧ c ≠ '\t' ∧ c ≠ '\n' ∧ c ≠ '\r' ∧ c ≠ '#' ∧ c ≠ '[' ∧ c ≠ '\uFEFF' := by
  refine ⟨?_, ?_, ?_, ?_, ?_, ?_, ?_⟩ <;> (rintro rfl; revert h; unfold BeginsKey; decide)

theorem writeKey_eq_cons (key : List Char) : ∃ c body, writeKey key = c :: body ∧ BeginsKey c := by
  unfold writeKey
  split
  case isTrue h =>
    obtain ⟨c, body, rfl⟩ := List.exists_cons_of_ne_nil h.1
    exact ⟨c, body, rfl, .inl (List.all_eq_true.mp h.2 c List.mem_cons_self)⟩
  split
  · exact ⟨_, _, rfl, .inr (.inl rfl)⟩
  split
  · exact ⟨_, _, rfl, .inr (.inr rfl)⟩
  · exact ⟨_, _, rfl, .inr (.inl rfl)⟩

theorem takes_keyName (key : List Char) (hrest : ∀ c ∈ rest.head?, isBare c = false) :
    Takes keyName (writeKey key ++ rest) (.ofList key) rest := by
  have hbasic : Takes keyName (basic key ++ rest) (.ofList key) rest :=
    (takes_quotedLine_basic key rest).congr rfl
  unfold writeKey
  split
  case isTrue h =>
    have hkey := List.all_eq_true.mp h.2
    refine (takes_bareKey h.1 hkey hrest).congr ?_
    obtain ⟨c, body, rfl⟩ := List.exists_cons_of_ne_nil h.1
    have hc := hkey c List.mem_cons_self
    refine keyName.eq_3 _ (fun tail heq => ?_) (fun tail heq => ?_)
    · obtain rfl : c = '"' := (List.cons.inj heq).1
      revert hc
      decide
    · obtain rfl : c = '\'' := (List.cons.inj heq).1
      revert hc
      decide
  split
  · exact hbasic
  split
  case isTrue h => exact (takes_quotedLine_literal (by simpa using h) rest).congr rfl
  · exact hbasic

theorem takes_keyPath (key rest : List Char) :
    Takes keyPath (writeKey key ++ ' ' :: '=' :: rest) ⟨[], .ofList key⟩ (' ' :: '=' :: rest) := by
  have hname : Takes keyName (writeKey key ++ ' ' :: '=' :: rest) (.ofList key)
      (' ' :: '=' :: rest) := takes_keyName key (by simp; decide)
  have hnames : Takes keyNames (writeKey key ++ ' ' :: '=' :: rest) ⟨[], .ofList key⟩
      (' ' :: '=' :: rest) :=
    hname.bind (by rw [keyNames]) fun _ => ⟨_, rfl, rfl, rfl⟩
  exact hnames.bind rfl fun _ => ⟨_, rfl, rfl, rfl⟩

theorem skipSpaces_cons (hs : c ≠ ' ') (ht : c ≠ '\t') : skipSpaces (c :: rest) = c :: rest := by
  simp [skipSpaces, isSpace, hs, ht]

theorem skipSpaces_writeValue (text rest : List Char) :
    skipSpaces (' ' :: (writeValue text ++ rest)) = writeValue text ++ rest := by
  obtain ⟨c, body, hwrite, hc⟩ := writeValue_eq_cons text
  rw [hwrite]
  rcases hc with rfl | rfl <;> rfl

theorem symbol?_append {symbol : List Char} (h : symbol ≠ []) (rest : List Char) :
    ∃ shorter, symbol? symbol (symbol ++ rest) = some ⟨(), rest, shorter⟩ := by
  obtain ⟨shorter, hread⟩ := first?_append h () rest
  exact ⟨shorter, by rw [symbol?, if_pos (by simp), hread]⟩

theorem takes_pair (depth : Nat) (key text rest : List Char) :
    Takes (pair (value depth))
      (writeKey key ++ ' ' :: '=' :: ' ' :: (writeValue text ++ '\n' :: rest))
      (⟨[], .ofList key⟩, .string (.ofList text)) ('\n' :: rest) := by
  have hkey := takes_keyPath key (' ' :: (writeValue text ++ '\n' :: rest))
  have hvalue := takes_value depth text rest
  rw [← skipSpaces_writeValue] at hvalue
  obtain ⟨valueShorter, hvalue⟩ := hvalue
  have hequals : ∃ shorter,
      symbol? ['='] (skipSpaces (' ' :: '=' :: ' ' :: (writeValue text ++ '\n' :: rest))) =
        some ⟨(), ' ' :: (writeValue text ++ '\n' :: rest), shorter⟩ :=
    symbol?_append (List.cons_ne_nil '=' []) _
  obtain ⟨equalsShorter, hequals⟩ := hequals
  refine hkey.bind rfl fun shorter => ?_
  dsimp only
  rw [hequals]
  dsimp only
  rw [hvalue]
  exact ⟨_, rfl, rfl, rfl⟩

def assignment (entry : String × String) : Statement := .assign ⟨[], entry.1⟩ (.string entry.2)

theorem writeLine_append (key text : String) (rest : List Char) :
    writeLine key text ++ rest =
      writeKey key.toList ++ ' ' :: '=' :: ' ' :: (writeValue text.toList ++ '\n' :: rest) := by
  simp [writeLine]

theorem writeLine_eq_cons (key text : String) (rest : List Char) :
    ∃ c body, writeLine key text ++ rest = c :: body ∧ BeginsKey c := by
  obtain ⟨c, body, hwrite, hc⟩ := writeKey_eq_cons key.toList
  rw [writeLine_append, hwrite]
  exact ⟨c, _, rfl, hc⟩

theorem takes_statement (key text : String) (rest : List Char) :
    Takes statement (writeLine key text ++ rest) (assignment (key, text)) ('\n' :: rest) := by
  have h := takes_pair nestingLimit key.toList text.toList rest
  rw [← writeLine_append, String.ofList_toList, String.ofList_toList] at h
  refine h.bind (statement.eq_3 _ (fun tail heq => ?_) fun tail heq => ?_)
    fun _ => ⟨_, rfl, rfl, rfl⟩
  all_goals
    obtain ⟨c, body, hwrite, hc⟩ := writeLine_eq_cons key text rest
    obtain rfl : c = '[' := (List.cons.inj (hwrite.symm.trans heq)).1
    exact hc.ne.2.2.2.2.2.1 rfl

end ScopedVars.Toml
