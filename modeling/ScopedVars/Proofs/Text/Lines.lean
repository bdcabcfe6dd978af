import Mathlib.Data.List.Basic
import ScopedVars.Text.Basic

/-! # Lines

Items are cut into lines at their feeds. UTF-8 encodes only the line feed with the byte of a line
feed, so a text and its bytes have the same lines; and only the last line of a text can stand
without a feed, which it can then be given.
-/

namespace ScopedVars

namespace Content

/-- The pieces between line feeds, without an empty last one. -/
def cut {α : Type} [BEq α] (feed : α) (items : List α) : List (List α) :=
  let pieces := items.splitOn feed
  if pieces.getLast?.any List.isEmpty then pieces.dropLast else pieces

/-- A line without the carriage returns at its end. -/
def trimReturns (line : List Char) : List Char :=
  (line.reverse.dropWhile (· = '\r')).reverse

/-- The lines, each with its text if it has one. -/
def lines : Content → List (Option String)
  | .text string => (cut '\n' string.toList).map fun line => some (.ofList (trimReturns line))
  | .raw bytes => (cut 10 bytes.data.toList).map fun line =>
      (String.fromUTF8? ⟨line.toArray⟩).map fun line => .ofList (trimReturns line.toList)

section Items

variable {α : Type} [DecidableEq α] {feed : α} {line : List α}

/-- Items are nothing, or a last line without a feed, or a line with its feed before other items. -/
@[elab_as_elim] theorem lines_induction (feed : α) {motive : List α → Prop} (nil : motive [])
    (last : ∀ line ≠ [], feed ∉ line → motive line)
    (more : ∀ line rest, feed ∉ line → motive rest → motive (line ++ feed :: rest))
    (items : List α) : motive items := by
  induction hlength : items.length using Nat.strongRecOn generalizing items with
  | ind length ih =>
    by_cases hfeed : feed ∈ items
    · obtain ⟨line, rest, rfl, hline⟩ := List.eq_append_cons_of_mem hfeed
      rw [List.length_append, List.length_cons] at hlength
      exact more line rest hline (ih rest.length (by omega) rest rfl)
    · by_cases hitems : items = []
      · exact hitems ▸ nil
      · exact last items hitems hfeed

theorem cut_nil (feed : α) : cut feed [] = [] := by
  simp [cut, List.splitOn_nil]

theorem cut_of_not_mem (hline : line ≠ []) (hfeed : feed ∉ line) : cut feed line = [line] := by
  simp [cut, List.splitOn_eq_singleton hfeed, hline]

theorem cut_append_cons (hfeed : feed ∉ line) (rest : List α) :
    cut feed (line ++ feed :: rest) = line :: cut feed rest := by
  have hrest := List.splitOn_ne_nil feed rest
  simp only [cut, List.splitOn_append_cons_self, List.splitOn_eq_singleton hfeed]
  rw [List.singleton_append, List.getLast?_cons_of_ne_nil hrest, List.dropLast_cons_of_ne_nil hrest]
  split <;> rfl

theorem takeLine_of_not_mem (hfeed : feed ∉ line) : takeLine feed line = (line, []) := by
  induction line with
  | nil => rfl
  | cons item line ih =>
    obtain ⟨hitem, hfeed⟩ := not_or.mp (List.mem_cons.not.mp hfeed)
    simp [takeLine, Ne.symm hitem, ih hfeed]

theorem takeLine_append_cons (hfeed : feed ∉ line) (rest : List α) :
    takeLine feed (line ++ feed :: rest) = (line ++ [feed], rest) := by
  induction line with
  | nil => simp [takeLine]
  | cons item line ih =>
    obtain ⟨hitem, hfeed⟩ := not_or.mp (List.mem_cons.not.mp hfeed)
    simp [takeLine, Ne.symm hitem, ih hfeed]

theorem cut_concat {last : α} (items : List α) (hlast : items.getLast? = some last)
    (hfeed : last ≠ feed) : cut feed (items ++ [feed]) = cut feed items := by
  induction items using lines_induction feed with
  | nil => cases hlast
  | last line hline hmem => rw [cut_append_cons hmem, cut_nil, cut_of_not_mem hline hmem]
  | more line rest hmem ih =>
    have hrest : rest.getLast? = some last := by
      cases rest with
      | nil => exact absurd (by simpa using hlast.symm) hfeed
      | cons item rest => simpa using hlast
    rw [List.append_assoc, List.cons_append, cut_append_cons hmem, cut_append_cons hmem, ih hrest]

end Items

def withReturns (chars : List Char) : List Char :=
  chars.flatMap fun c => if c = '\n' then ['\r', '\n'] else [c]

theorem withReturns_of_not_mem {line : List Char} (h : '\n' ∉ line) : withReturns line = line := by
  induction line with
  | nil => rfl
  | cons c line ih =>
    obtain ⟨hc, h⟩ := not_or.mp (List.mem_cons.not.mp h)
    rw [withReturns, List.flatMap_cons, if_neg (Ne.symm hc)]
    exact congrArg (c :: ·) (ih h)

theorem withReturns_append_cons {line : List Char} (h : '\n' ∉ line) (rest : List Char) :
    withReturns (line ++ '\n' :: rest) = (line ++ ['\r']) ++ '\n' :: withReturns rest := by
  have happend : withReturns (line ++ '\n' :: rest) =
      withReturns line ++ ('\r' :: '\n' :: withReturns rest) := List.flatMap_append
  rw [happend, withReturns_of_not_mem h, List.append_assoc, List.singleton_append]

theorem trimReturns_concat (line : List Char) :
    trimReturns (line ++ ['\r']) = trimReturns line := by
  simp [trimReturns]

theorem map_trimReturns_cut_withReturns (chars : List Char) :
    (cut '\n' (withReturns chars)).map trimReturns = (cut '\n' chars).map trimReturns := by
  induction chars using lines_induction '\n' with
  | nil => rfl
  | last line hline hmem => rw [withReturns_of_not_mem hmem]
  | more line rest hmem ih =>
    have hreturn : '\n' ∉ line ++ ['\r'] := by simpa using hmem
    rw [withReturns_append_cons hmem, cut_append_cons hreturn, cut_append_cons hmem, List.map_cons,
      List.map_cons, ih, trimReturns_concat]

def encode (chars : List Char) : List UInt8 := chars.flatMap String.utf8EncodeChar

theorem encode_append (chars more : List Char) :
    encode (chars ++ more) = encode chars ++ encode more := List.flatMap_append

theorem encode_singleton (c : Char) : encode [c] = String.utf8EncodeChar c :=
  List.flatMap_singleton ..

theorem encode_ne_nil {chars : List Char} (h : chars ≠ []) : encode chars ≠ [] := by
  obtain ⟨c, hc⟩ := List.exists_mem_of_ne_nil chars h
  exact fun hnil => String.utf8EncodeChar_ne_nil (List.flatMap_eq_nil_iff.mp hnil c hc)

theorem encode_feed (chars : List Char) : encode ('\n' :: chars) = 10 :: encode chars := rfl

theorem mem_utf8EncodeChar_iff (c : Char) : 10 ∈ String.utf8EncodeChar c ↔ c = '\n' := by
  constructor
  · intro h
    have hbytes : 10 ∈ (String.utf8EncodeChar c).map UInt8.toNat := List.mem_map_of_mem h
    apply Char.toNat_inj.mp
    change c.toNat = 10
    simp only [String.utf8EncodeChar, Char.toNat_val] at hbytes
    split_ifs at hbytes <;> simp at hbytes <;> omega
  · rintro rfl
    decide

theorem mem_encode_iff (chars : List Char) : 10 ∈ encode chars ↔ '\n' ∈ chars := by
  simp [encode, mem_utf8EncodeChar_iff]

theorem toList_toUTF8 (text : String) : text.toUTF8.data.toList = encode text.toList := by
  rw [String.toUTF8_eq_toByteArray, ← String.utf8Encode_toList]
  exact List.toList_data_toByteArray

theorem fromUTF8?_eq_some_iff (bytes : List UInt8) (text : String) :
    String.fromUTF8? ⟨bytes.toArray⟩ = some text ↔ encode text.toList = bytes := by
  rw [← toList_toUTF8]
  constructor
  · intro h
    unfold String.fromUTF8? at h
    split at h
    case isTrue hvalid => cases h; rfl
    case isFalse => cases h
  · rintro rfl
    exact dif_pos text.isValidUTF8

theorem fromUTF8?_encode (chars : List Char) :
    String.fromUTF8? ⟨(encode chars).toArray⟩ = some (.ofList chars) := by
  rw [fromUTF8?_eq_some_iff, String.toList_ofList]

theorem fromUTF8?_concat (line : List UInt8) :
    String.fromUTF8? ⟨(line ++ [10]).toArray⟩ =
      (String.fromUTF8? ⟨line.toArray⟩).map (· ++ "\n") := by
  cases hline : String.fromUTF8? ⟨line.toArray⟩ with
  | some text =>
    rw [fromUTF8?_eq_some_iff] at hline
    rw [Option.map_some, fromUTF8?_eq_some_iff, String.toList_append, encode_append, hline]
    rfl
  | none =>
    rw [Option.map_none, Option.eq_none_iff_forall_ne_some]
    intro text htext
    rw [fromUTF8?_eq_some_iff] at htext
    rcases text.toList.eq_nil_or_concat with hnil | ⟨chars, c, hchars⟩
    · simp [hnil, encode] at htext
    · rw [hchars, List.concat_eq_append, encode_append] at htext
      -- The last character encodes the byte of the line feed, and so it is a line feed.
      have hlast := congrArg List.getLast? htext
      rw [encode_singleton, List.getLast?_concat,
        List.getLast?_append_of_ne_nil _ String.utf8EncodeChar_ne_nil] at hlast
      obtain rfl := (mem_utf8EncodeChar_iff c).mp (List.mem_of_getLast? hlast)
      have hbytes : encode chars = line := (List.append_inj' htext rfl).1
      rw [← hbytes, fromUTF8?_encode] at hline
      cases hline

theorem cut_encode (chars : List Char) :
    cut 10 (encode chars) = (cut '\n' chars).map encode := by
  induction chars using lines_induction '\n' with
  | nil => rfl
  | last line hline hmem =>
    rw [cut_of_not_mem (encode_ne_nil hline) (by rwa [mem_encode_iff]), cut_of_not_mem hline hmem]
    rfl
  | more line rest hmem ih =>
    rw [encode_append, encode_feed, cut_append_cons (by rwa [mem_encode_iff]),
      cut_append_cons hmem, ih, List.map_cons]

/-- A text and its bytes have the same lines. -/
theorem lines_raw_toBytes (content : Content) : (raw content.toBytes).lines = content.lines := by
  cases content with
  | raw bytes => rfl
  | text string =>
    simp only [lines, toBytes, toList_toUTF8, cut_encode, List.map_map]
    apply List.map_congr_left
    intro line hline
    simp [fromUTF8?_encode]

end Content

end ScopedVars
