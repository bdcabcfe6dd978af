/-! # Dictionaries

Finite maps from strings, kept as entries with strictly increasing keys. Strings compare by code
point. The entries are determined by the lookups, so equal maps have equal texts, listings and
files.
-/

namespace ScopedVars

/-- A finite map from strings, its entries in strictly increasing order of their keys. -/
structure Dict (α : Type) where
  entries : List (String × α)
  sorted : entries.Pairwise fun a b => a.1 < b.1

namespace Dict

variable {α β : Type}

theorem lt_of_not_lt_of_ne {a b : String} (hlt : ¬ a < b) (hne : a ≠ b) : b < a := by
  by_cases h : b < a
  · exact h
  · exact absurd (String.le_antisymm (String.not_lt.mp h) (String.not_lt.mp hlt)) hne

/-- Places an entry in order; the value of a key that is there already is replaced. -/
def place (key : String) (value : α) : List (String × α) → List (String × α)
  | [] => [(key, value)]
  | entry :: rest =>
    if key < entry.1 then (key, value) :: entry :: rest
    else if key = entry.1 then (key, value) :: rest
    else entry :: place key value rest

theorem mem_place {key : String} {value : α} {entries : List (String × α)} {entry : String × α}
    (h : entry ∈ place key value entries) : entry = (key, value) ∨ entry ∈ entries := by
  induction entries with
  | nil => simpa [place] using h
  | cons head rest ih =>
    rw [place] at h
    split at h
    · simpa using h
    · split at h <;> grind

theorem sorted_place (key : String) (value : α) {entries : List (String × α)}
    (h : entries.Pairwise fun a b => a.1 < b.1) :
    (place key value entries).Pairwise fun a b => a.1 < b.1 := by
  induction entries with
  | nil => simp [place]
  | cons head rest ih =>
    rw [List.pairwise_cons] at h
    rw [place]
    split
    case isTrue hlt =>
      refine List.pairwise_cons.mpr ⟨?_, List.pairwise_cons.mpr h⟩
      intro entry hentry
      rcases List.mem_cons.mp hentry with rfl | hrest
      · exact hlt
      · exact String.lt_trans hlt (h.1 entry hrest)
    case isFalse hlt =>
      split
      case isTrue heq => exact List.pairwise_cons.mpr ⟨fun e he => heq ▸ h.1 e he, h.2⟩
      case isFalse hne =>
        refine List.pairwise_cons.mpr ⟨fun entry hentry => ?_, ih h.2⟩
        rcases mem_place hentry with rfl | hrest
        · exact lt_of_not_lt_of_ne hlt hne
        · exact h.1 entry hrest

def empty : Dict α := ⟨[], .nil⟩

instance : EmptyCollection (Dict α) := ⟨empty⟩

instance : Inhabited (Dict α) := ⟨empty⟩

def get? (dict : Dict α) (key : String) : Option α := dict.entries.lookup key

def contains (dict : Dict α) (key : String) : Bool := (dict.get? key).isSome

def insert (dict : Dict α) (key : String) (value : α) : Dict α :=
  ⟨place key value dict.entries, sorted_place key value dict.sorted⟩

def erase (dict : Dict α) (key : String) : Dict α :=
  ⟨dict.entries.filter fun entry => entry.1 ≠ key, dict.sorted.filter _⟩

def alter (dict : Dict α) (key : String) : Option α → Dict α
  | some value => dict.insert key value
  | none => dict.erase key

def keys (dict : Dict α) : List String := dict.entries.map Prod.fst

/-- The map with the given entries; of two entries with one key the later counts. -/
def ofList (entries : List (String × α)) : Dict α :=
  entries.foldl (fun dict entry => dict.insert entry.1 entry.2) empty

@[simp, grind =]
theorem get?_empty (key : String) : (∅ : Dict α).get? key = none := rfl

theorem lookup_place (key other : String) (value : α) (entries : List (String × α)) :
    (place key value entries).lookup other =
      if other = key then some value else entries.lookup other := by
  induction entries with
  | nil => grind [place]
  | cons head rest ih =>
    obtain ⟨k, v⟩ := head
    by_cases h : other = key
    · subst h
      have irrefl := String.lt_irrefl other
      grind [place]
    · grind [place]

@[simp, grind =]
theorem get?_insert (dict : Dict α) (key other : String) (value : α) :
    (dict.insert key value).get? other = if other = key then some value else dict.get? other :=
  lookup_place key other value dict.entries

@[simp, grind =]
theorem get?_erase (dict : Dict α) (key other : String) :
    (dict.erase key).get? other = if other = key then none else dict.get? other := by
  obtain ⟨entries, sorted⟩ := dict
  simp only [get?, erase]
  clear sorted
  induction entries with
  | nil => simp
  | cons head rest ih =>
    obtain ⟨k, v⟩ := head
    grind

@[simp, grind =]
theorem get?_alter (dict : Dict α) (key other : String) (value : Option α) :
    (dict.alter key value).get? other = if other = key then value else dict.get? other := by
  cases value <;> simp [alter]

theorem lookup_eq_none_of_lt {key : String} {entries : List (String × α)}
    (h : ∀ entry ∈ entries, key < entry.1) : entries.lookup key = none := by
  rw [List.lookup_eq_none_iff]
  intro entry hentry
  have := h entry hentry
  have := String.lt_irrefl key
  grind

theorem not_lt_of_lookup_eq_some {key : String} {value : α} {head : String × α}
    {rest : List (String × α)} (sorted : (head :: rest).Pairwise fun a b => a.1 < b.1)
    (h : (head :: rest).lookup key = some value) : ¬ key < head.1 := by
  intro hlt
  rw [lookup_eq_none_of_lt] at h
  · simp at h
  · intro entry hentry
    rcases List.mem_cons.mp hentry with rfl | hrest
    · exact hlt
    · exact String.lt_trans hlt (List.rel_of_pairwise_cons sorted hrest)

theorem eq_of_lookup_eq {xs ys : List (String × α)} (hxs : xs.Pairwise fun a b => a.1 < b.1)
    (hys : ys.Pairwise fun a b => a.1 < b.1) (h : ∀ key, xs.lookup key = ys.lookup key) :
    xs = ys := by
  induction xs generalizing ys with
  | nil =>
    cases ys with
    | nil => rfl
    | cons y ys =>
      obtain ⟨k, v⟩ := y
      simpa [List.lookup_cons_self] using h k
  | cons x xs ih =>
    cases ys with
    | nil =>
      obtain ⟨k, v⟩ := x
      simpa [List.lookup_cons_self] using h k
    | cons y ys =>
      obtain ⟨k, v⟩ := x
      obtain ⟨l, w⟩ := y
      have hkl : k = l := by
        have hl : ((k, v) :: xs).lookup l = some w := (h l).trans List.lookup_cons_self
        have hk : ((l, w) :: ys).lookup k = some v := (h k).symm.trans List.lookup_cons_self
        have hlk := not_lt_of_lookup_eq_some hxs hl
        have hkl := not_lt_of_lookup_eq_some hys hk
        exact String.le_antisymm (String.not_lt.mp hlk) (String.not_lt.mp hkl)
      subst hkl
      have hvw : v = w := by simpa [List.lookup_cons_self] using h k
      subst hvw
      congr 1
      rw [List.pairwise_cons] at hxs hys
      refine ih hxs.2 hys.2 fun key => ?_
      by_cases heq : key = k
      · rw [heq, lookup_eq_none_of_lt hxs.1, lookup_eq_none_of_lt hys.1]
      · have hne : (key == k) = false := by simpa using heq
        simpa [List.lookup_cons, hne] using h key

@[ext]
theorem ext {a b : Dict α} (h : ∀ key, a.get? key = b.get? key) : a = b := by
  obtain ⟨xs, hxs⟩ := a
  obtain ⟨ys, hys⟩ := b
  obtain rfl : xs = ys := eq_of_lookup_eq hxs hys h
  rfl

theorem erase_of_not_contains {dict : Dict α} {key : String} (h : dict.contains key = false) :
    dict.erase key = dict := by
  have habsent : dict.get? key = none := by simpa [contains] using h
  ext1 other
  rw [get?_erase]
  split
  case isTrue heq => rw [heq, habsent]
  case isFalse => rfl

theorem nodup_keys (dict : Dict α) : dict.keys.Nodup := by
  rw [keys, List.Nodup, List.pairwise_map]
  refine dict.sorted.imp ?_
  rintro a b hlt heq
  exact String.lt_irrefl _ (heq ▸ hlt)

theorem get?_eq_some_iff_mem (dict : Dict α) (key : String) (value : α) :
    dict.get? key = some value ↔ (key, value) ∈ dict.entries := by
  rw [get?, List.lookup_eq_some_iff]
  constructor
  · rintro ⟨before, after, heq, -⟩
    rw [heq]
    exact List.mem_append_right before List.mem_cons_self
  · intro hmem
    obtain ⟨before, after, heq⟩ := List.append_of_mem hmem
    refine ⟨before, after, heq, ?_⟩
    intro entry hentry
    have hsorted := dict.sorted
    rw [heq, List.pairwise_append] at hsorted
    have hlt := hsorted.2.2 entry hentry (key, value) List.mem_cons_self
    rw [bne_iff_ne]
    rintro rfl
    exact String.lt_irrefl _ hlt

theorem get?_foldl_insert {entries : List (String × α)} (h : (entries.map Prod.fst).Nodup)
    (dict : Dict α) (key : String) :
    (entries.foldl (fun dict entry => dict.insert entry.1 entry.2) dict).get? key =
      (entries.lookup key).or (dict.get? key) := by
  induction entries generalizing dict with
  | nil => simp
  | cons entry entries ih =>
    obtain ⟨k, v⟩ := entry
    rw [List.map_cons, List.nodup_cons] at h
    rw [List.foldl_cons, ih h.2, get?_insert]
    by_cases hkey : key = k
    · subst hkey
      have hnone : entries.lookup key = none := by
        rw [List.lookup_eq_none_iff]
        rintro entry hentry
        have hne : key ≠ entry.1 := by
          rintro rfl
          exact h.1 (List.mem_map.mpr ⟨entry, hentry, rfl⟩)
        simpa using hne
      simp [hnone]
    · have hne : (key == k) = false := by simpa using hkey
      simp [List.lookup_cons, hne, hkey]

theorem contains_ofList (entries : List (String × α)) (key : String) :
    (ofList entries).contains key = true ↔ key ∈ entries.map Prod.fst := by
  have hfold : ∀ dict : Dict α,
      (entries.foldl (fun dict entry => dict.insert entry.1 entry.2) dict).contains key = true ↔
        key ∈ entries.map Prod.fst ∨ dict.contains key = true := by
    induction entries with
    | nil => simp
    | cons entry entries ih =>
      intro dict
      rw [List.foldl_cons, ih]
      simp only [contains, get?_insert, List.map_cons, List.mem_cons]
      grind
  rw [ofList, hfold]
  exact or_iff_left (by simp [contains, empty, get?])

theorem ofList_entries (dict : Dict α) : ofList dict.entries = dict := by
  ext1 key
  rw [ofList, get?_foldl_insert dict.nodup_keys]
  exact Option.or_none

end Dict

end ScopedVars
