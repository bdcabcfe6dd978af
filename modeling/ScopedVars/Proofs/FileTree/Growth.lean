import Mathlib.Tactic.SplitIfs
import ScopedVars.FileTree
import ScopedVars.Proofs.Running

/-! # How file trees grow

The calls to a file tree make directories and write files. A directory stays one, so that a path
which leads to a place leads there ever after, and a file that differs is one that was written by
its path.
-/

namespace ScopedVars

def Entry.content? : Entry → Option Content
  | .directory => none
  | .file content => some content
  | .sink => none

namespace FileTree

def content? (tree : FileTree) (place : Place) : Option Content :=
  match tree.entry? place with
  | some entry => entry.content?
  | none => none

/-- Whether one tree has the directories of another and the same current directory. -/
structure Extends (before after : FileTree) : Prop where
  current : after.current = before.current
  directory : ∀ place, before.entry? place = some .directory →
    after.entry? place = some .directory

/-- Whether a tree has become another one in which at most the files that the given paths lead to
differ. -/
structure Grows (paths : List String) (before after : FileTree) : Prop
    extends Extends before after where
  content : ∀ place, after.content? place ≠ before.content? place →
    ∃ path ∈ paths, after.locate path = .ok place

variable {paths : List String} {before between after tree : FileTree} {place : Place}

theorem Extends.follow (h : Extends before after) {parts : List String} {found : Place}
    (hfollow : before.follow place parts = .ok found) : after.follow place parts = .ok found := by
  induction parts generalizing place with
  | nil => exact hfollow
  | cons part rest ih =>
    rw [FileTree.follow] at hfollow ⊢
    cases hentry : before.entry? place with
    | none => simp [hentry] at hfollow
    | some entry =>
      cases entry with
      | directory =>
        simp only [hentry, h.directory place hentry] at hfollow ⊢
        split_ifs at hfollow ⊢ with hfiller hup hlong
        · exact ih hfollow
        · exact ih hfollow
        · exact ih hfollow
      | file content => simp [hentry] at hfollow
      | sink => simp [hentry] at hfollow

theorem Extends.locate (h : Extends before after) {path : String}
    (hlocate : before.locate path = .ok place) : after.locate path = .ok place := by
  have hstart : after.start path = before.start path := by
    rw [start, start, h.current]
  rw [FileTree.locate] at hlocate ⊢
  split_ifs at hlocate ⊢
  rw [hstart]
  exact h.follow hlocate

namespace Grows

theorem refl (paths : List String) (tree : FileTree) : Grows paths tree tree where
  current := rfl
  directory _ h := h
  content _ h := absurd rfl h

theorem trans (h : Grows paths before between) (hnext : Grows paths between after) :
    Grows paths before after where
  current := hnext.current.trans h.current
  directory place hplace := hnext.directory place (h.directory place hplace)
  content place hplace := by
    by_cases hsame : after.content? place = between.content? place
    · rw [hsame] at hplace
      obtain ⟨path, hpath, hlocate⟩ := h.content place hplace
      exact ⟨path, hpath, hnext.locate hlocate⟩
    · exact hnext.content place hsame

theorem mono {others : List String} (h : Grows paths before after) (hpaths : paths ⊆ others) :
    Grows others before after where
  toExtends := h.toExtends
  content place hplace := by
    obtain ⟨path, hpath, hlocate⟩ := h.content place hplace
    exact ⟨path, hpaths hpath, hlocate⟩

end Grows

theorem lookup_filter_ne {entries : List (Place × Entry)} {other : Place} (h : other ≠ place) :
    (entries.filter fun entry => entry.1 ≠ place).lookup other = entries.lookup other := by
  induction entries with
  | nil => rfl
  | cons entry entries ih =>
    obtain ⟨found, entry⟩ := entry
    by_cases hfound : found = place
    · subst hfound
      have hne : (other == found) = false := beq_false_of_ne h
      rw [List.filter_cons_of_neg (by simp), ih, List.lookup_cons, hne]
    · rw [List.filter_cons_of_pos (by simpa using hfound), List.lookup_cons, List.lookup_cons, ih]

theorem lookup_insert (tree : FileTree) (hplace : place ≠ []) (entry : Entry) (other : Place) :
    entry? (tree.insert place entry) other =
      if other = place then some entry else tree.entry? other := by
  unfold entry?
  by_cases hroot : other = []
  · rw [if_pos hroot, if_pos hroot, if_neg (hroot ▸ hplace.symm)]
  · rw [if_neg hroot, if_neg hroot, insert, List.lookup_cons]
    by_cases hother : other = place
    · simp [hother]
    · rw [beq_false_of_ne hother, if_neg hother]
      exact lookup_filter_ne hother

theorem content?_insert (tree : FileTree) (hplace : place ≠ []) (entry : Entry) (other : Place) :
    (tree.insert place entry).content? other =
      if other = place then entry.content? else tree.content? other := by
  rw [content?, lookup_insert tree hplace, content?]
  by_cases h : other = place
  · rw [if_pos h, if_pos h]
  · rw [if_neg h, if_neg h]

theorem ne_nil_of_ne_directory (h : tree.entry? place ≠ some .directory) : place ≠ [] := by
  rintro rfl
  exact h rfl

theorem extends_insert (h : tree.entry? place ≠ some .directory) (entry : Entry) :
    Extends tree (tree.insert place entry) where
  current := rfl
  directory other hother := by
    rw [lookup_insert tree (ne_nil_of_ne_directory h)]
    split
    case isTrue heq => exact absurd (heq ▸ hother) h
    case isFalse => exact hother

theorem grows_insert_file {path : String} (hlocate : tree.locate path = .ok place)
    (h : tree.entry? place ≠ some .directory) (content : Content) :
    Grows [path] tree (tree.insert place (.file content)) where
  toExtends := extends_insert h _
  content other hother := by
    rw [content?_insert tree (ne_nil_of_ne_directory h)] at hother
    split at hother
    case isTrue heq =>
      rw [heq]
      exact ⟨path, List.mem_singleton_self path, (extends_insert h _).locate hlocate⟩
    case isFalse => exact absurd rfl hother

theorem grows_insert_directory (h : tree.entry? place = none) :
    Grows [] tree (tree.insert place .directory) := by
  have hnone : tree.entry? place ≠ some .directory := by simp [h]
  refine ⟨extends_insert hnone _, fun other hother => absurd ?_ hother⟩
  rw [content?_insert tree (ne_nil_of_ne_directory hnone)]
  split
  case isTrue heq => rw [heq, content?, h]; rfl
  case isFalse => rfl

theorem grows_write {path text : String} (h : tree.write path text = .ok after) :
    Grows [path] tree after := by
  unfold write at h
  obtain ⟨place, hlocate, h⟩ := exists_of_bind_ok h
  split at h
  case h_1 => cases h
  case h_2 =>
    cases h
    exact .refl [path] _
  case h_3 content hentry =>
    cases h
    exact grows_insert_file hlocate (by simp [hentry]) _
  case h_4 hentry =>
    cases h
    exact grows_insert_file hlocate (by simp [hentry]) _

theorem grows_makeDirectory {path : String} (h : tree.makeDirectory path = .ok after) :
    Grows [] tree after := by
  unfold makeDirectory at h
  obtain ⟨place, hlocate, h⟩ := exists_of_bind_ok h
  split at h
  case isTrue => cases h
  case isFalse hnone =>
    cases h
    exact grows_insert_directory (by simpa using hnone)

theorem grows_tryDirectory (tree : FileTree) (path : String) :
    Grows [] tree (tree.tryDirectory path).2 := by
  unfold tryDirectory
  split
  case h_1 made hmade => exact grows_makeDirectory hmade
  case h_2 => exact .refl [] tree

theorem grows_makeDirectories (tree : FileTree) (reversed : List String) :
    Grows [] tree (tree.makeDirectories reversed).2 := by
  induction reversed generalizing tree with
  | nil => exact .refl [] tree
  | cons part above ih =>
    unfold makeDirectories
    split
    case isTrue => exact ih tree
    case isFalse =>
      have hfirst := grows_tryDirectory tree (ofParts (part :: above))
      split
      case h_1 next hmissing =>
        rw [hmissing] at hfirst
        have habove := hfirst.trans (ih next)
        split
        case h_1 made hmade =>
          rw [hmade] at habove
          exact habove.trans (grows_tryDirectory made _)
        case h_2 => exact habove
      case h_2 => exact hfirst

theorem grows_ensureParent (tree : FileTree) (path : String) :
    Grows [] tree (tree.ensureParent path).2 :=
  grows_makeDirectories tree _

end FileTree

end ScopedVars
