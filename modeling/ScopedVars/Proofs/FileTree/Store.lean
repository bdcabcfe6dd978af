import ScopedVars.Proofs.FileTree.Growth
import ScopedVars.Proofs.Session.Resuming
import ScopedVars.Proofs.Settings.RoundTrip
import ScopedVars.Store.Basic

/-! # Stores in file trees

To read the settings or a store leaves a file tree as it is. A call to a store grows it, by the file
at the path of the call's scope at most.
-/

namespace ScopedVars

variable (tree : FileTree)

namespace FileSystem

variable (path text : String)

@[simp]
theorem run_tree_present : (FileSystem.tree.present path).run tree = (tree.present path, tree) :=
  rfl

@[simp]
theorem runIn_tree_read : runIn tree (FileSystem.tree.read path) = (tree.read path, tree) := by
  simp only [FileSystem.tree, runIn_bind, runIn_getThe]
  cases tree.read path <;> rfl

theorem grows_runIn_write :
    FileTree.Grows [path] tree (runIn tree (FileSystem.tree.write path text)).2 := by
  simp only [FileSystem.tree, runIn_bind, runIn_getThe]
  cases hwrite : tree.write path text with
  | error error => exact .refl [path] tree
  | ok after => exact FileTree.grows_write hwrite

theorem grows_runIn_ensureParent :
    FileTree.Grows [] tree (runIn tree (FileSystem.tree.ensureParent path)).2 := by
  have hparent := tree.grows_ensureParent path
  simp only [FileSystem.tree, runIn_bind, runIn_getThe]
  rcases hensure : tree.ensureParent path with ⟨error | ⟨⟩, after⟩
  · rw [hensure] at hparent
    exact hparent
  · rw [hensure] at hparent
    exact hparent

end FileSystem

theorem Settings.run_configPath?_tree (environment : Environment) (named : Option String) :
    ((configPath? .tree environment named).run tree).2 = tree := by
  unfold configPath?
  split
  case h_1 => rfl
  case h_2 => rfl
  case h_3 path _ =>
    rw [StateT.run_bind, FileSystem.run_tree_present]
    cases tree.present path <;> rfl

theorem Settings.runIn_load_tree (environment : Environment) (named : Option String) :
    (runIn tree (load .tree environment named)).2 = tree := by
  unfold load layer
  refine unchanged_bind (unchanged_bind ?_ fun path? => ?_) fun layer => ?_
  · rw [runIn_lift]
    exact run_configPath?_tree tree environment named
  · cases path? with
    | none => rfl
    | some path => exact unchanged_bind (by simp) fun text => by rw [runIn_ofExcept]
  · rw [runIn_ofExcept]

namespace FileStore

variable (paths : Scoped String) (scope : Scope)

theorem runIn_load_tree : (runIn tree (load .tree paths scope)).2 = tree := by
  unfold load
  refine unchanged_bind rfl fun present => ?_
  split
  case isFalse => rfl
  case isTrue =>
    refine unchanged_bind (by simp) fun text => ?_
    cases Toml.decode text <;> rfl

theorem grows_save (vars : Dict String) :
    FileTree.Grows [paths.get scope] tree (runIn tree (save .tree paths scope vars)).2 := by
  have hparent := (FileSystem.grows_runIn_ensureParent tree (paths.get scope)).mono
    (List.nil_subset [paths.get scope])
  unfold save
  refine after_bind ?_ fun _ => ?_
  · rw [runIn_adapt]
    exact hparent
  · rw [runIn_adapt, runIn_adapt]
    exact hparent.trans (FileSystem.grows_runIn_write ..)

end FileStore

/-- What has grown by the files at some paths still has after a call to a scope with one of them. -/
theorem Store.maintains_grows {paths : Scoped String} {others : List String} {scope : Scope}
    (hscope : paths.get scope ∈ others) (before : FileTree) :
    (Store.file .tree paths).Maintains (FileTree.Grows others before) scope where
  list tree htree := by
    have hload := FileStore.runIn_load_tree tree paths scope
    rw [Store.file, unchanged_bind hload fun _ => rfl]
    exact htree
  get key tree htree := by
    have hload := FileStore.runIn_load_tree tree paths scope
    rw [Store.file, unchanged_bind hload fun _ => rfl]
    exact htree
  set key value tree htree := by
    have hload := FileStore.runIn_load_tree tree paths scope
    refine after_bind ?_ fun vars => ?_
    · rw [hload]
      exact htree
    · rw [hload]
      split
      case isTrue => exact htree
      case isFalse =>
        exact htree.trans ((FileStore.grows_save ..).mono (by simpa using hscope))

end ScopedVars
