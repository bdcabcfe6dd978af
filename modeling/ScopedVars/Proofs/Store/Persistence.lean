import ScopedVars.Proofs.Running
import ScopedVars.Proofs.Toml.RoundTrip
import ScopedVars.Store.Memory

/-! # Variables kept in files

What the store of files does to files in memory, call by call: it reads the contents of a scope off
the scope's file, and a write replaces that file by the text of the changed contents. What is saved
is what is loaded, whatever characters the keys and values have.
-/

namespace ScopedVars

namespace FileSystem

variable (path text : String) (files : Files)

@[simp]
theorem run_present : (memory.present path).run files = (files.contains path, files) := rfl

@[simp]
theorem runIn_read :
    runIn files (memory.read path) =
      (match files.get? path with
        | some text => .ok text
        | none => .error .notFound, files) := by
  simp only [memory, runIn_bind, runIn_getThe]
  cases files.get? path <;> rfl

@[simp]
theorem runIn_write : runIn files (memory.write path text) = (.ok (), files.insert path text) := rfl

@[simp]
theorem runIn_ensureParent : runIn files (memory.ensureParent path) = (.ok (), files) := rfl

end FileSystem

namespace FileStore

variable (paths : Scoped String) (files : Files) (scope : Scope) (vars : Dict String)

def contents : Except StoreError (Dict String) :=
  match files.get? (paths.get scope) with
  | none => .ok ∅
  | some text =>
    match Toml.decode text with
    | .error report => .error (.corrupt scope (paths.get scope) report)
    | .ok vars => .ok vars

theorem runIn_load :
    runIn files (load .memory paths scope) = (contents paths files scope, files) := by
  simp only [load, contents, runIn_bind, runIn_lift, FileSystem.run_present]
  cases hfile : files.get? (paths.get scope) with
  | none => simp [Dict.contains, hfile]
  | some text =>
    simp only [Dict.contains, hfile, Option.isSome_some, if_true, runIn_bind, runIn_adapt,
      FileSystem.runIn_read, mapError_ok]
    cases Toml.decode text <;> rfl

theorem runIn_save :
    runIn files (save .memory paths scope vars) =
      (.ok (), files.insert (paths.get scope) (Toml.encode vars)) := rfl

theorem contents_insert_encode :
    contents paths (files.insert (paths.get scope) (Toml.encode vars)) scope = .ok vars := by
  simp only [contents, Dict.get?_insert, if_true, Toml.decode_encode]

/-- Saving variables succeeds, and loading them afterwards gives them back unchanged. -/
theorem load_after_save :
    ∃ saved, runIn files (save .memory paths scope vars) = (.ok (), saved) ∧
      runIn saved (load .memory paths scope) = (.ok vars, saved) := by
  refine ⟨_, runIn_save paths files scope vars, ?_⟩
  rw [runIn_load, contents_insert_encode]

end FileStore

namespace Store

variable (paths : Scoped String) (files : Files) (scope : Scope) (key : String)

theorem runIn_file_list :
    runIn files ((Store.file .memory paths).list scope) =
      ((FileStore.contents paths files scope).map Dict.keys, files) := by
  simp only [Store.file, bind_pure_comp, runIn_map, FileStore.runIn_load]

theorem runIn_file_get :
    runIn files ((Store.file .memory paths).get scope key) =
      ((FileStore.contents paths files scope).map (·.get? key), files) := by
  simp only [Store.file, bind_pure_comp, runIn_map, FileStore.runIn_load]

theorem runIn_file_set {vars : Dict String} (h : FileStore.contents paths files scope = .ok vars)
    (value : Option String) :
    runIn files ((Store.file .memory paths).set scope key value) =
      (.ok (), if value.isNone && !vars.contains key then files
        else files.insert (paths.get scope) (Toml.encode (vars.alter key value))) := by
  simp only [Store.file, runIn_bind, FileStore.runIn_load, h]
  split
  · rfl
  · rfl

end Store

end ScopedVars
