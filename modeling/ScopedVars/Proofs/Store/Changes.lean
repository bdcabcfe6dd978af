import ScopedVars.Proofs.Store.Rewriting

/-! # Changes in any order

A change sets a variable or removes it. If two changes of distinct variables can change places, then
any number of them can be made in any order: each gets the same answer, and the state is the same in
the end. A store of files is such a store, whatever texts its files have.
-/

namespace ScopedVars

structure Change where
  scope : Scope
  key : String
  value : Option String
  deriving DecidableEq, Repr

def Change.target (change : Change) : Scope × String := (change.scope, change.key)

namespace Store

variable {σ : Type} {store : Store (StateM σ)} {change other : Change}

def make {m : Type → Type} (store : Store m) (change : Change) : ExceptT StoreError m Unit :=
  store.set change.scope change.key change.value

/-- Makes changes one after the other, whatever they answer: each change with its answer, and the
state after the last of them. -/
def makeEach (store : Store (StateM σ)) :
    List Change → σ → List (Change × Except StoreError Unit) × σ
  | [], state => ([], state)
  | change :: changes, state =>
    let step := runIn state (store.make change)
    let rest := store.makeEach changes step.2
    ((change, step.1) :: rest.1, rest.2)

/-- Whether changes of two variables can change places. -/
structure Commutes (store : Store (StateM σ)) : Prop where
  answer : ∀ {change other : Change} (state : σ), change.target ≠ other.target →
    (runIn (runIn state (store.make other)).2 (store.make change)).1 =
      (runIn state (store.make change)).1
  state : ∀ {change other : Change} (state : σ), change.target ≠ other.target →
    (runIn (runIn state (store.make other)).2 (store.make change)).2 =
      (runIn (runIn state (store.make change)).2 (store.make other)).2

theorem Commutes.makeEach_swap (h : store.Commutes) (hne : change.target ≠ other.target)
    (rest : List Change) (state : σ) :
    (store.makeEach (change :: other :: rest) state).1.Perm
        (store.makeEach (other :: change :: rest) state).1 ∧
      (store.makeEach (change :: other :: rest) state).2 =
        (store.makeEach (other :: change :: rest) state).2 := by
  simp only [makeEach]
  rw [h.answer state hne, h.answer state hne.symm, h.state state hne]
  exact ⟨.swap .., rfl⟩

theorem Commutes.makeEach_perm (h : store.Commutes) {changes others : List Change}
    (horder : changes.Perm others) (hdistinct : (changes.map Change.target).Nodup) (state : σ) :
    (store.makeEach changes state).1.Perm (store.makeEach others state).1 ∧
      (store.makeEach changes state).2 = (store.makeEach others state).2 := by
  induction horder generalizing state with
  | nil => exact ⟨.refl [], rfl⟩
  | cons change _ ih =>
    obtain ⟨hanswers, hstate⟩ :=
      ih (List.nodup_cons.mp hdistinct).2 (runIn state (store.make change)).2
    exact ⟨hanswers.cons _, hstate⟩
  | swap change other rest =>
    have hne : other.target ≠ change.target := by
      intro heq
      exact (List.nodup_cons.mp hdistinct).1 (by simp [heq])
    exact h.makeEach_swap hne rest state
  | trans hfirst _ ih ih' =>
    obtain ⟨hanswers, hstate⟩ := ih hdistinct state
    obtain ⟨hanswers', hstate'⟩ := ih' ((hfirst.map Change.target).nodup hdistinct) state
    exact ⟨hanswers.trans hanswers', hstate.trans hstate'⟩

theorem runIn_make_file (paths : Scoped String) (files : Files) (change : Change) :
    runIn files ((file .memory paths).make change) =
      ((FileStore.contents paths files change.scope).map fun _ => (),
        files.alter (paths.get change.scope)
          (FileStore.rewritten change.key change.value (files.get? (paths.get change.scope)))) :=
  FileStore.runIn_set paths files change.scope change.key change.value

theorem commutes_file {paths : Scoped String} (hpaths : paths.user ≠ paths.system) :
    (file .memory paths).Commutes where
  answer {change other} files _ := by
    simp only [runIn_make_file]
    by_cases hscope : change.scope = other.scope
    · rw [hscope]
      exact FileStore.readable_alter paths files other.scope other.key other.value
    · have hpath : paths.get change.scope ≠ paths.get other.scope :=
        mt (Scoped.get_inj hpaths).mp hscope
      refine congrArg (Except.map fun _ => ()) (FileStore.contents_congr paths ?_)
      rw [Dict.get?_alter, if_neg hpath]
  state {change other} files hne := by
    simp only [runIn_make_file]
    by_cases hscope : change.scope = other.scope
    · have hkey : change.key ≠ other.key := fun heq => hne (Prod.ext hscope heq)
      rw [hscope, Dict.get?_alter, Dict.get?_alter, if_pos rfl, if_pos rfl, Dict.alter_alter,
        Dict.alter_alter, FileStore.rewritten_comm hkey]
    · have hpath : paths.get change.scope ≠ paths.get other.scope :=
        mt (Scoped.get_inj hpaths).mp hscope
      rw [Dict.get?_alter, Dict.get?_alter, if_neg hpath, if_neg hpath.symm,
        Dict.alter_comm _ hpath]

/-- Changes of distinct variables may be made in any order: each gets the same answer, and every
file has the same text in the end. -/
theorem changes_in_any_order {paths : Scoped String} (hpaths : paths.user ≠ paths.system)
    (files : Files) {changes others : List Change} (horder : changes.Perm others)
    (hdistinct : (changes.map Change.target).Nodup) :
    ((file .memory paths).makeEach changes files).1.Perm
        ((file .memory paths).makeEach others files).1 ∧
      ((file .memory paths).makeEach changes files).2 =
        ((file .memory paths).makeEach others files).2 :=
  (commutes_file hpaths).makeEach_perm horder hdistinct files

def marked : Files := ((∅ : Files).insert "/user" "# mine\nB = 'b'\n").insert "/system" "A"

def ofMarked : List Change :=
  [⟨.user, "A", some "a"⟩, ⟨.system, "A", some "a"⟩, ⟨.user, "B", none⟩]

theorem changes_in_any_order_backwards :
    "/user" ≠ "/system" ∧ ofMarked.Perm ofMarked.reverse ∧ (ofMarked.map Change.target).Nodup ∧
      ((file .memory ⟨"/user", "/system"⟩).makeEach ofMarked marked).1.Perm
        ((file .memory ⟨"/user", "/system"⟩).makeEach ofMarked.reverse marked).1 ∧
      ((file .memory ⟨"/user", "/system"⟩).makeEach ofMarked marked).2 =
        ((file .memory ⟨"/user", "/system"⟩).makeEach ofMarked.reverse marked).2 := by
  have hpaths : "/user" ≠ "/system" := by decide
  have horder : ofMarked.Perm ofMarked.reverse := (List.reverse_perm _).symm
  have hdistinct : (ofMarked.map Change.target).Nodup := by decide
  exact ⟨hpaths, horder, hdistinct, changes_in_any_order hpaths marked horder hdistinct⟩

end Store

end ScopedVars
