import ScopedVars.Proofs.Session.Turns
import ScopedVars.Proofs.Store.Correspondence

/-! # Sessions on corresponding stores

A session does not tell corresponding stores apart either: turn by turn it attempts the same command
on both, and each attempt ends the same way.
-/

namespace ScopedVars

namespace Session

variable {σ τ : Type} {R : σ → τ → Prop} {store : Store (StateM σ)} {other : Store (StateM τ)}
  {session : Session}

theorem turns_matches_of_ends (h : store.Corresponds R other) (hover : session.isOver = false)
    {item : Input} (hitem : item.ends = true) (isFirst : Bool) (rest : List Input) :
    Matches R Eq (turns store isFirst session (item :: rest))
      (turns other isFirst session (item :: rest)) := by
  rw [turns_of_ends store hover hitem, turns_of_ends other hover hitem]
  exact (h.attempt session.current session.scope).map_same _

/-- The turns of a session on corresponding stores are the same. -/
theorem turns_matches (h : store.Corresponds R other) (hover : session.isOver = false)
    (isFirst : Bool) (input : List Input) :
    Matches R Eq (turns store isFirst session input) (turns other isFirst session input) := by
  induction input generalizing session isFirst with
  | nil =>
    rw [turns_nil store hover, turns_nil other hover]
    exact turns_matches_of_ends h hover rfl isFirst []
  | cons item rest ih =>
    cases hitem : item.ends with
    | true => exact turns_matches_of_ends h hover hitem isFirst rest
    | false =>
      obtain ⟨text, rfl⟩ := Input.exists_line hitem
      rw [turns_of_line store hover, turns_of_line other hover]
      refine (h.attempt session.current session.scope).bind ?_
      rintro answer _ rfl
      have hnext : ((session.absorb answer).1.accept text).1.isOver = false :=
        (isOver_accept ..).trans hitem
      exact (ih hnext false).map_same _

/-- What the stores answer is all that is seen of them: on corresponding stores commands on their
own give the same, sessions end the same, and the stores correspond afterwards. -/
theorem corresponding_unobservable (h : store.Corresponds R other) {state : σ} {image : τ}
    (hstate : R state image) (tokens : List String) (input : List Input) :
    ((runIn state (store.runOnce tokens)).1 = (runIn image (other.runOnce tokens)).1 ∧
        R (runIn state (store.runOnce tokens)).2 (runIn image (other.runOnce tokens)).2) ∧
      ((run store {} input).run state).1 = ((run other {} input).run image).1 ∧
        R ((run store {} input).run state).2 ((run other {} input).run image).2 :=
  ⟨h.runOnce tokens hstate, turns_matches h rfl true input hstate⟩

/-- Files on one side, and on the other variables in memory that are listed in the opposite order. -/
theorem corresponding_unobservable_backwards :
    (Store.file .memory ⟨"/user", "/system"⟩).Corresponds (Represents ⟨"/user", "/system"⟩)
        (Store.memory (.both false)).backwards ∧
      Represents ⟨"/user", "/system"⟩ ∅ (.both ∅) ∧
      ((runIn ∅ ((Store.file .memory ⟨"/user", "/system"⟩).runOnce ["set", "A", "b", "-s"])).1 =
            (runIn (.both ∅) ((Store.memory (.both false)).backwards.runOnce
              ["set", "A", "b", "-s"])).1 ∧
          Represents ⟨"/user", "/system"⟩
            (runIn ∅ ((Store.file .memory ⟨"/user", "/system"⟩).runOnce ["set", "A", "b", "-s"])).2
            (runIn (.both ∅) ((Store.memory (.both false)).backwards.runOnce
              ["set", "A", "b", "-s"])).2) ∧
        ((run (Store.file .memory ⟨"/user", "/system"⟩) {}
                [.line "set B b", .line "set A a", .line "ls"]).run ∅).1 =
            ((run (Store.memory (.both false)).backwards {}
                [.line "set B b", .line "set A a", .line "ls"]).run (.both ∅)).1 ∧
          Represents ⟨"/user", "/system"⟩
            ((run (Store.file .memory ⟨"/user", "/system"⟩) {}
                [.line "set B b", .line "set A a", .line "ls"]).run ∅).2
            ((run (Store.memory (.both false)).backwards {}
                [.line "set B b", .line "set A a", .line "ls"]).run (.both ∅)).2 := by
  have h : (Store.file .memory ⟨"/user", "/system"⟩).Corresponds
      (Represents ⟨"/user", "/system"⟩) (Store.memory (.both false)).backwards :=
    (Represents.corresponds (by decide)).backwards
  have hstate : Represents ⟨"/user", "/system"⟩ ∅ (.both ∅) := by
    rintro (_ | _)
    · exact .inl ⟨rfl, rfl⟩
    · exact .inl ⟨rfl, rfl⟩
  exact ⟨h, hstate, corresponding_unobservable h hstate _ _⟩

end Session

end ScopedVars
