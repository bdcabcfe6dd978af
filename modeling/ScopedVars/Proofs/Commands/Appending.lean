import ScopedVars.Proofs.Commands.Grammar
import ScopedVars.Proofs.Store.Overwriting

/-! # Appending in parts

On a store without faults, appending parts to a variable one after the other leaves the state that
one call leaves which sets the old value with all parts behind it. If the store cuts values then the
cuts on the way take nothing that the last one keeps. After the variable is removed the old value is
empty.
-/

namespace ScopedVars

structure Appends (scope : Scope) (key : String) (tokens words : List String) : Prop where
  phrase : Command.positional tokens = "append" :: key :: words
  words_ne_nil : words ≠ []
  scope_eq : Command.scopeOf tokens = scope
  writes : dryRunFlag ∉ tokens

structure Removes (scope : Scope) (key : String) (tokens : List String) : Prop where
  phrase : Command.positional tokens = ["rm", key]
  scope_eq : Command.scopeOf tokens = scope

/-- The texts of several values, each of words, with nothing between the values. -/
def joinValues (values : List (List String)) : String := String.join (values.map joinWords)

theorem joinValues_cons (words : List String) (values : List (List String)) :
    joinValues (words :: values) = joinWords words ++ joinValues values := by
  simp [joinValues]

namespace Store

section Commands

variable {m : Type → Type} [Monad m] [LawfulMonad m] (store : Store m) {scope : Scope}
  {key : String} {tokens words : List String}

theorem runOnce_of_append (hphrase : Command.positional tokens = "append" :: key :: words)
    (hwords : words ≠ []) :
    store.runOnce tokens =
      Outcome.mk (Command.scopeOf tokens) <$>
        (store.perform (Command.scopeOf tokens)
          (.append key (joinWords words) (Command.classify tokens).isDryRun)).adapt .store := by
  obtain ⟨value, values, rfl⟩ := List.exists_cons_of_ne_nil hwords
  have hvalid : (Command.classify tokens).problems = [] := by
    apply Command.problems_of_isPhrase
    rw [hphrase]
    exact .append key value values
  have hoperation : (Command.classify tokens).operation? =
      some (.append key (joinWords (value :: values)) (Command.classify tokens).isDryRun) := by
    simp [Command.operation?, Command.classify, hphrase, Verb.ofWord]
  rw [runOnce_eq_attempt, store.attempt_of_operation hvalid hoperation]
  rfl

theorem runOnce_of_appends (h : Appends scope key tokens words) :
    store.runOnce tokens =
      Outcome.mk scope <$>
        (store.perform scope (.append key (joinWords words) false)).adapt .store := by
  have hwrites : (Command.classify tokens).isDryRun = false := by
    rw [Bool.eq_false_iff, Ne, Command.isDryRun_classify_iff]
    exact h.writes
  rw [store.runOnce_of_append h.phrase h.words_ne_nil, hwrites, h.scope_eq]

theorem runOnce_of_removes (h : Removes scope key tokens) :
    store.runOnce tokens = Outcome.mk scope <$> (store.write scope key none).adapt .store := by
  have hvalid : (Command.classify tokens).problems = [] := by
    apply Command.problems_of_isPhrase
    rw [h.phrase]
    exact .delete key
  have hoperation : (Command.classify tokens).operation? = some (.delete key) := by
    simp [Command.operation?, Command.classify, h.phrase, Verb.ofWord]
  rw [runOnce_eq_attempt, store.attempt_of_operation hvalid hoperation, h.scope_eq]
  rfl

end Commands

variable {σ : Type} {scope : Scope} {limit : Option Nat} {medium : Medium σ}
  {store : Store (StateM σ)} {state : σ} {vars : Dict String} {key : String}
  {tokens words removal : List String} {commands values : List (List String)}

/-- Whether a call succeeds, and leaves the state that a call leaves which sets a variable, or
removes it. -/
def ActsAsSet (store : Store (StateM σ)) (scope : Scope) (key : String) (value : Option String)
    (state : σ) {α : Type} (call : ExceptT Failure (StateM σ) α) : Prop :=
  ∃ answer after, runIn state (store.set scope key value) = (.ok (), after) ∧
    runIn state call = (.ok answer, after)

namespace Faultless

theorem write (h : store.Faultless scope limit medium)
    (hvars : medium.contents? state scope = some vars) (key : String) (value : Option String) :
    ∃ after, runIn state (store.set scope key value) = (.ok (), after) ∧
      runIn state (store.write scope key value) = (.ok (value.map (cut limit)), after) := by
  obtain ⟨after, hset, hafter⟩ := h.set hvars key value
  have hget := h.get hafter key
  rw [Dict.get?_alter, if_pos rfl] at hget
  refine ⟨after, hset, ?_⟩
  rw [Store.write, runIn_bind, hset]
  exact hget

theorem append (h : store.Faultless scope limit medium)
    (hvars : medium.contents? state scope = some vars) (key suffix : String) :
    ∃ after,
      runIn state (store.set scope key (some ((vars.get? key).getD "" ++ suffix))) =
        (.ok (), after) ∧
      runIn state (store.perform scope (.append key suffix false)) =
        (.ok (some (cut limit ((vars.get? key).getD "" ++ suffix))), after) := by
  obtain ⟨after, hset, hwrite⟩ := h.write hvars key (some ((vars.get? key).getD "" ++ suffix))
  refine ⟨after, hset, ?_⟩
  rw [perform, runIn_bind, h.get hvars key]
  exact hwrite

theorem actsAsSet_append (h : store.Faultless scope limit medium)
    (hvars : medium.contents? state scope = some vars) (happends : Appends scope key tokens words) :
    store.ActsAsSet scope key (some ((vars.get? key).getD "" ++ joinWords words)) state
      (store.runOnce tokens) := by
  obtain ⟨after, hset, happend⟩ := h.append hvars key (joinWords words)
  refine ⟨⟨scope, some (cut limit ((vars.get? key).getD "" ++ joinWords words))⟩, after, hset, ?_⟩
  rw [store.runOnce_of_appends happends, runIn_map, runIn_adapt, happend]
  rfl

theorem actsAsSet_remove (h : store.Faultless scope limit medium)
    (hvars : medium.contents? state scope = some vars) (hremoves : Removes scope key removal) :
    store.ActsAsSet scope key none state (store.runOnce removal) := by
  obtain ⟨after, hset, hwrite⟩ := h.write hvars key none
  refine ⟨⟨scope, none⟩, after, hset, ?_⟩
  rw [store.runOnce_of_removes hremoves, runIn_map, runIn_adapt, hwrite]
  rfl

/-- After a variable is set to a text, appending values goes on as if the text and the values had
been set at once. -/
theorem appends_after_set (h : store.Faultless scope limit medium)
    (hvars : medium.contents? state scope = some vars)
    (happends : List.Forall₂ (Appends scope key) commands values) (text : String) :
    ∃ outcomes, runIn (runIn state (store.set scope key (some text))).2
        (commands.mapM store.runOnce) =
      (.ok outcomes, (runIn state (store.set scope key (some (text ++ joinValues values)))).2) := by
  induction happends generalizing text with
  | nil =>
    refine ⟨[], ?_⟩
    rw [show text ++ joinValues [] = text by simp [joinValues]]
    rfl
  | @cons tokens words commands values happends _ ih =>
    obtain ⟨between, hset, hbetween⟩ := h.set hvars key (some text)
    obtain ⟨outcome, after, hagain, hfirst⟩ := h.actsAsSet_append hbetween happends
    -- What the first value is appended to is the part of the text that is kept.
    have hkept : ((vars.alter key (some (cut limit text))).get? key).getD "" = cut limit text := by
      simp
    have hafter :
        after = (runIn state (store.set scope key (some (text ++ joinWords words)))).2 := by
      rw [Option.map_some, hkept, h.set_congr key (cut_cut_append limit text (joinWords words)),
        h.set_after_set hset] at hagain
      exact (congrArg Prod.snd hagain).symm
    obtain ⟨outcomes, hrest⟩ := ih (text ++ joinWords words)
    refine ⟨outcome :: outcomes, ?_⟩
    rw [joinValues_cons, ← String.append_assoc, hset]
    rw [← hafter] at hrest
    exact runIn_mapM_cons hfirst hrest

theorem actsAsSet_appends (h : store.Faultless scope limit medium)
    (hvars : medium.contents? state scope = some vars)
    (happends : List.Forall₂ (Appends scope key) commands values) (hvalues : values ≠ []) :
    store.ActsAsSet scope key (some ((vars.get? key).getD "" ++ joinValues values)) state
      (commands.mapM store.runOnce) := by
  cases happends with
  | nil => exact absurd rfl hvalues
  | @cons tokens words commands values happends hrest =>
    obtain ⟨outcome, between, hset, hfirst⟩ := h.actsAsSet_append hvars happends
    obtain ⟨outcomes, hrun⟩ :=
      h.appends_after_set hvars hrest ((vars.get? key).getD "" ++ joinWords words)
    obtain ⟨after, hall, -⟩ :=
      h.set hvars key (some ((vars.get? key).getD "" ++ joinValues (words :: values)))
    rw [hset, String.append_assoc, ← joinValues_cons, hall] at hrun
    exact ⟨_, after, hall, runIn_mapM_cons hfirst hrun⟩

end Faultless

/-- On a store without faults, commands that append to a variable of a scope that can be read all
succeed, and leave the state that one call leaves which sets the old value with all their values
behind it, nothing between them. If a command that removes the variable comes before them then the
old value is empty. -/
theorem appends_compose (hstore : store.Faultless scope limit medium)
    (hvars : medium.contents? state scope = some vars)
    (happends : List.Forall₂ (Appends scope key) commands values) (hvalues : values ≠ []) :
    store.ActsAsSet scope key (some ((vars.get? key).getD "" ++ joinValues values)) state
        (commands.mapM store.runOnce) ∧
      ∀ removal, Removes scope key removal →
        store.ActsAsSet scope key (some (joinValues values)) state
          ((removal :: commands).mapM store.runOnce) := by
  refine ⟨hstore.actsAsSet_appends hvars happends hvalues, ?_⟩
  intro removal hremoves
  obtain ⟨outcome, between, hset, hremove⟩ := hstore.actsAsSet_remove hvars hremoves
  obtain ⟨_, hset', hbetween⟩ := hstore.set hvars key none
  obtain rfl := congrArg Prod.snd (hset.symm.trans hset')
  obtain ⟨outcomes, after, hagain, hrun⟩ :=
    hstore.actsAsSet_appends hbetween happends hvalues
  have hold : ((vars.alter key (Option.map (cut limit) none)).get? key).getD "" = "" := by
    simp
  rw [hold, String.empty_append, hstore.set_after_set hset] at hagain
  exact ⟨_, after, hagain, runIn_mapM_cons hremove hrun⟩

def accented : Files := (∅ : Files).insert "/user" "A = \"é\"\n"

theorem contents?_accented :
    (Medium.files ⟨"/user", "/system"⟩).contents? accented .user =
      some ((∅ : Dict String).insert "A" "é") := by
  have htext : "A = \"é\"\n" = Toml.encode ((∅ : Dict String).insert "A" "é") := by decide
  rw [Medium.contents?_files, accented, htext]
  exact FileStore.contents_insert_encode ⟨"/user", "/system"⟩ ∅ .user _

theorem appends_compose_cut :
    ((file .memory ⟨"/user", "/system"⟩).keeping 4).Faultless .user (some 4)
        (.files ⟨"/user", "/system"⟩) ∧
      (Medium.files ⟨"/user", "/system"⟩).contents? accented .user =
        some ((∅ : Dict String).insert "A" "é") ∧
      List.Forall₂ (Appends .user "A") [["append", "A", "b", "c"], ["-x", "append", "A", "d"]]
        [["b", "c"], ["d"]] ∧
      [["b", "c"], ["d"]] ≠ [] ∧ Removes .user "A" ["rm", "A"] ∧
      ((file .memory ⟨"/user", "/system"⟩).keeping 4).ActsAsSet .user "A" (some "éb cd") accented
        ([["append", "A", "b", "c"], ["-x", "append", "A", "d"]].mapM
          ((file .memory ⟨"/user", "/system"⟩).keeping 4).runOnce) ∧
      ((file .memory ⟨"/user", "/system"⟩).keeping 4).ActsAsSet .user "A" (some "b cd") accented
        ([["rm", "A"], ["append", "A", "b", "c"], ["-x", "append", "A", "d"]].mapM
          ((file .memory ⟨"/user", "/system"⟩).keeping 4).runOnce) := by
  have hstore : ((file .memory ⟨"/user", "/system"⟩).keeping 4).Faultless .user (some 4)
      (.files ⟨"/user", "/system"⟩) := (Faultless.file _).keeping 4
  have happends : List.Forall₂ (Appends .user "A")
      [["append", "A", "b", "c"], ["-x", "append", "A", "d"]] [["b", "c"], ["d"]] :=
    .cons ⟨by decide, by decide, by decide, by decide⟩
      (.cons ⟨by decide, by decide, by decide, by decide⟩ .nil)
  have hremoves : Removes .user "A" ["rm", "A"] := ⟨by decide, by decide⟩
  have hvalues : [["b", "c"], ["d"]] ≠ [] := by decide
  have hjoined : joinValues [["b", "c"], ["d"]] = "b cd" := by decide
  have hold : (((∅ : Dict String).insert "A" "é").get? "A").getD "" ++ "b cd" = "éb cd" := by
    decide
  obtain ⟨hset, hremoved⟩ := appends_compose hstore contents?_accented happends hvalues
  rw [hjoined, hold] at hset
  rw [hjoined] at hremoved
  exact ⟨hstore, contents?_accented, happends, hvalues, hremoves, hset, hremoved _ hremoves⟩

end Store

end ScopedVars
