import ScopedVars.Proofs.Commands.Appending
import ScopedVars.Proofs.Commands.Frame

/-! # Dry runs

A dry run of a command that appends reads the variable and writes nothing, so that it succeeds when
the variable can be read, whatever keeps it from being written. Where nothing keeps it from being
written and nothing is cut off, the command answers the same in earnest.
-/

namespace ScopedVars

namespace Command

def inEarnest (tokens : List String) : List String :=
  tokens.filter fun token => token ≠ dryRunFlag

variable (tokens : List String)

theorem mem_inEarnest_iff {token : String} :
    token ∈ inEarnest tokens ↔ token ∈ tokens ∧ token ≠ dryRunFlag := by
  rw [inEarnest, List.mem_filter, decide_eq_true_iff]

theorem positional_inEarnest : positional (inEarnest tokens) = positional tokens := by
  rw [positional, inEarnest, List.filter_filter, positional]
  refine List.filter_congr fun token _ => ?_
  by_cases htoken : token = dryRunFlag
  · subst htoken
    rfl
  · simp [htoken]

theorem scopeOf_inEarnest : scopeOf (inEarnest tokens) = scopeOf tokens := by
  have hflags : systemFlag ≠ dryRunFlag := by decide
  have hsystem : systemFlag ∈ inEarnest tokens ↔ systemFlag ∈ tokens := by
    rw [mem_inEarnest_iff, and_iff_left hflags]
  simp only [scopeOf, hsystem]

end Command

namespace Store

variable {σ : Type} {medium : Medium σ} {store other : Store (StateM σ)} {scope : Scope}
  {key : String} {tokens words : List String}

theorem appends_inEarnest (hphrase : Command.positional tokens = "append" :: key :: words)
    (hwords : words ≠ []) :
    Appends (Command.scopeOf tokens) key (Command.inEarnest tokens) words where
  phrase := (Command.positional_inEarnest tokens).trans hphrase
  words_ne_nil := hwords
  scope_eq := Command.scopeOf_inEarnest tokens
  writes := by simp [Command.mem_inEarnest_iff]

theorem runOnce_of_dryRun {m : Type → Type} [Monad m] [LawfulMonad m] (store : Store m)
    (hphrase : Command.positional tokens = "append" :: key :: words) (hwords : words ≠ [])
    (hdry : dryRunFlag ∈ tokens) :
    store.runOnce tokens =
      Outcome.mk (Command.scopeOf tokens) <$>
        (store.perform (Command.scopeOf tokens)
          (.append key (joinWords words) true)).adapt .store := by
  rw [store.runOnce_of_append hphrase hwords, (Command.isDryRun_classify_iff tokens).mpr hdry]

theorem runIn_dryRun (store : Store (StateM σ)) (scope : Scope) (key suffix : String) (state : σ) :
    runIn state (store.perform scope (.append key suffix true)) =
      ((runIn state (store.get scope key)).1.map fun old => some (old.getD "" ++ suffix),
        (runIn state (store.get scope key)).2) := by
  simp only [perform, if_true, bind_pure_comp, runIn_map]

theorem Faultless.answer_append (h : store.Faultless scope none medium) (key suffix : String)
    (state : σ) :
    (runIn state (store.perform scope (.append key suffix false))).1 =
      (runIn state (store.perform scope (.append key suffix true))).1 := by
  rcases h.get_cases key state with ⟨vars, hvars, hget⟩ | ⟨-, error, hget⟩
  · obtain ⟨after, -, happend⟩ := h.append hvars key suffix
    rw [happend, store.runIn_dryRun, hget]
    rfl
  · rw [store.runIn_dryRun, perform, runIn_bind, hget]
    rfl

/-- A dry run of a command that appends succeeds exactly if the variable can be read; it leaves the
state, and ends the same way whichever writes are refused. On a store without faults that keeps all
of a value, the same tokens without the flag for a dry run give the same answer. -/
theorem dryRun_predicts (hstore : store.Provided)
    (hphrase : Command.positional tokens = "append" :: key :: words) (hwords : words ≠ [])
    (hdry : dryRunFlag ∈ tokens) (state : σ) :
    ((∃ outcome, (runIn state (store.runOnce tokens)).1 = .ok outcome) ↔
        ∃ value, (runIn state (store.get (Command.scopeOf tokens) key)).1 = .ok value) ∧
      (runIn state (store.runOnce tokens)).2 = state ∧
      (∀ other, store.DiffersInWrites other →
        runIn state (other.runOnce tokens) = runIn state (store.runOnce tokens)) ∧
      ∀ medium : Medium σ, store.Faultless (Command.scopeOf tokens) none medium →
        (runIn state (store.runOnce (Command.inEarnest tokens))).1 =
          (runIn state (store.runOnce tokens)).1 := by
  have hrun := store.runOnce_of_dryRun hphrase hwords hdry
  have hget := hstore.atomic.get (Command.scopeOf tokens) key state
  refine ⟨?_, ?_, ?_, ?_⟩
  · rw [hrun, runIn_map, runIn_adapt, store.runIn_dryRun]
    cases (runIn state (store.get (Command.scopeOf tokens) key)).1 with
    | ok old => exact iff_of_true ⟨_, rfl⟩ ⟨old, rfl⟩
    | error error => exact iff_of_false (by rintro ⟨_, ⟨⟩⟩) (by rintro ⟨_, ⟨⟩⟩)
  · rw [hrun, runIn_map, runIn_adapt, store.runIn_dryRun]
    exact hget
  · intro other hother
    have htarget : (Operation.append key (joinWords words) true).target? = none := rfl
    rw [hrun, other.runOnce_of_dryRun hphrase hwords hdry,
      perform_eq_of_reads hother.reads_eq.1 hother.reads_eq.2 htarget]
  · intro medium hfaultless
    rw [hrun, store.runOnce_of_appends (appends_inEarnest hphrase hwords), runIn_map, runIn_map,
      runIn_adapt, runIn_adapt, hfaultless.answer_append]

theorem dryRun_predicts_memory :
    (memory ⟨false, true⟩).Provided ∧
      Command.positional ["append", "A", "-t", "b", "c"] = ["append", "A", "b", "c"] ∧
      ["b", "c"] ≠ [] ∧ dryRunFlag ∈ ["append", "A", "-t", "b", "c"] ∧
      (memory ⟨false, true⟩).DiffersInWrites (memory (.both true)) ∧
      (memory ⟨false, true⟩).Faultless .user none .memory ∧
      runIn ⟨(∅ : Dict String).insert "A" "é", ∅⟩
          ((memory (.both true)).runOnce ["append", "A", "-t", "b", "c"]) =
        (.ok ⟨.user, some "éb c"⟩, ⟨(∅ : Dict String).insert "A" "é", ∅⟩) ∧
      (runIn ⟨(∅ : Dict String).insert "A" "é", ∅⟩
          ((memory ⟨false, true⟩).runOnce ["append", "A", "b", "c"])).1 =
        .ok ⟨.user, some "éb c"⟩ := by
  have hstore : (memory ⟨false, true⟩).Provided := .memory _
  have hphrase :
      Command.positional ["append", "A", "-t", "b", "c"] = ["append", "A", "b", "c"] := by
    decide
  have hdry : dryRunFlag ∈ ["append", "A", "-t", "b", "c"] := by decide
  have hother : (memory ⟨false, true⟩).DiffersInWrites (memory (.both true)) := .memory _ _
  have hfaultless : (memory ⟨false, true⟩).Faultless .user none .memory := .memory _ rfl
  have hrun : runIn ⟨(∅ : Dict String).insert "A" "é", ∅⟩
      ((memory ⟨false, true⟩).runOnce ["append", "A", "-t", "b", "c"]) =
        (.ok ⟨.user, some "éb c"⟩, ⟨(∅ : Dict String).insert "A" "é", ∅⟩) := by
    rfl
  obtain ⟨-, -, hsame, hpredicts⟩ := dryRun_predicts hstore hphrase (by decide) hdry
    ⟨(∅ : Dict String).insert "A" "é", ∅⟩
  refine ⟨hstore, hphrase, by decide, hdry, hother, hfaultless, ?_, ?_⟩
  · rw [hsame _ hother, hrun]
  · exact (hpredicts .memory hfaultless).trans (congrArg Prod.fst hrun)

end Store

end ScopedVars
