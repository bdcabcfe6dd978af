import ScopedVars.Proofs.Session.Turns
import ScopedVars.Proofs.Store.Recording
import ScopedVars.Store.Memory

/-! # The grammar of commands

The words of a command beside its flags decide whether it is carried out. Words that are no command
are refused with one message, before any call to the store: the message names the command word if
there is one.
-/

namespace ScopedVars

/-- The words of the commands there are, without flags. -/
inductive IsPhrase : List String → Prop
  | changeScope : IsPhrase ["cd"]
  | list : IsPhrase ["ls"]
  | get (key : String) : IsPhrase ["get", key]
  | delete (key : String) : IsPhrase ["rm", key]
  | set (key value : String) (values : List String) : IsPhrase ("set" :: key :: value :: values)
  | append (key value : String) (values : List String) :
      IsPhrase ("append" :: key :: value :: values)
  | other {word : String} (h : word ∈ ["q", "quit", "h", "help"]) (rest : List String) :
      IsPhrase (word :: rest)

def refusal : List String → String
  | [] => "unable to parse command"
  | word :: _ =>
    if word ∈ commandWords then "wrong number of arguments provided for `" ++ word ++ "` command"
    else "unable to parse command"

theorem refusal_of_mem {word : String} (h : word ∈ commandWords) (args : List String) :
    refusal (word :: args) =
      "wrong number of arguments provided for `" ++ word ++ "` command" :=
  if_pos h

theorem refusal_of_not_mem {word : String} (h : word ∉ commandWords) (args : List String) :
    refusal (word :: args) = "unable to parse command" :=
  if_neg h

theorem Problem.message_arity (verb : Verb) :
    (arity verb).message =
      "wrong number of arguments provided for `" ++ verb.word ++ "` command" := rfl

theorem isPhrase_cons_iff {word : String} (h : word ∈ commandWords) (args : List String) :
    IsPhrase (word :: args) ↔ (Verb.ofWord (some word)).admits args.length = true := by
  constructor
  · rintro (_ | _ | _ | _ | _ | _ | ⟨hother, -⟩)
    case other =>
      simp only [List.mem_cons, List.not_mem_nil, or_false] at hother
      rcases hother with rfl | rfl | rfl | rfl <;> rfl
    all_goals simp [Verb.ofWord, Verb.admits]
  · intro hcount
    simp only [commandWords, List.mem_cons, List.not_mem_nil, or_false] at h
    rcases h with rfl | rfl | rfl | rfl | rfl | rfl | hother
    · rcases args with _ | ⟨arg, args⟩
      · exact .changeScope
      · cases hcount
    · rcases args with _ | ⟨arg, args⟩
      · exact .list
      · cases hcount
    · rcases args with _ | ⟨key, _ | ⟨value, values⟩⟩
      · cases hcount
      · exact .get key
      · cases hcount
    · rcases args with _ | ⟨key, _ | ⟨value, values⟩⟩
      · cases hcount
      · cases hcount
      · exact .set key value values
    · rcases args with _ | ⟨key, _ | ⟨value, values⟩⟩
      · cases hcount
      · cases hcount
      · exact .append key value values
    · rcases args with _ | ⟨key, _ | ⟨value, values⟩⟩
      · cases hcount
      · exact .delete key
      · cases hcount
    · exact .other (by simpa using hother) args

theorem IsPhrase.exists_word {phrase : List String} (h : IsPhrase phrase) :
    ∃ word args, phrase = word :: args ∧ word ∈ commandWords := by
  cases h with
  | other h rest =>
    refine ⟨_, rest, rfl, ?_⟩
    simp only [List.mem_cons, List.not_mem_nil, or_false] at h
    rcases h with rfl | rfl | rfl | rfl <;> decide
  | _ => exact ⟨_, _, rfl, by decide⟩

theorem Verb.word_ofWord {word : String} (h : word ∈ commandWords) {count : Nat}
    (hcount : (ofWord (some word)).admits count = false) : (ofWord (some word)).word = word := by
  simp only [commandWords, List.mem_cons, List.not_mem_nil, or_false] at h
  rcases h with rfl | rfl | rfl | rfl | rfl | rfl | rfl | rfl | rfl | rfl
  all_goals first | rfl | cases hcount

namespace Command

variable {tokens others : List String}

theorem problems_classify_congr (h : positional tokens = positional others) :
    (classify tokens).problems = (classify others).problems := by
  apply problems_congr
  · exact congrArg (fun words : List String => Verb.ofWord words.head?) h
  · exact congrArg List.tail h

theorem problems_of_isPhrase (h : IsPhrase (positional tokens)) :
    (classify tokens).problems = [] := by
  obtain ⟨word, args, hwords, hword⟩ := h.exists_word
  have hknown : Verb.ofWord (some word) ≠ .unknown := by
    rw [Ne, Verb.ofWord_eq_unknown_iff]
    simpa using hword
  rw [hwords, isPhrase_cons_iff hword] at h
  simp only [problems, classify, hwords, List.head?_cons, List.tail_cons, hknown, h, if_false,
    if_true]

theorem problems_of_not_isPhrase (h : ¬ IsPhrase (positional tokens)) :
    ∃ problem, (classify tokens).problems = [problem] ∧
      problem.message = refusal (positional tokens) := by
  cases hwords : positional tokens with
  | nil => exact ⟨.unparsable, by simp [problems, classify, hwords, Verb.ofWord], rfl⟩
  | cons word args =>
    have hunknown := Verb.ofWord_eq_unknown_iff (some word)
    by_cases hword : word ∈ commandWords
    · rw [hwords, isPhrase_cons_iff hword, Bool.not_eq_true] at h
      refine ⟨.arity (.ofWord (some word)), ?_, ?_⟩
      · simp [problems, classify, hwords, hunknown, hword, h]
      · rw [Problem.message_arity, Verb.word_ofWord hword h, refusal_of_mem hword]
    · refine ⟨.unparsable, ?_, ?_⟩
      · simp [problems, classify, hwords, hunknown, hword]
      · exact (refusal_of_not_mem hword args).symm

end Command

namespace Store

theorem runOnce_of_problems {m : Type → Type} [Monad m] (store : Store m) {tokens : List String}
    {problem : Problem} {rest : List Problem}
    (h : (Command.classify tokens).problems = problem :: rest) :
    store.runOnce tokens = throw (.invalid (problem :: rest)) := by
  rw [runOnce_eq_attempt, attempt, h]

variable {σ : Type} (store : Store (StateM σ)) (tokens : List String) (state : σ)

/-- A command is refused as invalid if it has problems, and then for these. -/
theorem runOnce_eq_invalid_iff (problems : List Problem) :
    (runIn state (store.runOnce tokens)).1 = .error (.invalid problems) ↔
      problems ≠ [] ∧ (Command.classify tokens).problems = problems := by
  rw [runOnce_eq_attempt]
  rcases store.attempt_cases (.classify tokens) with
    ⟨hne, hrefused⟩ | ⟨operation, hvalid, -, hperformed⟩
  · rw [hrefused, runIn_throw]
    constructor
    · rintro ⟨⟩
      exact ⟨hne, rfl⟩
    · rintro ⟨-, rfl⟩
      rfl
  · rw [hperformed, runIn_map, runIn_adapt, hvalid]
    constructor
    · cases (runIn state (store.perform (Command.scopeOf tokens) operation)).1 <;> exact nofun
    · rintro ⟨hne, hnil⟩
      exact absurd hnil.symm hne

/-- Exactly words that are no command are refused as invalid: for one problem, which the words tell,
and without a call to the store. Flags have no part in it, whichever and wherever they are, and nor
has the store. -/
theorem runOnce_invalid_iff :
    ((∃ problems, (runIn state (store.runOnce tokens)).1 = .error (.invalid problems)) ↔
        ¬ IsPhrase (Command.positional tokens)) ∧
      (¬ IsPhrase (Command.positional tokens) →
        ∃ problem, problem.message = refusal (Command.positional tokens) ∧
          runIn state (store.runOnce tokens) = (.error (.invalid [problem]), state) ∧
          store.callsOf tokens state = []) ∧
      ∀ others, Command.positional others = Command.positional tokens →
        ∀ {τ : Type} (other : Store (StateM τ)) (image : τ) (problems : List Problem),
          (runIn image (other.runOnce others)).1 = .error (.invalid problems) ↔
            (runIn state (store.runOnce tokens)).1 = .error (.invalid problems) := by
  refine ⟨⟨?_, ?_⟩, ?_, ?_⟩
  · rintro ⟨problems, hrun⟩ hphrase
    obtain ⟨hne, rfl⟩ := (store.runOnce_eq_invalid_iff tokens state problems).mp hrun
    exact hne (Command.problems_of_isPhrase hphrase)
  · intro hphrase
    obtain ⟨problem, hproblems, -⟩ := Command.problems_of_not_isPhrase hphrase
    exact ⟨[problem], (store.runOnce_eq_invalid_iff tokens state _).mpr ⟨by simp, hproblems⟩⟩
  · intro hphrase
    obtain ⟨problem, hproblems, hmessage⟩ := Command.problems_of_not_isPhrase hphrase
    refine ⟨problem, hmessage, ?_, ?_⟩
    · rw [store.runOnce_of_problems hproblems, runIn_throw]
    · rw [callsOf, store.recording.runOnce_of_problems hproblems, runIn_throw]
  · intro others hothers τ other image problems
    rw [runOnce_eq_invalid_iff, runOnce_eq_invalid_iff, Command.problems_classify_congr hothers]

theorem runOnce_invalid_iff_names :
    ¬ IsPhrase (Command.positional ["-s", "get", "A", "-x", "B"]) ∧
      (∃ problem,
        problem.message = refusal (Command.positional ["-s", "get", "A", "-x", "B"]) ∧
          runIn (.both ∅) ((memory (.both true)).runOnce ["-s", "get", "A", "-x", "B"]) =
            (.error (.invalid [problem]), .both ∅) ∧
          (memory (.both true)).callsOf ["-s", "get", "A", "-x", "B"] (.both ∅) = []) ∧
      Command.positional ["get", "-t", "A", "B"] =
        Command.positional ["-s", "get", "A", "-x", "B"] ∧
      ((runIn (.both ∅) ((memory (.both false)).runOnce ["get", "-t", "A", "B"])).1 =
          .error (.invalid [.arity .get]) ↔
        (runIn (.both ∅) ((memory (.both true)).runOnce ["-s", "get", "A", "-x", "B"])).1 =
          .error (.invalid [.arity .get])) := by
  have hpositional : Command.positional ["-s", "get", "A", "-x", "B"] = ["get", "A", "B"] := by
    decide
  have hphrase : ¬ IsPhrase (Command.positional ["-s", "get", "A", "-x", "B"]) := by
    rw [hpositional, isPhrase_cons_iff (by decide)]
    decide
  have hothers : Command.positional ["get", "-t", "A", "B"] =
      Command.positional ["-s", "get", "A", "-x", "B"] := by
    decide
  obtain ⟨-, hrefused, hflags⟩ :=
    runOnce_invalid_iff (memory (.both true)) ["-s", "get", "A", "-x", "B"] (.both ∅)
  exact ⟨hphrase, hrefused hphrase, hothers, hflags _ hothers (memory (.both false)) _ _⟩

end Store

end ScopedVars
