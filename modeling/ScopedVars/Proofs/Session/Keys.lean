import ScopedVars.Proofs.Commands.Frame
import ScopedVars.Proofs.Session.Resuming
import ScopedVars.Proofs.Store.Limits
import ScopedVars.Proofs.Text.Words

/-! # Names typed at the prompt

What is typed between blanks and is no flag is a clean name. A session on clean names makes clean
names only, and a listing of them can be taken apart again: one name a line, in order.
-/

namespace ScopedVars

/-- Whether a name can be typed at the prompt. -/
structure IsClean (name : String) : Prop where
  nonempty : name ≠ ""
  unbroken : ∀ c ∈ name.toList, isBlank c = false
  noFlag : Command.isFlag name = false

theorem isClean_of_mem_positional {text name : String}
    (h : name ∈ Command.positional (words text)) : IsClean name := by
  obtain ⟨hmem, hflag⟩ := List.mem_filter.mp h
  obtain ⟨hnonempty, hunbroken⟩ := isWord_of_mem_words hmem
  exact ⟨hnonempty, hunbroken, by simpa using hflag⟩

theorem accept_args (session : Session) (text : String) :
    (session.accept text).1.current.args = (Command.positional (words text)).tail := by
  cases h : isCommand (words text) with
  | true => rw [Session.accept_of_isCommand h, Command.classify]
  | false => rw [Session.accept_of_not_isCommand h, Command.classify]

theorem Dict.mem_keys {α : Type} {dict : Dict α} {key : String} :
    key ∈ dict.keys ↔ dict.contains key = true := by
  rw [keys, ← contains_ofList, ofList_entries]

def Medium.IsClean {σ : Type} (medium : Medium σ) (state : σ) : Prop :=
  ∀ scope vars, medium.contents? state scope = some vars → ∀ key ∈ vars.keys, ScopedVars.IsClean key

theorem Medium.Spares.isClean {σ : Type} {medium : Medium σ} {scope : Scope} {key? : Option String}
    {before after : σ} (h : medium.Spares scope key? before after)
    (hkey : ∀ key, key? = some key → ScopedVars.IsClean key) (hbefore : medium.IsClean before) :
    medium.IsClean after := by
  intro other vars hvars name hname
  have hsame (hrecord : medium.record after other = medium.record before other) :
      ScopedVars.IsClean name := by
    rw [Medium.contents?, hrecord] at hvars
    exact hbefore other vars hvars name hname
  by_cases hscope : other = scope
  · subst hscope
    cases hcontents : medium.contents? before other with
    | none => exact hsame (h.corrupt hcontents)
    | some old =>
      obtain ⟨changed, hchanged, hothers⟩ := h.others old hcontents
      obtain rfl : vars = changed := Option.some.inj (hvars.symm.trans hchanged)
      by_cases hnamed : key? = some name
      · exact hkey name hnamed
      · refine hbefore other old hcontents name ?_
        rw [Dict.mem_keys, Dict.contains] at hname ⊢
        rwa [← hothers name hnamed]
  · exact hsame (h.elsewhere other hscope)

/-- Whether a text lists names: they are its lines, in strictly increasing order, and it is empty if
there are none. -/
structure Lists (text : String) (names : List String) : Prop where
  lines : names ≠ [] → (text.toList.splitOn '\n').map String.ofList = names
  empty_iff : text = "" ↔ names = []
  sorted : names.Pairwise (· < ·)

theorem lines_intercalate {names : List String} (h : ∀ name ∈ names, IsClean name)
    (hne : names ≠ []) :
    (("\n".intercalate names).toList.splitOn '\n').map String.ofList = names := by
  have hfeed : ∀ line ∈ names.map String.toList, '\n' ∉ line := by
    intro line hline hmem
    obtain ⟨name, hname, rfl⟩ := List.mem_map.mp hline
    exact absurd ((h name hname).unbroken '\n' hmem) (by decide)
  rw [String.toList_intercalate]
  exact (congrArg _ (List.splitOn_intercalate '\n' hfeed (by simpa using hne))).trans (by simp)

theorem Dict.lists_keys {α : Type} {dict : Dict α} (h : ∀ key ∈ dict.keys, IsClean key) :
    Lists ("\n".intercalate (dict.keys.mergeSort fun a b => a ≤ b)) dict.keys := by
  have hsorted : dict.keys.Pairwise (· < ·) := List.pairwise_map.mpr dict.sorted
  have hmerge : (dict.keys.mergeSort fun a b => a ≤ b) = dict.keys := by
    refine List.mergeSort_of_pairwise (hsorted.imp fun hlt => ?_)
    exact decide_eq_true (String.not_lt.mp (String.lt_asymm hlt))
  rw [hmerge]
  constructor
  case lines => exact lines_intercalate h
  case empty_iff =>
    constructor
    · intro hempty
      by_contra hne
      have hlines := lines_intercalate h hne
      rw [hempty] at hlines
      exact (h "" (hlines ▸ List.mem_cons_self)).nonempty rfl
    · rintro hnil
      rw [hnil]
      rfl
  case sorted => exact hsorted

namespace Session

variable {σ : Type} {medium : Medium σ} {store : Store (StateM σ)} {state : σ}

/-- Whether a session shows in a state, for a scope, either the names that the state keeps for it or
the failure of the call that lists them. -/
inductive ShowsNames (medium : Medium σ) (store : Store (StateM σ)) (state : σ) (scope : Scope) :
    Event → Prop
  | print {vars : Dict String} {text : String} (hvars : medium.contents? state scope = some vars)
      (htext : Lists text vars.keys) : ShowsNames medium store state scope (.print text)
  | error {failure : StoreError}
      (hlist : (runIn state (store.list scope)).1 = .error failure) :
      ShowsNames medium store state scope (.error (Failure.store failure).message)

theorem isClean_turns (hstore : store.KeptIn medium) (hstate : medium.IsClean state)
    (input : List Input) : medium.IsClean ((run store {} input).run state).2 := by
  refine turns_preserve (Q := fun command => ∀ name ∈ command.args, ScopedVars.IsClean name) store
    ?_ ?_ rfl (List.forall_mem_nil _) true input hstate
  · intro command scope state hargs hclean
    refine (hstore.spares_attempt command scope state).isClean (fun key hkey => ?_) hclean
    exact hargs key (List.mem_of_mem_head? hkey)
  · intro session text name hname
    rw [accept_args] at hname
    exact isClean_of_mem_positional (List.mem_of_mem_tail hname)

theorem attempt_list {command : Command} (hverb : command.verb = .list) (hargs : command.args = [])
    (scope : Scope) :
    store.attempt command scope = Outcome.mk scope <$> (store.perform scope .list).adapt .store := by
  obtain ⟨verb, own, args, flags⟩ := command
  obtain rfl : verb = .list := hverb
  obtain rfl : args = [] := hargs
  exact store.attempt_of_operation rfl rfl scope

theorem carriedOut_list (hstore : store.KeptIn medium) (hstate : medium.IsClean state)
    {text : String} (htext : Command.positional (words text) = ["ls"]) (session : Session) :
    ∃ shown, ((session.accept text).1.carriedOut store state).2 = [shown] ∧
      ShowsNames medium store state session.scope shown := by
  have hknown : isCommand (words text) = true := by
    rw [isCommand, htext]
    decide
  have hverb : (session.accept text).1.current.verb = .list := by
    rw [accept_of_isCommand hknown, Command.classify, htext]
    rfl
  have hargs : (session.accept text).1.current.args = [] := by
    rw [accept_args, htext]
    rfl
  rw [carriedOut, attempt_list hverb hargs, scope_accept]
  simp only [Store.perform, bind_pure_comp, runIn_map, runIn_adapt]
  cases hlist : (runIn state (store.list session.scope)).1 with
  | error failure => exact ⟨_, rfl, .error hlist⟩
  | ok names =>
    obtain ⟨vars, hvars, rfl⟩ := hstore.list_eq_keys hlist
    exact ⟨_, rfl, .print hvars (Dict.lists_keys (hstate session.scope vars hvars))⟩

/-- A session on clean names makes clean names only. Wherever it carries out a line to list names, in
the state that the lines before have left, it shows the names of its scope one a line, unless the
call that lists them fails. -/
theorem run_keeps_names_listable (hstore : store.KeptIn medium) (hstate : medium.IsClean state) :
    (∀ input, medium.IsClean ((run store {} input).run state).2) ∧
      ∀ before text after, (∀ item ∈ before, Input.ends item = false) →
        Command.positional (words text) = ["ls"] →
        ∃ shown rest,
          ((run store {} (before ++ .line text :: after)).run state).1.events =
              ((run store {} before).run state).1.events ++ shown :: rest ∧
            ShowsNames medium store ((run store {} before).run state).2
              ((run store {} before).run state).1.session.scope shown := by
  have hclean := isClean_turns hstore hstate
  refine ⟨hclean, fun before text after hbefore htext => ?_⟩
  obtain ⟨shown, hcarried, hshows⟩ := carriedOut_list hstore (hclean before) htext
    ((run store {} before).run state).1.session
  have hover : (((run store {} before).run state).1.session.accept text).1.isOver = false := by
    rw [isOver_accept, quits, htext]
    decide
  have haccept : (((run store {} before).run state).1.session.accept text).2 = [] := by
    rw [accept_of_isCommand]
    rw [isCommand, htext]
    decide
  obtain ⟨rest, hrest⟩ := events_turns store hover false after ((run store {} before).run state).2
  refine ⟨shown, rest, ?_, hshows⟩
  rw [run, turns_resume store rfl hbefore]
  simp only [Finish.after]
  rw [hcarried] at hrest
  simp only [run] at haccept hrest ⊢
  rw [haccept, hrest, List.append_nil, List.singleton_append]

/-- A file with one name, which a session removes after it has set another one. -/
theorem run_keeps_names_listable_files :
    (Store.file (FileSystem.memory.withFaults {}) ⟨"/user", "/system"⟩).KeptIn
        (.files ⟨"/user", "/system"⟩) ∧
      (Medium.files ⟨"/user", "/system"⟩).IsClean ((∅ : Files).insert "/user" "B = \"b\"\n") ∧
      (∀ item ∈ [Input.line "set A\u00A0-b b", .line "rm B"], item.ends = false) ∧
      Command.positional (words "-s ls") = ["ls"] ∧
      ∃ shown rest,
        ((run (Store.file (FileSystem.memory.withFaults {}) ⟨"/user", "/system"⟩) {}
              ([.line "set A\u00A0-b b", .line "rm B"] ++ .line "-s ls" :: [.line "q"])).run
            ((∅ : Files).insert "/user" "B = \"b\"\n")).1.events =
            ((run (Store.file (FileSystem.memory.withFaults {}) ⟨"/user", "/system"⟩) {}
              [.line "set A\u00A0-b b", .line "rm B"]).run
              ((∅ : Files).insert "/user" "B = \"b\"\n")).1.events ++ shown :: rest ∧
          ShowsNames (.files ⟨"/user", "/system"⟩)
            (Store.file (FileSystem.memory.withFaults {}) ⟨"/user", "/system"⟩)
            ((run (Store.file (FileSystem.memory.withFaults {}) ⟨"/user", "/system"⟩) {}
              [.line "set A\u00A0-b b", .line "rm B"]).run
              ((∅ : Files).insert "/user" "B = \"b\"\n")).2
            ((run (Store.file (FileSystem.memory.withFaults {}) ⟨"/user", "/system"⟩) {}
              [.line "set A\u00A0-b b", .line "rm B"]).run
              ((∅ : Files).insert "/user" "B = \"b\"\n")).1.session.scope shown := by
  have hstore : (Store.file (FileSystem.memory.withFaults {}) ⟨"/user", "/system"⟩).KeptIn
      (.files ⟨"/user", "/system"⟩) := .file {} (by decide)
  have htext : "B = \"b\"\n" = Toml.encode ((∅ : Dict String).insert "B" "b") := by decide
  have hstate :
      (Medium.files ⟨"/user", "/system"⟩).IsClean ((∅ : Files).insert "/user" "B = \"b\"\n") := by
    rintro (_ | _) vars hvars name hname
    · have hcontents := FileStore.contents_insert_encode ⟨"/user", "/system"⟩ ∅ .user
        ((∅ : Dict String).insert "B" "b")
      rw [Medium.contents?_files, htext] at hvars
      cases hcontents.symm.trans hvars
      obtain rfl : name = "B" := List.mem_singleton.mp hname
      exact ⟨by decide, List.forall_mem_singleton.mpr (by decide), by decide⟩
    · cases hvars
      cases hname
  have hbefore : ∀ item ∈ [Input.line "set A\u00A0-b b", .line "rm B"], item.ends = false := by
    decide
  exact ⟨hstore, hstate, hbefore, by decide,
    (run_keeps_names_listable hstore hstate).2 _ _ [.line "q"] hbefore (by decide)⟩

end Session

end ScopedVars
