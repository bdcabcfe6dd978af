import Mathlib.Data.List.Basic
import ScopedVars.Arguments
import ScopedVars.Proofs.Attempts

/-! # Options before a command

A command line whose options can be read on their own is read the same way when a command follows
them. The command begins at its word, and all from there on reaches it untouched.
-/

namespace ScopedVars

namespace Argument

theorem ofString_of_not_isFlag {text : String} (h : Command.isFlag text = false) :
    ofString text = .word := by
  unfold Command.isFlag at h
  unfold ofString
  split <;> simp_all

theorem ofLong_ne_separator (text : List Char) : ofLong text ≠ .separator := by
  simp only [ofLong]
  split
  · split <;> simp
  · simp
  · simp

theorem eq_of_ofString_separator {text : String} (h : ofString text = .separator) :
    text = "--" := by
  unfold ofString at h
  split at h
  case h_1 htext => exact String.toList_inj.mp htext
  case h_2 rest _ _ => exact absurd h (ofLong_ne_separator rest)
  case h_3 => cases h
  case h_4 =>
    split at h
    · cases h
    · cases h
  case h_5 => cases h

end Argument

namespace Arguments

variable {arguments read parsed : Arguments} {pending waiting : Option Pending}
  {options : List String}

theorem finish_eq_ok_iff (tokens : List String) :
    arguments.finish pending tokens = .ok parsed ↔
      ∃ settled, arguments.settle pending = .ok settled ∧
        ¬ (settled.configTemplate = true ∧ settled.showConfig = true) ∧
        parsed = { settled with tokens } := by
  unfold finish
  constructor
  · intro h
    obtain ⟨settled, hsettle, h⟩ := exists_of_bind_ok h
    split at h
    case isTrue => cases h
    case isFalse hfree =>
      cases h
      exact ⟨settled, hsettle, hfree, rfl⟩
  · rintro ⟨settled, hsettle, hfree, rfl⟩
    rw [hsettle]
    exact if_neg hfree

theorem tokens_of_finish {tokens : List String} (h : arguments.finish pending tokens = .ok parsed) :
    parsed.tokens = tokens := by
  obtain ⟨settled, -, -, rfl⟩ := (finish_eq_ok_iff tokens).mp h
  rfl

theorem finish_tokens {tokens : List String} (h : arguments.finish pending tokens = .ok parsed)
    (others : List String) :
    arguments.finish pending others = .ok { parsed with tokens := others } := by
  obtain ⟨settled, hsettle, hfree, rfl⟩ := (finish_eq_ok_iff tokens).mp h
  exact (finish_eq_ok_iff others).mpr ⟨settled, hsettle, hfree, rfl⟩

theorem parseFrom_word {tokens : List String} (h : arguments.finish pending tokens = .ok parsed)
    {word : String} (hword : Command.isFlag word = false) (rest : List String) :
    arguments.parseFrom pending (word :: rest) = arguments.finish pending (word :: rest) := by
  match pending with
  | none => simp only [parseFrom, Argument.ofString_of_not_isFlag hword]
  | some ⟨setting, some value⟩ => simp only [parseFrom, Argument.ofString_of_not_isFlag hword]
  | some ⟨setting, none⟩ =>
    obtain ⟨settled, hsettle, -⟩ := (finish_eq_ok_iff tokens).mp h
    cases hsettle

/-- Whether whatever follows the options is read on from a state. -/
def Leads (arguments : Arguments) (pending : Option Pending) (options : List String)
    (read : Arguments) (waiting : Option Pending) : Prop :=
  ∀ rest, arguments.parseFrom pending (options ++ rest) = read.parseFrom waiting rest

/-- Whether whatever follows the options is the command, because they end with a separator. -/
def Stops (arguments : Arguments) (pending : Option Pending) (options : List String)
    (read : Arguments) (waiting : Option Pending) : Prop :=
  "--" ∈ options ∧
    ∀ rest, arguments.parseFrom pending (options ++ rest) = read.finish waiting rest

/-- Whether reading the options comes to a state in which the command line may end. -/
def Reaches (arguments : Arguments) (pending : Option Pending) (options : List String)
    (parsed : Arguments) : Prop :=
  ∃ read waiting, read.finish waiting [] = .ok parsed ∧
    (Leads arguments pending options read waiting ∨ Stops arguments pending options read waiting)

theorem leads_switches {text : String} {switches : List Switch} {settled added : Arguments}
    (htext : Argument.ofString text = .switches switches)
    (hsettle : arguments.settle pending = .ok settled)
    (hadd : switches.foldlM addSwitch settled = .ok added) :
    Leads arguments pending [text] added none := by
  intro rest
  simp only [List.singleton_append, parseFrom, htext, hsettle, hadd, bind, Except.bind]

theorem Reaches.cons {text : String} {next : Arguments} {held : Option Pending}
    (h : Reaches next held options parsed) (hstep : Leads arguments pending [text] next held) :
    Reaches arguments pending (text :: options) parsed := by
  have hread : ∀ rest, arguments.parseFrom pending (text :: options ++ rest) =
      next.parseFrom held (options ++ rest) := fun rest => hstep (options ++ rest)
  obtain ⟨read, waiting, hfinish, hleads | ⟨hmem, hstops⟩⟩ := h
  · exact ⟨read, waiting, hfinish, .inl fun rest => (hread rest).trans (hleads rest)⟩
  · exact ⟨read, waiting, hfinish,
      .inr ⟨List.mem_cons_of_mem text hmem, fun rest => (hread rest).trans (hstops rest)⟩⟩

theorem reaches_of_parseFrom (h : arguments.parseFrom pending options = .ok parsed)
    (htokens : parsed.tokens = []) : Reaches arguments pending options parsed := by
  fun_induction parseFrom arguments pending options with
  | case1 arguments pending => exact ⟨arguments, pending, h, .inl fun _ => rfl⟩
  | case2 arguments text rest setting hword ih =>
    have hstep : Leads arguments (some ⟨setting, none⟩) [text] arguments
        (some ⟨setting, some text⟩) := by
      intro others
      simp only [List.singleton_append, parseFrom, hword]
    exact (ih h).cons hstep
  | case3 arguments pending text rest hword hwaits =>
    exact absurd (tokens_of_finish h) (by simp [htokens])
  | case4 arguments pending text rest hseparator =>
    obtain rfl : rest = [] := (tokens_of_finish h).symm.trans htokens
    refine ⟨arguments, pending, h, .inr ⟨?_, fun others => ?_⟩⟩
    · rw [Argument.eq_of_ofString_separator hseparator]
      exact List.mem_singleton.mpr rfl
    · simp only [List.singleton_append, parseFrom, hseparator]
  | case5 arguments pending text rest hexcess => cases h
  | case6 arguments pending text rest switches hswitches ih =>
    obtain ⟨settled, hsettle, h⟩ := exists_of_bind_ok h
    obtain ⟨added, hadd, h⟩ := exists_of_bind_ok h
    exact (ih added h).cons (leads_switches hswitches hsettle hadd)
  | case7 arguments pending text rest setting value hsetting ih =>
    obtain ⟨settled, hsettle, h⟩ := exists_of_bind_ok h
    obtain ⟨added, hadd, h⟩ := exists_of_bind_ok h
    refine (ih added h).cons fun others => ?_
    simp only [List.singleton_append, parseFrom, hsetting, hsettle, hadd, bind, Except.bind]
  | case8 arguments pending text rest setting hsetting ih =>
    obtain ⟨settled, hsettle, h⟩ := exists_of_bind_ok h
    refine (ih settled h).cons fun others => ?_
    simp only [List.singleton_append, parseFrom, hsetting, hsettle, bind, Except.bind]

/-- Options that can be read on their own are read the same way before a command. -/
theorem parse_options_command (h : parse options = .ok parsed) (htokens : parsed.tokens = [])
    {word : String} (hword : Command.isFlag word = false) (rest : List String) :
    parse (options ++ word :: rest) = .ok { parsed with tokens := word :: rest } := by
  obtain ⟨read, waiting, hfinish, hleads | ⟨-, hstops⟩⟩ := reaches_of_parseFrom h htokens
  · rw [parse, hleads, parseFrom_word hfinish hword]
    exact finish_tokens hfinish (word :: rest)
  · rw [parse, hstops]
    exact finish_tokens hfinish (word :: rest)

theorem positional_commandTokens (options : Arguments) {word : String}
    (hword : Command.isFlag word = false) (rest : List String) :
    Command.positional { options with tokens := word :: rest }.commandTokens =
      word :: Command.positional rest := by
  have hsystem : Command.isFlag systemFlag = true := rfl
  have hdry : Command.isFlag dryRunFlag = true := rfl
  unfold commandTokens Command.positional
  cases options.system <;> cases options.dryRun <;> simp [hsystem, hdry, hword]

theorem mem_commandTokens_iff (arguments : Arguments) (token : String) :
    token ∈ arguments.commandTokens ↔
      (arguments.system = true ∧ token = systemFlag) ∨
        (arguments.dryRun = true ∧ token = dryRunFlag) ∨ token ∈ arguments.tokens := by
  unfold commandTokens
  cases arguments.system <;> cases arguments.dryRun <;> simp

/-- Whether a command consists of a word and of what follows it, with the flags among the options
before it. -/
structure Carries (options : Arguments) (word : String) (rest : List String) (command : Command) :
    Prop where
  verb : command.verb = .ofWord (some word)
  args : command.args = rest.filter fun token => !Command.isFlag token
  flag_iff : ∀ flag, command.hasFlag flag = true ↔
    (options.system = true ∧ flag = "-s") ∨ (options.dryRun = true ∧ flag = "-t") ∨
      (Command.isFlag flag = true ∧ flag ∈ rest)
  scope_iff : command.scope = .system ↔ options.system = true ∨ "-s" ∈ rest

theorem mem_cons_iff_of_isFlag {word flag : String} (hword : Command.isFlag word = false)
    (hflag : Command.isFlag flag = true) (rest : List String) :
    flag ∈ word :: rest ↔ flag ∈ rest := by
  have hne : flag ≠ word := by
    rintro rfl
    exact Bool.noConfusion (hword.symm.trans hflag)
  rw [List.mem_cons, or_iff_right hne]

theorem carries_classify (options : Arguments) {word : String}
    (hword : Command.isFlag word = false) (rest : List String) :
    Carries options word rest
      (.classify { options with tokens := word :: rest }.commandTokens) := by
  constructor
  case verb =>
    rw [Command.classify, positional_commandTokens options hword]
    rfl
  case args =>
    rw [Command.classify, positional_commandTokens options hword]
    rfl
  case flag_iff =>
    intro flag
    rw [Command.hasFlag_classify, mem_commandTokens_iff]
    constructor
    · rintro ⟨hflag, hsystem | hdry | htoken⟩
      · exact .inl hsystem
      · exact .inr (.inl hdry)
      · exact .inr (.inr ⟨hflag, (mem_cons_iff_of_isFlag hword hflag rest).mp htoken⟩)
    · rintro (⟨hsystem, rfl⟩ | ⟨hdry, rfl⟩ | ⟨hflag, hrest⟩)
      · exact ⟨rfl, .inl ⟨hsystem, rfl⟩⟩
      · exact ⟨rfl, .inr (.inl ⟨hdry, rfl⟩)⟩
      · exact ⟨hflag, .inr (.inr ((mem_cons_iff_of_isFlag hword hflag rest).mpr hrest))⟩
  case scope_iff =>
    have hflags : systemFlag ≠ dryRunFlag := by decide
    rw [Command.classify, Command.scopeOf_eq_system_iff, mem_commandTokens_iff,
      mem_cons_iff_of_isFlag hword rfl]
    simp only [hflags, and_true, and_false, false_or]
    rfl

/-- What stands before a command cannot change it: it consists of its word and of all arguments
behind, be they options or not, and has the system and the dry-run flag of the options too. -/
theorem parse_keeps_command (h : parse options = .ok parsed) (htokens : parsed.tokens = [])
    {word : String} (hword : Command.isFlag word = false) (rest : List String) :
    ∃ whole, parse (options ++ word :: rest) = .ok whole ∧
      whole = { parsed with tokens := word :: rest } ∧ whole.isInteractive = false ∧
      Carries parsed word rest (.classify whole.commandTokens) :=
  ⟨_, parse_options_command h htokens hword rest, rfl, rfl, carries_classify parsed hword rest⟩

theorem parse_keeps_command_hyphens :
    parse ["-ds", "--config", "c.toml", "--"] =
        .ok { system := true, debug := 1, config := some "c.toml" } ∧
      Command.isFlag "set" = false ∧
      ∃ whole, parse ["-ds", "--config", "c.toml", "--", "set", "A", "-t", "--", "--help", "b"] =
          .ok whole ∧
        whole = {
          system := true, debug := 1, config := some "c.toml",
          tokens := ["set", "A", "-t", "--", "--help", "b"] } ∧
        whole.isInteractive = false ∧
        Carries { system := true, debug := 1, config := some "c.toml" } "set"
          ["A", "-t", "--", "--help", "b"] (.classify whole.commandTokens) := by
  have hparse : parse ["-ds", "--config", "c.toml", "--"] =
      .ok { system := true, debug := 1, config := some "c.toml" } := by
    decide
  exact ⟨hparse, rfl, parse_keeps_command hparse rfl rfl ["A", "-t", "--", "--help", "b"]⟩

end Arguments

end ScopedVars
