import ScopedVars.Proofs.Arguments.Options

/-! # Where an option stands

The system and the dry-run option are flags of the command as well. Before the command each has two
spellings, and the short one is the flag. Behind the word of the command the short spelling does
what either does before it, and the long one does nothing.
-/

namespace ScopedVars

inductive FlagOption where
  | system
  | dryRun
  deriving DecidableEq, Repr

namespace FlagOption

def flag : FlagOption → String
  | system => systemFlag
  | dryRun => dryRunFlag

def spellings : FlagOption → List String
  | system => ["-s", "--system"]
  | dryRun => ["-t", "--dry-run"]

def switch : FlagOption → Switch
  | system => .system
  | dryRun => .dryRun

def isGiven (arguments : Arguments) : FlagOption → Bool
  | system => arguments.system
  | dryRun => arguments.dryRun

def give (arguments : Arguments) : FlagOption → Arguments
  | system => { arguments with system := true }
  | dryRun => { arguments with dryRun := true }

variable {option other : FlagOption} {spelling : String}

theorem isFlag_flag (option : FlagOption) : Command.isFlag option.flag = true := by
  cases option <;> rfl

theorem isFlag_of_mem_spellings (h : spelling ∈ option.spellings) :
    Command.isFlag spelling = true := by
  cases option <;> simp only [spellings, List.mem_cons, List.not_mem_nil, or_false] at h <;>
    rcases h with rfl | rfl <;> rfl

theorem ofString_of_mem_spellings (h : spelling ∈ option.spellings) :
    Argument.ofString spelling = .switches [option.switch] := by
  cases option <;> simp only [spellings, List.mem_cons, List.not_mem_nil, or_false] at h <;>
    rcases h with rfl | rfl <;> decide

theorem eq_of_flag_mem_spellings (h : other.flag ∈ option.spellings) : other = option := by
  cases other <;> cases option <;> first | rfl | exact absurd h (by decide)

theorem isGiven_give_iff (arguments : Arguments) :
    other.isGiven (option.give arguments) = true ↔
      other = option ∨ other.isGiven arguments = true := by
  cases other <;> cases option <;> simp [isGiven, give]

theorem addSwitch_of_not_isGiven {arguments : Arguments} (h : option.isGiven arguments = false) :
    arguments.addSwitch option.switch = .ok (option.give arguments) := by
  cases option <;> exact if_neg (by rw [Bool.not_eq_true]; exact h)

end FlagOption

namespace Command

/-- Whether two commands do the same: they differ at most in flags that nothing looks at. -/
structure DoesSame (command other : Command) : Prop where
  verb : command.verb = other.verb
  args : command.args = other.args
  scope : command.scope = other.scope
  dryRun : command.isDryRun = other.isDryRun

theorem doesSame_classify_iff {tokens others : List String}
    (hpositional : positional tokens = positional others) :
    DoesSame (classify tokens) (classify others) ↔
      ∀ option : FlagOption, option.flag ∈ tokens ↔ option.flag ∈ others := by
  have hscope : (classify tokens).scope = (classify others).scope ↔
      (systemFlag ∈ tokens ↔ systemFlag ∈ others) := by
    have hscopes : ∀ scope scope' : Scope,
        scope = scope' ↔ (scope = .system ↔ scope' = .system) := by
      rintro (_ | _) (_ | _) <;> simp
    rw [hscopes, classify, classify, scopeOf_eq_system_iff, scopeOf_eq_system_iff]
  have hdry : (classify tokens).isDryRun = (classify others).isDryRun ↔
      (dryRunFlag ∈ tokens ↔ dryRunFlag ∈ others) := by
    rw [Bool.eq_iff_iff, isDryRun_classify_iff, isDryRun_classify_iff]
  constructor
  · rintro ⟨-, -, hscope', hdry'⟩ (_ | _)
    · exact hscope.mp hscope'
    · exact hdry.mp hdry'
  · intro h
    constructor
    case verb => rw [classify, classify, hpositional]
    case args => rw [classify, classify, hpositional]
    case scope => exact hscope.mpr (h .system)
    case dryRun => exact hdry.mpr (h .dryRun)

end Command

namespace Arguments

variable {arguments parsed : Arguments} {pending : Option Pending} {options : List String}
  {option : FlagOption} {spelling word : String}

def commandOf (texts : List String) : Except Rejection Command :=
  return .classify (← parse texts).commandTokens

theorem flag_mem_commandTokens_iff (arguments : Arguments) (hword : Command.isFlag word = false)
    (rest : List String) (option : FlagOption) :
    option.flag ∈ { arguments with tokens := word :: rest }.commandTokens ↔
      option.isGiven arguments = true ∨ option.flag ∈ rest := by
  have hflags : systemFlag ≠ dryRunFlag := by decide
  rw [mem_commandTokens_iff, mem_cons_iff_of_isFlag hword option.isFlag_flag]
  cases option with
  | system => simp [FlagOption.flag, FlagOption.isGiven, hflags]
  | dryRun => simp [FlagOption.flag, FlagOption.isGiven, hflags.symm]

theorem doesSame_iff {arguments others : Arguments} (hword : Command.isFlag word = false)
    {rest rest' : List String} (hrest : Command.positional rest = Command.positional rest') :
    (Command.classify { arguments with tokens := word :: rest }.commandTokens).DoesSame
        (.classify { others with tokens := word :: rest' }.commandTokens) ↔
      ∀ option : FlagOption, (option.isGiven arguments = true ∨ option.flag ∈ rest) ↔
        (option.isGiven others = true ∨ option.flag ∈ rest') := by
  have hpositional :
      Command.positional { arguments with tokens := word :: rest }.commandTokens =
        Command.positional { others with tokens := word :: rest' }.commandTokens := by
    rw [positional_commandTokens arguments hword, positional_commandTokens others hword, hrest]
  rw [Command.doesSame_classify_iff hpositional]
  simp only [flag_mem_commandTokens_iff _ hword]

theorem parse_append_option (hparse : parse options = .ok parsed) (htokens : parsed.tokens = [])
    (hseparator : "--" ∉ options) (hfree : option.isGiven parsed = false)
    (hspelling : spelling ∈ option.spellings) :
    parse (options ++ [spelling]) = .ok (option.give parsed) := by
  obtain ⟨read, waiting, hfinish, hleads | ⟨hmem, -⟩⟩ := reaches_of_parseFrom hparse htokens
  · obtain ⟨settled, hsettle, hended, rfl⟩ := (finish_eq_ok_iff []).mp hfinish
    have hunset : option.isGiven settled = false := by
      cases option <;> exact hfree
    have hadd : [option.switch].foldlM addSwitch settled = .ok (option.give settled) := by
      rw [List.foldlM_cons, FlagOption.addSwitch_of_not_isGiven hunset]
      rfl
    have hread := leads_switches (FlagOption.ofString_of_mem_spellings hspelling) hsettle hadd []
    have hended' :
        (option.give settled).finish none [] = .ok (option.give { settled with tokens := [] }) := by
      refine (finish_eq_ok_iff []).mpr ⟨option.give settled, rfl, ?_, ?_⟩
      · cases option <;> exact hended
      · cases option <;> rfl
    rw [parse, hleads]
    exact hread.trans hended'
  · exact absurd hmem hseparator

theorem commandOf_options_command (hparse : parse options = .ok parsed)
    (htokens : parsed.tokens = []) (hword : Command.isFlag word = false) (rest : List String) :
    commandOf (options ++ word :: rest) =
      .ok (.classify { parsed with tokens := word :: rest }.commandTokens) := by
  rw [commandOf, parse_options_command hparse htokens hword rest]
  rfl

/-- Where an option stands, before the command or behind it, does not matter if it is spelled as the
flag of the command or the flag is there anyway. Spelled out behind the command it does nothing. -/
theorem option_placement (hparse : parse options = .ok parsed) (htokens : parsed.tokens = [])
    (hseparator : "--" ∉ options) (hfree : option.isGiven parsed = false)
    (hspelling : spelling ∈ option.spellings) (hword : Command.isFlag word = false)
    (rest : List String) :
    ∃ front bare, commandOf (options ++ spelling :: word :: rest) = .ok front ∧
      commandOf (options ++ word :: rest) = .ok bare ∧
      ∀ first second, first ++ second = rest →
        ∃ behind, commandOf (options ++ word :: (first ++ spelling :: second)) = .ok behind ∧
          (front.DoesSame behind ↔ spelling = option.flag ∨ option.flag ∈ rest) ∧
          (spelling ≠ option.flag → behind.DoesSame bare) := by
  have hgiven := parse_append_option hparse htokens hseparator hfree hspelling
  have hempty : (option.give parsed).tokens = [] := by
    cases option <;> exact htokens
  have hfront := commandOf_options_command hgiven hempty hword rest
  rw [List.append_assoc] at hfront
  refine ⟨_, _, hfront, commandOf_options_command hparse htokens hword rest, ?_⟩
  rintro first second rfl
  have hflag := FlagOption.isFlag_of_mem_spellings hspelling
  have hpositional : Command.positional (first ++ spelling :: second) =
      Command.positional (first ++ second) := by
    simp [Command.positional, hflag]
  have hmem : ∀ token,
      token ∈ first ++ spelling :: second ↔ token = spelling ∨ token ∈ first ++ second := by
    intro token
    rw [List.mem_append, List.mem_cons, List.mem_append]
    exact or_left_comm
  have hother : ∀ other : FlagOption, other.flag = spelling → other = option := by
    rintro other rfl
    exact FlagOption.eq_of_flag_mem_spellings hspelling
  refine ⟨_, commandOf_options_command hparse htokens hword (first ++ spelling :: second), ?_, ?_⟩
  · rw [doesSame_iff hword hpositional.symm]
    simp only [FlagOption.isGiven_give_iff, hmem]
    constructor
    · intro hsame
      rcases (hsame option).mp (.inl (.inl rfl)) with hgiven | heq | hrest
      · rw [hfree] at hgiven
        cases hgiven
      · exact .inl heq.symm
      · exact .inr hrest
    · intro heither other
      by_cases heq : other = option
      · subst heq
        exact iff_of_true (.inl (.inl rfl)) (.inr (heither.imp Eq.symm id))
      · rw [or_iff_right heq, or_iff_right (mt (hother other) heq)]
  · intro hlong
    rw [doesSame_iff hword hpositional]
    intro other
    have hne : other.flag ≠ spelling := by
      intro heq
      rw [hother other heq] at heq
      exact hlong heq.symm
    rw [hmem, or_iff_right hne]

theorem option_placement_dryRun :
    parse ["--config", "c.toml", "-d"] = .ok { debug := 1, config := some "c.toml" } ∧
      "--" ∉ ["--config", "c.toml", "-d"] ∧
      FlagOption.dryRun.isGiven { debug := 1, config := some "c.toml" } = false ∧
      "-t" ∈ FlagOption.dryRun.spellings ∧ Command.isFlag "append" = false ∧
      ∃ front behind,
        commandOf ["--config", "c.toml", "-d", "-t", "append", "A", "b"] = .ok front ∧
        commandOf ["--config", "c.toml", "-d", "append", "A", "-t", "b"] = .ok behind ∧
        front.DoesSame behind := by
  have hparse : parse ["--config", "c.toml", "-d"] =
      .ok { debug := 1, config := some "c.toml" } := by
    decide
  have hseparator : "--" ∉ ["--config", "c.toml", "-d"] := by decide
  have hspelling : "-t" ∈ FlagOption.dryRun.spellings := by decide
  have hword : Command.isFlag "append" = false := rfl
  obtain ⟨front, bare, hfront, hbare, hplaced⟩ :=
    option_placement hparse rfl hseparator rfl hspelling hword ["A", "b"]
  obtain ⟨behind, hbehind, hsame, -⟩ := hplaced ["A"] ["b"] rfl
  exact ⟨hparse, hseparator, rfl, hspelling, hword, front, behind, hfront, hbehind,
    hsame.mpr (.inl rfl)⟩

/-- Spelled out behind the command the system option does not select the system scope. -/
theorem option_placement_spelled_out :
    parse [] = .ok {} ∧ "--" ∉ ([] : List String) ∧ FlagOption.system.isGiven {} = false ∧
      "--system" ∈ FlagOption.system.spellings ∧ Command.isFlag "get" = false ∧
      ∃ front behind, commandOf ["--system", "get", "A"] = .ok front ∧
        commandOf ["get", "A", "--system"] = .ok behind ∧ front.scope = .system ∧
        behind.scope = .user ∧ ¬ front.DoesSame behind := by
  refine ⟨rfl, List.not_mem_nil, rfl, by decide, rfl, _, _, rfl, rfl, rfl, rfl, ?_⟩
  rintro ⟨-, -, hscope, -⟩
  cases hscope

end Arguments

end ScopedVars
