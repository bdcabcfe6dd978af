import ScopedVars.Proofs.Commands.Grammar
import ScopedVars.Proofs.Program.Courses

/-! # What a run writes

A run writes to no file but those of its stores, and one command to that of its scope only. A run
that does not come to a store writes nothing, and nor does one whose command is refused. Whether
output works has no part in what a command writes.
-/

namespace ScopedVars

namespace Program

def treeAfter (request : Request) (stdin : Content) (tree : FileTree) : FileTree :=
  ((runOn request stdin).run tree).2

/-- Whether a run ends without a call that could write: its command line is rejected, asks for a
text alone or comes with settings that do not load, or the one command to carry out is refused. -/
inductive Idle (request : Request) (tree : FileTree) : Prop
  | rejected {rejection : Rejection} (h : Arguments.parse request.arguments = .error rejection)
  | completions {arguments : Arguments} {shell : Shell}
      (hparse : Arguments.parse request.arguments = .ok arguments)
      (h : arguments.completions = some shell)
  | configTemplate {arguments : Arguments}
      (hparse : Arguments.parse request.arguments = .ok arguments)
      (h : arguments.configTemplate = true)
  | showConfig {arguments : Arguments}
      (hparse : Arguments.parse request.arguments = .ok arguments) (h : arguments.showConfig = true)
  | unsettled {arguments : Arguments} {failure : Failure}
      (hparse : Arguments.parse request.arguments = .ok arguments)
      (h : settings? request tree arguments = .error failure)
  | refused {arguments : Arguments} {settings : Settings} {problems : List Problem}
      (hparse : Arguments.parse request.arguments = .ok arguments)
      (hsettled : settings? request tree arguments = .ok settings)
      (honce : arguments.isInteractive = false)
      (h : (commandOn tree arguments settings).1 = .error (.invalid problems))

variable {request : Request} {tree : FileTree} {arguments : Arguments} {settings : Settings}

theorem treeAfter_of_starts (hstart : Starts request tree arguments settings)
    (honce : arguments.isInteractive = false) (stdin : Content) :
    treeAfter request stdin tree = (commandOn tree arguments settings).2 :=
  congrArg Prod.snd (runOn_of_once hstart honce stdin)

theorem Idle.refused_of_starts (h : Idle request tree)
    (hstart : Starts request tree arguments settings) :
    arguments.isInteractive = false ∧
      ∃ problems, (commandOn tree arguments settings).1 = .error (.invalid problems) := by
  cases h with
  | rejected h => cases h.symm.trans hstart.parsed
  | completions hparse h =>
    obtain rfl := hstart.eq_of_parsed hparse
    cases h.symm.trans hstart.completions
  | configTemplate hparse h =>
    obtain rfl := hstart.eq_of_parsed hparse
    cases h.symm.trans hstart.configTemplate
  | showConfig hparse h =>
    obtain rfl := hstart.eq_of_parsed hparse
    cases h.symm.trans hstart.showConfig
  | unsettled hparse h =>
    obtain rfl := hstart.eq_of_parsed hparse
    cases h.symm.trans hstart.settled
  | refused hparse hsettled honce h =>
    obtain rfl := hstart.eq_of_parsed hparse
    obtain rfl := Except.ok.inj (hsettled.symm.trans hstart.settled)
    exact ⟨honce, _, h⟩

theorem commandOn_of_refused {problems : List Problem}
    (h : (commandOn tree arguments settings).1 = .error (.invalid problems)) :
    (commandOn tree arguments settings).2 = tree := by
  obtain ⟨hne, hproblems⟩ := (Store.runOnce_eq_invalid_iff ..).mp h
  obtain ⟨problem, rest, rfl⟩ := List.exists_cons_of_ne_nil hne
  rw [commandOn, commandIn, Store.runOnce_of_problems _ hproblems, runIn_throw]

theorem Idle.treeAfter_eq (h : Idle request tree) (stdin : Content) :
    treeAfter request stdin tree = tree := by
  by_cases hstarts : ∃ arguments settings, Starts request tree arguments settings
  · obtain ⟨arguments, settings, hstart⟩ := hstarts
    obtain ⟨honce, problems, hrefused⟩ := h.refused_of_starts hstart
    rw [treeAfter_of_starts hstart honce, commandOn_of_refused hrefused]
  · simp only [not_exists] at hstarts
    exact runOn_of_not_starts hstarts stdin

theorem grows_commandOn (tree : FileTree) (arguments : Arguments) (settings : Settings) :
    FileTree.Grows [settings.get (Command.scopeOf arguments.commandTokens)] tree
      (commandOn tree arguments settings).2 := by
  have hmem := List.mem_singleton_self (settings.get (Command.scopeOf arguments.commandTokens))
  exact (Store.maintains_grows hmem tree).attempt (.classify arguments.commandTokens)
    (.refl _ tree)

theorem mem_paths_iff (settings : Settings) (path : String) :
    path ∈ [settings.user, settings.system] ↔ ∃ scope, settings.get scope = path := by
  rw [List.mem_pair]
  constructor
  · rintro (rfl | rfl)
    · exact ⟨.user, rfl⟩
    · exact ⟨.system, rfl⟩
  · rintro ⟨_ | _, rfl⟩
    · exact .inl rfl
    · exact .inr rfl

theorem grows_sessionOn (stdin : Content) (tree : FileTree) (settings : Settings) :
    FileTree.Grows [settings.user, settings.system] tree (sessionOn stdin tree settings).2 := by
  have hmem (scope : Scope) := (mem_paths_iff settings _).mpr ⟨scope, rfl⟩
  exact Store.Maintains.session (fun scope => Store.maintains_grows (hmem scope) tree) _
    (.refl _ tree)

theorem grows_interactive (hstart : Starts request tree arguments settings)
    (hinteractive : arguments.isInteractive = true) (stdin : Content) :
    FileTree.Grows [settings.user, settings.system] tree (treeAfter request stdin tree) := by
  rw [treeAfter]
  cases houtput : request.outputWorks with
  | true =>
    rw [runOn_of_session hstart hinteractive houtput]
    exact grows_sessionOn stdin tree settings
  | false =>
    rw [runOn_of_cutOff hstart hinteractive houtput]
    exact .refl _ tree

theorem exists_scope_of_content_ne (request : Request) (stdin : Content) (tree : FileTree)
    {place : Place}
    (h : (treeAfter request stdin tree).content? place ≠ tree.content? place) :
    ∃ arguments settings scope, Starts request tree arguments settings ∧
      (treeAfter request stdin tree).locate (settings.get scope) = .ok place ∧
      (arguments.isInteractive = false → scope = Command.scopeOf arguments.commandTokens) := by
  by_cases hstarts : ∃ arguments settings, Starts request tree arguments settings
  · obtain ⟨arguments, settings, hstart⟩ := hstarts
    cases hinteractive : arguments.isInteractive with
    | false =>
      rw [treeAfter_of_starts hstart hinteractive] at h ⊢
      obtain ⟨path, hpath, hlocate⟩ := (grows_commandOn tree arguments settings).content place h
      obtain rfl := List.mem_singleton.mp hpath
      exact ⟨arguments, settings, _, hstart, hlocate, fun _ => rfl⟩
    | true =>
      obtain ⟨path, hpath, hlocate⟩ :=
        (grows_interactive hstart hinteractive stdin).content place h
      obtain ⟨scope, rfl⟩ := (mem_paths_iff settings path).mp hpath
      exact ⟨arguments, settings, scope, hstart, hlocate, fun honce =>
        absurd (hinteractive.symm.trans honce) Bool.true_eq_false.mp⟩
  · simp only [not_exists] at hstarts
    exact absurd (congrArg (FileTree.content? · place) (runOn_of_not_starts hstarts stdin)) h

theorem starts_output_iff (outputWorks : Bool) :
    Starts { request with outputWorks } tree arguments settings ↔
      Starts request tree arguments settings :=
  ⟨fun h => ⟨⟨h.parsed, h.completions, h.configTemplate, h.showConfig⟩, h.settled⟩,
    fun h => ⟨⟨h.parsed, h.completions, h.configTemplate, h.showConfig⟩, h.settled⟩⟩

theorem treeAfter_output (hparse : Arguments.parse request.arguments = .ok arguments)
    (honce : arguments.isInteractive = false) (outputWorks : Bool) (stdin : Content)
    (tree : FileTree) :
    treeAfter { request with outputWorks } stdin tree = treeAfter request stdin tree := by
  by_cases hstarts : ∃ other settings, Starts request tree other settings
  · obtain ⟨other, settings, hstart⟩ := hstarts
    obtain rfl := hstart.eq_of_parsed hparse
    have hstart' := (starts_output_iff outputWorks).mpr hstart
    rw [treeAfter_of_starts hstart honce, treeAfter_of_starts hstart' honce]
  · simp only [not_exists] at hstarts
    rw [treeAfter, treeAfter, runOn_of_not_starts hstarts, runOn_of_not_starts]
    intro other settings hstart
    exact hstarts other settings ((starts_output_iff outputWorks).mp hstart)

/-- A file that differs after a run is one that a path of its stores leads to, and after one command
on its own one that the path of its scope leads to. An idle run changes nothing. What one command
writes does not depend on whether its output works. -/
theorem run_writes_only_stores (request : Request) (stdin : Content) (before : FileTree) :
    (∀ place, (treeAfter request stdin before).content? place ≠ before.content? place →
        ∃ arguments settings scope, Starts request before arguments settings ∧
          (treeAfter request stdin before).locate (settings.get scope) = .ok place ∧
          (arguments.isInteractive = false →
            scope = Command.scopeOf arguments.commandTokens)) ∧
      (Idle request before → treeAfter request stdin before = before) ∧
      ∀ arguments, Arguments.parse request.arguments = .ok arguments →
        arguments.isInteractive = false → ∀ outputWorks,
          treeAfter { request with outputWorks } stdin before =
            treeAfter request stdin before :=
  ⟨fun _ h => exists_scope_of_content_ne request stdin before h, fun h => h.treeAfter_eq stdin,
    fun _ hparse honce outputWorks => treeAfter_output hparse honce outputWorks stdin before⟩

theorem run_writes_only_stores_set :
    (treeAfter (storing ["-s", "set", "A", "1"]) (.text "") {}).content? ["s"] ≠
        FileTree.content? {} ["s"] ∧
      (∃ arguments settings scope,
        Starts (storing ["-s", "set", "A", "1"]) {} arguments settings ∧
          (treeAfter (storing ["-s", "set", "A", "1"]) (.text "") {}).locate
            (settings.get scope) = .ok ["s"] ∧
          (arguments.isInteractive = false →
            scope = Command.scopeOf arguments.commandTokens)) ∧
      treeAfter { storing ["-s", "set", "A", "1"] with outputWorks := false } (.text "") {} =
        treeAfter (storing ["-s", "set", "A", "1"]) (.text "") {} ∧
      Idle (storing ["set", "A"]) {} ∧
      treeAfter (storing ["set", "A"]) (.text "") {} = {} := by
  have hwritten : ((treeAfter (storing ["-s", "set", "A", "1"]) (.text "") {}).content?
      ["s"]).isSome = true := by
    decide +kernel
  have hdiffers : (treeAfter (storing ["-s", "set", "A", "1"]) (.text "") {}).content? ["s"] ≠
      FileTree.content? {} ["s"] := by
    intro hsame
    rw [hsame] at hwritten
    cases hwritten
  have hparse : Arguments.parse ["-s", "set", "A", "1"] =
      .ok { system := true, tokens := ["set", "A", "1"] } := by
    decide
  have hproblems : (commandOn {} { tokens := ["set", "A"] } ⟨"/u", "/s"⟩).1 =
      .error (.invalid [.arity .set]) := by
    decide +kernel
  have hidle : Idle (storing ["set", "A"]) {} :=
    .refused (by decide) (by decide +kernel) (by decide) hproblems
  obtain ⟨hplaces, -, houtput⟩ :=
    run_writes_only_stores (storing ["-s", "set", "A", "1"]) (.text "") {}
  obtain ⟨-, hunchanged, -⟩ := run_writes_only_stores (storing ["set", "A"]) (.text "") {}
  exact ⟨hdiffers, hplaces ["s"] hdiffers, houtput _ hparse (by decide) false, hidle,
    hunchanged hidle⟩

end Program

end ScopedVars
