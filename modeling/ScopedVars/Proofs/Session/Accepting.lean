import ScopedVars.Proofs.Session.Operands
import ScopedVars.Proofs.Text.Words

/-! # Lines that a session accepts

However tokens are laid out on a line, the line becomes the command that the tokens are, in the
scope of the session. Tokens that name no command become one to do nothing, and the session warns.
-/

namespace ScopedVars

namespace Session

variable {σ : Type} {margin : String} {pieces : List (String × String)}

/-- A session that accepts a line takes from it the tokens that were laid out there, whatever the
blanks around them are. Nothing of the session but its pending command changes, and the store is not
asked for anything. -/
theorem accept_layOut (h : IsLayout margin pieces) (session : Session)
    (store : Store (StateM σ)) (state : σ) :
    let line := layOut margin pieces
    let tokens := pieces.map Prod.fst
    let command := { Command.classify tokens with scope := session.scope }
    (isCommand tokens = true →
        command.verb ≠ .unknown ∧
          session.accept line = ({ session with current := command }, [])) ∧
      (isCommand tokens = false →
        command.verb = .unknown ∧
          session.accept line =
            ({ session with current := { command with verb := .noop } }, [.warn parseWarning])) ∧
      session.use store state (.accept line) = (.ok (), (session.accept line).1, state) := by
  intro line tokens command
  have htokens : words line = tokens := words_layOut h
  have hverb : command.verb = .unknown ↔ isCommand tokens = false := Verb.ofWord_eq_unknown_iff _
  refine ⟨fun hcommand => ⟨?_, ?_⟩, fun hcommand => ⟨hverb.mpr hcommand, ?_⟩, rfl⟩
  · rw [Ne, hverb, hcommand]
    exact Bool.noConfusion
  · rw [accept_of_isCommand (htokens ▸ hcommand), htokens]
  · rw [accept_of_not_isCommand (htokens ▸ hcommand), htokens]

theorem accept_layOut_blanks :
    IsLayout "\u2003" [("-s", "\u00a0\t"), ("get", " "), ("\u200b", "")] ∧
      ({ scope := .system } : Session).accept "\u2003-s\u00a0\tget \u200b" =
        ({ scope := .system, current := ⟨.get, .system, ["\u200b"], Command.flagSet ["-s"]⟩ }, []) ∧
      IsLayout "" [("-s", "\u3000")] ∧
      ({ lastResult := some "1" } : Session).accept "-s\u3000" =
        ({ current := ⟨.noop, .user, [], Command.flagSet ["-s"]⟩, lastResult := some "1" },
          [.warn parseWarning]) := by
  have hget : IsLayout "\u2003" [("-s", "\u00a0\t"), ("get", " "), ("\u200b", "")] := by decide
  have hflag : IsLayout "" [("-s", "\u3000")] := by decide
  have store := Store.memory (.both true)
  exact ⟨hget, ((accept_layOut hget { scope := .system } store (.both ∅)).1 (by decide)).2, hflag,
    ((accept_layOut hflag { lastResult := some "1" } store (.both ∅)).2.1 (by decide)).2⟩

end Session

end ScopedVars
