import ScriptShell.Engine.Effects
import ScriptShell.Proofs.Line.LeadingWord
import ScriptShell.Proofs.Resolution.Order

/-!
# What an alias replaces

An alias is looked up under the first argument of a line, and its expansion takes the place of the
leading word. The two are the same part of the line unless the leading word vanishes.
`resolve_alias_swaps_iff`: an expansion whose quotes are closed takes the place of the first
argument exactly if something is left of the leading word; else it is put in front of it.
-/

namespace ScriptShell

namespace Dispatcher

variable {σ : Type} {d : Dispatcher σ} {line first expansion : String} {others : List String}
  {s : Shared σ}

/-- The vector that an alias runs: the expansion's arguments, and those behind the leading word. -/
theorem resolve_alias {why : ScriptError} (hr : (d.engine.eval line s).answer = .error why)
    (hl : Line.arguments d.home line = first :: others)
    (ha : (d.engine.eval line s).state.shell.aliases.get? first = some expansion)
    (heven : Line.quotes expansion.toList % 2 = 0) :
    (d.resolve line s).answer =
      Resolution.ofRewritten (Line.arguments d.home expansion ++
        if Line.leadingWordVanishes d.home line then first :: others else others) := by
  unfold resolve
  rw [Engine.resolve_rejected hr, Resolution.ofLine_alias hl ha,
    Line.arguments_replaceLeadingWord heven, Line.arguments_afterLeadingWord hl]

/-- An alias swaps the first argument for the arguments of its expansion exactly if the leading
word of the line does not vanish; if it does, the first argument stays behind the expansion. -/
theorem resolve_alias_swaps_iff {why : ScriptError}
    (hr : (d.engine.eval line s).answer = .error why)
    (hl : Line.arguments d.home line = first :: others)
    (ha : (d.engine.eval line s).state.shell.aliases.get? first = some expansion)
    (heven : Line.quotes expansion.toList % 2 = 0) :
    ((d.resolve line s).answer =
        Resolution.ofRewritten (Line.arguments d.home expansion ++ others) ↔
      Line.leadingWordVanishes d.home line = false) ∧
    (Line.leadingWordVanishes d.home line = true →
      (d.resolve line s).answer =
        Resolution.ofRewritten (Line.arguments d.home expansion ++ first :: others)) := by
  have hrun := resolve_alias hr hl ha heven
  by_cases hv : Line.leadingWordVanishes d.home line = true
  · rw [if_pos hv] at hrun
    refine ⟨⟨fun h => ?_, fun h => ?_⟩, fun _ => hrun⟩
    · -- the two vectors differ in length
      rw [hrun, Resolution.ofRewritten_inj] at h
      have hlen := congrArg List.length h
      simp at hlen
    · rw [hv] at h
      cases h
  · have hv' : Line.leadingWordVanishes d.home line = false := by simpa using hv
    rw [if_neg hv] at hrun
    exact ⟨⟨fun _ => hv', fun _ => hrun⟩, fun h => absurd h hv⟩

/-- A shell whose engine knows no script and whose programs all succeed. -/
def scriptless : Dispatcher EffectHost where
  engine := effectEngine
  runner := { run _ h := { answer := .ok ⟨0⟩, state := h } }
  home := "/home/u"

/-- A state with one alias. -/
def oneAlias : Shared EffectHost where
  host := {}
  shell := { aliases := ({} : AliasTable).insert "ll" "ls \"-l a\"" }

/-- Quotes within the leading word do not matter. -/
theorem resolve_alias_swaps_quoted_word :
    (scriptless.engine.eval "  l\"l\" \"b  c\" ~" oneAlias).answer = .error .notStatement ∧
      Line.arguments "/home/u" "  l\"l\" \"b  c\" ~" = ["ll", "b  c", "/home/u"] ∧
      (scriptless.engine.eval "  l\"l\" \"b  c\" ~" oneAlias).state.shell.aliases.get? "ll" =
        some "ls \"-l a\"" ∧
      Line.quotes "ls \"-l a\"".toList % 2 = 0 ∧
      (scriptless.resolve "  l\"l\" \"b  c\" ~" oneAlias).answer =
        Resolution.ofRewritten (Line.arguments "/home/u" "ls \"-l a\"" ++ ["b  c", "/home/u"]) := by
  have hr : (scriptless.engine.eval "  l\"l\" \"b  c\" ~" oneAlias).answer =
      .error .notStatement := by rfl
  have hl : Line.arguments "/home/u" "  l\"l\" \"b  c\" ~" = ["ll", "b  c", "/home/u"] := by
    decide +kernel
  have ha : (scriptless.engine.eval "  l\"l\" \"b  c\" ~" oneAlias).state.shell.aliases.get? "ll" =
      some "ls \"-l a\"" := by decide +kernel
  have heven : Line.quotes "ls \"-l a\"".toList % 2 = 0 := by decide +kernel
  have hkept : Line.leadingWordVanishes "/home/u" "  l\"l\" \"b  c\" ~" = false := by decide +kernel
  exact ⟨hr, hl, ha, heven, (resolve_alias_swaps_iff hr hl ha heven).1.2 hkept⟩

/-- Behind an empty pair of quotes the trigger itself becomes an argument. -/
theorem resolve_alias_behind_empty_quotes :
    Line.arguments "/home/u" "\"\" ll b" = ["ll", "b"] ∧
      (scriptless.resolve "\"\" ll b" oneAlias).answer = .alias ⟨"ls", ["-l a", "ll", "b"]⟩ ∧
      (scriptless.resolve "\"\" ll b" oneAlias).answer ≠
        Resolution.ofRewritten (Line.arguments "/home/u" "ls \"-l a\"" ++ ["b"]) := by
  decide +kernel

end Dispatcher

end ScriptShell
