import ScriptShell.Dispatch

/-!
# The order of the readings of a line

One lemma for each reading of a line that is no script code (`Resolution.ofLine_blank` to
`Resolution.ofLine_external`), and what the engine's verdict on the line decides
(`Engine.resolve_accepted`, `Engine.resolve_rejected`).
-/

namespace ScriptShell

namespace Resolution

/-- An alias runs the rewritten line as a program, if anything is left of it. -/
def ofRewritten (argv : List String) : Resolution :=
  match Invocation.ofArguments? argv with
  | none => .empty
  | some run => .alias run

@[simp] theorem ofRewritten_nil : ofRewritten [] = .empty := rfl

@[simp] theorem ofRewritten_cons (program : String) (args : List String) :
    ofRewritten (program :: args) = .alias ⟨program, args⟩ := rfl

/-- The vector that is run can be read off. -/
theorem ofRewritten_inj {l l' : List String} : ofRewritten l = ofRewritten l' ↔ l = l' := by
  cases l <;> cases l' <;> simp

variable {home line first : String} {others : List String} {shell : ShellState}

theorem ofLine_blank (h : Line.arguments home line = []) : ofLine home line shell = .empty := by
  simp [ofLine, h, Invocation.ofArguments?]

theorem ofLine_alias {expansion : String} (h : Line.arguments home line = first :: others)
    (ha : shell.aliases.get? first = some expansion) :
    ofLine home line shell =
      ofRewritten (Line.arguments home (Line.replaceLeadingWord line expansion)) := by
  simp only [ofLine, h, Invocation.ofArguments?, ha]
  rfl

theorem ofLine_command (h : Line.arguments home line = first :: others)
    (ha : shell.aliases.get? first = none) (hc : first ∈ shell.commands.members) :
    ofLine home line shell = .command first others := by
  simp [ofLine, h, Invocation.ofArguments?, ha, CommandTable.contains, hc]

theorem ofLine_exit (h : Line.arguments home line = exitWord :: others)
    (ha : shell.aliases.get? exitWord = none) (hc : exitWord ∉ shell.commands.members) :
    ofLine home line shell = .exit := by
  simp [ofLine, h, Invocation.ofArguments?, ha, CommandTable.contains, hc]

theorem ofLine_external (h : Line.arguments home line = first :: others)
    (ha : shell.aliases.get? first = none) (hc : first ∉ shell.commands.members)
    (he : first ≠ exitWord) : ofLine home line shell = .external ⟨first, others⟩ := by
  simp [ofLine, h, Invocation.ofArguments?, ha, CommandTable.contains, hc, he]

end Resolution

namespace Engine

variable {σ : Type} {engine : Engine σ} {home line : String} {s : Shared σ}

/-- A line the engine accepts is script code, whatever else it might be. -/
theorem resolve_accepted (h : (engine.eval line s).answer = .ok ()) :
    engine.resolve home line s =
      { answer := .script, state := (engine.eval line s).state
        output := (engine.eval line s).output } := by
  simp [resolve, h]

/-- A line the engine rejects is read in the state that the attempt left. -/
theorem resolve_rejected {why : ScriptError} (h : (engine.eval line s).answer = .error why) :
    engine.resolve home line s =
      { answer := .ofLine home line (engine.eval line s).state.shell
        state := (engine.eval line s).state
        output := (engine.eval line s).output ++ [.event (.notScriptCode why)] } := by
  simp [resolve, h]

end Engine

end ScriptShell
