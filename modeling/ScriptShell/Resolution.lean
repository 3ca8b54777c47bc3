import ScriptShell.Engine.Basic
import ScriptShell.Line.Arguments
import ScriptShell.Line.LeadingWord
/-!
# What a line means

A line that is no script code is read as a command: its first argument is an alias, a registered
command, `exit` or a program, in this order. An alias replaces the leading word of the raw line;
the result is always run as a program and never looked up again.
-/

namespace ScriptShell

/-- What a line means. -/
inductive Resolution
  /-- it was script code, and has been run -/
  | script
  | empty
  | alias (run : Invocation)
  | command (name : String) (args : List String)
  | exit
  | external (run : Invocation)
deriving Repr, DecidableEq, Inhabited

/-- The word that ends the shell. -/
def exitWord : String := "exit"

namespace Resolution

/-- What a line that is no script code means in a state. -/
def ofLine (home line : String) (shell : ShellState) : Resolution :=
  match Invocation.ofArguments? (Line.arguments home line) with
  | none => .empty
  | some run =>
    match shell.aliases.get? run.program with
    | some expansion =>
      match Invocation.ofArguments? (Line.arguments home (Line.replaceLeadingWord line expansion)) with
      | none => .empty
      | some run => .alias run
    | none =>
      if shell.commands.contains run.program then .command run.program run.args
      else if run.program = exitWord then .exit
      else .external run

end Resolution

/-- Settles what a line means, running it if it is script code. A failure of the engine only says
that it is not; what the engine did before it failed stays, and the tables are read after it. -/
def Engine.resolve {σ : Type} (engine : Engine σ) (home line : String) (s : Shared σ) :
    Outcome (Shared σ) Resolution :=
  let o := engine.eval line s
  match o.answer with
  | .ok () => { answer := .script, state := o.state, output := o.output }
  | .error why =>
    { answer := .ofLine home line o.state.shell
      state := o.state
      output := o.output ++ [.event (.notScriptCode why)] }

end ScriptShell
