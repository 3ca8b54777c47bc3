import ScriptShell.Event
import ScriptShell.Invocation
import ScriptShell.ShellState
import ScriptShell.Text.Bytes
/-!
# Engines and runners

The dispatcher drives two things it knows nothing about: an engine, which runs script code and may
change the shell state, and a runner, which runs programs and may not. Both act on a host state of
their own type; what they put out is returned in order, so neither sees what others wrote.
-/

namespace ScriptShell

/-- The two streams of text that leave the shell. -/
inductive Stream
  | out | err
deriving Repr, DecidableEq, Inhabited

/-- One thing put out, by whom. -/
inductive Output
  /-- text of a running script -/
  | script (stream : Stream) (text : String)
  /-- bytes of a program -/
  | program (stream : Stream) (bytes : ByteArray)
  /-- text of the shell itself -/
  | shell (stream : Stream) (text : String)
  /-- a note in the log -/
  | event (e : Event)
deriving DecidableEq, Inhabited

/-- What one action came to: its answer, the state it left, and what it put out, in order. -/
structure Outcome (τ α : Type) where
  answer : α
  state : τ
  output : List Output := []

/-- The state an engine acts on: the host's own, and the shell's. -/
structure Shared (σ : Type) where
  host : σ
  shell : ShellState := {}

/-- Runs script code. -/
structure Engine (σ : Type) where
  /-- runs a line as script code; a failure means that it is not one -/
  eval : String → Shared σ → Outcome (Shared σ) (Except ScriptError Unit)
  /-- calls the handler of a command, with its arguments as one list -/
  call : String → List String → Shared σ → Outcome (Shared σ) (Except ScriptError Unit)
  /-- runs a whole file -/
  load : String → Shared σ → Outcome (Shared σ) (Except ScriptError Unit)

/-- The state of an engine, out of a host that has something beside it. -/
def Shared.first {σ τ : Type} (s : Shared (σ × τ)) : Shared σ := ⟨s.host.1, s.shell⟩

/-- An engine on a host that has something beside it, which the engine leaves alone. -/
def Engine.beside {σ : Type} (e : Engine σ) (τ : Type) : Engine (σ × τ) :=
  let widen := fun (rest : τ) (o : Outcome (Shared σ) (Except ScriptError Unit)) =>
    { answer := o.answer, state := ⟨(o.state.host, rest), o.state.shell⟩, output := o.output :
      Outcome (Shared (σ × τ)) (Except ScriptError Unit) }
  { eval line s := widen s.host.2 (e.eval line s.first)
    call name args s := widen s.host.2 (e.call name args s.first)
    load path s := widen s.host.2 (e.load path s.first) }

/-- How a program ended: an exit code, or 128 and the number of the signal that ended it. -/
structure ExitStatus where
  code : UInt8
deriving Repr, DecidableEq, Inhabited

/-- Whether the program did what it was asked to. -/
def ExitStatus.isSuccess (s : ExitStatus) : Bool := s.code == 0

/-- Runs programs to their end. -/
structure Runner (σ : Type) where
  run : Invocation → σ → Outcome σ (Except LaunchError ExitStatus)

end ScriptShell
