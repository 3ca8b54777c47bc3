import ScriptShell.Engine.Effects
import ScriptShell.Proofs.Dispatch.Steps

/-!
# Recording what is asked of engine and runner

`Dispatcher.noting` keeps notes beside the host: whenever the engine or the runner is asked for
something, what is noted of that request is added, in order. It is the same dispatcher otherwise
(`Dispatcher.dispatchLine_noting`). `Dispatcher.recorded` notes the requests themselves, so what is
asked can be counted for any engine and any runner (`Dispatcher.dispatchLine_recorded`).
-/

namespace ScriptShell

variable {σ ν α : Type}

/-- A state with the notes so far beside the host. -/
def Shared.withNotes (s : Shared σ) (notes : List ν) : Shared (σ × List ν) :=
  ⟨(s.host, notes), s.shell⟩

/-- An outcome with the notes so far. -/
def Outcome.withNotes (o : Outcome (Shared σ) α) (notes : List ν) :
    Outcome (Shared (σ × List ν)) α :=
  { answer := o.answer, state := o.state.withNotes notes, output := o.output }

@[simp] theorem Shared.withNotes_first (s : Shared σ) (notes : List ν) :
    (s.withNotes notes).first = s := rfl

@[simp] theorem Shared.withNotes_host (s : Shared σ) (notes : List ν) :
    (s.withNotes notes).host = (s.host, notes) := rfl

@[simp] theorem Shared.withNotes_shell (s : Shared σ) (notes : List ν) :
    (s.withNotes notes).shell = s.shell := rfl

@[simp] theorem Outcome.withNotes_answer (o : Outcome (Shared σ) α) (notes : List ν) :
    (o.withNotes notes).answer = o.answer := rfl

@[simp] theorem Outcome.withNotes_state (o : Outcome (Shared σ) α) (notes : List ν) :
    (o.withNotes notes).state = o.state.withNotes notes := rfl

@[simp] theorem Outcome.withNotes_output (o : Outcome (Shared σ) α) (notes : List ν) :
    (o.withNotes notes).output = o.output := rfl

/-- The engine, with every request noted. What is noted may hang on the state of the host. -/
def Engine.noting (note : σ → Request → List ν) (e : Engine σ) : Engine (σ × List ν) where
  eval line s := (e.eval line s.first).withNotes (s.host.2 ++ note s.host.1 (.script line))
  call name args s :=
    (e.call name args s.first).withNotes (s.host.2 ++ note s.host.1 (.call name args))
  load path s := (e.load path s.first).withNotes (s.host.2 ++ note s.host.1 (.load path))

/-- The runner, with every request noted. -/
def Runner.noting (note : σ → Request → List ν) (r : Runner σ) : Runner (σ × List ν) where
  run invocation host :=
    let o := r.run invocation host.1
    { answer := o.answer, state := (o.state, host.2 ++ note host.1 (.run invocation))
      output := o.output }

/-- The engine, with every request kept. -/
def Engine.recorded (e : Engine σ) : Engine (σ × List Request) := e.noting fun _ r => [r]

namespace Dispatcher

variable (d : Dispatcher σ)

/-- The dispatcher, with every request noted. -/
def noting (note : σ → Request → List ν) : Dispatcher (σ × List ν) where
  engine := d.engine.noting note
  runner := d.runner.noting note
  home := d.home
  errors := d.errors

/-- The dispatcher, with every request kept. -/
def recorded : Dispatcher (σ × List Request) := d.noting fun _ r => [r]

/-- What an action asks for beyond the evaluation of the line. -/
def requestsOf : Resolution → List Request
  | .script | .empty | .exit => []
  | .alias run | .external run => [.run run]
  | .command name args => [.call name args]

/-- What a line asks for: its evaluation, and what it turns out to mean. -/
def requests (line : String) (s : Shared σ) : List Request :=
  .script line :: requestsOf (d.resolve line s).answer

section

variable (note : σ → Request → List ν)

/-- What is noted of a line: of its evaluation, and of what it turns out to mean then. -/
def notesOf (line : String) (s : Shared σ) : List ν :=
  note s.host (.script line) ++
    (requestsOf (d.resolve line s).answer).flatMap (note (d.resolve line s).state.host)

theorem resolve_noting (line : String) (s : Shared σ) (notes : List ν) :
    (d.noting note).resolve line (s.withNotes notes) =
      (d.resolve line s).withNotes (notes ++ note s.host (.script line)) := by
  simp only [resolve, Engine.resolve, noting, Engine.noting, Shared.withNotes_first,
    Shared.withNotes_host, Outcome.withNotes_answer, Outcome.withNotes_output]
  cases (d.engine.eval line s).answer <;> rfl

theorem runProgram_noting (run : Invocation) (s : Shared σ) (notes : List ν) :
    (d.noting note).runProgram run (s.withNotes notes) =
      (d.runProgram run s).withNotes (notes ++ note s.host (.run run)) := by
  cases h : (d.runner.run run s.host).answer with
  | error why =>
    have h' : ((d.noting note).runner.run run (s.withNotes notes).host).answer = .error why := h
    rw [runProgram_failed d h, runProgram_failed (d.noting note) h']
    rfl
  | ok status =>
    have h' : ((d.noting note).runner.run run (s.withNotes notes).host).answer = .ok status := h
    rw [runProgram_ended d h, runProgram_ended (d.noting note) h']
    rfl

theorem callCommand_noting (name : String) (args : List String) (s : Shared σ) (notes : List ν) :
    (d.noting note).callCommand name args (s.withNotes notes) =
      (d.callCommand name args s).withNotes (notes ++ note s.host (.call name args)) := by
  cases h : (d.engine.call name args s).answer with
  | error why =>
    have h' : ((d.noting note).engine.call name args (s.withNotes notes)).answer = .error why := h
    rw [callCommand_failed d h, callCommand_failed (d.noting note) h']
    rfl
  | ok u =>
    have h' : ((d.noting note).engine.call name args (s.withNotes notes)).answer = .ok () := h
    rw [callCommand_returned d h, callCommand_returned (d.noting note) h']
    rfl

theorem execute_noting (r : Resolution) (s : Shared σ) (notes : List ν) :
    (d.noting note).execute r (s.withNotes notes) =
      (d.execute r s).withNotes (notes ++ (requestsOf r).flatMap (note s.host)) := by
  cases r with
  | script => simp [execute, requestsOf, Outcome.withNotes]
  | empty => simp [execute, requestsOf, Outcome.withNotes]
  | exit => simp [execute, requestsOf, Outcome.withNotes]
  | «alias» run =>
    rw [requestsOf, List.flatMap_singleton]
    exact d.runProgram_noting note run s notes
  | external run =>
    rw [requestsOf, List.flatMap_singleton]
    exact d.runProgram_noting note run s notes
  | command name args =>
    rw [requestsOf, List.flatMap_singleton]
    exact d.callCommand_noting note name args s notes

/-- Noting changes nothing, and what is added are the notes of the line. -/
theorem dispatchLine_noting (line : String) (s : Shared σ) (notes : List ν) :
    (d.noting note).dispatchLine line (s.withNotes notes) =
      (d.dispatchLine line s).withNotes (notes ++ d.notesOf note line s) := by
  rw [dispatchLine_eq, resolve_noting, Outcome.withNotes_answer, Outcome.withNotes_state,
    execute_noting, dispatchLine_eq, notesOf, ← List.append_assoc]
  rfl

end

/-- Recording changes nothing, and what is recorded are the requests of the line. -/
theorem dispatchLine_recorded (line : String) (s : Shared σ) (trace : List Request) :
    d.recorded.dispatchLine line (s.withNotes trace) =
      (d.dispatchLine line s).withNotes (trace ++ d.requests line s) := by
  have hnotes : d.notesOf (fun _ r => [r]) line s = d.requests line s := by
    rw [notesOf, List.flatMap_singleton']
    rfl
  rw [recorded, dispatchLine_noting, hnotes]

end Dispatcher

end ScriptShell
