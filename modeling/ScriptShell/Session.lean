import ScriptShell.Startup
import ScriptShell.Terminal.Reading
/-!
# A shell from start to end

A shell that is ready reads and dispatches lines up to the end of the input, and then saves the
history. One that is killed saves nothing; one that cannot read tells why.
-/

namespace ScriptShell

/-- How a shell lived. -/
structure Life where
  ending : Ending
  disk : Disk
  output : List Output
  /-- the prompts of the reads it made -/
  prompts : List String := []
  /-- what was drawn at the terminal, the prompts apart -/
  drawn : List String := []
  /-- how many of the things that happen it did not live to see -/
  unread : Nat

namespace Life

/-- The runner of a shell whose scripts share its environment. -/
def runner : Runner Script.Interpreter :=
  Program.systemRunner Script.Interpreter.currentMachine fun m i => { i with machine := m }

/-- What a read that is not possible without a terminal says. -/
def noTerminal : String := (Errno.mk 6).osMessage

/-- The reads of a shell without a terminal. -/
def withoutTerminal : List Terminal.Reading × Terminal.Closing :=
  ([{ read := .failed noTerminal, drawn := [], history := {}, left := 0 }], .silence)

/-- Saves a history where it is kept. -/
def saved (r : ReadyShell) (h : History) (d : Disk) : Disk :=
  match r.historyFile with
  | none => d
  | some path => (h.sync path d).2

/-- The life of a shell that is ready, from its reads. -/
def ofReads (errors : ErrorStream) (r : ReadyShell) (s : Shared Script.Interpreter)
    (reads : List Terminal.Reading) (closing : Terminal.Closing) : Life :=
  let d : Dispatcher Script.Interpreter :=
    { engine := Script.engine, runner, home := r.home, errors }
  let loop := d.run (reads.map Terminal.Reading.delivery) s
  let made := reads.take (reads.length - loop.unread.length)
  let drawn := made.flatMap Terminal.Reading.drawn
  let disk := loop.state.host.machine.disk
  let base : Life :=
    { ending := .exited 0, disk, output := loop.output, prompts := loop.prompts, drawn, unread := 0 }
  match closing, decide (made.length < loop.prompts.length) with
  | .killed signal last left, true =>
    { base with ending := .signaled signal, drawn := drawn ++ last, unread := left }
  | _, _ =>
    let history := (made.getLast?.map Terminal.Reading.history).getD r.history
    let unread := (made.getLast?.map Terminal.Reading.left).getD 0
    let life : Life := { base with disk := saved r history disk, unread }
    match loop.answer with
    | .ok () => { life with output := loop.output ++ [.shell .out "\n"] }
    | .error why =>
      { life with
        ending := .exited 1
        output := loop.output ++ [.shell .err (Failure.report "line editor failed" [why])] }

/-- The life of a shell. `reads` are its reads, given the history it starts with; `total` is how
many things happen. -/
def ofSetting (s : Setting) (errors : ErrorStream) (total : Nat)
    (reads : History → List Terminal.Reading × Terminal.Closing) : Life :=
  let started := startShell s
  match started.answer with
  | .ended code =>
    { ending := .exited code, disk := started.state.host.machine.disk, output := started.output
      unread := total }
  | .ready r =>
    let (l, closing) := reads r.history
    let life := ofReads errors r started.state l closing
    { life with output := started.output ++ life.output }

/-- The life of a shell without a terminal. -/
def detached (s : Setting) : Life := ofSetting s .plain 0 fun _ => withoutTerminal

/-- The life of a shell at a terminal. -/
def atTerminal (s : Setting) (acts : List Terminal.Act) : Life :=
  ofSetting s .terminal acts.length fun history =>
    Terminal.readings trappedSignals ({ history }, []) acts

end Life

end ScriptShell
