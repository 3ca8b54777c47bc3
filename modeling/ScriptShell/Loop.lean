import ScriptShell.Dispatch
/-!
# Reading and dispatching lines

Lines are read and dispatched one after another, each read with the prompt of that moment, until
the input ends, reading fails, or a line asks to exit. A line that fails is reported on the error
stream, and the loop goes on; if even the report cannot be written, that is noted in the log.
-/

namespace ScriptShell

/-- The name the shell reports errors under. -/
def shellName : String := "gil"

/-- The report of a failed line. -/
def DispatchError.report (e : DispatchError) : String := shellName ++ ": " ++ e.message

theorem DispatchError.report_eq (e : DispatchError) : e.report = "gil: " ++ e.message := by
  have hname : shellName ++ ": " = "gil: " := rfl
  rw [report, hname]

namespace ErrorStream

/-- The codes that switch a terminal to the colour of errors and back. -/
def colourOn : String := "\x1b[38;5;9m"

def colourOff : String := "\x1b[39m"

/-- What comes of writing a report to the stream. -/
def write (stream : ErrorStream) (e : DispatchError) : Output :=
  match stream with
  | .plain => .shell .err (e.report ++ "\n")
  | .terminal => .shell .err (colourOn ++ e.report ++ colourOff ++ "\n")
  | .full => .event (.reportLost e.message .noSpace)

theorem write_plain (e : DispatchError) :
    plain.write e = .shell .err ("gil: " ++ e.message ++ "\n") := by
  rw [write, e.report_eq]

theorem write_terminal (e : DispatchError) :
    terminal.write e =
      .shell .err ("\x1b[38;5;9m" ++ ("gil: " ++ e.message) ++ "\x1b[39m" ++ "\n") := by
  rw [write, e.report_eq]
  rfl

theorem write_full (e : DispatchError) :
    full.write e = .event (.reportLost e.message .noSpace) := by
  rw [write]

end ErrorStream

/-- What one read of a line came to. -/
inductive Read
  | line (text : String)
  /-- the user gave up the line -/
  | interrupted
  | endOfInput
  | failed (why : String)
deriving Repr, DecidableEq, Inhabited

/-- A read, with what the reader itself put out on it. -/
structure Delivery where
  read : Read
  output : List Output := []
deriving Inhabited

/-- What a loop came to: the reads left over, and the prompts of the reads made. -/
structure LoopResult (σ : Type) where
  answer : Except String Unit
  state : Shared σ
  output : List Output
  prompts : List String
  unread : List Delivery

namespace LoopResult

variable {σ : Type}

/-- The result with a read before it, made with `prompt`, that put out `output`. -/
def after (prompt : String) (output : List Output) (r : LoopResult σ) : LoopResult σ :=
  { r with output := output ++ r.output, prompts := prompt :: r.prompts }

end LoopResult

/-- Reads and dispatches lines. When the deliveries run out, the input has ended. -/
def Dispatcher.run {σ : Type} (d : Dispatcher σ) : List Delivery → Shared σ → LoopResult σ
  | [], s =>
    { answer := .ok (), state := s, output := [.event .endOfInput]
      prompts := [s.shell.prompt], unread := [] }
  | item :: rest, s =>
    match item.read with
    | .interrupted => (d.run rest s).after s.shell.prompt item.output
    | .endOfInput =>
      { answer := .ok (), state := s, output := item.output ++ [.event .endOfInput]
        prompts := [s.shell.prompt], unread := rest }
    | .failed why =>
      { answer := .error why, state := s, output := item.output
        prompts := [s.shell.prompt], unread := rest }
    | .line text =>
      let o := d.dispatchLine text s
      match o.answer with
      | .ok .exit =>
        { answer := .ok (), state := o.state, output := item.output ++ o.output
          prompts := [s.shell.prompt], unread := rest }
      | .ok .continue => (d.run rest o.state).after s.shell.prompt (item.output ++ o.output)
      | .error e =>
        (d.run rest o.state).after s.shell.prompt (item.output ++ o.output ++ [d.errors.write e])

end ScriptShell
