import ScriptShell.Resolution
/-!
# Dispatching one line

A line is resolved and then acted on: at most one program is run or one command called. A program
that fails is noted in the log; only a program that could not be run, or a command whose handler
failed, makes the line fail.
-/

namespace ScriptShell

/-- Whether the shell goes on after a line. -/
inductive Flow
  | continue | exit
deriving Repr, DecidableEq, Inhabited

/-- Why a line failed. -/
inductive DispatchError
  | command (name : String) (why : ScriptError)
  | launch (why : LaunchError)
deriving Repr, DecidableEq, Inhabited

def DispatchError.message : DispatchError → String
  | .command name why => name ++ ": " ++ why.message
  | .launch why => why.message

/-- Where the reports of failed lines go. -/
inductive ErrorStream
  | plain
  /-- a terminal, on which reports are coloured -/
  | terminal
  /-- a stream that takes nothing -/
  | full
deriving Repr, DecidableEq, Inhabited

/-- The fixed parts of a shell. -/
structure Dispatcher (σ : Type) where
  engine : Engine σ
  runner : Runner σ
  home : String
  errors : ErrorStream := .plain

namespace Dispatcher

variable {σ : Type} (d : Dispatcher σ)

/-- Settles what a line means. -/
def resolve (line : String) (s : Shared σ) : Outcome (Shared σ) Resolution :=
  d.engine.resolve d.home line s

/-- Runs a program to its end. -/
def runProgram (run : Invocation) (s : Shared σ) :
    Outcome (Shared σ) (Except DispatchError Flow) :=
  let o := d.runner.run run s.host
  let s := { s with host := o.state }
  match o.answer with
  | .error why => { answer := .error (.launch why), state := s, output := o.output }
  | .ok status =>
    if status.isSuccess then { answer := .ok .continue, state := s, output := o.output }
    else
      { answer := .ok .continue
        state := s
        output := o.output ++ [.event (.programFailed run.program status.code.toNat)] }

/-- Calls the handler of a command. -/
def callCommand (name : String) (args : List String) (s : Shared σ) :
    Outcome (Shared σ) (Except DispatchError Flow) :=
  let o := d.engine.call name args s
  match o.answer with
  | .error why => { answer := .error (.command name why), state := o.state, output := o.output }
  | .ok () => { answer := .ok .continue, state := o.state, output := o.output }

/-- Does what a line means. -/
def execute (r : Resolution) (s : Shared σ) : Outcome (Shared σ) (Except DispatchError Flow) :=
  match r with
  | .script | .empty => { answer := .ok .continue, state := s }
  | .alias run | .external run => d.runProgram run s
  | .command name args => d.callCommand name args s
  | .exit => { answer := .ok .exit, state := s }

/-- Resolves a line and does what it means. -/
def dispatchLine (line : String) (s : Shared σ) :
    Outcome (Shared σ) (Except DispatchError Flow) :=
  let r := d.resolve line s
  let o := d.execute r.answer r.state
  { o with output := r.output ++ .event .resolvedLine :: o.output }

end Dispatcher

end ScriptShell
