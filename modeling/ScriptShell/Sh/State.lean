import ScriptShell.Program.Process
import ScriptShell.Sh.Command
/-!
# The state of a command interpreter

What an interpreter keeps while it runs a program text: the process it is, its variables and
arguments, the status of the last command, and the jobs it started. Commands that leave more than
themselves, such as `exit` and `break`, stop the run with a reason.
-/

namespace ScriptShell.Sh

open Program

/-- Why a run does not go on to the next command. -/
inductive Stop
  | exited (code : Nat)
  | signaled (s : Signal)
  /-- out of so many loops -/
  | leaveLoop (levels : Nat)
  /-- on to the next round of a loop, so many loops up -/
  | nextRound (levels : Nat)
  /-- the run took too long -/
  | exhausted
deriving Repr, DecidableEq, Inhabited

/-- How the process of the interpreter ends that is stopped so. -/
def Stop.ending (status : Nat) : Stop → Ending
  | .exited code => .exited (code % 256)
  | .signaled s => .signaled s
  | _ => .exited status

structure State where
  process : Process
  /-- what it is called by -/
  name : String
  args : List String := []
  values : List (String × String) := []
  status : Nat := 0
  /-- the jobs started, newest first, each with its status -/
  jobs : List (Nat × Nat) := []
  /-- whether a command that fails ends the run -/
  exitOnFailure : Bool := false
  /-- what is to be run on a signal or at the end -/
  traps : List (String × String) := []
deriving Inhabited

namespace State

/-- The value of a variable. -/
def value? (s : State) (name : String) : Option String := s.values.lookup name

/-- The status of a job as text. -/
def job? (s : State) (number : Nat) : Option Nat := s.jobs.lookup number

/-- Gives a variable a value; one that the environment has changes there too. -/
def assign (s : State) (name value : String) : State :=
  let environment := s.process.environment
  { s with
    values := (name, value) :: s.values.filter (·.1 != name)
    process.environment :=
      if (environment.lookup name).isSome then
        environment.map (fun e => if e.1 == name then (name, value) else e)
      else environment }

/-- Puts a variable into the environment of the programs run from here. -/
def share (s : State) (name : String) : State :=
  match s.value? name with
  | none => s
  | some value =>
    { s with process.environment :=
        s.process.environment.filter (·.1 != name) ++ [(name, value)] }

def unassign (s : State) (name : String) : State :=
  { s with
    values := s.values.filter (·.1 != name)
    process.environment := s.process.environment.filter (·.1 != name) }

/-- The value of a parameter, a list of one text unless it stands for the arguments. -/
def parameter? (s : State) (name : String) : Option (List String) :=
  match name with
  | "@" | "*" => some s.args
  | "#" => some [toString s.args.length]
  | "?" => some [toString s.status]
  | "$" => some [toString s.process.id]
  | "!" => (s.jobs.head?).map fun j => [toString j.1]
  | "-" => some [if s.exitOnFailure then "e" else ""]
  | "PPID" => some [toString s.process.parent]
  | "0" => some [s.name]
  | _ =>
    match name.toNat? with
    | some n => (s.args[n - 1]?).map ([·])
    | none => (s.value? name).map ([·])

end State

/-- A step of a run, which may stop it. -/
abbrev Run := ExceptT Stop (StateM State)

end ScriptShell.Sh
