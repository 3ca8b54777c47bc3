import ScriptShell.Program.Wait
import ScriptShell.Sh.Run
/-!
# Launching programs

A program is found, its name and arguments are checked for NULs, and it is executed in a child that
the shell waits for. What executing it comes to is an `Execution`; one that fails is the child's own
failure: it says so and ends. The runner of a shell launches on its `Machine`.
-/

namespace ScriptShell.Program

/-- The disk and the environment that a shell shares with the programs it launches, and what it
arranged about signals. -/
structure Machine where
  disk : Disk
  environment : List (String × String) := []
  /-- whether the system forgets children that ended, so that nobody can wait for them -/
  forgetsChildren : Bool := false
  /-- the signals that interrupt a wait -/
  interrupting : List Signal := []
deriving Inhabited

namespace Machine

/-- The search path, if there is one. -/
def searchPath? (m : Machine) : Option String := m.environment.lookup "PATH"

/-- Sets a variable of the environment. -/
def setVariable (m : Machine) (name value : String) : Machine :=
  { m with
    environment :=
      if (m.environment.lookup name).isSome then
        m.environment.map fun e => if e.1 == name then (name, value) else e
      else m.environment ++ [(name, value)] }

/-- Removes a variable from the environment. -/
def unsetVariable (m : Machine) (name : String) : Machine :=
  { m with environment := m.environment.filter (·.1 != name) }

end Machine

/-- What is executed: a path, and the arguments with the program's name first. -/
structure Plan where
  path : String
  argv : List String
deriving Repr, DecidableEq

/-- Whether a text holds a NUL, which no program can be given. -/
def holdsNul (s : String) : Bool := s.toList.contains '\x00'

/-- Finds the program and checks its arguments, in this order. -/
def plan (d : Disk) (searchPath : Option String) (run : Invocation) : Except LaunchError Plan := do
  let path ← find d searchPath run.program
  if run.argv.any holdsNul then .error (.nulInArgument run.program)
  else .ok ⟨path, run.argv⟩

/-- The exit code of a child whose execution fails. -/
def executionFailed : Nat := 127

/-- What executing the file at a path comes to, with some arguments and in some process: it fails, or
the process ends as what is executed does. -/
abbrev Execution := String → List String → Process → Except Errno (Ending × Process)

/-- The execution of the programs that the shell knows. -/
def execute : Execution := fun path argv p => do
  let (u, argv) ← resolveImage p.disk interpreterDepth path argv
  pure (Tools.behaviour Sh.interpreter u argv p)

/-- The child's life. -/
def Execution.child (x : Execution) (program : String) (plan : Plan) (p : Process) :
    Ending × Process :=
  match x plan.path plan.argv p with
  | .ok lived => lived
  | .error why =>
    (.exited executionFailed,
      p.complain ("Failed to execute " ++ program ++ ": " ++ why.kernelMessage ++ "\n"))

/-- The life of a child that executes one of the known programs. -/
def child : String → Plan → Process → Ending × Process := execute.child

/-- What the system answers when a shell waits for a child that ended so and sent it signals. -/
def waitAnswers (m : Machine) (ending : Ending) (sent : List Signal) : List WaitAnswer :=
  (sent.filter m.interrupting.contains).map (fun _ => .failed .interrupted) ++
    [if m.forgetsChildren then .failed .noChild
      else
        match ending with
        | .exited code => .exited code
        | .signaled s => .signaled s.number]

/-- Launches a program and waits for it. -/
def Execution.launch (x : Execution) (run : Invocation) (m : Machine) :
    Outcome Machine (Except LaunchError ExitStatus) :=
  match plan m.disk m.searchPath? run with
  | .error why => { answer := .error why, state := m }
  | .ok plan =>
    let (ending, p) := x.child run.program plan { disk := m.disk, environment := m.environment }
    let answer := match waitForChild run.program (waitAnswers m ending p.sentToShell.reverse) with
      | some (answer, _) => answer
      | none => .error (.waitFailed run.program .noChild)
    { answer, state := { m with disk.tree := p.disk.tree }, output := p.outputs }

/-- Launches one of the known programs. -/
def launch : Invocation → Machine → Outcome Machine (Except LaunchError ExitStatus) :=
  execute.launch

/-- The runner of a shell whose host state holds a machine. -/
def systemRunner {σ : Type} (machine : σ → Machine) (withMachine : Machine → σ → σ) : Runner σ where
  run i host :=
    let o := launch i (machine host)
    { answer := o.answer, state := withMachine o.state host, output := o.output }

end ScriptShell.Program
