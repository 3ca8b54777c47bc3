import ScriptShell.Script.Evaluation
import ScriptShell.Script.Setup
/-!
# The script engine

The engine behind a shell whose scripts are code. What the language is, it is told by a `Frontend`,
which reads texts, and an `Evaluator`, which runs them. A line is script code unless it only holds
expressions that call nothing: such a line, which most commands look like, is left to the shell.
A handler is called with one list, and what it returns is of no interest. The report of an exception
starts with a line of its own if the exception passed through code of a script.
-/

namespace ScriptShell.Script

/-! ## Which lines are script code -/

/-- Whether a statement makes its line script code: it does something beyond naming a value. -/
def Stmt.acts : Stmt → Bool
  | .expr (.call ..) => true
  | .expr _ => false
  | _ => true

/-- Whether the statements of a line make it script code. A line without statements is, too. -/
def isScriptCode (body : List Stmt) : Bool := body.isEmpty || body.any Stmt.acts

/-! ## Reports -/

/-- The line that starts the report of an exception that passed through code. -/
def traceHeader : String := "Traceback (most recent call last):\n"

/-- The classes of exceptions that are reported by their names alone. -/
def namedOnly : List String := ["SyntaxError", "IndentationError", "TabError"]

/-- A text without the blanks at its end. -/
def trimEnd (s : String) : String :=
  String.ofList ((s.toList.reverse.dropWhile Text.isBlank).reverse)

/-- The report of an exception. -/
def report (traced : Bool) (type text : String) : String :=
  trimEnd ((if traced then traceHeader else "") ++
    if namedOnly.contains type then type else type ++ ": " ++ text)

/-! ## Reading texts -/

/-- Why a text is no code: the class of the exception, and its text. -/
structure Complaint where
  type : String
  text : String
deriving Repr, DecidableEq, Inhabited

/-- The report of a text that is no code. -/
def Complaint.report (traced : Bool) (c : Complaint) : String := Script.report traced c.type c.text

/-- What reads the texts of scripts. A line is judged by its statements, and then made into code from
its text anew; the code need not be those statements. -/
structure Frontend where
  /-- the statements of a line -/
  parse : String → Except Complaint (List Stmt)
  /-- the code of a line -/
  compileLine : String → Except Complaint (List Stmt)
  /-- the code of a file -/
  compileFile : String → Except Complaint (List Stmt)

/-- The complaint about a text that is not in the grammar. -/
def SourceFault.complaint (f : SourceFault) : Complaint := ⟨f.type, ""⟩

/-- The complaint about a text that is no code. -/
def CompileFault.complaint : CompileFault → Complaint
  | .nul => ⟨"ValueError", "source code string cannot contain null bytes"⟩
  | .source f => f.complaint

/-- The front end of the shell. -/
def Frontend.standard : Frontend where
  parse text := (Script.parse text).mapError SourceFault.complaint
  compileLine text := (compile text).mapError CompileFault.complaint
  compileFile text := (compile text).mapError CompileFault.complaint

namespace Exec

/-- What is reported when code did not come to its end. -/
def reportOf (ev : Evaluator) (a : Abort) : Exec String := do
  match a with
  | .exhausted => pure (report true "RecursionError" "maximum recursion depth exceeded")
  | .raised e traced => do
    let text ← tryCatch (plainText ev e) fun _ => pure "<exception str() failed>"
    pure (report traced ((← heap).classPath ((← heap).typeOf e)) text)

/-- Runs code, and tells of an exception by its report. -/
def reported {α : Type} (ev : Evaluator) (code : Exec α) : Exec (Except ScriptError α) :=
  tryCatch (.ok <$> code) fun a => do pure (.error (.runtime (← reportOf ev a)))

/-- Runs code on the state of an engine. -/
def perform (code : Exec (Except ScriptError Unit)) (s : Shared Interpreter) :
    Outcome (Shared Interpreter) (Except ScriptError Unit) :=
  let i : Interpreter :=
    { s.host with
      shell := s.shell, output := [], frames := [], depth := 0, handling := [], given := [] }
  let (answer, i) := code.run i
  { answer := match answer with
      | .ok answer => answer
      | .error _ => .error (.runtime (report true "RecursionError" "maximum recursion depth exceeded"))
    state := { host := { i with output := [] }, shell := i.shell }
    output := i.output.reverse }

/-- Puts what is built in into the namespace of the shell, if it was removed. -/
def restoreBuiltins (ev : Evaluator) : Exec Unit := do
  let i ← get
  if (← ev.lookup i.globals "__builtins__").isNone then
    if let some r := (i.heap.lookup? i.modules "builtins").bind i.heap.namespace? then
      ev.store i.globals "__builtins__" (.object r)

/-- Runs statements one after another. There is no loop and no function around them, so each goes on
with the next. -/
def runEach (ev : Evaluator) (env : Env) : List Stmt → Exec Unit
  | [] => pure ()
  | st :: rest => do
    let _ ← ev.block env [st]
    runEach ev env rest

/-- Runs code in the namespace of the shell, in which what is built in is found again if it was
removed. -/
def runMain (ev : Evaluator) (code : List Stmt) : Exec Unit := do
  let env : Env := { globals := (← get).globals }
  restoreBuiltins ev
  inFrame env (runEach ev env code)

/-- Calls the handler of a command with its arguments as one list. -/
def callHandler (ev : Evaluator) (name : String) (args : List String) :
    Exec (Except ScriptError Unit) := do
  match ← reported ev (findHandler ev name) with
  | .error why => pure (.error why)
  | .ok none => pure (.error (.missingHandler name))
  | .ok (some f) => reported ev (do
    let l ← list (args.map .text)
    let _ ← ev.call f [l] [])

end Exec

/-! ## The engine -/

/-- The code of a line that is script code. -/
def lineCode (f : Frontend) (line : String) : Except ScriptError (List Stmt) :=
  if line.toList.contains '\x00' then .error .nul
  else
    match f.parse line with
    | .error c => .error (.runtime (c.report true))
    | .ok body =>
      if !isScriptCode body then .error .notStatement
      else (f.compileLine line).mapError fun c => .runtime (c.report false)

/-- The code of a file. -/
def fileCode (f : Frontend) (d : Disk) (path : String) : Except ScriptError (List Stmt) := do
  let text ← (d.readText path).mapError (.unreadable path)
  (f.compileFile text).mapError fun c => .runtime (c.report false)

/-- The engine for a language. -/
def engineWith (f : Frontend) (ev : Evaluator) : Engine Interpreter where
  eval line s :=
    match lineCode f line with
    | .error e => { answer := .error e, state := s }
    | .ok code => Exec.perform (Exec.reported ev (Exec.runMain ev code)) s
  call name args s := Exec.perform (Exec.callHandler ev name args) s
  load path s :=
    match fileCode f s.host.machine.disk path with
    | .error e => { answer := .error e, state := s }
    | .ok code => Exec.perform (Exec.reported ev (Exec.runMain ev code)) s

/-- The engine of the shell. -/
def engine : Engine Interpreter := engineWith .standard .standard

end ScriptShell.Script
