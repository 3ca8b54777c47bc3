import ScriptShell.Script.Check
import ScriptShell.Script.Evaluator
import ScriptShell.Script.Parser
/-!
# Source text

A text becomes code if it is in the grammar and keeps the rules beyond it. What is wrong with a text
that does not is told by the class of the exception.
-/

namespace ScriptShell.Script

/-- The class of the exception for a fault. -/
def SourceFault.type : SourceFault → String
  | .invalid => "SyntaxError"
  | .indentation => "IndentationError"
  | .tabs => "TabError"

/-- What keeps a text from becoming code. -/
inductive CompileFault
  | source (f : SourceFault)
  | nul
deriving Repr, DecidableEq, Inhabited

/-- The code that a text is. -/
def compile (text : String) : Except CompileFault (List Stmt) :=
  if text.toList.contains '\x00' then .error .nul
  else
    match parse text with
    | .error f => .error (.source f)
    | .ok body => if compiles body then .ok body else .error (.source .invalid)

/-- The code of a single expression. -/
def compileExpression (text : String) : Except CompileFault Expr :=
  if text.toList.contains '\x00' then .error .nul
  else
    match parseExpression (String.ofList (text.toList.dropWhile fun c => c = ' ' || c = '\t')) with
    | .error f => .error (.source f)
    | .ok e => if compiles [.expr e] then .ok e else .error (.source .invalid)

namespace Exec

/-- Raises the exception for a text that is no code. -/
def raiseCompile {α : Type} (f : CompileFault) : Exec α :=
  match f with
  | .nul => raise "ValueError" "source code string cannot contain null bytes"
  | .source f => raise f.type "invalid syntax"

/-- Runs code in a frame of its own. -/
def inFrame {α : Type} (env : Env) (code : Exec α) : Exec α := do
  modify fun i => { i with frames := env :: i.frames, depth := i.depth + 1 }
  let leave : Exec Unit :=
    modify fun i => { i with frames := i.frames.tail, depth := i.depth - 1 }
  let a ← tryCatch (traced code) fun e => do
    leave
    throw e
  leave
  pure a

/-- Runs a text as code. -/
def runText (ev : Evaluator) (env : Env) (text : String) : Exec Unit := do
  match compile text with
  | .error f => raiseCompile f
  | .ok body => do
    let _ ← inFrame env (ev.block env body)

/-- The value of a text that is an expression. -/
def evalText (ev : Evaluator) (env : Env) (text : String) : Exec Value := do
  match compileExpression text with
  | .error f => raiseCompile f
  | .ok e => inFrame env (ev.eval env e)

end Exec

end ScriptShell.Script
