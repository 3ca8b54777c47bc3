import ScriptShell.Script.Call
import ScriptShell.Script.Key
import ScriptShell.Script.Statement
/-!
# The evaluator

Expressions, statements and calls contain each other. The evaluator of a level leaves the parts to
the level below; at the bottom everything takes too long, so an evaluator of enough levels runs any
code that ends within them.
-/

namespace ScriptShell.Script.Evaluator

/-- The evaluator that leaves the parts to another. -/
def above (ev : Evaluator) : Evaluator where
  eval env e := Exec.expressionValue ev env e
  block env l := Exec.runAll (Exec.runStatement ev env) l
  call f args named := Exec.callValue ev f args named
  items v := Exec.itemsOf ev v
  importModule name := Exec.importParts ev none name
  lookup r name := Exec.lookupText ev r name
  store r name v := Exec.storeText ev r name v
  isCallable h v := h.isCallable v

/-- The evaluator of so many levels. -/
def ofDepth : Nat → Evaluator
  | 0 => exhausted
  | n + 1 => (ofDepth n).above

/-- How many levels deep script code is evaluated. -/
def standardDepth : Nat := 30000

/-- The evaluator of the shell. -/
def standard : Evaluator := ofDepth standardDepth

end ScriptShell.Script.Evaluator
