import ScriptShell.Program.Launch
import ScriptShell.Script.Value
/-!
# Running script code

The state that running code acts on: the heap, the shell's state, the machine, and what was put out.
Code that does not come to its end raised an exception; whether it passed through code of the script
on its way out is kept with it, since a report shows that.
-/

namespace ScriptShell.Script

/-- The state of the interpreter. -/
structure Interpreter where
  heap : Heap := {}
  shell : ShellState := {}
  machine : Program.Machine := { disk := {} }
  /-- the dictionary of the names that are built in -/
  builtins : Ref := 0
  /-- the dictionary of the modules that are loaded -/
  modules : Ref := 0
  /-- the dictionary of the module `sys`, which holds the directories searched for modules -/
  system : Ref := 0
  /-- the directories that were searched for modules, with where they were found to be; a relative
  one stays where it was first found -/
  searched : List (String × Option String) := []
  /-- the dictionary of the environment -/
  environment : Ref := 0
  /-- the dictionary of the shell's own script namespace -/
  globals : Ref := 0
  /-- what was put out, newest first -/
  output : List Output := []
  /-- where the functions running look names up, innermost first -/
  frames : List Env := []
  /-- how many functions are running -/
  depth : Nat := 0
  /-- the exceptions being handled, innermost first -/
  handling : List Value := []
  /-- what the generators being run have given so far, innermost first, each newest first -/
  given : List (List Value) := []
deriving Inhabited

/-- Why code did not come to its end. -/
inductive Abort
  /-- an exception; `traced` if it passed through code of the script -/
  | raised (exception : Value) (traced : Bool)
  /-- the run took too long -/
  | exhausted
deriving Repr, DecidableEq, Inhabited

/-- A step of running code. -/
abbrev Exec := ExceptT Abort (StateM Interpreter)

namespace Exec

def heap : Exec Heap := do pure (← get).heap

def setHeap (h : Heap) : Exec Unit := modify fun i => { i with heap := h }

/-- Puts a new object into the heap. -/
def alloc (o : Object) : Exec Value := do
  let (r, h) := (← heap).alloc o
  setHeap h
  pure (.object r)

/-- The object that a value is. -/
def object? (v : Value) : Exec (Option Object) := do pure ((← heap).object? v)

def setObject (r : Ref) (o : Object) : Exec Unit := modify fun i => { i with heap := i.heap.set r o }

/-- Puts something out. -/
def put (o : Output) : Exec Unit := modify fun i => { i with output := o :: i.output }

/-- Raises an exception of a built-in class with one argument. -/
def raiseWith {α : Type} (type : String) (args : List Value) : Exec α := do
  let contents ← alloc (.dict [])
  let r := match contents with
    | .object r => r
    | _ => 0
  let e ← alloc (.exception (.type type) args r)
  throw (.raised e false)

/-- Raises an exception with a text. -/
def raise {α : Type} (type : String) (text : String) : Exec α := raiseWith type [.text text]

def typeError {α : Type} (text : String) : Exec α := raise "TypeError" text

/-- Runs code of the script: an exception that leaves it has passed through it. -/
def traced {α : Type} (code : Exec α) : Exec α :=
  tryCatch code fun
    | .raised e _ => throw (.raised e true)
    | other => throw other

/-- What comes of code: its value, or the exception that it raised and whether that was traced. -/
def caught {α : Type} (code : Exec α) : Exec (Except (Value × Bool) α) :=
  tryCatch (do pure (Except.ok (← code))) fun
    | .raised e t => pure (Except.error (e, t))
    | other => throw other

/-- A new list. -/
def list (items : List Value) : Exec Value := alloc (.list items)

/-- A new tuple. -/
def tuple (items : List Value) : Exec Value := alloc (.tuple items)

/-- A new dictionary. -/
def dict (entries : List (Value × Value)) : Exec Value := alloc (.dict entries)

end Exec

end ScriptShell.Script
