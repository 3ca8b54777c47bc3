import ScriptShell.Script.Binding
import ScriptShell.Script.Builtin
import ScriptShell.Script.Host
/-!
# Calls

What calling a value does: `callValue`. A function runs in a frame of its own, with its arguments
bound to its parameters; a class makes an instance. Functions call each other to a depth only.
-/

namespace ScriptShell.Script.Exec

/-- How many functions may be running at once. -/
def callLimit : Nat := 1000

/-- Calls a function of script code. -/
def callFunction (ev : Evaluator) (f : Function) (args : List Value)
    (named : List (String × Value)) : Exec Value := do
  let bound ← bindArguments f args named
  if callLimit ≤ (← get).depth then
    raise "RecursionError" "maximum recursion depth exceeded"
  let (r, h) := (← heap).alloc (.scope f.locals bound f.scope f.globalNames)
  setHeap h
  let env : Env := { globals := f.globals, scope := some r, path := f.path ++ ".<locals>." }
  match f.body with
  | .expr e =>
    if f.isGenerator then alloc (.generator (.body env [.expr e]))
    else inFrame env (ev.eval env e)
  | .block l =>
    if f.isGenerator then alloc (.generator (.body env l))
    else do
      match ← inFrame env (ev.block env l) with
      | .return v => pure v
      | _ => pure .none

/-- Calls the initial method that a class has for its instances, if it has one; says whether. -/
def initialise (ev : Evaluator) (type instance_ : Value) (args : List Value)
    (named : List (String × Value)) : Exec Bool := do
  match (← heap).classAttribute? Heap.classDepth type "__init__" with
  | some f => do
    match ← ev.call f (instance_ :: args) named with
    | .none => pure true
    | v => typeError ("__init__() should return None, not '" ++ (← heap).typeName v ++ "'")
  | none => pure false

/-- Makes an instance of a class. -/
def instantiate (ev : Evaluator) (type : Value) (name : String) (args : List Value)
    (named : List (String × Value)) : Exec Value := do
  let h ← heap
  let base := h.builtinBase Heap.classDepth type
  if Catalogue.isException base then
    let (r, h) := h.alloc (.dict [])
    setHeap h
    let v ← alloc (.exception type args r)
    let initialised ← initialise ev type v args named
    unless initialised || named.isEmpty do typeError (name ++ "() takes no keyword arguments")
    pure v
  else if base = "object" then
    let (r, h) := h.alloc (.dict [])
    setHeap h
    let v ← alloc (.instance type r)
    let initialised ← initialise ev type v args named
    unless initialised || (args.isEmpty && named.isEmpty) do
      typeError (name ++ "() takes no arguments")
    pure v
  else construct ev base args named

/-- Calls a value. -/
def callValue (ev : Evaluator) (f : Value) (args : List Value) (named : List (String × Value)) :
    Exec Value := do
  let h ← heap
  let refuse : Exec Value := typeError ("'" ++ h.typeName f ++ "' object is not callable")
  match f with
  | .type name => construct ev name args named
  | .builtin name => callBuiltin ev name args named
  | .host f => callHost ev f args named
  | f =>
    match h.object? f with
    | some (.function f) => callFunction ev f args named
    | some (.method self name) => method ev self name args named
    | some (.boundFunction self f) => ev.call f (self :: args) named
    | some (.class name _ _) => instantiate ev f name args named
    | some (.wrapped kind g) => if kind = "staticmethod" then ev.call g args named else refuse
    | some (.instance t _) | some (.exception t _ _) =>
      match h.classAttribute? Heap.classDepth t "__call__" with
      | some g => ev.call g (f :: args) named
      | none => refuse
    | _ => refuse

end ScriptShell.Script.Exec
