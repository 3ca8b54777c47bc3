import ScriptShell.Script.Argument
import ScriptShell.Script.Source
/-!
# Functions of running code

The names that running code sees, and texts that are run as code.
-/

namespace ScriptShell.Script.Exec

/-- Where the code that runs looks names up. -/
def currentEnv : Exec Env := do
  let i ← get
  pure (i.frames.headD { globals := i.globals })

/-- The names that a frame has of its own, as a dictionary. -/
def localDict (env : Env) : Exec Ref := do
  match env.locals, env.scope with
  | some r, _ => pure r
  | none, none => pure env.globals
  | none, some s => do
    let h ← heap
    let names := match h.get? s with
      | some (.scope locals names _ _) =>
        locals.filterMap fun n => (names.lookup n).map ((n, ·))
      | _ => []
    let (r, h) := h.alloc (.dict (names.map fun (n, v) => (.text n, v)))
    setHeap h
    pure r

/-- Where a text that is run looks names up: in dictionaries given for it, or where the code does
that runs it. -/
def textEnv (function : String) (args : List Value) : Exec Env := do
  let i ← get
  let frame ← currentEnv
  match args[1]? with
  | none | some Value.none => do
    if frame.locals.isNone && frame.scope.isNone then pure { globals := frame.globals }
    else pure { globals := frame.globals, locals := some (← localDict frame) }
  | some g =>
    match i.heap.dict? g with
    | none =>
      typeError (function ++ "() globals must be a dict, not " ++ i.heap.typeName g)
    | some r => do
      if (i.heap.lookup? r "__builtins__").isNone then
        setHeap (i.heap.put r "__builtins__" (.object i.builtins))
      match (args[2]?).bind i.heap.dict? with
      | some l => pure { globals := r, locals := some l }
      | none => pure { globals := r }

/-- The text that is to be run. -/
def sourceArg (function : String) (v : Value) : Exec String := do
  match v with
  | .text s => pure s
  | .bytes b => pure ((String.fromUTF8? ⟨b.toArray⟩).getD "")
  | _ => typeError (function ++ "() arg 1 must be a string, bytes or code object")

/-- Keys in their order. -/
def sortedKeys (keys : List Value) : Exec Value := do
  list ((← sortByKeys false (keys.map fun k => (k, k))).map (·.2))

/-- The names that running code has, or the attributes of a value. -/
def namesOf (args : List Value) : Exec Value := do
  match args with
  | [] => do
    let r ← localDict (← currentEnv)
    sortedKeys ((((← heap).entries? r).getD []).map (·.1))
  | v :: _ => do
    let h ← heap
    sortedKeys (match attributeDict? h v with
      | some r => ((h.entries? r).getD []).map (·.1)
      | none => ((Catalogue.attributes.lookup (h.typeName v)).getD []).map .text)

/-- The dictionary of the names of running code, or of a value. -/
def variablesOf (args : List Value) : Exec Value := do
  match args with
  | [] => do .object <$> localDict (← currentEnv)
  | v :: _ =>
    match attributeDict? (← heap) v with
    | some r => pure (.object r)
    | none => typeError "vars() argument must have __dict__ attribute"

/-- A module by its full name: the first of the modules it stands in. -/
def importTop (ev : Evaluator) (v : Value) : Exec Value := do
  let n ← textArg (fun t => "__import__() argument 1 must be str, not " ++ t) v
  let parts := (n.toList.splitOn '.').map String.ofList
  let _ ← ev.importModule parts
  ev.importModule (parts.take 1)

/-- A function of running code. -/
def codeFunction? (ev : Evaluator) (name : String) (args : List Value)
    (named : List (String × Value)) : Option (Exec Value) :=
  match name with
  | "globals" => some (do
    expectNoArgs name args named
    pure (.object (← currentEnv).globals))
  | "locals" => some (do
    expectNoArgs name args named
    .object <$> localDict (← currentEnv))
  | "vars" => some (variablesOf args)
  | "dir" => some (namesOf args)
  | "exec" => some (do
    expectNoNames name named
    expectArity name "positional argument" 1 3 args
    let text ← sourceArg name (args.headD .none)
    runText ev (← textEnv name args) text
    pure .none)
  | "eval" => some (do
    expectNoNames name named
    expectCount name 1 3 args
    let text ← sourceArg name (args.headD .none)
    evalText ev (← textEnv name args) text)
  | "__import__" => some (importTop ev (args.headD .none))
  | _ => none

end ScriptShell.Script.Exec
