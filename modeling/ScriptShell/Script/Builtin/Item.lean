import ScriptShell.Script.Method
/-!
# Functions of values with items

How many items a value has, what they come to, and one item after another.
-/

namespace ScriptShell.Script.Exec

/-- How many items a value has. -/
def lengthOf (ev : Evaluator) (v : Value) : Exec Value := do
  let h ← heap
  let refuse : Exec Value := typeError ("object of type '" ++ h.typeName v ++ "' has no len()")
  match v, h.object? v with
  | .text s, _ => pure (.int s.length)
  | .bytes b, _ => pure (.int b.length)
  | _, some (.tuple l) | _, some (.list l) | _, some (.set l) => pure (.int l.length)
  | _, some (.dict l) => pure (.int l.length)
  | _, some (.view _ d) => pure (.int ((h.entries? d).getD []).length)
  | _, some (.range a b c) => do pure (.int (← rangeItems a b c).length)
  | v, _ =>
    match h.special? v "__len__" with
    | some f => ev.call f [v] []
    | none => refuse

/-- The least or greatest of values. -/
def extreme (ev : Evaluator) (name : String) (args : List Value)
    (named : List (String × Value)) : Exec Value := do
  let items ← match args with
    | [] => typeError (name ++ " expected at least 1 argument, got 0")
    | [v] => ev.items v
    | l => pure l
  let keyed ← match named.lookup "key" with
    | none | some .none => pure (items.map fun v => (v, v))
    | some f => items.mapM fun v => do pure (← ev.call f [v] [], v)
  match keyed, named.lookup "default" with
  | [], some v => pure v
  | [], none => raise "ValueError" (name ++ "() arg is an empty sequence")
  | first :: rest, _ => do
    let best ← rest.foldlM (fun best x => do
      let better ← inOrder (if name = "min" then .lt else .gt) x.1 best.1
      pure (if better then x else best)) first
    pure best.2

/-- The name of the class of an iteration over a value. -/
def iteratorKind (h : Heap) (v : Value) : String :=
  match v, h.object? v with
  | .text s, _ => if s.toList.all (·.toNat < 128) then "str_ascii_iterator" else "str_iterator"
  | _, some (.view kind _) =>
    if kind = "keys" then "dict_keyiterator"
    else if kind = "values" then "dict_valueiterator" else "dict_itemiterator"
  | _, some (.dict _) => "dict_keyiterator"
  | v, _ => h.typeName v ++ "_iterator"

/-- An iteration over a value; one that is an iteration already stays itself. -/
def iterationOf (ev : Evaluator) (v : Value) : Exec Value := do
  let h ← heap
  match h.object? v with
  | some (.iterator ..) | some (.generator _) => pure v
  | _ => do alloc (.iterator (iteratorKind h v) (← ev.items v))

/-- The next item of an iteration; without one, what is given in its place. -/
def nextOf (ev : Evaluator) (v : Value) (instead : Option Value) : Exec Value := do
  let take := fun (r : Ref) (kind : String) (l : List Value) => do
    match l, instead with
    | x :: rest, _ => do
      setObject r (.iterator kind rest)
      pure x
    | [], some d => pure d
    | [], none => raiseWith "StopIteration" []
  match v, ← object? v with
  | .object r, some (.iterator kind l) => take r kind l
  | .object r, some (.generator p) => do take r p.kind (← ev.items v)
  | v, _ => do
    let h ← heap
    match h.special? v "__next__" with
    | some f => ev.call f [v] []
    | none => typeError ("'" ++ h.typeName v ++ "' object is not an iterator")

/-- The sum of items, from a start on. -/
def sumOf (ev : Evaluator) (args : List Value) : Exec Value := do
  expectCount "sum" 1 2 args
  let items ← ev.items (args.headD .none)
  match args[1]? with
  | some (Value.text _) => typeError "sum() can't sum strings [use ''.join(seq) instead]"
  | start => items.foldlM (operate .add false) (start.getD (.int 0))

/-- A function of a value with items. -/
def itemFunction? (ev : Evaluator) (name : String) (args : List Value)
    (named : List (String × Value)) : Option (Exec Value) :=
  let one := onlyArg name args named
  match name with
  | "len" => some (do lengthOf ev (← one))
  | "sorted" => some (do
    expectCount name 1 1 args
    list (← sorted ev (← ev.items (args.headD .none)) named))
  | "any" => some (do .bool <$> (← ev.items (← one)).anyM (truth ev))
  | "all" => some (do .bool <$> (← ev.items (← one)).allM (truth ev))
  | "sum" => some (sumOf ev args)
  | "min" | "max" => some (extreme ev name args named)
  | "iter" => some (iterationOf ev (args.headD .none))
  | "next" => some (nextOf ev (args.headD .none) args[1]?)
  | _ => none

end ScriptShell.Script.Exec
