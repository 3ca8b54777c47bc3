import ScriptShell.Script.Argument
/-!
# Methods of sets

A set holds each value once; its methods take any values that have items.
-/

namespace ScriptShell.Script.Exec

/-- A method of a set. -/
def setMethod (ev : Evaluator) (r : Ref) (l : List Value) (name : String) (args : List Value)
    (named : List (String × Value)) : Exec Value := do
  let label := "set." ++ name
  let h ← heap
  let become := fun (l : List Value) => do
    setObject r (.set l)
    pure Value.none
  let has := fun (v : Value) => l.any (h.sameKey v)
  let combined := fun (op : BinaryOp) => do
    let others ← args.mapM ev.items
    setOf (others.foldl (fun l m => (setOperation? h op l m).getD l) l)
  match name with
  | "add" => do
    let v ← onlyArg label args named
    expectKey v
    if has v then pure .none else become (l ++ [v])
  | "discard" | "remove" => do
    let v ← onlyArg label args named
    if name = "remove" && !has v then raiseWith "KeyError" [v]
    become (l.filter fun x => !h.sameKey v x)
  | "clear" => do
    expectNoArgs label args named
    become []
  | "copy" => alloc (.set l)
  | "pop" => do
    expectNoArgs label args named
    match l with
    | v :: rest => do
      let _ ← become rest
      pure v
    | [] => raiseWith "KeyError" [.text "pop from an empty set"]
  | "update" => do
    let others ← args.mapM ev.items
    for v in others.flatten do expectKey v
    become (others.flatten.foldl (fun l v => if l.any (h.sameKey v) then l else l ++ [v]) l)
  | "union" => combined .bitOr
  | "intersection" => combined .bitAnd
  | "difference" => combined .sub
  | "symmetric_difference" => combined .bitXor
  | "issubset" => do
    let m ← ev.items (← onlyArg label args named)
    pure (.bool (l.all fun x => m.any (h.sameKey x)))
  | "issuperset" => do
    let m ← ev.items (← onlyArg label args named)
    pure (.bool (m.all has))
  | "isdisjoint" => do
    let m ← ev.items (← onlyArg label args named)
    pure (.bool (!m.any has))
  | _ => notProvided label

end ScriptShell.Script.Exec
