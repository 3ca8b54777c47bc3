import ScriptShell.Script.Argument
/-!
# Methods of lists and tuples

A list changes in its place; a method that changes it gives nothing back.
-/

namespace ScriptShell.Script.Exec

/-- Values in order, by the key and the direction that are given by name. -/
def sorted (ev : Evaluator) (items : List Value) (named : List (String × Value)) :
    Exec (List Value) := do
  for (n, _) in named do
    unless n = "key" || n = "reverse" do
      typeError ("'" ++ n ++ "' is an invalid keyword argument for sort()")
  let reverse ← truth ev ((named.lookup "reverse").getD (.bool false))
  let keyed ← match named.lookup "key" with
    | none | some .none => pure (items.map fun v => (v, v))
    | some f => items.mapM fun v => do pure (← ev.call f [v] [], v)
  pure ((← sortByKeys reverse keyed).map (·.2))

/-- A method of a list. -/
def listMethod (ev : Evaluator) (r : Ref) (l : List Value) (name : String) (args : List Value)
    (named : List (String × Value)) : Exec Value := do
  let label := "list." ++ name
  let h ← heap
  let become := fun (l : List Value) => do
    setObject r (.list l)
    pure Value.none
  match name with
  | "append" => do become (l ++ [← onlyArg label args named])
  | "extend" => do
    let items ← ev.items (← onlyArg label args named)
    match (← heap).get? r with
    | some (.list l) => become (l ++ items)
    | _ => pure .none
  | "clear" => do
    expectNoArgs label args named
    become []
  | "copy" => do
    expectNoArgs label args named
    list l
  | "reverse" => do
    expectNoArgs label args named
    become l.reverse
  | "insert" => do
    expectNoNames label named
    expectCount name 2 2 args
    let i ← intArg (args.headD .none)
    let n := (if i < 0 then max 0 (i + l.length) else i).toNat
    become (l.take n ++ [(args[1]?).getD .none] ++ l.drop n)
  | "pop" => do
    expectNoNames label named
    expectCount name 0 1 args
    let i ← match args with
      | [v] => intArg v
      | _ => pure (-1)
    if l.isEmpty then raise "IndexError" "pop from empty list"
    match position? l.length i with
    | some n => do
      let _ ← become (l.eraseIdx n)
      pure ((l[n]?).getD .none)
    | none => raise "IndexError" "pop index out of range"
  | "remove" => do
    let v ← onlyArg label args named
    match l.findIdx? (h.sameKey v) with
    | some n => become (l.eraseIdx n)
    | none => raise "ValueError" "list.remove(x): x not in list"
  | "index" => do
    expectNoNames label named
    expectCount name 1 3 args
    let v := args.headD .none
    match l.findIdx? (h.sameKey v) with
    | some n => pure (.int n)
    | none => raise "ValueError" (h.shown Heap.shownDepth v ++ " is not in list")
  | "count" => do
    let v ← onlyArg label args named
    pure (.int (l.countP (h.sameKey v) : Nat))
  | "sort" => do
    unless args.isEmpty do typeError "sort() takes no positional arguments"
    become (← sorted ev l named)
  | _ => notProvided label

/-- A method of a tuple. -/
def tupleMethod (l : List Value) (name : String) (args : List Value)
    (named : List (String × Value)) : Exec Value := do
  let label := "tuple." ++ name
  let h ← heap
  match name with
  | "count" => do
    let v ← onlyArg label args named
    pure (.int (l.countP (h.sameKey v) : Nat))
  | "index" => do
    expectNoNames label named
    expectCount name 1 3 args
    match l.findIdx? (h.sameKey (args.headD .none)) with
    | some n => pure (.int n)
    | none => raise "ValueError" "tuple.index(x): x not in tuple"
  | _ => notProvided label

end ScriptShell.Script.Exec
