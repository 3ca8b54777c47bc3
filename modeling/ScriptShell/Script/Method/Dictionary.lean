import ScriptShell.Script.Argument
/-!
# Methods of dictionaries

A dictionary keeps its entries in the order in which their keys came.
-/

namespace ScriptShell.Script.Exec

/-- The entries that a value gives to a dictionary: those of a dictionary, or pairs. -/
def entriesOf (ev : Evaluator) (v : Value) : Exec (List (Value × Value)) := do
  match ← object? v with
  | some (.dict entries) => pure entries
  | _ => do
    let items ← ev.items v
    items.zipIdx.mapM fun (item, i) => do
      match ← readyItems? item with
      | some [k, v] => pure (k, v)
      | some l =>
        raise "ValueError" ("dictionary update sequence element #" ++ toString i ++
          " has length " ++ toString l.length ++ "; 2 is required")
      | none =>
        typeError ("cannot convert dictionary update sequence element #" ++ toString i ++
          " to a sequence")

/-- Entries put into a dictionary one after another. -/
def putAll (entries new : List (Value × Value)) : Exec (List (Value × Value)) := do
  for (k, _) in new do expectKey k
  let h ← heap
  pure (new.foldl (fun l (k, v) => Heap.putEntry h.sameKey l k v) entries)

/-- A method of a dictionary. -/
def dictMethod (ev : Evaluator) (r : Ref) (entries : List (Value × Value)) (name : String)
    (args : List Value) (named : List (String × Value)) : Exec Value := do
  let label := "dict." ++ name
  let h ← heap
  let become := fun (l : List (Value × Value)) => do
    setObject r (.dict l)
    pure Value.none
  let find := fun (k : Value) => (entries.find? fun e => h.sameKey e.1 k).map (·.2)
  let without := fun (k : Value) => entries.filter fun e => !h.sameKey e.1 k
  match name with
  | "keys" | "values" | "items" => do
    expectNoArgs label args named
    alloc (.view name r)
  | "get" => do
    expectNoNames label named
    expectCount name 1 2 args
    let k := args.headD .none
    expectKey k
    pure ((find k).getD ((args[1]?).getD .none))
  | "pop" => do
    expectNoNames label named
    expectCount name 1 2 args
    let k := args.headD .none
    expectKey k
    match find k, args[1]? with
    | some v, _ => do
      let _ ← become (without k)
      pure v
    | none, some v => pure v
    | none, none => raiseWith "KeyError" [k]
  | "setdefault" => do
    expectNoNames label named
    expectCount name 1 2 args
    let k := args.headD .none
    expectKey k
    match find k with
    | some v => pure v
    | none => do
      let v := (args[1]?).getD .none
      let _ ← become (entries ++ [(k, v)])
      pure v
  | "update" => do
    expectCount name 0 1 args
    let new ← match args with
      | [v] => entriesOf ev v
      | _ => pure []
    become (← putAll entries (new ++ named.map fun (n, v) => (.text n, v)))
  | "clear" => do
    expectNoArgs label args named
    become []
  | "copy" => do
    expectNoArgs label args named
    dict entries
  | "popitem" => do
    expectNoArgs label args named
    match entries.getLast? with
    | some (k, v) => do
      let _ ← become entries.dropLast
      tuple [k, v]
    | none => raiseWith "KeyError" [.text "popitem(): dictionary is empty"]
  | _ => notProvided label

end ScriptShell.Script.Exec
