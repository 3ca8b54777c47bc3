import ScriptShell.Script.Arithmetic
/-!
# What an evaluator does

The evaluation of expressions, the running of statements and the calling of functions contain each
other. Each is written against an `Evaluator`, which does the parts.
-/

namespace ScriptShell.Script

/-- How statements go on. -/
inductive Flow
  | next
  | break
  | continue
  | return (v : Value)
deriving Repr, DecidableEq, Inhabited

structure Evaluator where
  eval : Env → Expr → Exec Value
  block : Env → List Stmt → Exec Flow
  /-- calls a value with arguments by position and by name -/
  call : Value → List Value → List (String × Value) → Exec Value
  /-- the items of a value, one after another -/
  items : Value → Exec (List Value)
  /-- the module with this name, loaded if it is not yet -/
  importModule : List String → Exec Value
  /-- the value under a text in a dictionary, whose keys may be compared by code of their own -/
  lookup : Ref → String → Exec (Option Value)
  /-- puts a value under a text in a dictionary, which compares keys, too -/
  store : Ref → String → Value → Exec Unit
  /-- whether a value can be called -/
  isCallable : Heap → Value → Bool

/-- The evaluator for which everything takes too long. -/
def Evaluator.exhausted : Evaluator :=
  { eval := fun _ _ => throw .exhausted
    block := fun _ _ => throw .exhausted
    call := fun _ _ _ => throw .exhausted
    items := fun _ => throw .exhausted
    importModule := fun _ => throw .exhausted
    lookup := fun _ _ => throw .exhausted
    store := fun _ _ _ => throw .exhausted
    isCallable := fun _ _ => false }

namespace Exec

/-- How many items a loop goes through at most. -/
def loopLimit : Nat := 10000000

/-- Lists item by item, as long as the shortest. -/
def zipped : Nat → List (List Value) → List (List Value)
  | 0, _ => []
  | n + 1, ls =>
    if ls.isEmpty || ls.any List.isEmpty then []
    else ls.map (fun l => l.headD .none) :: zipped n (ls.map List.tail)

/-- The numbers of a range. -/
def rangeItems (start stop step : Int) : Exec (List Value) := do
  let n := if step > 0 then (stop - start + step - 1).fdiv step
    else (start - stop - step - 1).fdiv (-step)
  if n > loopLimit then throw .exhausted
  pure ((List.range n.toNat).map fun (i : Nat) => Value.int (start + step * i))

/-- The items that a value has at hand; nothing if it has none, or must be run to give them. -/
def readyItems? (v : Value) : Exec (Option (List Value)) := do
  match v with
  | .text s => pure (some (s.toList.map fun c => .text c.toString))
  | .bytes b => pure (some (b.map fun n => .int n.toNat))
  | .object r =>
    match (← heap).get? r with
    | some (.tuple l) | some (.list l) | some (.set l) => pure (some l)
    | some (.dict entries) => pure (some (entries.map (·.1)))
    | some (.range a b c) => some <$> rangeItems a b c
    | some (.iterator kind l) => do
      setObject r (.iterator kind [])
      pure (some l)
    | some (.view kind d) => do
      let entries := ((← heap).entries? d).getD []
      if kind = "keys" then pure (some (entries.map (·.1)))
      else if kind = "values" then pure (some (entries.map (·.2)))
      else some <$> entries.mapM fun (k, v) => tuple [k, v]
    | _ => pure none
  | _ => pure none

/-! ## Items -/

/-- The position that an index means in a sequence of this length. -/
def position? (length : Nat) (i : Int) : Option Nat :=
  let i := if i < 0 then i + length else i
  if 0 ≤ i ∧ i < length then some i.toNat else none

/-- A bound of a slice. -/
def sliceBound (v : Value) : Exec (Option Int) := do
  match v with
  | .none => pure none
  | v =>
    match v.toInt? with
    | some n => pure (some n)
    | none =>
      typeError "slice indices must be integers or None or have an __index__ method"

/-- The positions that a slice takes out of a sequence. -/
def slicePositions (length : Nat) (low high step : Value) : Exec (List Nat) := do
  let step := (← sliceBound step).getD 1
  if step = 0 then raise "ValueError" "slice step cannot be zero"
  let n : Int := length
  let clamp := fun (low high : Int) (i : Int) =>
    let i := if i < 0 then i + n else i
    if i < low then low else if i > high then high else i
  let low ← sliceBound low
  let high ← sliceBound high
  if step > 0 then
    let a := (low.map (clamp 0 n)).getD 0
    let b := (high.map (clamp 0 n)).getD n
    let count := ((b - a + step - 1).fdiv step).toNat
    pure ((List.range count).map fun (i : Nat) => (a + step * (i : Int)).toNat)
  else
    let a := (low.map (clamp (-1) (n - 1))).getD (n - 1)
    let b := (high.map (clamp (-1) (n - 1))).getD (-1)
    let count := ((a - b - step - 1).fdiv (-step)).toNat
    pure ((List.range count).map fun (i : Nat) => (a + step * (i : Int)).toNat)

/-- The items of a sequence at a key, which is an index or a slice. `kind` is its name in complaints,
and `wrong` tells of a key that is neither. -/
def sequenceAt {α : Type} (kind : String) (wrong : Exec Value) (l : List α) (key : Value)
    (one : α → Exec Value) (many : List α → Exec Value) : Exec Value := do
  match key.toInt? with
  | some i =>
    match position? l.length i with
    | some n =>
      match l[n]? with
      | some a => one a
      | none => raise "IndexError" (kind ++ " index out of range")
    | none => raise "IndexError" (kind ++ " index out of range")
  | none =>
    match ← object? key with
    | some (.slice low high step) => do
      let ps ← slicePositions l.length low high step
      many (ps.filterMap fun p => l[p]?)
    | _ => wrong

/-- The item of a value at a key. -/
def itemAt (v key : Value) : Exec Value := do
  let h ← heap
  let wrong := fun (kind : String) =>
    (typeError (kind ++ " indices must be integers or slices, not " ++ h.typeName key) : Exec Value)
  match v with
  | .text s =>
    sequenceAt "string" (typeError ("string indices must be integers, not '" ++ h.typeName key ++ "'"))
      s.toList key (fun c => pure (.text c.toString)) (fun cs => pure (.text (String.ofList cs)))
  | .bytes b =>
    sequenceAt "index" (wrong "byte") b key (fun n => pure (.int n.toNat)) (fun b => pure (.bytes b))
  | .type name =>
    if ["list", "dict", "tuple", "set", "type", "frozenset"].contains name then pure v
    else typeError ("type '" ++ name ++ "' is not subscriptable")
  | _ =>
    match h.object? v with
    | some (.list l) => sequenceAt "list" (wrong "list") l key pure list
    | some (.tuple l) => sequenceAt "tuple" (wrong "tuple") l key pure tuple
    | some (.range a b c) => do
      let l ← rangeItems a b c
      let part := fun (items : List Value) => do
        match items with
        | .int x :: .int y :: more =>
          alloc (.range x ((match more.getLast? with
            | some (.int z) => z
            | _ => y) + (y - x).sign) (y - x))
        | [.int x] => alloc (.range x (x + 1) 1)
        | _ => alloc (.range 0 0 1)
      sequenceAt "range object" (wrong "range") l key pure part
    | some (.dict entries) => do
      expectKey key
      match entries.find? (fun e => h.sameKey e.1 key) with
      | some e => pure e.2
      | none => raiseWith "KeyError" [key]
    | _ => typeError ("'" ++ h.typeName v ++ "' object is not subscriptable")

/-- Puts an item into a value at a key. `items` gives what replaces a slice. -/
def setItem (items : Value → Exec (List Value)) (v key item : Value) : Exec Unit := do
  let h ← heap
  match v, h.object? v with
  | .object r, some (.dict entries) => do
    expectKey key
    setObject r (.dict (Heap.putEntry h.sameKey entries key item))
  | .object r, some (.list l) =>
    match key.toInt? with
    | some i =>
      match position? l.length i with
      | some n => setObject r (.list (l.set n item))
      | none => raise "IndexError" "list assignment index out of range"
    | none =>
      match h.object? key with
      | some (.slice low high step) => do
        let ps ← slicePositions l.length low high step
        let new ← items item
        if (step.toInt?).getD 1 = 1 then
          match ps.head?, ps.getLast? with
          | some a, some b => setObject r (.list (l.take a ++ new ++ l.drop (b + 1)))
          | _, _ => do
            let a := ((← sliceBound low).map fun (i : Int) =>
              (if i < 0 then i + (l.length : Int) else i).toNat).getD 0
            setObject r (.list (l.take a ++ new ++ l.drop a))
        else if ps.length ≠ new.length then
          raise "ValueError" ("attempt to assign sequence of size " ++ toString new.length ++
            " to extended slice of size " ++ toString ps.length)
        else setObject r (.list ((ps.zip new).foldl (fun l (p, x) => l.set p x) l))
      | _ =>
        typeError ("list indices must be integers or slices, not " ++ h.typeName key)
  | _, _ => typeError ("'" ++ h.typeName v ++ "' object does not support item assignment")

/-- Takes the item of a value at a key away. -/
def deleteItem (v key : Value) : Exec Unit := do
  let h ← heap
  match v, h.object? v with
  | .object r, some (.dict entries) => do
    expectKey key
    if entries.any (fun e => h.sameKey e.1 key) then
      setObject r (.dict (entries.filter (fun e => !h.sameKey e.1 key)))
    else raiseWith "KeyError" [key]
  | .object r, some (.list l) =>
    match key.toInt? with
    | some i =>
      match position? l.length i with
      | some n => setObject r (.list (l.eraseIdx n))
      | none => raise "IndexError" "list assignment index out of range"
    | none =>
      match h.object? key with
      | some (.slice low high step) => do
        let ps ← slicePositions l.length low high step
        setObject r (.list ((l.zipIdx.filter fun (_, i) => !ps.contains i).map (·.1)))
      | _ =>
        typeError ("list indices must be integers or slices, not " ++ h.typeName key)
  | _, _ => typeError ("'" ++ h.typeName v ++ "' object doesn't support item deletion")

end Exec

end ScriptShell.Script
