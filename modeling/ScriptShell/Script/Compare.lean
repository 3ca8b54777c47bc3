import ScriptShell.Script.Running
import ScriptShell.Script.Show
/-!
# Comparing values

Truth, equality and order of values. Numbers of all kinds are equal if their values are; lists and
tuples are compared item by item. What has no order is refused.
-/

namespace ScriptShell.Script

/-- How a comparison is written. -/
def CompareOp.symbol : CompareOp → String
  | .eq => "=="
  | .ne => "!="
  | .lt => "<"
  | .le => "<="
  | .gt => ">"
  | .ge => ">="
  | .is => "is"
  | .isNot => "is not"
  | .in => "in"
  | .notIn => "not in"

def Value.toFloat? : Value → Option Float
  | .bool b => some (if b then 1 else 0)
  | .int n => some (Float.ofInt n)
  | .float bits => some (Float.ofBits bits)
  | _ => Option.none

/-- The whole number that a value is. -/
def Value.toInt? : Value → Option Int
  | .bool b => some (if b then 1 else 0)
  | .int n => some n
  | _ => Option.none

def Value.ofFloat (f : Float) : Value := .float f.toBits

namespace Heap

/-- Whether a value counts as true. -/
def isTrue (h : Heap) (v : Value) : Bool :=
  match v with
  | .none => false
  | .bool b => b
  | .int n => n ≠ 0
  | .float bits => !(Float.ofBits bits == 0)
  | .text s => !s.isEmpty
  | .bytes b => !b.isEmpty
  | .object r =>
    match h.get? r with
    | some (.tuple l) | some (.list l) | some (.set l) => !l.isEmpty
    | some (.dict l) => !l.isEmpty
    | some (.range a b c) => if c > 0 then a < b else b < a
    | some (.view _ d) => !((h.entries? d).getD []).isEmpty
    | _ => true
  | _ => true

/-- Whether two values are equal. Values inside values are compared to a depth. -/
def equal (h : Heap) : Nat → Value → Value → Bool
  | 0, a, b => a == b
  | depth + 1, a, b =>
    let all := fun (l m : List Value) =>
      l.length == m.length && (l.zip m).all fun (x, y) => h.equal depth x y
    match a, b with
    | .object r, .object s =>
      r == s ||
        match h.get? r, h.get? s with
        | some (.tuple l), some (.tuple m) => all l m
        | some (.list l), some (.list m) => all l m
        | some (.set l), some (.set m) =>
          l.length == m.length && l.all fun x => m.any fun y => h.equal depth x y
        | some (.dict l), some (.dict m) =>
          l.length == m.length && l.all fun (k, v) =>
            m.any fun (k', v') => h.equal depth k k' && h.equal depth v v'
        | some (.range a b c), some (.range a' b' c') => a == a' && b == b' && c == c'
        | some (.method s n), some (.method s' n') => s == s' && n == n'
        | some (.boundFunction s f), some (.boundFunction s' f') => s == s' && f == f'
        | _, _ => false
    | a, b =>
      match a.toInt?, b.toInt? with
      | some m, some n => m == n
      | _, _ =>
        match a.toFloat?, b.toFloat? with
        | some x, some y => x == y
        | _, _ => a == b

/-- Whether two values are one; there is only one empty tuple. -/
def isSame (h : Heap) (a b : Value) : Bool :=
  a == b ||
    match h.object? a, h.object? b with
    | some (.tuple []), some (.tuple []) => true
    | _, _ => false

/-- How deep values are compared. -/
def compareDepth : Nat := 200

/-- Whether two values are the same key. -/
def sameKey (h : Heap) (a b : Value) : Bool := h.equal compareDepth a b

/-- Whether a value can be a key: it is none that changes. -/
def isHashable (h : Heap) : Nat → Value → Bool
  | 0, _ => true
  | depth + 1, .object r =>
    match h.get? r with
    | some (.list _) | some (.dict _) | some (.set _) | some (.slice ..) => false
    | some (.tuple l) => l.all (h.isHashable depth)
    | _ => true
  | _, _ => true

/-- The part of a value that cannot be a key. -/
def unhashablePart (h : Heap) : Nat → Value → Value
  | 0, v => v
  | depth + 1, v =>
    match h.object? v with
    | some (.tuple l) =>
      match l.find? (fun x => !h.isHashable compareDepth x) with
      | some x => h.unhashablePart depth x
      | none => v
    | _ => v

/-- Whether one value comes before another; nothing if they have no order. -/
def less? (h : Heap) (orEqual : Bool) : Nat → Value → Value → Option Bool
  | 0, _, _ => none
  | depth + 1, a, b =>
    let lists := fun (l m : List Value) =>
      match (l.zip m).find? (fun (x, y) => !h.equal depth x y) with
      | some (x, y) => h.less? orEqual depth x y
      | none => some (if orEqual then l.length ≤ m.length else l.length < m.length)
    match a, b with
    | .text s, .text t => some (if orEqual then s ≤ t else s < t)
    | .bytes s, .bytes t => some (if orEqual then s ≤ t else s < t)
    | .object r, .object s =>
      match h.get? r, h.get? s with
      | some (.list l), some (.list m) | some (.tuple l), some (.tuple m) => lists l m
      | some (.set l), some (.set m) =>
        let within := l.all fun x => m.any fun y => h.equal depth x y
        some (within && (orEqual || l.length < m.length))
      | _, _ => none
    | a, b =>
      match a.toInt?, b.toInt? with
      | some m, some n => some (if orEqual then m ≤ n else m < n)
      | _, _ =>
        match a.toFloat?, b.toFloat? with
        | some x, some y => some (if orEqual then x ≤ y else x < y)
        | _, _ => none

/-- The pair of values inside two that their order hangs on, when they are lists of one kind. -/
def decisivePair (h : Heap) : Nat → Value → Value → Value × Value
  | 0, a, b => (a, b)
  | depth + 1, a, b =>
    match h.object? a, h.object? b with
    | some (.list l), some (.list m) | some (.tuple l), some (.tuple m) =>
      match (l.zip m).find? (fun (x, y) => !h.equal depth x y) with
      | some (x, y) => h.decisivePair depth x y
      | none => (a, b)
    | _, _ => (a, b)

end Heap

namespace Exec

/-- Refuses a value that cannot be a key. -/
def expectKey (v : Value) : Exec Unit := do
  let h ← heap
  unless h.isHashable Heap.compareDepth v do
    typeError ("unhashable type: '" ++ h.typeName (h.unhashablePart Heap.compareDepth v) ++ "'")

/-- Whether two values stand in an order: the greater side of a comparison is told by asking which
comes first the other way round. -/
def inOrder (op : CompareOp) (a b : Value) : Exec Bool := do
  let h ← heap
  let orEqual := op == .le || op == .ge
  let answer := if op == .gt || op == .ge then h.less? orEqual Heap.compareDepth b a
    else h.less? orEqual Heap.compareDepth a b
  match answer with
  | some r => pure r
  | none =>
    let (x, y) := h.decisivePair Heap.compareDepth a b
    typeError ("'" ++ op.symbol ++ "' not supported between instances of '" ++ h.typeName x ++
      "' and '" ++ h.typeName y ++ "'")

/-- Sorts values, equal ones in their order, by keys that go with them. -/
def insertSorted (reverse : Bool) (x : Value × Value) : List (Value × Value) →
    Exec (List (Value × Value))
  | [] => pure [x]
  | y :: rest => do
    if ← (if reverse then inOrder .lt y.1 x.1 else inOrder .lt x.1 y.1) then
      pure (x :: y :: rest)
    else do
      let more ← insertSorted reverse x rest
      pure (y :: more)

/-- Values with their keys, in the order of the keys. -/
def sortByKeys (reverse : Bool) (l : List (Value × Value)) : Exec (List (Value × Value)) :=
  l.foldlM (fun sorted x => insertSorted reverse x sorted) []

end Exec

end ScriptShell.Script
