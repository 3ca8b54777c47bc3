import ScriptShell.Script.Compare
/-!
# Operators

What the operators make of values: numbers are calculated with, texts and lists put together and
repeated. Division goes toward the smaller number, and the remainder has the sign of the divisor.
-/

namespace ScriptShell.Script

def UnaryOp.symbol : UnaryOp → String
  | .plus => "unary +"
  | .minus => "unary -"
  | .invert => "unary ~"
  | .not => "not"

def BinaryOp.symbol : BinaryOp → String
  | .add => "+"
  | .sub => "-"
  | .mul => "*"
  | .matMul => "@"
  | .div => "/"
  | .floorDiv => "//"
  | .mod => "%"
  | .pow => "**"
  | .shiftLeft => "<<"
  | .shiftRight => ">>"
  | .bitAnd => "&"
  | .bitOr => "|"
  | .bitXor => "^"

/-- Combines the bits of two whole numbers of any sign. -/
def bitwise (f : Bool → Bool → Bool) (a b : Int) : Int :=
  let width := max (Nat.log2 a.natAbs) (Nat.log2 b.natAbs) + 2
  let bit := fun (n : Int) (i : Nat) => Int.fmod (Int.fdiv n (Int.pow 2 i)) 2 == 1
  let low := (List.range width).foldl
    (fun (sum : Int) i => if f (bit a i) (bit b i) then sum + Int.pow 2 i else sum) 0
  if f (a < 0) (b < 0) then low - Int.pow 2 width else low

namespace Exec

/-- The complaint about operands that do not go together. -/
def unsupported {α : Type} (op : BinaryOp) (inPlace : Bool) (a b : Value) : Exec α := do
  let h ← heap
  let symbol := match op, inPlace with
    | .pow, false => "** or pow()"
    | op, true => op.symbol ++ "="
    | op, false => op.symbol
  typeError ("unsupported operand type(s) for " ++ symbol ++ ": '" ++ h.typeName a ++ "' and '" ++
    h.typeName b ++ "'")

def zeroDivision {α : Type} (text : String) : Exec α := raise "ZeroDivisionError" text

/-- A floating-point number without what stands behind the point. -/
def truncated (bits : UInt64) : Exec Int :=
  match Text.FloatParts.ofBits bits with
  | .undefined => raise "ValueError" "cannot convert float NaN to integer"
  | .infinite _ => raise "OverflowError" "cannot convert float infinity to integer"
  | .zero _ => pure 0
  | .finite negative b =>
    let q := Text.Fraction.ofBinary b.mantissa b.exponent
    let n : Int := (q.top / q.bottom : Nat)
    pure (if negative then -n else n)

/-- The remainder of floating-point numbers, with the sign of the divisor. -/
def floatMod (x y : Float) : Float :=
  let r := x - y * (x / y).floor
  if r == 0 then (if y < 0 then -0.0 else 0.0) else r

/-- An operator between floating-point numbers; nothing if there is none. -/
def floatOperation? (op : BinaryOp) (x y : Float) : Option (Exec Value) :=
  match op with
  | .add => some (pure (.ofFloat (x + y)))
  | .sub => some (pure (.ofFloat (x - y)))
  | .mul => some (pure (.ofFloat (x * y)))
  | .div =>
    some (if y == 0 then zeroDivision "float division by zero" else pure (.ofFloat (x / y)))
  | .floorDiv =>
    some (if y == 0 then zeroDivision "float floor division by zero"
      else pure (.ofFloat (x / y).floor))
  | .mod => some (if y == 0 then zeroDivision "float modulo" else pure (.ofFloat (floatMod x y)))
  | .pow =>
    some (if x == 0 && y < 0 then zeroDivision "0.0 cannot be raised to a negative power"
      else pure (.ofFloat (x ^ y)))
  | _ => none

/-- An operator between whole numbers; nothing if there is none. -/
def intOperation? (op : BinaryOp) (a b : Int) : Option (Exec Value) :=
  match op with
  | .add => some (pure (.int (a + b)))
  | .sub => some (pure (.int (a - b)))
  | .mul => some (pure (.int (a * b)))
  | .div =>
    some (if b = 0 then zeroDivision "division by zero"
      else pure (.ofFloat (Float.ofInt a / Float.ofInt b)))
  | .floorDiv =>
    some (if b = 0 then zeroDivision "integer division or modulo by zero"
      else pure (.int (Int.fdiv a b)))
  | .mod =>
    some (if b = 0 then zeroDivision "integer modulo by zero" else pure (.int (Int.fmod a b)))
  | .pow =>
    some (if b ≥ 0 then
        (if b > 100000 then throw .exhausted else pure (.int (Int.pow a b.toNat)))
      else if a = 0 then zeroDivision "0.0 cannot be raised to a negative power"
      else pure (.ofFloat (Float.ofInt a ^ Float.ofInt b)))
  | .shiftLeft =>
    some (if b < 0 then raise "ValueError" "negative shift count"
      else if b > 100000 then throw .exhausted else pure (.int (a * Int.pow 2 b.toNat)))
  | .shiftRight =>
    some (if b < 0 then raise "ValueError" "negative shift count"
      else pure (.int (if b > 100000 then (if a < 0 then -1 else 0) else Int.fdiv a (Int.pow 2 b.toNat))))
  | .bitAnd => some (pure (.int (bitwise (· && ·) a b)))
  | .bitOr => some (pure (.int (bitwise (· || ·) a b)))
  | .bitXor => some (pure (.int (bitwise (· != ·) a b)))
  | .matMul => none

/-- Items repeated. -/
def repeated {α : Type} (n : Int) (l : List α) : List α := (List.replicate n.toNat l).flatten

/-- What is put together: two texts, lists or tuples. -/
def concatenation? (h : Heap) (a b : Value) : Option (Exec Value) :=
  match a, b with
  | .text s, .text t => some (pure (.text (s ++ t)))
  | .bytes s, .bytes t => some (pure (.bytes (s ++ t)))
  | .text _, b =>
    some (typeError ("can only concatenate str (not \"" ++ h.typeName b ++ "\") to str"))
  | .bytes _, b => some (typeError ("can't concat " ++ h.typeName b ++ " to bytes"))
  | a, b =>
    match h.object? a, h.object? b with
    | some (.list l), some (.list m) => some (list (l ++ m))
    | some (.tuple l), some (.tuple m) => some (tuple (l ++ m))
    | some (.list _), _ =>
      some (typeError ("can only concatenate list (not \"" ++ h.typeName b ++ "\") to list"))
    | some (.tuple _), _ =>
      some (typeError ("can only concatenate tuple (not \"" ++ h.typeName b ++ "\") to tuple"))
    | _, _ => none

/-- What is repeated: a text, a list or a tuple. -/
def repetition? (h : Heap) (v : Value) (n : Int) : Option (Exec Value) :=
  if n > 10000000 then some (throw .exhausted)
  else
    match v with
    | .text s => some (pure (.text (String.join (List.replicate n.toNat s))))
    | .bytes b => some (pure (.bytes (repeated n b)))
    | v =>
      match h.object? v with
      | some (.list l) => some (list (repeated n l))
      | some (.tuple l) => some (tuple (repeated n l))
      | _ => none

/-- Whether a value is a sequence that could be repeated. -/
def isSequence (h : Heap) (v : Value) : Bool := (repetition? h v 0).isSome

/-- An operator between two sets; nothing if there is none. -/
def setOperation? (h : Heap) (op : BinaryOp) (l m : List Value) : Option (List Value) :=
  let has := fun (l : List Value) (x : Value) => l.any (h.sameKey x)
  match op with
  | .bitOr => some (l ++ m.filter (fun x => !has l x))
  | .bitAnd => some (l.filter (has m))
  | .sub => some (l.filter (fun x => !has m x))
  | .bitXor => some (l.filter (fun x => !has m x) ++ m.filter (fun x => !has l x))
  | _ => none

/-- An operator between two values. -/
def operate (op : BinaryOp) (inPlace : Bool) (a b : Value) : Exec Value := do
  let h ← heap
  let refuse : Exec Value := unsupported op inPlace a b
  match a.toInt?, b.toInt? with
  | some m, some n =>
    match a, b, op with
    | .bool x, .bool y, .bitAnd => pure (.bool (x && y))
    | .bool x, .bool y, .bitOr => pure (.bool (x || y))
    | .bool x, .bool y, .bitXor => pure (.bool (x != y))
    | _, _, _ => (intOperation? op m n).getD refuse
  | _, _ =>
    match a.toFloat?, b.toFloat? with
    | some x, some y => (floatOperation? op x y).getD refuse
    | _, _ =>
      match op with
      | .add => (concatenation? h a b).getD refuse
      | .mul =>
        match b.toInt?, a.toInt? with
        | some n, _ => (repetition? h a n).getD refuse
        | _, some n => (repetition? h b n).getD refuse
        | _, _ =>
          if isSequence h a then
            typeError ("can't multiply sequence by non-int of type '" ++ h.typeName b ++ "'")
          else if isSequence h b then
            typeError ("can't multiply sequence by non-int of type '" ++ h.typeName a ++ "'")
          else refuse
      | op =>
        match h.object? a, h.object? b with
        | some (.set l), some (.set m) =>
          match setOperation? h op l m with
          | some l => alloc (.set l)
          | none => refuse
        | some (.dict l), some (.dict m) =>
          if op == .bitOr then
            dict (m.foldl (fun l (k, v) => Heap.putEntry h.sameKey l k v) l)
          else refuse
        | _, _ => refuse

/-- An operator before a value. -/
def operateUnary (op : UnaryOp) (v : Value) : Exec Value := do
  let h ← heap
  let refuse : Exec Value :=
    typeError ("bad operand type for " ++ op.symbol ++ ": '" ++ h.typeName v ++ "'")
  match op with
  | .not => pure (.bool (!h.isTrue v))
  | .plus =>
    match v.toInt?, v.toFloat? with
    | some n, _ => pure (.int n)
    | _, some _ => pure v
    | _, _ => refuse
  | .minus =>
    match v.toInt?, v.toFloat? with
    | some n, _ => pure (.int (-n))
    | _, some x => pure (.ofFloat (-x))
    | _, _ => refuse
  | .invert =>
    match v.toInt? with
    | some n => pure (.int (-n - 1))
    | none => refuse

/-- A set out of items, each once. -/
def setOf (items : List Value) : Exec Value := do
  for x in items do expectKey x
  let h ← heap
  alloc (.set (items.foldl (fun l x => if l.any (h.sameKey x) then l else l ++ [x]) []))

end Exec

end ScriptShell.Script
