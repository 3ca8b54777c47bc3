import ScriptShell.Script.Argument
import ScriptShell.Script.FormatSpec
import ScriptShell.Script.Literal
import ScriptShell.Text.Rounded
/-!
# Functions of numbers

Rounding, dividing and powers, and the numbers behind characters and digits.
-/

namespace ScriptShell.Script.Exec

/-- The whole number nearest to a floating-point number; of two the even one. -/
def wholeNear (bits : UInt64) : Exec Int := do
  match Text.FloatParts.ofBits bits with
  | .finite negative b =>
    let n : Int := (Text.Fraction.ofBinary b.mantissa b.exponent).scaled 0
    pure (if negative then -n else n)
  | _ => truncated bits

/-- A floating-point number rounded to so many decimal places. -/
def roundedFloat (bits : UInt64) (places : Int) : Exec Value :=
  match Text.FloatParts.ofBits bits with
  | .finite negative b =>
    let n := (Text.Fraction.ofBinary b.mantissa b.exponent).scaled places
    let x := Float.ofScientific n (places ≥ 0) places.natAbs
    pure (.ofFloat (if negative then -x else x))
  | _ => pure (.float bits)

/-- A power of a number, less all multiples of another, by squares: the exponent has so many binary
digits. -/
def powerMod (m : Int) : Nat → Int → Nat → Int
  | 0, _, _ => Int.fmod 1 m
  | digits + 1, a, b =>
    let rest := powerMod m digits (Int.fmod (a * a) m) (b / 2)
    if b % 2 = 1 then Int.fmod (a * rest) m else rest

/-- A number rounded to a whole one, or to so many decimal places. -/
def roundNumber (v : Value) (places : Value) : Exec Value := do
  match v, places with
  | .float bits, .none => .int <$> wholeNear bits
  | .float bits, d => do roundedFloat bits (← intArg d)
  | v, d =>
    match v.toInt?, d with
    | some n, .none => pure (.int n)
    | some n, d => do
      let d ← intArg d
      let unit := Nat.pow 10 d.natAbs
      let size := if d < 0 then Text.roundDiv n.natAbs unit * unit else n.natAbs
      pure (.int (if n < 0 then -(size : Int) else size))
    | none, _ => typeError ("type " ++ (← heap).typeName v ++ " doesn't define __round__ method")

/-- A power, or what it leaves over when divided. -/
def powerOf (args : List Value) : Exec Value := do
  match args with
  | [a, b] => operate .pow false a b
  | [a, b, m] =>
    match a.toInt?, b.toInt?, m.toInt? with
    | some a, some b, some m =>
      if m = 0 then raise "ValueError" "pow() 3rd argument cannot be 0"
      else if b < 0 then notProvided "pow"
      else pure (.int (powerMod m (Nat.log2 b.toNat + 1) (Int.fmod a m) b.toNat))
    | _, _, _ => typeError "unsupported operand type(s) for ** or pow()"
  | _ => typeError "pow() missing required argument 'base' (pos 1)"

/-- The size of a number. -/
def absolute (v : Value) : Exec Value := do
  match v.toInt?, v.toFloat? with
  | some n, _ => pure (.int n.natAbs)
  | _, some f => pure (.ofFloat f.abs)
  | _, _ => typeError ("bad operand type for abs(): '" ++ (← heap).typeName v ++ "'")

/-- The number of a character. -/
def numberOfChar (v : Value) : Exec Value := do
  match v with
  | .text s =>
    match s.toList with
    | [c] => pure (.int c.toNat)
    | l =>
      typeError ("ord() expected a character, but string of length " ++ toString l.length ++
        " found")
  | v => typeError ("ord() expected string of length 1, but " ++ (← heap).typeName v ++ " found")

/-- The character with a number. -/
def charOfNumber (n : Int) : Exec Value := do
  if n < 0 || n > 0x10ffff then raise "ValueError" "chr() arg not in range(0x110000)"
  pure (.text (textOf [n.toNat]))

/-- A function of numbers. -/
def numberFunction? (name : String) (args : List Value) (named : List (String × Value)) :
    Option (Exec Value) :=
  let one := onlyArg name args named
  let inBase := fun (kind : Char) => do
    pure (Value.text ({ kind := some kind, alternate := true : FormatSpec }.intText (← intArg (← one))))
  match name with
  | "abs" => some (do absolute (← one))
  | "round" =>
    some (roundNumber (args.headD .none)
      (((args[1]?).orElse fun _ => named.lookup "ndigits").getD .none))
  | "divmod" => some (do
    match args with
    | [a, b] => do
      let q ← operate .floorDiv false a b
      tuple [q, ← operate .mod false a b]
    | _ => typeError ("divmod expected 2 arguments, got " ++ toString args.length))
  | "pow" => some (powerOf args)
  | "chr" => some (do charOfNumber (← intArg (← one)))
  | "ord" => some (do numberOfChar (← one))
  | "hex" => some (inBase 'x')
  | "oct" => some (inBase 'o')
  | "bin" => some (inBase 'b')
  | _ => none

end ScriptShell.Script.Exec
