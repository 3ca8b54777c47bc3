import ScriptShell.Text.Decimal
/-!
# Rounded decimals

A number written with a given count of decimal digits. The digits are those of the nearest such
decimal; of two that are equally near the one whose last digit is even is taken.
-/

namespace ScriptShell.Text

/-- The whole number nearest to a quotient; of two the even one. -/
def roundDiv (a b : Nat) : Nat :=
  let q := a / b
  let twice := 2 * (a % b)
  if b < twice || (twice = b && q % 2 = 1) then q + 1 else q

/-- A fraction times ten to the power of `e`, as a whole number. -/
def Fraction.scaled (f : Fraction) (e : Int) : Nat :=
  if e ≥ 0 then roundDiv (f.top * Nat.pow 10 e.toNat) f.bottom
  else roundDiv f.top (f.bottom * Nat.pow 10 (-e).toNat)

/-- Digits with a point before the last so many of them. -/
def pointed (places n : Nat) : String :=
  let ds := Nat.toDigits 10 n
  let ds := List.replicate (places + 1 - ds.length) '0' ++ ds
  let whole := ds.length - places
  String.ofList (ds.take whole) ++
    (if places = 0 then "" else "." ++ String.ofList (ds.drop whole))

/-- The first so many digits of a number, and the power of ten of the first of them. -/
def Binary.leadingDigits (b : Binary) (count : Nat) : Nat × Int :=
  let power := b.leadingPower
  let n := (Fraction.ofBinary b.mantissa b.exponent).scaled ((count : Int) - 1 - power)
  if n = Nat.pow 10 count then (Nat.pow 10 (count - 1), power + 1) else (n, power)

/-- The power of ten behind a number that is written with one. -/
def powerText (e : Int) : String :=
  (if e < 0 then "-" else "+") ++ (if e.natAbs < 10 then "0" else "") ++ toString e.natAbs

/-- A text of digits without zeros at its end, if there is a point. -/
def withoutLastZeros (s : String) : String :=
  if s.contains '.' then
    let cs := s.toList.reverse.dropWhile (· = '0')
    String.ofList (match cs with
      | '.' :: rest => rest
      | cs => cs).reverse
  else s

/-- How a number is written. -/
inductive DecimalStyle
  /-- with so many digits after the point -/
  | fixed (places : Nat)
  /-- with a power of ten, and so many digits after the point -/
  | scientific (places : Nat)
  /-- with so many digits in all, in either way, whichever is shorter for the size of the number;
  `whole` if a point always shows -/
  | general (digits : Nat) (whole : Bool)
deriving Repr, DecidableEq

/-- The text of the size of a number; nothing stands for zero. Without `exact`, zeros that a general
style would leave at the end are dropped. -/
def DecimalStyle.text (exact : Bool) (b : Option Binary) : DecimalStyle → String
  | .fixed places =>
    pointed places (match b with
      | some b => (Fraction.ofBinary b.mantissa b.exponent).scaled places
      | none => 0)
  | .scientific places =>
    let (n, e) := (b.map (·.leadingDigits (places + 1))).getD (0, 0)
    pointed places n ++ "e" ++ powerText e
  | .general digits whole =>
    let digits := max 1 digits
    let (n, e) := (b.map (·.leadingDigits digits)).getD (0, 0)
    let trim := fun (s : String) => if exact then s else withoutLastZeros s
    if e < -4 || (digits : Int) - (if whole then 1 else 0) ≤ e then
      trim (pointed (digits - 1) n) ++ "e" ++ powerText e
    else
      let places := ((digits : Int) - 1 - e).toNat
      let s := trim (pointed places (match b with
        | some b => (Fraction.ofBinary b.mantissa b.exponent).scaled places
        | none => 0))
      if whole && !s.contains '.' then s ++ ".0" else s

end ScriptShell.Text
