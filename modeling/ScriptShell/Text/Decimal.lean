/-!
# Decimal numbers

A binary floating-point number is written with the fewest decimal digits that lead back to it; of
two numbers with so few digits the nearer is taken. Numbers from a ten-thousandth up to 10^16 are
written out, others with an exponent.
-/

namespace ScriptShell.Text

/-- A finite number other than zero, without its sign: `mantissa` times two to the power of
`exponent`. -/
structure Binary where
  mantissa : Nat
  exponent : Int
  /-- whether the number below is only half as far away as the one above -/
  isNarrowBelow : Bool
deriving Repr, DecidableEq

/-- A floating-point number by its bits. -/
inductive FloatParts
  | zero (negative : Bool)
  | infinite (negative : Bool)
  | undefined
  | finite (negative : Bool) (b : Binary)
deriving Repr, DecidableEq

/-- The parts of a number in 64 bits: one for the sign, eleven for the exponent, 52 for the
fraction. -/
def FloatParts.ofBits (bits : UInt64) : FloatParts :=
  let n := bits.toNat
  let one : Nat := 0x10000000000000
  let negative := n ≥ 0x8000000000000000
  let exponent : Nat := n / one % 0x800
  let fraction : Nat := n % one
  if exponent = 0x7ff then
    if fraction = 0 then .infinite negative else .undefined
  else if exponent = 0 then
    if fraction = 0 then .zero negative else .finite negative ⟨fraction, -1074, false⟩
  else
    .finite negative
      ⟨fraction + one, (exponent : Int) - 1075, fraction = 0 && exponent > 1⟩

/-- A fraction: both parts whole numbers. -/
structure Fraction where
  top : Nat
  bottom : Nat

/-- `n` times two to the power of `e`. -/
def Fraction.ofBinary (n : Nat) (e : Int) : Fraction :=
  if e ≥ 0 then ⟨n * Nat.pow 2 e.toNat, 1⟩ else ⟨n, Nat.pow 2 (-e).toNat⟩

/-- `n` times ten to the power of `e`. -/
def Fraction.ofDecimal (n : Nat) (e : Int) : Fraction :=
  if e ≥ 0 then ⟨n * Nat.pow 10 e.toNat, 1⟩ else ⟨n, Nat.pow 10 (-e).toNat⟩

def Fraction.less (a b : Fraction) : Bool := a.top * b.bottom < b.top * a.bottom

/-- The distance between two fractions. -/
def Fraction.distance (a b : Fraction) : Fraction :=
  let x := a.top * b.bottom
  let y := b.top * a.bottom
  ⟨if x ≥ y then x - y else y - x, a.bottom * b.bottom⟩

/-- The whole numbers next to a fraction divided by ten to the power of `e`. -/
def Fraction.neighbours (f : Fraction) (e : Int) : Nat × Nat :=
  let q :=
    if e ≥ 0 then f.top / (f.bottom * Nat.pow 10 e.toNat)
    else f.top * Nat.pow 10 (-e).toNat / f.bottom
  (q, q + 1)

/-- Whether a fraction lies among the numbers that are nearer to `b` than to any other. The ends of
that range belong to it if the mantissa is even. -/
def Binary.owns (b : Binary) (f : Fraction) : Bool :=
  let low := if b.isNarrowBelow then Fraction.ofBinary (4 * b.mantissa - 1) (b.exponent - 2)
    else Fraction.ofBinary (2 * b.mantissa - 1) (b.exponent - 1)
  let high := Fraction.ofBinary (2 * b.mantissa + 1) (b.exponent - 1)
  if b.mantissa % 2 = 0 then !f.less low && !high.less f else low.less f && f.less high

/-- The decimal digits of a number and the power of ten of its last digit: the first of the grids
with 1, 2, … digits on which one of the number's neighbours leads back to it. -/
def Binary.shortest (b : Binary) (leading : Int) : Nat → Nat × Int
  | 0 => (b.mantissa, 0)
  | left + 1 =>
    let digits : Int := 17 - left
    let value := Fraction.ofBinary b.mantissa b.exponent
    let e := leading - digits + 1
    let (below, above) := value.neighbours e
    let low := Fraction.ofDecimal below e
    let high := Fraction.ofDecimal above e
    let nearLow := !(high.distance value).less (low.distance value)
    if b.owns low && (nearLow || !b.owns high) then (below, e)
    else if b.owns high then (above, e)
    else b.shortest leading left

/-- The power of ten of the leading digit. -/
def Binary.leadingPower (b : Binary) : Int :=
  let f := Fraction.ofBinary b.mantissa b.exponent
  if f.top ≥ f.bottom then ((Nat.toDigits 10 (f.top / f.bottom)).length : Int) - 1
  else
    let n := (Nat.toDigits 10 (f.bottom / f.top)).length
    if (Fraction.ofDecimal 1 (-(n : Int) + 1)).less f || !f.less (Fraction.ofDecimal 1 (-(n : Int) + 1))
    then -(n : Int) + 1 else -(n : Int)

/-- Zeros at the end taken away, each raising the power of the last digit. -/
def withoutZeros : Nat → Nat → Int → Nat × Int
  | 0, n, e => (n, e)
  | fuel + 1, n, e => if n ≠ 0 && n % 10 = 0 then withoutZeros fuel (n / 10) (e + 1) else (n, e)

/-- The text of digits and the power of the last one. -/
def decimalText (digits : Nat) (power : Int) : String :=
  let (digits, power) := withoutZeros 400 digits power
  let ds := Nat.toDigits 10 digits
  let leading : Int := power + ds.length - 1
  if -4 ≤ leading && leading < 16 then
    if power ≥ 0 then String.ofList (ds ++ List.replicate power.toNat '0') ++ ".0"
    else if leading ≥ 0 then
      String.ofList (ds.take (leading.toNat + 1)) ++ "." ++
        String.ofList (ds.drop (leading.toNat + 1))
    else "0." ++ String.ofList (List.replicate ((-leading).toNat - 1) '0' ++ ds)
  else
    let size := leading.natAbs
    String.ofList (ds.take 1) ++
      (if ds.length > 1 then "." ++ String.ofList (ds.drop 1) else "") ++ "e" ++
      (if leading < 0 then "-" else "+") ++ (if size < 10 then "0" else "") ++ toString size

/-- The text of a floating-point number. -/
def floatText (bits : UInt64) : String :=
  match FloatParts.ofBits bits with
  | .undefined => "nan"
  | .infinite negative => if negative then "-inf" else "inf"
  | .zero negative => if negative then "-0.0" else "0.0"
  | .finite negative b =>
    let (digits, power) := b.shortest b.leadingPower 17
    (if negative then "-" else "") ++ decimalText digits power

end ScriptShell.Text
