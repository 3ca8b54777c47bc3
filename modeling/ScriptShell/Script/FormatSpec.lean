import ScriptShell.Script.Attribute
import ScriptShell.Text.Rounded
/-!
# Format specifications

How a value is laid out in a field: what the field is filled with and where the value stands in it,
its sign, its width and precision, and the kind of text that is made of it. `formatValue` lays a
value out as the text of a specification asks.
-/

namespace ScriptShell.Script

/-- The layout of a field. -/
structure FormatSpec where
  fillChar : Char := ' '
  /-- where the value stands, as `<`, `>`, `^` or, for a sign apart from the digits, `=` -/
  align : Option Char := none
  /-- what a number that is not negative starts with -/
  plusSign : Option Char := none
  /-- whether the base of digits shows, and zeros at the end stay -/
  alternate : Bool := false
  width : Nat := 0
  /-- what stands between groups of digits -/
  grouping : Option Char := none
  precision : Option Nat := none
  kind : Option Char := none
deriving Repr, DecidableEq, Inhabited

/-- The number at the start of a text, if there is one, and the rest. -/
def leadingNumber (cs : List Char) : Option Nat × List Char :=
  ((String.ofList (cs.takeWhile Char.isDigit)).toNat?, cs.dropWhile Char.isDigit)

namespace FormatSpec

def isAlign (c : Char) : Bool := "<>^=".toList.contains c

/-- The layout that a text asks for, or the complaint about it. `usual` is where the value stands if
the text does not say so. -/
def ofText (usual : Char) (s : String) : Except String FormatSpec := do
  let cs := s.toList
  let (fillChar, align, cs) := match cs with
    | f :: a :: rest =>
      if isAlign a then (some f, some a, rest)
      else if isAlign f then (none, some f, a :: rest) else (none, none, cs)
    | [a] => if isAlign a then (none, some a, []) else (none, none, cs)
    | [] => (none, none, [])
  let (plusSign, cs) := match cs with
    | c :: rest => if "+- ".toList.contains c then (some c, rest) else (none, cs)
    | [] => (none, cs)
  let (alternate, cs) := match cs with
    | '#' :: rest => (true, rest)
    | cs => (false, cs)
  let (fillChar, align, cs) := match cs, fillChar with
    | '0' :: rest, none =>
      (some '0', if align.isNone && usual = '>' then some '=' else align, rest)
    | cs, f => (f, align, cs)
  let (width, cs) := leadingNumber cs
  let (grouping, cs) := match cs with
    | c :: rest => if c = ',' || c = '_' then (some c, rest) else (none, cs)
    | [] => (none, cs)
  if grouping.isSome && (cs.head? = some ',' || cs.head? = some '_') then
    throw (if cs.head? = grouping then "Cannot specify '" ++ (grouping.getD ',').toString ++ "' with '" ++
        (grouping.getD ',').toString ++ "'."
      else "Cannot specify both ',' and '_'.")
  let (precision, cs) ← match cs with
    | '.' :: rest =>
      match leadingNumber rest with
      | (none, _) => throw "Format specifier missing precision"
      | (some n, rest) => pure (some n, rest)
    | cs => pure (none, cs)
  let kind ← match cs with
    | [] => pure none
    | [c] => pure (some c)
    | _ => throw "Invalid format specifier"
  pure { fillChar := fillChar.getD ' ', align, plusSign, alternate, width := width.getD 0, grouping
         precision, kind }

/-- A text in a field: what leads it stays at the edge where signs stand apart. -/
def filled (f : FormatSpec) (usual : Char) (lead body : String) : String :=
  let n := f.width - (lead.length + body.length)
  let some_ := fun (n : Nat) => "".pushn f.fillChar n
  match f.align.getD usual with
  | '<' => lead ++ body ++ some_ n
  | '^' => some_ (n / 2) ++ lead ++ body ++ some_ (n - n / 2)
  | '=' => lead ++ some_ n ++ body
  | _ => some_ n ++ lead ++ body

/-- The sign that a number starts with. -/
def sign (f : FormatSpec) (negative : Bool) : String :=
  if negative then "-"
  else match f.plusSign with
    | some '+' => "+"
    | some ' ' => " "
    | _ => ""

/-- Digits with a mark before each group of so many from the end. -/
def grouped (size : Nat) (mark : Char) (ds : List Char) : List Char :=
  (ds.zipIdx.flatMap fun (c, i) =>
    if i ≠ 0 && (ds.length - i) % size = 0 then [mark, c] else [c])

/-- The digits of a number, those before a point in groups. -/
def group (f : FormatSpec) (size : Nat) (digits : String) : String :=
  match f.grouping with
  | none => digits
  | some mark =>
    let isWhole := fun (c : Char) => c.isAlphanum && !(c = 'e' && size = 3)
    String.ofList (grouped size mark (digits.toList.takeWhile isWhole) ++
      digits.toList.dropWhile isWhole)

/-- The text of a whole number in a base, with the mark of the base before it if that is asked for. -/
def intText (f : FormatSpec) (n : Int) : String :=
  let (base, mark) := match f.kind with
    | some 'b' => (2, "0b")
    | some 'o' => (8, "0o")
    | some 'x' => (16, "0x")
    | some 'X' => (16, "0X")
    | _ => (10, "")
  let ds := String.ofList (Nat.toDigits base n.natAbs)
  let ds := if f.kind = some 'X' then ds.toUpper else ds
  f.filled '>' (f.sign (n < 0) ++ if f.alternate then mark else "")
    (f.group (if base = 10 then 3 else 4) ds)

/-- The size of a floating-point number as the kind asks for it. -/
def floatSize (f : FormatSpec) (bits : UInt64) : String :=
  let places := f.precision.getD 6
  let style := match (f.kind.map Char.toLower) with
    | some 'f' | some '%' => some (Text.DecimalStyle.fixed places)
    | some 'e' => some (.scientific places)
    | some _ => some (.general places false)
    | none => f.precision.map fun n => .general n true
  let number := fun (b : Option Text.Binary) =>
    match style with
    | some style => style.text f.alternate b
    | none =>
      let s := Text.floatText bits
      if s.startsWith "-" then (s.drop 1).toString else s
  match Text.FloatParts.ofBits bits with
  | .undefined => "nan"
  | .infinite _ => "inf"
  | .zero _ => number none
  | .finite _ b => number (some b)

/-- The text of a floating-point number. -/
def floatText (f : FormatSpec) (x : Float) : String :=
  let bits := (if f.kind = some '%' then x * 100 else x).toBits
  let negative := match Text.FloatParts.ofBits bits with
    | .zero n | .infinite n | .finite n _ => n
    | .undefined => false
  let s := f.floatSize bits
  let s := if (f.kind.map Char.isUpper).getD false then s.toUpper else s
  f.filled '>' (f.sign negative) (f.group 3 s ++ if f.kind = some '%' then "%" else "")

end FormatSpec

namespace Exec

/-- The layout that a text asks for. -/
def formatSpec (usual : Char) (s : String) : Exec FormatSpec :=
  match FormatSpec.ofText usual s with
  | .ok f => pure f
  | .error e => raise "ValueError" e

/-- The complaint about a kind that a value has no text of. -/
def unknownKind {α : Type} (c : Char) (type : String) : Exec α :=
  raise "ValueError" ("Unknown format code '" ++ c.toString ++ "' for object of type '" ++ type ++ "'")

/-- Refuses groups of digits for a kind that has none. -/
def expectGrouping (f : FormatSpec) (kinds : String) : Exec Unit := do
  match f.grouping, f.kind with
  | some g, some c =>
    unless kinds.toList.contains c || (g = '_' && "boxX".toList.contains c) do
      raise "ValueError" ("Cannot specify '" ++ g.toString ++ "' with '" ++ c.toString ++ "'.")
  | _, _ => pure ()

/-- A text in a field. -/
def formatText (f : FormatSpec) (s : String) : Exec String := do
  expectGrouping { f with kind := some (f.kind.getD 's') } ""
  match f.kind with
  | none | some 's' => pure ()
  | some c => unknownKind c "str"
  if f.plusSign = some ' ' then raise "ValueError" "Space not allowed in string format specifier"
  if f.plusSign.isSome then raise "ValueError" "Sign not allowed in string format specifier"
  if f.alternate then
    raise "ValueError" "Alternate form (#) not allowed in string format specifier"
  if f.align = some '=' then
    raise "ValueError" "'=' alignment not allowed in string format specifier"
  let s := match f.precision with
    | some n => (s.take n).toString
    | none => s
  pure (f.filled '<' "" s)

/-- A number in a field. -/
def formatNumber (f : FormatSpec) (type : String) (v : Value) : Exec String := do
  expectGrouping f "deEfFgG%"
  let kind := f.kind.getD (if v.toInt?.isSome then 'd' else 'g')
  match v.toInt?, v.toFloat? with
  | some n, x =>
    if "bdnoxX".toList.contains kind then
      if f.precision.isSome then
        raise "ValueError" "Precision not allowed in integer format specifier"
      else pure (f.intText n)
    else if kind = 'c' then pure (f.filled '>' "" (Char.ofNat n.toNat).toString)
    else if "eEfFgG%".toList.contains kind then pure (f.floatText (x.getD 0))
    else unknownKind kind type
  | none, some x =>
    if "eEfFgGn%".toList.contains kind then pure (f.floatText x) else unknownKind kind type
  | none, none => unknownKind kind type

/-- A value in a field whose layout is given by a text. An instance may have its own way. -/
def formatValue (ev : Evaluator) (v : Value) (spec : String) : Exec String := do
  let h ← heap
  match h.special? v "__format__" with
  | some own => plainText ev (← ev.call own [v, .text spec] [])
  | none =>
    if spec.isEmpty then plainText ev v
    else
      match v with
      | .text s => do formatText (← formatSpec '<' spec) s
      | .int _ | .bool _ | .float _ => do
        formatNumber (← formatSpec '>' spec) (h.typeName v) v
      | v => typeError ("unsupported format string passed to " ++ h.typeName v ++ ".__format__")

end Exec

end ScriptShell.Script
