import ScriptShell.Script.FormatSpec
import ScriptShell.Script.Literal
/-!
# Directives

A text with directives that start with a percent sign, each of which a value is put in the place of:
`fillDirectives`. The values come one after another, or by their keys from a dictionary.
-/

namespace ScriptShell.Script

/-- What the directives of a text take their values from. -/
structure DirectiveSource where
  /-- the values that are left -/
  left : List Value
  /-- where values are looked up by their keys, if that can be done -/
  mapping : Option Value
deriving Repr, DecidableEq

/-- The inside of a parenthesis and what follows it; nothing if it is not closed. -/
def parenthesised : Nat → List Char → Option (List Char × List Char)
  | _, [] => none
  | depth, c :: rest =>
    if c = ')' && depth = 0 then some ([], rest)
    else
      let depth := if c = '(' then depth + 1 else if c = ')' then depth - 1 else depth
      (parenthesised depth rest).map fun (inside, after) => (c :: inside, after)

namespace Exec

/-- The next value, and the source without it. -/
def nextArgument (source : DirectiveSource) : Exec (Value × DirectiveSource) := do
  match source.left with
  | v :: rest => pure (v, { source with left := rest })
  | [] => typeError "not enough arguments for format string"

/-- A width or precision at the start of a text: digits, or a star that stands for a value. -/
def directiveNumber (source : DirectiveSource) (cs : List Char) :
    Exec (Option Int × DirectiveSource × List Char) := do
  match cs with
  | '*' :: rest => do
    let (v, source) ← nextArgument source
    match v.toInt? with
    | some n => pure (some n, source, rest)
    | none => typeError "* wants int"
  | cs =>
    let (n, rest) := leadingNumber cs
    pure (n.map fun n => (n : Int), source, rest)

/-- The text of a value for the letter of a directive. `place` is where the letter stands. -/
def directiveText (ev : Evaluator) (f : FormatSpec) (letter : Char) (place : Nat) (v : Value) :
    Exec String := do
  let h ← heap
  let cut := fun (s : String) => f.filled '>' "" (match f.precision with
    | some n => (s.take n).toString
    | none => s)
  let blanks := { f with fillChar := ' ', align := if f.align = some '=' then none else f.align }
  let digits := fun (f : FormatSpec) (n : Int) =>
    let least := f.precision.getD 0
    let plain := { f with width := 0, align := none }.intText n
    let size := (Nat.toDigits (if letter = 'o' then 8 else if letter = 'x' || letter = 'X' then 16 else 10)
      n.natAbs).length
    if size < least then
      let lead := plain.length - size
      f.filled '>' (plain.take lead).toString
        ("".pushn '0' (least - size) ++ (plain.drop lead).toString)
    else f.intText n
  if letter = 's' then cut (← plainText ev v) |> pure
  else if letter = 'r' then cut (← shownValue ev v) |> pure
  else if letter = 'a' then cut (asciiText (← shownValue ev v)) |> pure
  else if letter = 'd' || letter = 'i' || letter = 'u' then
    match v.toInt?, v with
    | some n, _ => pure (digits { f with kind := some 'd' } n)
    | none, .float bits => do pure (digits { f with kind := some 'd' } (← truncated bits))
    | none, _ => typeError ("%" ++ letter.toString ++
        " format: a real number is required, not " ++ h.typeName v)
  else if letter = 'x' || letter = 'X' || letter = 'o' then
    match v.toInt? with
    | some n => pure (digits { f with kind := some letter } n)
    | none => typeError ("%" ++ letter.toString ++
        " format: an integer is required, not " ++ h.typeName v)
  else if "eEfFgG".toList.contains letter then
    match v.toFloat? with
    | some x => pure ({ f with kind := some letter }.floatText x)
    | none => typeError ("must be real number, not " ++ h.typeName v)
  else if letter = 'c' then
    match v with
    | .text s =>
      if s.length = 1 then pure (blanks.filled '>' "" s) else typeError "%c requires int or char"
    | v =>
      match v.toInt? with
      | some n =>
        if n < 0 || n > 0x10ffff then raise "OverflowError" "%c arg not in range(0x110000)"
        else pure (blanks.filled '>' "" (textOf [n.toNat]))
      | none => typeError "%c requires int or char"
  else raise "ValueError" ("unsupported format character '" ++ letter.toString ++ "' (0x" ++
    hexText 1 letter.toNat ++ ") at index " ++ toString place)

/-- A text out of one with directives. `length` is how long that is in all. -/
def fillDirectives (ev : Evaluator) (length : Nat) :
    Nat → DirectiveSource → List Char → Exec (String × DirectiveSource)
  | 0, source, _ => pure ("", source)
  | _, source, [] => pure ("", source)
  | fuel + 1, source, '%' :: rest => do
    let (source, rest) ← match rest with
      | '(' :: inside =>
        match source.mapping, parenthesised 0 inside with
        | none, _ => typeError "format requires a mapping"
        | some _, none => raise "ValueError" "incomplete format key"
        | some m, some (key, after) => do
          let v ← itemAt m (.text (String.ofList key))
          pure ({ source with left := [v] }, after)
      | rest => pure (source, rest)
    let isFlag := fun (c : Char) => "-+ #0".toList.contains c
    let flags := rest.takeWhile isFlag
    let (width, source, rest) ← directiveNumber source (rest.dropWhile isFlag)
    let (precision, source, rest) ← match rest with
      | '.' :: rest => do
        let (n, source, rest) ← directiveNumber source rest
        pure (some ((n.getD 0).toNat), source, rest)
      | rest => pure (none, source, rest)
    let width := width.getD 0
    let isLeft := flags.contains '-' || width < 0
    let f : FormatSpec :=
      { fillChar := if flags.contains '0' && !isLeft then '0' else ' '
        align := if isLeft then some '<' else if flags.contains '0' then some '=' else none
        plusSign := if flags.contains '+' then some '+' else if flags.contains ' ' then some ' ' else none
        alternate := flags.contains '#', width := width.natAbs, precision }
    match rest.dropWhile (fun c => "hlL".toList.contains c) with
    | [] => raise "ValueError" "incomplete format"
    | '%' :: rest => do
      let (s, source) ← fillDirectives ev length fuel source rest
      pure ("%" ++ s, source)
    | letter :: rest => do
      let (v, source) ← nextArgument source
      let isText := letter = 's' || letter = 'r' || letter = 'a'
      let f := if isText then { f with fillChar := ' ', align := if isLeft then some '<' else none } else f
      let text ← directiveText ev f letter (length - rest.length - 1) v
      let (s, source) ← fillDirectives ev length fuel source rest
      pure (text ++ s, source)
  | fuel + 1, source, c :: rest => do
    let (s, source) ← fillDirectives ev length fuel source rest
    pure (c.toString ++ s, source)

/-- A text with its directives filled with a value: the values of a tuple one after another, those
of anything with keys by their keys. -/
def fillWith (ev : Evaluator) (s : String) (v : Value) : Exec Value := do
  let h ← heap
  let (left, mapping) := match v, h.object? v with
    | _, some (.tuple l) => (l, none)
    | .bytes _, _ | _, some (.list _) | _, some (.dict _) | _, some (.range ..) => ([v], some v)
    | v, _ => ([v], if (h.special? v "__getitem__").isSome then some v else none)
  let (text, source) ← fillDirectives ev s.length (s.length + 1) ⟨left, mapping⟩ s.toList
  if source.mapping.isNone && !source.left.isEmpty then
    typeError "not all arguments converted during string formatting"
  pure (.text text)

end Exec

end ScriptShell.Script
