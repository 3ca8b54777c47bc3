import ScriptShell.Script.Syntax
import ScriptShell.Script.Lexer
/-!
# Texts in the code

What stands between quotes becomes a text or bytes: backslashes start escapes, unless the text is
raw. In a formatted text braces hold expressions; it is cut into pieces here, and the expressions
are left as text.
-/

namespace ScriptShell.Script

/-- The value of up to `limit` octal digits at the start, and the rest. -/
def octalDigits : Nat → Nat → List Char → Nat × List Char
  | 0, n, cs => (n, cs)
  | _, n, [] => (n, [])
  | limit + 1, n, c :: cs =>
    if '0' ≤ c ∧ c ≤ '7' then octalDigits limit (8 * n + (c.toNat - '0'.toNat)) cs else (n, c :: cs)

/-- The value of exactly `count` hexadecimal digits at the start, and the rest. -/
def hexDigits (count : Nat) (cs : List Char) : Option (Nat × List Char) :=
  let ds := cs.take count
  if ds.length = count && ds.all (fun c => c.isDigit || ('a' ≤ c.toLower && c.toLower ≤ 'f')) then
    some (digitsValue 16 ds, cs.drop count)
  else none

/-- The code point that a letter after a backslash stands for. -/
def simpleEscape? : Char → Option Nat
  | '\\' => some 92
  | '\'' => some 39
  | '"' => some 34
  | 'a' => some 7
  | 'b' => some 8
  | 'f' => some 12
  | 'n' => some 10
  | 'r' => some 13
  | 't' => some 9
  | 'v' => some 11
  | _ => none

/-- The code points of a text with its escapes; nothing if an escape is not complete. -/
def unescape (bytes : Bool) : Nat → List Char → Option (List Nat)
  | 0, _ => some []
  | _, [] => some []
  | fuel + 1, '\\' :: c :: rest =>
    let next := fun (n : Nat) (rest : List Char) => (unescape bytes fuel rest).map (n :: ·)
    if c = '\n' then unescape bytes fuel rest
    else if let some n := simpleEscape? c then next n rest
    else if '0' ≤ c ∧ c ≤ '7' then
      let (n, rest) := octalDigits 3 0 (c :: rest)
      next (if bytes then n % 256 else n) rest
    else if c = 'x' then do
      let (n, rest) ← hexDigits 2 rest
      next n rest
    else if !bytes && c = 'u' then do
      let (n, rest) ← hexDigits 4 rest
      next n rest
    else if !bytes && c = 'U' then do
      let (n, rest) ← hexDigits 8 rest
      if n > 0x10ffff then none else next n rest
    else if !bytes && c = 'N' then none
    else (unescape bytes fuel rest).map (fun more => 92 :: c.toNat :: more)
  | fuel + 1, c :: rest => (unescape bytes fuel rest).map (c.toNat :: ·)

/-- The text with these code points; a lone half of a pair cannot be shown. -/
def textOf (points : List Nat) : String :=
  String.ofList (points.map fun n => if (Char.ofNat n).toNat = n then Char.ofNat n else '\ufffd')

/-- The text of an unformatted quoted text. -/
def Quoted.text? (q : Quoted) : Option String :=
  if q.raw then some (String.ofList q.body)
  else (unescape false (q.body.length + 1) q.body).map textOf

/-- The bytes of a quoted text; nothing if it holds more than ASCII. -/
def Quoted.bytes? (q : Quoted) : Option (List UInt8) :=
  if q.body.any (fun c => c.toNat ≥ 128) then none
  else if q.raw then some (q.body.map (·.toNat.toUInt8))
  else (unescape true (q.body.length + 1) q.body).map (·.map Nat.toUInt8)

/-! ## Formatted texts -/

/-- The literal text up to a brace that matters, and the rest. Inside a format a brace is never
doubled. -/
def literalPart (raw inner : Bool) : List Char → List Char × List Char
  | [] => ([], [])
  | '\\' :: c :: rest =>
    if raw then
      let (l, r) := literalPart raw inner (c :: rest)
      ('\\' :: l, r)
    else if c = '\x7b' || c = '\x7d' then
      let (l, r) := literalPart raw inner (c :: rest)
      ('\\' :: '\\' :: l, r)
    else
      let (l, r) := literalPart raw inner rest
      ('\\' :: c :: l, r)
  | c :: rest =>
    if c = '\x7b' || c = '\x7d' then
      match rest with
      | d :: rest' =>
        if !inner && d = c then
          let (l, r) := literalPart raw inner rest'
          (c :: l, r)
        else ([], c :: rest)
      | [] => ([], c :: rest)
    else
      let (l, r) := literalPart raw inner rest
      (c :: l, r)

/-- A quote that is open inside an expression. -/
structure OpenQuote where
  quote : Char
  triple : Bool
deriving DecidableEq

/-- The text of an expression up to the character that ends it, and the rest from there; nothing if
the text cannot be one. `brackets` are those that would close the ones open, innermost first. -/
def expressionPart : Nat → Option OpenQuote → List Char → List Char →
    Option (List Char × List Char)
  | 0, _, _, _ => none
  | _, _, _, [] => none
  | fuel + 1, quote, brackets, c :: rest =>
    let keep := fun (n : Nat) (quote : Option OpenQuote) (brackets : List Char) => do
      let (l, r) ← expressionPart fuel quote brackets ((c :: rest).drop n)
      some ((c :: rest).take n ++ l, r)
    if c = '\\' then none
    else
      match quote with
      | some q =>
        if c = q.quote then
          if !q.triple then keep 1 none brackets
          else if rest.take 2 = [c, c] then keep 3 none brackets
          else keep 1 quote brackets
        else keep 1 quote brackets
      | none =>
        if c = '"' || c = '\'' then
          if rest.take 2 = [c, c] then keep 3 (some ⟨c, true⟩) brackets
          else keep 1 (some ⟨c, false⟩) brackets
        else if c = '(' then keep 1 none (')' :: brackets)
        else if c = '[' then keep 1 none (']' :: brackets)
        else if c = '\x7b' then keep 1 none ('\x7d' :: brackets)
        else if c = '#' then none
        else if brackets.isEmpty && (c = '!' || c = ':' || c = '\x7d' || c = '=' || c = '<' || c = '>') then
          if rest.head? = some '=' && (c = '!' || c = '=' || c = '<' || c = '>') then
            keep 2 none brackets
          else if c = '<' || c = '>' then keep 1 none brackets
          else some ([], c :: rest)
        else if c = ')' || c = ']' || c = '\x7d' then
          match brackets with
          | close :: more => if close = c then keep 1 none more else none
          | [] => none
        else keep 1 none brackets

end ScriptShell.Script
