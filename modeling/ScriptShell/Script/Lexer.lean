import ScriptShell.Script.Token
import ScriptShell.Text.Identifier
/-!
# From text to tokens

The text is read line by line. The blanks at the start of a line say which block it is in; inside
brackets lines and blanks mean nothing. Reading stops at the first fault, and what was read before
it stands.
-/

namespace ScriptShell.Script

/-- Line ends of all kinds as line feeds, with one at the end: after a last line that ends in two
characters there is one more, empty line. -/
def normalLines (text : List Char) : List Char :=
  let rec go : List Char → List Char
    | [] => []
    | '\r' :: '\n' :: rest => '\n' :: go rest
    | '\r' :: rest => '\n' :: go rest
    | c :: rest => c :: go rest
  let l := go text
  match l.getLast? with
  | none => []
  | some '\n' => if text.reverse.take 2 = ['\n', '\r'] then l ++ ['\n'] else l
  | some _ => l ++ ['\n']

/-! ## Numbers -/

/-- Digits with single underscores between them: the digits, and the rest. Nothing if an
underscore has no digit after it. -/
def digitRun (isDigit : Char → Bool) : Nat → List Char → Option (List Char × List Char)
  | 0, cs => some ([], cs)
  | fuel + 1, cs =>
    let here := cs.takeWhile isDigit
    match cs.dropWhile isDigit with
    | '_' :: rest =>
      if here.isEmpty || !((rest.head?.map isDigit).getD false) then none
      else (digitRun isDigit fuel rest).map fun (more, rest) => (here ++ more, rest)
    | rest => some (here, rest)

/-- The value of a digit up to the letter f. -/
def digitValue (c : Char) : Nat :=
  if c.isDigit then c.toNat - '0'.toNat else (c.toLower.toNat - 'a'.toNat) + 10

def digitsValue (base : Nat) (ds : List Char) : Nat := ds.foldl (fun n c => n * base + digitValue c) 0

/-- Whether what follows a number may follow it. A word that joins expressions may. -/
def endsNumber (rest : List Char) : Bool :=
  ["and", "else", "for", "if", "in", "is", "not", "or"].any (fun w => w.toList.isPrefixOf rest) ||
    !((rest.head?.map (fun c => Text.isIdentifierContinue c || c.toNat ≥ 128)).getD false)

/-- A whole number with a base given by a letter. -/
def basedNumber (base : Nat) (isDigit : Char → Bool) (cs : List Char) :
    Option (Number × List Char) := do
  let cs := match cs with
    | '_' :: rest => rest
    | cs => cs
  let (ds, rest) ← digitRun isDigit (cs.length + 1) cs
  if ds.isEmpty || !endsNumber rest then none
  else some (.int (digitsValue base ds), rest)

/-- The exponent after a mantissa: its value, and the rest; zero and the whole if there is none. -/
def exponentPart (cs : List Char) : Option (Option Int × List Char) :=
  match cs with
  | e :: rest =>
    if e = 'e' || e = 'E' then
      let (negative, digits) := match rest with
        | '-' :: r => (true, r)
        | '+' :: r => (false, r)
        | r => (false, r)
      let signed := rest.head? == some '-' || rest.head? == some '+'
      if (digits.head?.map Char.isDigit).getD false then do
        let (ds, rest) ← digitRun Char.isDigit (digits.length + 1) digits
        let n : Int := digitsValue 10 ds
        some (some (if negative then -n else n), rest)
      else if signed then none
      else some (none, cs)
    else some (none, cs)
  | [] => some (none, cs)

/-- The number at the start of a text, and the rest; nothing if it is written wrongly. -/
def number? (cs : List Char) : Option (Number × List Char) := do
  match cs with
  | '0' :: x :: rest =>
    if x = 'x' || x = 'X' then
      basedNumber 16 (fun c => c.isDigit || ('a' ≤ c.toLower && c.toLower ≤ 'f')) rest
    else if x = 'o' || x = 'O' then
      basedNumber 8 (fun c => '0' ≤ c && c ≤ '7') rest
    else if x = 'b' || x = 'B' then
      basedNumber 2 (fun c => c = '0' || c = '1') rest
    else decimal cs
  | _ => decimal cs
where
  decimal (cs : List Char) : Option (Number × List Char) := do
    let (whole, rest) ← match cs with
      | '.' :: _ => some ([], cs)
      | _ => digitRun Char.isDigit (cs.length + 1) cs
    let (fraction, rest) ← match rest with
      | '.' :: r => do
        if (r.head?.map Char.isDigit).getD false then
          let (ds, r) ← digitRun Char.isDigit (r.length + 1) r
          some (some ds, r)
        else some (some [], r)
      | r => some (none, r)
    let (exponent, rest) ← exponentPart rest
    let (imaginary, rest) := match rest with
      | j :: r => if j = 'j' || j = 'J' then (true, r) else (false, rest)
      | [] => (false, rest)
    if !endsNumber rest then none
    else if imaginary then some (.imaginary, rest)
    else
      match fraction, exponent with
      | none, none =>
        if whole.head? == some '0' && whole.any (· != '0') then none
        else some (.int (digitsValue 10 whole), rest)
      | f, e =>
        let f := f.getD []
        some (.float (digitsValue 10 (whole ++ f)) (e.getD 0 - f.length), rest)

/-! ## Texts between quotes -/

/-- The characters up to the closing quotes, and what follows them; nothing if there are none, or a
line ends before them where that is not allowed. -/
def quotedBody (quote : Char) (triple : Bool) : List Char → Option (List Char × List Char)
  | [] => none
  | '\\' :: c :: rest => (quotedBody quote triple rest).map fun (b, r) => ('\\' :: c :: b, r)
  | c :: rest =>
    if c = '\n' && !triple then none
    else if c = quote then
      if !triple then some ([], rest)
      else
        match rest with
        | a :: b :: rest' =>
          if a = quote && b = quote then some ([], rest')
          else (quotedBody quote triple rest).map fun (b, r) => (c :: b, r)
        | _ => none
    else (quotedBody quote triple rest).map fun (b, r) => (c :: b, r)

/-- The kind of text that letters before a quote ask for. -/
def quotedKind? (letters : List Char) : Option Quoted :=
  match String.ofList (letters.map Char.toLower) with
  | "" | "u" => some { body := [] }
  | "r" => some { raw := true, body := [] }
  | "b" => some { bytes := true, body := [] }
  | "f" => some { format := true, body := [] }
  | "br" | "rb" => some { bytes := true, raw := true, body := [] }
  | "fr" | "rf" => some { format := true, raw := true, body := [] }
  | _ => none

/-- The text that starts with this quote, with the quote already read. -/
def afterQuote (kind : Quoted) (quote : Char) (rest : List Char) : Option (Token × List Char) :=
  let (triple, rest) := match rest with
    | a :: b :: r => if a = quote && b = quote then (true, r) else (false, rest)
    | _ => (false, rest)
  (quotedBody quote triple rest).map fun (body, rest) => (.quoted { kind with body }, rest)

/-! ## Operators -/

/-- The operators, longer ones before those they start with. -/
def operators : List String :=
  ["**=", "//=", ">>=", "<<=", "...", "!=", "->", ":=", "==", "<=", ">=", "+=", "-=", "*=", "/=",
    "%=", "&=", "|=", "^=", "@=", "**", "//", ">>", "<<", "<>", "+", "-", "*", "/", "%", "@", "&",
    "|", "^", "~", "<", ">", "=", ".", ",", ":", ";", "(", ")", "[", "]", "\x7b", "\x7d"]

/-- The operator at the start of a text, and the rest. -/
def operator? (cs : List Char) : Option (String × List Char) :=
  (operators.find? fun o => o.toList.isPrefixOf cs).map fun o => (o, cs.drop o.length)

/-- The bracket that closes another. -/
def closing? : String → Option String
  | "(" => some ")"
  | "[" => some "]"
  | "\x7b" => some "\x7d"
  | _ => none

/-- How deep brackets may be nested. -/
def bracketLimit : Nat := 200

/-- How deep blocks may be nested. -/
def blockLimit : Nat := 100

/-! ## Lines -/

/-- The state of the reader. -/
structure Reader where
  tokens : Array Token := #[]
  /-- the columns of the blocks that are open, innermost first, with tabs eight wide and one wide -/
  blocks : List (Nat × Nat) := []
  /-- the brackets that would close those open, innermost first -/
  brackets : List String := []
  /-- whether a line starts here -/
  fresh : Bool := true
deriving Inhabited

namespace Reader

def push (r : Reader) (t : Token) : Reader := { r with tokens := r.tokens.push t, fresh := false }

/-- What was read, with a fault at its end. -/
def stop (r : Reader) (fault : SourceFault) (hard : Bool) : Tokens :=
  { tokens := r.tokens, fault := some ⟨fault, hard⟩ }

/-- The end of the text: the last line and all blocks end. -/
def finish (r : Reader) : Tokens :=
  let line := match r.tokens.back? with
    | none | some .newline | some .dedent | some .indent => r.tokens
    | some _ => if r.brackets.isEmpty then r.tokens.push .newline else r.tokens
  let line := if r.brackets.isEmpty then r.blocks.foldl (fun ts _ => ts.push .dedent) line else line
  { tokens := line.push .endOfText }

/-- Opens or closes blocks for a line that starts in this column. -/
def indented (r : Reader) (column : Nat × Nat) : Except SourceFault Reader :=
  let current := r.blocks.head?.getD (0, 0)
  if column.1 = current.1 then
    if column.2 = current.2 then .ok r else .error .tabs
  else if column.1 > current.1 then
    if column.2 ≤ current.2 then .error .tabs
    else if r.blocks.length + 1 ≥ blockLimit then .error .indentation
    else .ok { r.push .indent with blocks := column :: r.blocks }
  else
    let closed := r.blocks.takeWhile (fun b => b.1 > column.1)
    let left := r.blocks.drop closed.length
    let r := { closed.foldl (fun r _ => r.push .dedent) r with blocks := left }
    let current := left.head?.getD (0, 0)
    if column.1 ≠ current.1 then .error .indentation
    else if column.2 ≠ current.2 then .error .tabs
    else .ok r

end Reader

/-- The column after the blanks at the start of a line, with tabs eight wide and one wide, and the
rest. A line that is continued keeps the column of its first part that is indented. -/
def column : Nat → Nat → Nat × Nat → List Char → Option ((Nat × Nat) × List Char)
  | 0, _, col, cs => some (col, cs)
  | fuel + 1, kept, (col, alt), cs =>
    match cs with
    | ' ' :: rest => column fuel kept (col + 1, alt + 1) rest
    | '\t' :: rest => column fuel kept ((col / 8 + 1) * 8, alt + 1) rest
    | '\x0c' :: rest => column fuel kept (0, 0) rest
    | '\\' :: '\n' :: rest =>
      if rest.isEmpty then none else column fuel (if kept = 0 then col else kept) (col, alt) rest
    | '\\' :: _ => none
    | _ => some (if kept = 0 then (col, alt) else (kept, kept), cs)

/-- Marks that are tokens and that no rule of the grammar takes. -/
def unknownMarks : List Char := ['!', '$', '?', '\x60']

/-- Reads tokens from here. -/
def readTokens : Nat → Reader → List Char → Tokens
  | 0, r, _ => r.finish
  | _ + 1, r, [] => r.finish
  | fuel + 1, r, c :: rest =>
    if r.fresh && r.brackets.isEmpty then
      match column (rest.length + 1) 0 (0, 0) (c :: rest) with
      | none => r.stop .invalid false
      | some (col, cs) =>
        match cs with
        | [] => r.finish
        | '\n' :: cs => readTokens fuel r cs
        | '#' :: cs => readTokens fuel r ((cs.dropWhile (· != '\n')).drop 1)
        | _ =>
          match r.indented col with
          | .error fault => r.stop fault false
          | .ok r => readTokens fuel { r with fresh := false } cs
    else if c = ' ' || c = '\t' || c = '\x0c' then readTokens fuel r rest
    else if c = '#' then readTokens fuel r (rest.dropWhile (· != '\n'))
    else if c = '\n' then
      if r.brackets.isEmpty then readTokens fuel { r.push .newline with fresh := true } rest
      else readTokens fuel r rest
    else if c = '\\' then
      match rest with
      | '\n' :: rest => if rest.isEmpty then r.stop .invalid false else readTokens fuel r rest
      | _ => r.stop .invalid false
    else if c.isDigit || (c = '.' && (rest.head?.map Char.isDigit).getD false) then
      match number? (c :: rest) with
      | some (n, rest) => readTokens fuel (r.push (.number n)) rest
      | none => r.stop .invalid true
    else if c.isAlpha || c = '_' || c.toNat ≥ 128 then
      let isPart := fun (c : Char) => c.isAlphanum || c = '_' || c.toNat ≥ 128
      let word := (c :: rest).takeWhile isPart
      let after := (c :: rest).dropWhile isPart
      let quote? := match after with
        | q :: after => if q = '"' || q = '\'' then (quotedKind? word).map (·, q, after) else none
        | [] => none
      match quote? with
      | some (kind, q, after) =>
        match afterQuote kind q after with
        | some (t, rest) => readTokens fuel (r.push t) rest
        | none => r.stop .invalid true
      | none =>
        let id := String.ofList word
        if Text.isIdentifier id then readTokens fuel (r.push (.name id)) after
        else r.stop .invalid true
    else if c = '"' || c = '\'' then
      match afterQuote { body := [] } c rest with
      | some (t, rest) => readTokens fuel (r.push t) rest
      | none => r.stop .invalid true
    else
      match operator? (c :: rest) with
      | none =>
        if unknownMarks.contains c then readTokens fuel (r.push (.op (String.singleton c))) rest
        else r.stop .invalid true
      | some (o, rest) =>
        match closing? o with
        | some close =>
          if r.brackets.length ≥ bracketLimit then r.stop .invalid true
          else readTokens fuel { r.push (.op o) with brackets := close :: r.brackets } rest
        | none =>
          if o = ")" || o = "]" || o = "\x7d" then
            match r.brackets with
            | close :: more =>
              if close = o then readTokens fuel { r.push (.op o) with brackets := more } rest
              else r.stop .invalid true
            | [] => r.stop .invalid true
          else readTokens fuel (r.push (.op o)) rest

/-- The tokens of a text. -/
def Tokens.ofText (text : String) : Tokens :=
  let cs := normalLines text.toList
  readTokens (2 * cs.length + 2) {} cs

/-- The tokens of an expression that stands inside brackets of its own. -/
def Tokens.ofBracketed (cs : List Char) : Tokens :=
  let cs := normalLines ('(' :: cs ++ [')'])
  readTokens (2 * cs.length + 2) {} cs

end ScriptShell.Script
