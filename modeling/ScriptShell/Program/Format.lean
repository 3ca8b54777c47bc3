/-!
# Formatted output

Backslash escapes, and formats with directives that are filled from arguments. A format is used
again while arguments are left; an argument that is missing is empty, or zero for a number.
-/

namespace ScriptShell.Program.Format

/-- The bytes of a character. -/
def charBytes (c : Char) : List UInt8 := c.toString.toUTF8.toList

/-- The value of the octal digits at the start of a text, at most `limit` of them, and the rest. -/
def octal : Nat → Nat → List Char → Nat × List Char
  | 0, n, cs => (n, cs)
  | _, n, [] => (n, [])
  | limit + 1, n, c :: cs =>
    if '0' ≤ c ∧ c ≤ '7' then octal limit (8 * n + (c.toNat - '0'.toNat)) cs else (n, c :: cs)

/-- The byte that a letter after a backslash stands for. -/
def escapeByte? : Char → Option UInt8
  | 'a' => some 7
  | 'b' => some 8
  | 'f' => some 12
  | 'n' => some 10
  | 'r' => some 13
  | 't' => some 9
  | 'v' => some 11
  | '\\' => some 92
  | _ => none

/-- The bytes of a text with its escapes, and whether an escape ends the output there. In arguments
an octal escape starts with a zero, in formats it need not. -/
def escaped (inFormat : Bool) : Nat → List Char → List UInt8 × Bool
  | 0, _ => ([], false)
  | _, [] => ([], false)
  | fuel + 1, '\\' :: c :: rest =>
    let continue_ := fun (bytes : List UInt8) (rest : List Char) =>
      let (more, ended) := escaped inFormat fuel rest
      (bytes ++ more, ended)
    if !inFormat && c = 'c' then ([], true)
    else
      match escapeByte? c with
      | some b => continue_ [b] rest
      | none =>
        if !inFormat && c = '0' then
          let (n, rest) := octal 3 0 rest
          continue_ [n.toUInt8] rest
        else if inFormat && '0' ≤ c && c ≤ '7' then
          let (n, rest) := octal 3 0 (c :: rest)
          continue_ [n.toUInt8] rest
        else continue_ (charBytes '\\' ++ charBytes c) rest
  | fuel + 1, c :: rest =>
    let (more, ended) := escaped inFormat fuel rest
    (charBytes c ++ more, ended)

/-- What the shell's `echo` writes. -/
def echo (args : List String) : ByteArray :=
  let (words, newline) := match args with
    | "-n" :: rest => (rest, false)
    | _ => (args, true)
  let text := (" ".intercalate words).toList
  let (bytes, ended) := escaped false (text.length + 1) text
  ⟨(bytes ++ if newline && !ended then [10] else []).toArray⟩

/-- A number as an argument gives it; text that is no number counts as zero. -/
def numberOf (arg : String) : Int :=
  match arg.toInt? with
  | some n => n
  | none => if arg.startsWith "+" then ((arg.drop 1).toString.toInt?).getD 0 else 0

/-- `text` filled up with blanks to a width. -/
def padded (leftAligned zeros : Bool) (width : Nat) (text : String) : String :=
  let fill := width - text.length
  if leftAligned then text ++ "".pushn ' ' fill
  else if zeros then "".pushn '0' fill ++ text
  else "".pushn ' ' fill ++ text

/-- One pass over a format: the bytes, the arguments left, and whether an escape ends the output. -/
def pass : Nat → List Char → List String → List UInt8 × List String × Bool
  | 0, _, args => ([], args, false)
  | _, [], args => ([], args, false)
  | fuel + 1, '%' :: '%' :: rest, args =>
    let (more, args, ended) := pass fuel rest args
    (37 :: more, args, ended)
  | fuel + 1, '%' :: rest, args =>
    let flags := rest.takeWhile (fun c => c = '-' || c = '0')
    let rest := rest.dropWhile (fun c => c = '-' || c = '0')
    let width := ((String.ofList (rest.takeWhile Char.isDigit)).toNat?).getD 0
    let rest := rest.dropWhile Char.isDigit
    let precision : Option Nat := match rest with
      | '.' :: r => some (((String.ofList (r.takeWhile Char.isDigit)).toNat?).getD 0)
      | _ => none
    let rest := match rest with
      | '.' :: r => r.dropWhile Char.isDigit
      | r => r
    let left := flags.contains '-'
    let arg := args.headD ""
    let finish := fun (text : String) (rest : List Char) =>
      let (more, args, ended) := pass fuel rest args.tail
      ((padded left (flags.contains '0') width text).toUTF8.toList ++ more, args, ended)
    match rest with
    | 's' :: rest => finish (match precision with
        | some n => (arg.take n).toString
        | none => arg) rest
    | 'b' :: rest =>
      let (bytes, stop) := escaped false (arg.length + 1) arg.toList
      if stop then (bytes, args.tail, true)
      else
        let (more, args, ended) := pass fuel rest args.tail
        (bytes ++ more, args, ended)
    | 'c' :: rest => finish (arg.take 1).toString rest
    | 'd' :: rest | 'i' :: rest | 'u' :: rest => finish (toString (numberOf arg)) rest
    | 'x' :: rest => finish (String.ofList (Nat.toDigits 16 (numberOf arg).toNat)) rest
    | 'X' :: rest =>
      finish ((String.ofList (Nat.toDigits 16 (numberOf arg).toNat)).map Char.toUpper) rest
    | 'o' :: rest => finish (String.ofList (Nat.toDigits 8 (numberOf arg).toNat)) rest
    | rest =>
      let (more, args, ended) := pass fuel rest args
      (37 :: more, args, ended)
  | fuel + 1, '\\' :: c :: rest, args =>
    let (n, octalRest) := octal 3 0 (c :: rest)
    let (bytes, rest) := match escapeByte? c with
      | some b => ([b], rest)
      | none =>
        if '0' ≤ c && c ≤ '7' then ([n.toUInt8], octalRest)
        else (charBytes '\\' ++ charBytes c, rest)
    let (more, args, ended) := pass fuel rest args
    (bytes ++ more, args, ended)
  | fuel + 1, c :: rest, args =>
    let (more, args, ended) := pass fuel rest args
    (charBytes c ++ more, args, ended)

/-- Passes over a format until the arguments are used up. -/
def passes (format : List Char) : Nat → List String → List UInt8
  | 0, _ => []
  | fuel + 1, args =>
    let (bytes, left, ended) := pass (format.length + 1) format args
    if ended || left.isEmpty || left.length = args.length then bytes
    else bytes ++ passes format fuel left

/-- What `printf` writes for a format and its arguments. -/
def printf (format : String) (args : List String) : ByteArray :=
  ⟨(passes format.toList (args.length + 1) args).toArray⟩

end ScriptShell.Program.Format
