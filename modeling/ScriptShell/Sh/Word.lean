/-!
# Words and tokens of the command language

A word is a list of parts: text, which quotes may protect, parameters and the output of commands.
A program text is cut into words, operators and redirections; the line of each is kept for the
complaints.
-/

namespace ScriptShell.Sh

/-- What a braced parameter stands for when it has no value, or when it has one. -/
inductive Alternative
  /-- the word, if the parameter is unset; `orEmpty` says that an empty value counts as unset -/
  | default (orEmpty : Bool) (source : String)
  /-- the word, if the parameter is set -/
  | replacement (orEmpty : Bool) (source : String)
  /-- the length of the value -/
  | length
deriving Repr, DecidableEq, Inhabited

/-- A part of a word. Parts inside double quotes are not split afterwards. -/
inductive Part
  | text (s : String) (quoted : Bool)
  | parameter (name : String) (alternative : Option Alternative) (quoted : Bool)
  /-- the output of a program text -/
  | command (source : String) (quoted : Bool)
deriving Repr, DecidableEq, Inhabited

abbrev Word := List Part

/-- Which way a redirection goes. -/
inductive Redirection
  | input | output | append | duplicate
deriving Repr, DecidableEq, Inhabited

inductive Token
  | word (w : Word)
  | op (text : String)
  /-- a redirection of the stream with this number -/
  | redirect (stream : Nat) (kind : Redirection)
deriving Repr, DecidableEq, Inhabited

/-- The text of a word without quotes, parameters and commands. -/
def plainText? (w : Word) : Option String :=
  w.foldlM (fun s p =>
    match p with
    | .text t false => some (s ++ t)
    | _ => none) ""

def isNameStart (c : Char) : Bool := c.isAlpha || c = '_'

def isNameChar (c : Char) : Bool := c.isAlphanum || c = '_'

/-- The characters that end a word. -/
def isMeta (c : Char) : Bool := " \t\n;&|<>()".toList.contains c

/-- The text up to the bracket that closes the one open before it, and what follows the bracket. -/
def bracketed (opening closing : Char) : Nat → List Char → Option (List Char × List Char)
  | _, [] => none
  | depth, '\\' :: c :: rest =>
    (bracketed opening closing depth rest).map fun (a, b) => ('\\' :: c :: a, b)
  | depth, c :: rest =>
    if c = closing then
      match depth with
      | 0 => some ([], rest)
      | depth + 1 => (bracketed opening closing depth rest).map fun (a, b) => (c :: a, b)
    else
      (bracketed opening closing (if c = opening then depth + 1 else depth) rest).map
        fun (a, b) => (c :: a, b)

/-- The text up to a character, and what follows it. -/
def upTo (stop : Char) : List Char → Option (List Char × List Char)
  | [] => none
  | c :: rest =>
    if c = stop then some ([], rest) else (upTo stop rest).map fun (a, b) => (c :: a, b)

/-- The text up to a backquote, in which backslashes protect it, and what follows. -/
def backquoted : List Char → Option (List Char × List Char)
  | [] => none
  | '\\' :: c :: rest =>
    (backquoted rest).map fun (a, b) =>
      (if c = '\x60' || c = '\\' || c = '$' then (c :: a, b) else ('\\' :: c :: a, b))
  | c :: rest =>
    if c = '\x60' then some ([], rest) else (backquoted rest).map fun (a, b) => (c :: a, b)

/-- The name at the start of a text: letters, digits and underscores, or one special character. -/
def parameterName : List Char → List Char × List Char
  | [] => ([], [])
  | c :: rest =>
    if isNameStart c then ((c :: rest).takeWhile isNameChar, (c :: rest).dropWhile isNameChar)
    else if c.isDigit || "@*#?$!-".toList.contains c then ([c], rest)
    else ([], c :: rest)

/-- The parameter inside braces. -/
def bracedParameter (quoted : Bool) (inside : List Char) : Option Part :=
  match inside with
  | '#' :: c :: rest => some (.parameter (String.ofList (c :: rest)) (some .length) quoted)
  | _ =>
    let (name, rest) :=
      if (inside.head?.map Char.isDigit).getD false then
        (inside.takeWhile Char.isDigit, inside.dropWhile Char.isDigit)
      else parameterName inside
    let make := fun (alternative : Option Alternative) =>
      some (Part.parameter (String.ofList name) alternative quoted)
    if name.isEmpty then none
    else
      match rest with
      | [] => make none
      | ':' :: '-' :: word => make (some (.default true (String.ofList word)))
      | '-' :: word => make (some (.default false (String.ofList word)))
      | ':' :: '+' :: word => make (some (.replacement true (String.ofList word)))
      | '+' :: word => make (some (.replacement false (String.ofList word)))
      | _ => none

/-- What a dollar sign stands for with what follows it, and the rest. -/
def afterDollar (quoted : Bool) (cs : List Char) : Option (Part × List Char) :=
  match cs with
  | '(' :: rest => do
    let (inside, rest) ← bracketed '(' ')' 0 rest
    some (.command (String.ofList inside) quoted, rest)
  | c :: rest =>
    if c = '\x7b' then do
      let (inside, rest) ← bracketed '\x7b' '\x7d' 0 rest
      some (← bracedParameter quoted inside, rest)
    else
      match parameterName cs with
      | ([], _) => some (.text "$" quoted, cs)
      | (name, rest) => some (.parameter (String.ofList name) none quoted, rest)
  | [] => some (.text "$" quoted, [])

/-- The parts of a word, inside double quotes or outside, and the rest of the text; nothing if a
quote or bracket is not closed. -/
def wordParts : Nat → Bool → List Char → Option (Word × List Char)
  | 0, _, _ => none
  | _ + 1, true, [] => none
  | _ + 1, false, [] => some ([], [])
  | fuel + 1, quoted, c :: rest =>
    let with_ := fun (p : Part) (rest : List Char) =>
      (wordParts fuel quoted rest).map fun (w, rest) => (p :: w, rest)
    if quoted && c = '"' then some ([], rest)
    else if !quoted && isMeta c then some ([], c :: rest)
    else if c = '\\' then
      match rest with
      | [] => with_ (.text "\\" true) []
      | '\n' :: rest => wordParts fuel quoted rest
      | d :: rest =>
        if !quoted || d = '$' || d = '\x60' || d = '"' || d = '\\' then
          with_ (.text d.toString true) rest
        else with_ (.text (String.ofList ['\\', d]) true) rest
    else if !quoted && c = '\'' then do
      let (inside, rest) ← upTo '\'' rest
      with_ (.text (String.ofList inside) true) rest
    else if !quoted && c = '"' then do
      let (inside, rest) ← wordParts fuel true rest
      let (w, rest) ← wordParts fuel false rest
      some ((if inside.isEmpty then [.text "" true] else inside) ++ w, rest)
    else if c = '$' then do
      let (p, rest) ← afterDollar quoted rest
      with_ p rest
    else if c = '\x60' then do
      let (inside, rest) ← backquoted rest
      with_ (.command (String.ofList inside) quoted) rest
    else with_ (.text c.toString quoted) rest

/-- The operator at the start of a text, and the rest. -/
def operator? : List Char → Option (String × List Char)
  | '&' :: '&' :: rest => some ("&&", rest)
  | '|' :: '|' :: rest => some ("||", rest)
  | '&' :: rest => some ("&", rest)
  | '|' :: rest => some ("|", rest)
  | ';' :: rest => some (";", rest)
  | '(' :: rest => some ("(", rest)
  | ')' :: rest => some (")", rest)
  | '\n' :: rest => some ("\n", rest)
  | _ => none

/-- The redirection at the start of a text, and the rest. -/
def redirection? (cs : List Char) : Option (Token × List Char) :=
  let digits := cs.takeWhile Char.isDigit
  let number := fun (usual : Nat) => ((String.ofList digits).toNat?).getD usual
  match cs.dropWhile Char.isDigit with
  | '>' :: '>' :: rest => some (.redirect (number 1) .append, rest)
  | '>' :: '&' :: rest => some (.redirect (number 1) .duplicate, rest)
  | '>' :: '|' :: rest => some (.redirect (number 1) .output, rest)
  | '>' :: rest => some (.redirect (number 1) .output, rest)
  | '<' :: rest => some (.redirect (number 0) .input, rest)
  | _ => none

/-- The tokens of a program text, with their lines. -/
def tokens : Nat → Nat → List Char → Option (List (Nat × Token))
  | 0, _, _ => none
  | _ + 1, _, [] => some []
  | fuel + 1, line, c :: rest =>
    if c = ' ' || c = '\t' then tokens fuel line rest
    else if c = '#' then tokens fuel line (rest.dropWhile (· != '\n'))
    else if c = '\\' && rest.head? = some '\n' then tokens fuel (line + 1) rest.tail
    else
      match redirection? (c :: rest) with
      | some (t, rest) => (tokens fuel line rest).map ((line, t) :: ·)
      | none =>
        match operator? (c :: rest) with
        | some (text, rest) =>
          (tokens fuel (if c = '\n' then line + 1 else line) rest).map ((line, .op text) :: ·)
        | none => do
          let (w, after) ← wordParts (rest.length + 2) false (c :: rest)
          let read := (c :: rest).take (rest.length + 1 - after.length)
          let more ← tokens fuel (line + read.count '\n') after
          some ((line, .word w) :: more)

/-- The tokens of a program text; nothing if a quote or bracket is not closed. -/
def tokenize? (text : String) : Option (List (Nat × Token)) :=
  tokens (text.length + 1) 1 text.toList

end ScriptShell.Sh
