import ScriptShell.Text.Case
import ScriptShell.Text.Printable
/-!
# Pieces of a text

Finding a text in another, and cutting a text at separators, at blanks and at the ends of its lines.
-/

namespace ScriptShell.Text

/-- Where a text stands in another, from a position on. -/
def findFrom (needle : List Char) : Nat → List Char → Option Nat
  | i, [] => if needle.isEmpty then some i else none
  | i, c :: rest =>
    if needle.isPrefixOf (c :: rest) then some i else findFrom needle (i + 1) rest

/-- The pieces of a text between separators, at most so many cuts. -/
def splitOnText (separator : List Char) : Nat → Nat → List Char → List (List Char)
  | 0, _, cs => [cs]
  | _ + 1, 0, cs => [cs]
  | fuel + 1, cuts + 1, cs =>
    match findFrom separator 0 cs with
    | none => [cs]
    | some i => cs.take i :: splitOnText separator fuel cuts (cs.drop (i + separator.length))

/-- The words of a text, at most so many cuts. -/
def splitBlanks : Nat → Nat → List Char → List (List Char)
  | 0, _, _ => []
  | fuel + 1, cuts, cs =>
    match cs.dropWhile isBlank with
    | [] => []
    | cs =>
      match cuts with
      | 0 => [(cs.reverse.dropWhile isBlank).reverse]
      | cuts + 1 =>
        cs.takeWhile (!isBlank ·) :: splitBlanks fuel cuts (cs.dropWhile (!isBlank ·))

/-- A text with another in the place of each occurrence, at most so many. -/
def replaceAll (old new : List Char) (count : Nat) (cs : List Char) : List Char :=
  if old.isEmpty then
    let pieces := cs.map fun c => [c]
    let changed := (pieces.take count).flatMap (new ++ ·) ++ (pieces.drop count).flatten
    if count > cs.length then changed ++ new else changed
  else new.intercalate (splitOnText old (cs.length + 1) count cs)

/-- The characters that end a line. -/
def isLineEnd (c : Char) : Bool :=
  [0x0a, 0x0b, 0x0c, 0x0d, 0x1c, 0x1d, 0x1e, 0x85, 0x2028, 0x2029].contains c.toNat

/-- The lines of a text, without their ends or with them. -/
def lines (keep : Bool) : List Char → List (List Char)
  | [] => []
  | '\r' :: '\n' :: rest => (if keep then ['\r', '\n'] else []) :: lines keep rest
  | c :: rest =>
    if isLineEnd c then (if keep then [c] else []) :: lines keep rest
    else
      match lines keep rest with
      | [] => [[c]]
      | l :: more => (c :: l) :: more

/-- A text whose words start with capitals. -/
def titled : Bool → List Char → List Char
  | _, [] => []
  | inWord, c :: rest =>
    (if inWord then small c else initial c) ++ titled (isCased c) rest

/-- A text in the middle of a width. -/
def centred (width : Nat) (c : Char) (s : String) : String :=
  let n := width - s.length
  let left := n / 2 + (if n % 2 = 1 && width % 2 = 1 then 1 else 0)
  "".pushn c left ++ s ++ "".pushn c (n - left)

/-- Takes characters away from the ends of a text. -/
def stripped (left right : Bool) (p : Char → Bool) (s : String) : String :=
  let cs := s.toList
  let cs := if left then cs.dropWhile p else cs
  let cs := if right then (cs.reverse.dropWhile p).reverse else cs
  String.ofList cs

end ScriptShell.Text
