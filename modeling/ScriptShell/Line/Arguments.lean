/-!
# Arguments of a typed line

A line is split into arguments at its unquoted spaces. A double quote toggles quoting and is
dropped, an unquoted tilde stands for the home directory, and a word that comes out empty is no
argument. The scan is one pass over the characters; its state between two characters is a `Scan`.

* `Line.arguments` is the whole split, over `String`; `Line.scanArguments` is the same over
  characters.
-/

namespace ScriptShell.Line

/-- The scan between two characters of a line. Both lists are newest first. -/
structure Scan where
  /-- the arguments that are complete -/
  finished : List (List Char) := []
  /-- the characters of the word being read -/
  word : List Char := []
  /-- whether the next character stands between quotes -/
  quoted : Bool := false
deriving Repr, DecidableEq

namespace Scan

/-- Ends the word being read: it becomes an argument unless it is empty. -/
def endWord (s : Scan) : Scan :=
  match s.word with
  | [] => s
  | w => { s with finished := w.reverse :: s.finished, word := [] }

/-- Reads one character, the home directory standing in for an unquoted tilde. -/
def step (home : List Char) (s : Scan) (c : Char) : Scan :=
  if c = '"' then { s with quoted := !s.quoted }
  else if s.quoted then { s with word := c :: s.word }
  else if c = '~' then { s with word := home.reverseAux s.word }
  else if c = ' ' then s.endWord
  else { s with word := c :: s.word }

/-- The arguments read when the line ends here, in order. -/
def arguments (s : Scan) : List (List Char) := s.endWord.finished.reverse

end Scan

/-- The arguments of a line as lists of characters. -/
def scanArguments (home line : List Char) : List (List Char) :=
  (line.foldl (Scan.step home) {}).arguments

/-- The arguments of `line`, with `home` for every unquoted tilde. -/
def arguments (home line : String) : List String :=
  (scanArguments home.toList line.toList).map String.ofList

end ScriptShell.Line
