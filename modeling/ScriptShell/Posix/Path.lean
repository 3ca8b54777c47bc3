/-!
# Path texts

A path is text. Its steps are the names between slashes; a lone dot inside a path and repeated
slashes are no steps of their own. `Path.join` puts a name below a directory and `Path.parent?` is
the path up to the last step but one, as it is written there.
-/

namespace ScriptShell.Path

/-- What stands between the slashes of a path. -/
def pieces (path : String) : List (List Char) := path.toList.splitOn '/'

/-- The names between the slashes of a path, empty ones left out. -/
def names (path : String) : List String :=
  (pieces path).filterMap fun name => if name.isEmpty then none else some (String.ofList name)

/-- Whether the path starts at the root. -/
def isAbsolute (path : String) : Bool := path.toList.head? == some '/'

/-- Whether the path ends in a slash, which asks for a directory. -/
def endsInSlash (path : String) : Bool := path.toList.getLast? == some '/'

/-- `name` below the directory `dir`; an absolute name stands for itself. -/
def join (dir name : String) : String :=
  if isAbsolute name then name
  else if dir.isEmpty || endsInSlash dir then dir ++ name
  else dir ++ "/" ++ name

/-- The steps of a path: its names, without the dots that stand for nothing. A dot at the start of
a relative path is kept, since it is all that such a path may have. -/
def steps (path : String) : List String :=
  match names path with
  | [] => []
  | first :: rest =>
    if first == "." && isAbsolute path then rest.filter (· != ".")
    else first :: rest.filter (· != ".")

/-- Whether a piece of a path is a step, behind the pieces `before`. -/
def isStep (before : List (List Char)) (piece : List Char) : Bool :=
  !piece.isEmpty && (piece != ['.'] || before.isEmpty)

/-- The text with some pieces between its slashes. -/
def ofPieces (pieces : List (List Char)) : String := String.ofList (['/'].intercalate pieces)

/-- The steps among some pieces, each with the text up to its end. -/
def stretchesFrom (before : List (List Char)) : List (List Char) → List (String × String)
  | [] => []
  | piece :: rest =>
    if isStep before piece then
      (String.ofList piece, ofPieces (before ++ [piece])) :: stretchesFrom (before ++ [piece]) rest
    else stretchesFrom (before ++ [piece]) rest

/-- The texts up to the end of each step among some pieces, the longest first. -/
def textsUpTo (pieces : List (List Char)) : List String :=
  ((stretchesFrom [] pieces).map (·.2)).reverse

/-- The path up to the end of each of its steps, as it is written there, the longest first. -/
def upward (path : String) : List String := textsUpTo (pieces path)

/-- The path without its last step; there is none for the root and for the empty path. -/
def parent? (path : String) : Option String :=
  match upward path with
  | [] => none
  | [_] => some (if isAbsolute path then "/" else "")
  | _ :: above :: _ => some above

end ScriptShell.Path
