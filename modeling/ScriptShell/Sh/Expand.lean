import ScriptShell.Sh.State
/-!
# From words to arguments

A word becomes no, one or several arguments: parameters and the output of commands are put in,
what stands outside quotes is split at blanks and matched against the names of files.
-/

namespace ScriptShell.Sh

open Program

/-- A piece of an expanded word. -/
inductive Piece
  | char (c : Char) (quoted : Bool)
  /-- a place where quotes stand, so that something is there even if it is empty -/
  | present
  /-- the end of an argument -/
  | cut
deriving DecidableEq

/-- A text inside quotes. -/
def quotedPieces (s : String) : List Piece := .present :: s.toList.map (.char · true)

/-- A text outside quotes, which blanks split. -/
def splitPieces (s : String) : List Piece :=
  s.toList.map fun c => if c = ' ' || c = '\t' || c = '\n' then .cut else .char c false

/-- The arguments that pieces make up: what is between cuts, if something is there. -/
def arguments (pieces : List Piece) : List (List Piece) :=
  (pieces.splitOnP (· == .cut)).filter (!·.isEmpty)

def pieceText (pieces : List Piece) : String :=
  String.ofList (pieces.filterMap fun
    | .char c _ => some c
    | _ => none)

/-- Whether a text matches a pattern of pieces: an unquoted star stands for any text, an unquoted
question mark for any character. -/
def matches_ : Nat → List Piece → List Char → Bool
  | 0, _, _ => false
  | _ + 1, [], cs => cs.isEmpty
  | fuel + 1, .char '*' false :: ps, cs =>
    matches_ fuel ps cs ||
      (match cs with
      | [] => false
      | _ :: cs => matches_ fuel (.char '*' false :: ps) cs)
  | fuel + 1, .char '?' false :: ps, _ :: cs => matches_ fuel ps cs
  | fuel + 1, .char p _ :: ps, c :: cs => p = c && matches_ fuel ps cs
  | _ + 1, .char .. :: _, [] => false
  | fuel + 1, _ :: ps, cs => matches_ fuel ps cs

/-- The names in the working directory that a pattern matches. -/
def matching (d : Disk) (pattern : List Piece) : List String :=
  (d.tree.childNames d.directory).filter fun name =>
    (!name.startsWith "." || (pieceText pattern).startsWith ".") &&
      matches_ (4 * Nat.pow (pattern.length + name.length + 1) 2) pattern name.toList

/-- Whether pieces are a pattern. -/
def isPattern (pieces : List Piece) : Bool :=
  pieces.any (fun p => p == .char '*' false || p == .char '?' false)

/-- The arguments for one stretch of pieces: the names that match, or its text. -/
def matched (d : Disk) (pieces : List Piece) : List String :=
  if isPattern pieces then
    match matching d pieces with
    | [] => [pieceText pieces]
    | names => names
  else [pieceText pieces]

/-- The pieces of a list of arguments: inside quotes each stays an argument of its own. -/
def listPieces (quoted : Bool) (l : List String) : List Piece :=
  if quoted then ((l.map quotedPieces).intersperse [.cut]).flatten
  else ((l.map splitPieces).intersperse [.cut]).flatten

/-- The text of a value that no pieces are made of. -/
def withoutTrailingLines (s : String) : String :=
  String.ofList ((s.toList.reverse.dropWhile (· = '\n')).reverse)

section
variable (output : String → Run String)

/-- The pieces of a parameter. -/
def parameterPieces (expand : Word → Run (List Piece)) (name : String)
    (alternative : Option Alternative) (quoted : Bool) : Run (List Piece) := do
  let s ← get
  let value := s.parameter? name
  let own :=
    match value with
    | none => if quoted then [.present] else []
    | some l =>
      if name = "@" then listPieces quoted l
      else if quoted then quotedPieces (" ".intercalate l)
      else listPieces false l
  let given := fun (orEmpty : Bool) =>
    match value with
    | none => false
    | some l => !(orEmpty && l.all (·.isEmpty))
  let word := fun (source : String) => do
    match wordParts (source.length + 2) true (source.toList ++ ['"']) with
    | some (w, _) =>
      let pieces ← expand w
      pure (if quoted then .present :: pieces else splitPieces (pieceText pieces))
    | none => pure []
  match alternative with
  | none => pure own
  | some .length =>
    let text := toString ((value.getD []).foldl (fun n s => n + s.length) 0)
    pure (if quoted then quotedPieces text else splitPieces text)
  | some (.default orEmpty source) => if given orEmpty then pure own else word source
  | some (.replacement orEmpty source) =>
    if given orEmpty then word source else pure (if quoted then [.present] else [])

/-- The pieces of a word. Words inside words are expanded to a depth that the fuel limits. -/
def pieces : Nat → Word → Run (List Piece)
  | 0, _ => pure []
  | _ + 1, [] => pure []
  | fuel + 1, part :: rest => do
    let here ← match part with
      | .text s true => pure (quotedPieces s)
      | .text s false => pure (s.toList.map (.char · false))
      | .parameter name alternative quoted =>
        parameterPieces (pieces fuel) name alternative quoted
      | .command source quoted => do
        let text := withoutTrailingLines (← output source)
        pure (if quoted then quotedPieces text else splitPieces text)
    pure (here ++ (← pieces fuel rest))

/-- A leading tilde outside quotes is the home directory, if the environment has one. -/
def tilde (s : State) (w : Word) : Word :=
  match w with
  | .text "~" false :: rest =>
    match s.value? "HOME", rest with
    | some home, [] => [.text home true]
    | some home, .text "/" false :: _ => .text home true :: rest
    | _, _ => w
  | _ => w

/-- How deep words stand in words at most. -/
def wordDepth : Nat := 1000

/-- The arguments that words stand for. -/
def expandWords (words : List Word) : Run (List String) := do
  let mut all := []
  for w in words do
    let s ← get
    let ps ← pieces output (wordDepth + w.length) (tilde s w)
    let d := (← get).process.disk
    all := all ++ ((arguments ps).map (matched d)).flatten
  pure all

/-- The text that a word stands for where it is not split. -/
def expandText (w : Word) : Run String := do
  let s ← get
  let ps ← pieces output (wordDepth + w.length) (tilde s w)
  pure (String.ofList (ps.filterMap fun
    | .char c _ => some c
    | .cut => some ' '
    | .present => none))

end

end ScriptShell.Sh
