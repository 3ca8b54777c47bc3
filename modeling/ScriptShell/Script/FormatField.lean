import ScriptShell.Script.FormatSpec
/-!
# Format fields

A format is a text with fields between braces; a brace of the text itself is written twice. A field
names one of the arguments, by its place or its name, and may go on to an attribute or an item of
it, to a conversion, and to the layout of the result, which may hold fields itself. Fields without a
name take the arguments in turn.
-/

namespace ScriptShell.Script

/-- A piece of a format. -/
inductive FormatPiece
  | text (c : Char)
  | field (inside : List Char)
deriving Repr, DecidableEq

/-- The inside of a field and what follows its closing brace; nothing if it is not closed. -/
def fieldInside : Nat → List Char → Option (List Char × List Char)
  | _, [] => none
  | depth, c :: rest =>
    if c = '\x7d' && depth = 0 then some ([], rest)
    else
      let depth := if c = '\x7b' then depth + 1 else if c = '\x7d' then depth - 1 else depth
      (fieldInside depth rest).map fun (inside, after) => (c :: inside, after)

/-- The pieces of a format, or the complaint about it. -/
def formatPieces : Nat → List Char → Except String (List FormatPiece)
  | 0, _ | _, [] => pure []
  | fuel + 1, c :: rest => do
    if c = '\x7b' then
      match rest with
      | [] => throw "Single '\x7b' encountered in format string"
      | d :: after =>
        if d = '\x7b' then pure (.text c :: (← formatPieces fuel after))
        else
          match fieldInside 0 rest with
          | some (inside, after) => pure (.field inside :: (← formatPieces fuel after))
          | none => throw "expected '\x7d' before end of string"
    else if c = '\x7d' then
      match rest with
      | d :: after =>
        if d = '\x7d' then pure (.text c :: (← formatPieces fuel after))
        else throw "Single '\x7d' encountered in format string"
      | [] => throw "Single '\x7d' encountered in format string"
    else pure (.text c :: (← formatPieces fuel rest))

/-- How the fields of a format take the arguments. -/
inductive Numbering
  | undecided
  /-- in turn; this one is next -/
  | inTurn (next : Nat)
  | named
deriving Repr, DecidableEq

/-- A step from a value to a part of it. -/
inductive FieldStep
  | attribute (name : String)
  | item (key : String)
deriving Repr, DecidableEq

/-- The steps that follow the name of a field, or the complaint about them. -/
def fieldSteps : Nat → List Char → Except String (List FieldStep)
  | 0, _ | _, [] => pure []
  | fuel + 1, c :: rest => do
    if c = '.' then
      let isName := fun (c : Char) => c ≠ '.' && c ≠ '['
      let name := rest.takeWhile isName
      if name.isEmpty then throw "Empty attribute in format string"
      pure (.attribute (String.ofList name) :: (← fieldSteps fuel (rest.dropWhile isName)))
    else if c = '[' then
      let key := rest.takeWhile (· ≠ ']')
      match rest.dropWhile (· ≠ ']') with
      | [] => throw "Missing ']' in format string"
      | _ :: after =>
        if key.isEmpty then throw "Empty attribute in format string"
        pure (.item (String.ofList key) :: (← fieldSteps fuel after))
    else throw "Only '.' or '[' may follow ']' in format field specifier"

namespace Exec

/-- The result of reading a format, with a complaint raised. -/
def orValueError {α : Type} (r : Except String α) : Exec α :=
  match r with
  | .ok a => pure a
  | .error e => raise "ValueError" e

/-- The argument at a place. -/
def argumentAt (args : List Value) (i : Nat) : Exec Value :=
  match args[i]? with
  | some v => pure v
  | none =>
    raise "IndexError" ("Replacement index " ++ toString i ++ " out of range for positional args tuple")

/-- The argument that a field names, and how the fields take the arguments after it. -/
def fieldArgument (args : List Value) (named : List (String × Value)) (numbering : Numbering)
    (name : List Char) : Exec (Value × Numbering) := do
  match name, (String.ofList name).toNat?, numbering with
  | [], _, .named =>
    raise "ValueError" "cannot switch from manual field specification to automatic field numbering"
  | [], _, .undecided => do pure (← argumentAt args 0, .inTurn 1)
  | [], _, .inTurn i => do pure (← argumentAt args i, .inTurn (i + 1))
  | _, some _, .inTurn _ =>
    raise "ValueError" "cannot switch from automatic field numbering to manual field specification"
  | _, some i, _ => do pure (← argumentAt args i, .named)
  | name, none, _ =>
    match named.lookup (String.ofList name) with
    | some v => pure (v, numbering)
    | none => raiseWith "KeyError" [.text (String.ofList name)]

/-- The conversion that a field asks for and the text of its layout. -/
def fieldEnd (ev : Evaluator) (v : Value) (cs : List Char) : Exec (Value × List Char) := do
  match cs with
  | [] => pure (v, [])
  | ':' :: spec => pure (v, spec)
  | _ :: [] => raise "ValueError" "unmatched '\x7b' in format spec"
  | _ :: c :: after => do
    match after with
    | [] | ':' :: _ => pure ()
    | _ => raise "ValueError" "expected ':' after conversion specifier"
    let v ←
      if c = 's' then .text <$> plainText ev v
      else if c = 'r' then .text <$> shownValue ev v
      else if c = 'a' then do pure (.text (asciiText (← shownValue ev v)))
      else raise "ValueError" ("Unknown conversion specifier " ++ c.toString)
    pure (v, after.drop 1)

/-- A text out of a format and arguments; fields inside of fields go to a depth. -/
def formatWith (ev : Evaluator) (args : List Value) (named : List (String × Value)) :
    Nat → Numbering → List Char → Exec (String × Numbering)
  | 0, _, _ => raise "ValueError" "Max string recursion exceeded"
  | depth + 1, numbering, cs => do
    let pieces ← orValueError (formatPieces (cs.length + 1) cs)
    pieces.foldlM (fun (s, numbering) piece => do
      match piece with
      | .text c => pure (s.push c, numbering)
      | .field inside => do
        let isPath := fun (c : Char) => c ≠ ':' && c ≠ '!'
        let path := inside.takeWhile isPath
        let isName := fun (c : Char) => c ≠ '.' && c ≠ '['
        let (v, numbering) ← fieldArgument args named numbering (path.takeWhile isName)
        let steps ← orValueError (fieldSteps (path.length + 1) (path.dropWhile isName))
        let v ← steps.foldlM (fun v step =>
          match step with
          | .attribute n => attributeOf ev v n
          | .item k => itemAt v ((k.toNat?.map fun n => Value.int n).getD (.text k))) v
        let (v, spec) ← fieldEnd ev v (inside.dropWhile isPath)
        let (spec, numbering) ← if spec.contains '\x7b' || spec.contains '\x7d'
          then formatWith ev args named depth numbering spec
          else pure (String.ofList spec, numbering)
        pure (s ++ (← formatValue ev v spec), numbering)) ("", numbering)

end Exec

end ScriptShell.Script
