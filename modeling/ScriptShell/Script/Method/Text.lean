import ScriptShell.Script.Argument
import ScriptShell.Script.FormatField
import ScriptShell.Text.Pieces
/-!
# Methods of texts

A text does not change: its methods tell something about it or give another text. They are grouped
by what they do; `textMethod` asks one group after another.
-/

namespace ScriptShell.Script.Exec

/-! ## Letters -/

/-- Whether all characters are of a kind, and there is one. -/
def allChars (p : Char → Bool) (s : String) : Value :=
  .bool (!s.isEmpty && s.toList.all p)

/-- A letter, ASCII or not. -/
def isLetter (c : Char) : Bool := c.isAlpha || (c.toNat ≥ 128 && Text.isIdentifierStart c)

/-- A text with other letters, or what there is to tell about its letters. -/
def letterMethod? (s : String) (name : String) : Option Value :=
  let cs := s.toList
  match name with
  | "upper" => some (.text (Text.capitals s))
  | "lower" => some (.text (Text.smalls s))
  | "casefold" => some (.text (Text.folded s))
  | "title" => some (.text (String.ofList (Text.titled false cs)))
  | "capitalize" =>
    some (.text (match cs with
      | [] => ""
      | c :: rest => String.ofList (Text.initial c ++ Text.smallChars (Text.isCased c) rest)))
  | "swapcase" =>
    some (.text (String.ofList (cs.flatMap fun c =>
      if Text.isCapital c then Text.small c else Text.capital c)))
  | "isdigit" | "isdecimal" | "isnumeric" => some (allChars Char.isDigit s)
  | "isalpha" => some (allChars isLetter s)
  | "isalnum" => some (allChars (fun c => c.isDigit || isLetter c) s)
  | "isspace" => some (allChars Text.isBlank s)
  | "isascii" => some (.bool (cs.all (·.toNat < 128)))
  | "isidentifier" => some (.bool (Text.isIdentifier s))
  | "isprintable" => some (.bool (cs.all Text.isPrintable))
  | "isupper" => some (.bool (cs.any Text.isCapital && !cs.any Text.isSmall))
  | "islower" => some (.bool (cs.any Text.isSmall && !cs.any Text.isCapital))
  | _ => none

/-! ## Finding -/

/-- The bounds that the arguments after the first give to a search. -/
def searchBounds (length : Nat) (args : List Value) : Exec (Nat × Nat) := do
  let at_ := fun (v : Option Value) (usual : Nat) => do
    match v with
    | none | some .none => pure usual
    | some v => do
      let i ← intArg v
      pure ((if i < 0 then max 0 (i + length) else i).toNat)
  let low ← at_ args[1]? 0
  let high ← at_ args[2]? length
  pure (low, min high length)

/-- The text to be found, the part of a text that is searched, and where that starts. -/
def searchArgs (s name : String) (args : List Value) :
    Exec (List Char × List Char × Nat × Nat) := do
  expectArity name "argument" 1 3 args
  let needle ← textArg (fun t => "must be str, not " ++ t) (args.headD .none)
  let (low, high) ← searchBounds s.length args
  pure (needle.toList, (s.toList.take high).drop low, low, high)

/-- Where a text is found first or last. -/
def findMethod (s name : String) (last : Bool) (args : List Value) : Exec (Option Nat) := do
  let (needle, part, low, high) ← searchArgs s name args
  if high < low then pure none
  else if last then
    pure ((Text.findFrom needle.reverse 0 part.reverse).map fun i =>
      low + (part.length - i - needle.length))
  else pure (Text.findFrom needle low part)

/-- Whether a text has one of some texts at an edge. -/
def edgeMethod (s name : String) (test : List Char → List Char → Bool) (args : List Value) :
    Exec Value := do
  expectArity name "argument" 1 3 args
  let (low, high) ← searchBounds s.length args
  let part := (s.toList.take high).drop low
  match args.headD .none with
  | .text t => pure (.bool (low ≤ high && test t.toList part))
  | v =>
    match ← object? v with
    | some (.tuple l) =>
      pure (.bool (low ≤ high && l.any fun
        | .text t => test t.toList part
        | _ => false))
    | _ =>
      typeError (name ++ " first arg must be str or a tuple of str, not " ++ (← heap).typeName v)

/-- What is told about a text inside of another. -/
def searchMethod? (s name : String) (args : List Value) : Option (Exec Value) :=
  let orMinusOne := fun (i : Option Nat) => Value.int ((i.map fun n => (n : Int)).getD (-1))
  let orRefuse := fun (i : Option Nat) =>
    match i with
    | some n => pure (Value.int n)
    | none => raise "ValueError" "substring not found"
  match name with
  | "find" => some (orMinusOne <$> findMethod s name false args)
  | "rfind" => some (orMinusOne <$> findMethod s name true args)
  | "index" => some (do orRefuse (← findMethod s name false args))
  | "rindex" => some (do orRefuse (← findMethod s name true args))
  | "count" => some (do
    let (needle, part, low, high) ← searchArgs s name args
    let n := part.length + 1
    pure (.int (if high < low then 0
      else if needle.isEmpty then n
      else (Text.splitOnText needle n n part).length - 1 : Nat)))
  | "startswith" => some (edgeMethod s name List.isPrefixOf args)
  | "endswith" => some (edgeMethod s name List.isSuffixOf args)
  | _ => none

/-! ## Cutting -/

/-- A text as a value. -/
def textValue (cs : List Char) : Value := .text (String.ofList cs)

/-- Takes characters away from the ends of a text: blanks, or those that are given. -/
def stripMethod (s label name : String) (left right : Bool) (args : List Value)
    (named : List (String × Value)) : Exec Value := do
  expectNoNames label named
  expectCount name 0 1 args
  match args with
  | [.text cs] => pure (.text (Text.stripped left right cs.toList.contains s))
  | [] | [.none] => pure (.text (Text.stripped left right Text.isBlank s))
  | _ => typeError (name ++ " arg must be None or str")

/-- How many times at most something is done; nothing and negative numbers mean always. -/
def timesArg (usual : Nat) (v : Option Value) : Exec Nat := do
  match v with
  | none => pure usual
  | some v => do
    let n ← intArg v
    pure (if n < 0 then usual else n.toNat)

/-- The pieces of a text between separators, or its words; from the end if few cuts are made. -/
def splitMethod (s : String) (fromEnd : Bool) (args : List Value) (named : List (String × Value)) :
    Exec Value := do
  let separator := (args[0]?).orElse fun _ => named.lookup "sep"
  let n := s.length + 1
  let most ← timesArg n ((args[1]?).orElse fun _ => named.lookup "maxsplit")
  let turn := fun (cs : List Char) => if fromEnd then cs.reverse else cs
  let pieces ← match separator with
    | none | some .none => pure (Text.splitBlanks n most (turn s.toList))
    | some (.text "") => raise "ValueError" "empty separator"
    | some (.text t) => pure (Text.splitOnText (turn t.toList) n most (turn s.toList))
    | some v => typeError ("must be str or None, not " ++ (← heap).typeName v)
  list ((if fromEnd then (pieces.map List.reverse).reverse else pieces).map textValue)

/-- The parts of a text before, in and after a separator. -/
def partitionMethod (s label : String) (last : Bool) (args : List Value)
    (named : List (String × Value)) : Exec Value := do
  let t ← textArg (fun t => "must be str, not " ++ t) (← onlyArg label args named)
  if t.isEmpty then raise "ValueError" "empty separator"
  let cs := s.toList
  let found := if last then
      (Text.findFrom t.toList.reverse 0 cs.reverse).map fun i => cs.length - i - t.length
    else Text.findFrom t.toList 0 cs
  match found with
  | some i => tuple [textValue (cs.take i), .text t, textValue (cs.drop (i + t.length))]
  | none => tuple (if last then [.text "", .text "", .text s] else [.text s, .text "", .text ""])

/-- A text with another in the place of each occurrence. -/
def replaceMethod (s : String) (args : List Value) : Exec Value := do
  expectCount "replace" 2 3 args
  let old ← textArg (fun t => "replace() argument 1 must be str, not " ++ t) (args.headD .none)
  let new ← textArg (fun t => "replace() argument 2 must be str, not " ++ t)
    ((args[1]?).getD .none)
  let count ← timesArg (s.length + 1) args[2]?
  pure (textValue (Text.replaceAll old.toList new.toList count s.toList))

/-- Parts of a text, and texts with parts changed. -/
def cutMethod? (s label name : String) (args : List Value) (named : List (String × Value)) :
    Option (Exec Value) :=
  match name with
  | "strip" => some (stripMethod s label name true true args named)
  | "lstrip" => some (stripMethod s label name true false args named)
  | "rstrip" => some (stripMethod s label name false true args named)
  | "split" => some (splitMethod s false args named)
  | "rsplit" => some (splitMethod s true args named)
  | "splitlines" => some (do
    let keep := (← heap).isTrue (args.headD (.bool false))
    list ((Text.lines keep s.toList).map textValue))
  | "replace" => some (replaceMethod s args)
  | "removeprefix" => some (do
    let t ← textArg (fun t => label ++ "() argument must be str, not " ++ t)
      (← onlyArg label args named)
    pure (.text (if s.startsWith t then (s.drop t.length).toString else s)))
  | "removesuffix" => some (do
    let t ← textArg (fun t => label ++ "() argument must be str, not " ++ t)
      (← onlyArg label args named)
    pure (.text (if s.endsWith t then (s.dropEnd t.length).toString else s)))
  | "partition" => some (partitionMethod s label false args named)
  | "rpartition" => some (partitionMethod s label true args named)
  | _ => none

/-! ## Laying out -/

/-- A text put between the items of a value, which must be texts. -/
def joinMethod (ev : Evaluator) (s label : String) (args : List Value)
    (named : List (String × Value)) : Exec Value := do
  let v ← onlyArg label args named
  unless (← heap).isIterable v do typeError "can only join an iterable"
  let items ← ev.items v
  let h ← heap
  let parts ← items.zipIdx.mapM fun (v, i) =>
    match v with
    | .text t => pure t
    | v => typeError ("sequence item " ++ toString i ++ ": expected str instance, " ++
        h.typeName v ++ " found")
  pure (.text (s.intercalate parts))

/-- A text in a wider one. -/
def padMethod (s name : String) (args : List Value) : Exec Value := do
  expectCount name 1 2 args
  let width := (← intArg (args.headD .none)).toNat
  let c := match args[1]? with
    | some (Value.text t) => t.toList.headD ' '
    | _ => ' '
  let missing := "".pushn c (width - s.length)
  pure (.text (match name with
    | "ljust" => s ++ missing
    | "rjust" => missing ++ s
    | _ => Text.centred width c s))

/-- Texts made with this one. -/
def layoutMethod? (ev : Evaluator) (s label name : String) (args : List Value)
    (named : List (String × Value)) : Option (Exec Value) :=
  match name with
  | "join" => some (joinMethod ev s label args named)
  | "zfill" => some (do
    let n ← intArg (← onlyArg label args named)
    let (sign, digits) := if s.startsWith "-" || s.startsWith "+"
      then ((s.take 1).toString, (s.drop 1).toString) else ("", s)
    pure (.text ({ fillChar := '0', width := n.toNat : FormatSpec }.filled '=' sign digits)))
  | "ljust" | "rjust" | "center" => some (padMethod s name args)
  | "encode" => some (pure (.bytes s.toUTF8.toList))
  | "expandtabs" => some (pure (.text (s.replace "\t" "        ")))
  | "format" => some (do
    let (text, _) ← formatWith ev args named 2 .undecided s.toList
    pure (.text text))
  | _ => none

/-- A method of a text. -/
def textMethod (ev : Evaluator) (s : String) (name : String) (args : List Value)
    (named : List (String × Value)) : Exec Value := do
  let label := "str." ++ name
  match letterMethod? s name with
  | some v => do
    expectNoArgs label args named
    pure v
  | none =>
    (((searchMethod? s name args).or (cutMethod? s label name args named)).or
      (layoutMethod? ev s label name args named)).getD (notProvided label)

end ScriptShell.Script.Exec
