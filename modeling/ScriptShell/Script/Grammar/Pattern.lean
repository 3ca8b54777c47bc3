import ScriptShell.Script.Grammar.Atom
/-!
# Patterns

What stands after `case`: values, names, sequences and mappings of patterns, classes, alternatives.
A name alone is bound, a name with dots is a value to compare with.
-/

namespace ScriptShell.Script

namespace Grammar

open Reading

section
variable (g : Grammar) (inner : Reading Pattern)

/-! ## Values -/

/-- A number of a pattern, with a sign or without. -/
def patternNumber : Reading Expr := do
  let negative ← acceptOp "-"
  let sign := fun (e : Expr) => if negative then Expr.unary .minus e else e
  match ← peek with
  | .number n => do
    advance
    pure (sign (.literal (match n with
      | .int v => .int v
      | .float m e => .float m e
      | .imaginary => .imaginary)))
  | _ => refuse

/-- A number that may go on with an imaginary part. -/
def patternComplex : Reading Expr := do
  let real ← patternNumber
  let op ← if ← acceptOp "+" then pure (some BinaryOp.add)
    else if ← acceptOp "-" then pure (some BinaryOp.sub) else pure .none
  match op with
  | .none => pure real
  | some op =>
    match ← peek with
    | .number .imaginary => do
      advance
      pure (.binary op real (.literal .imaginary))
    | _ => refuse

/-- A name with at least one attribute after it, or a name alone. -/
def dottedExpression : Reading Expr := do
  let first ← expectName
  let rest ← many (do if ← acceptOp "." then some <$> expectName else pure .none)
  pure (rest.foldl (fun e n => .attribute e n) (.name first))

/-- A value that stands in a pattern itself: a number, a text or one of the fixed values. -/
def patternLiteral? : Reading (Option Pattern) := do
  match ← peek with
  | .number _ => (fun e => some (.value e)) <$> patternComplex
  | .op "-" => (fun e => some (.value e)) <$> patternComplex
  | .quoted q => do
    advance
    pure (some (.value (← g.texts q)))
  | .name "None" => advance *> pure (some (.fixed .none))
  | .name "True" => advance *> pure (some (.fixed (.bool true)))
  | .name "False" => advance *> pure (some (.fixed (.bool false)))
  | _ => pure .none

/-! ## Names -/

/-- A name that is bound: not one that goes on with attributes or arguments. -/
def captureName : Reading String := do
  let n ← expectName
  if (← atOp ".") || (← atOp "(") || (← atOp "=") then refuse
  pure n

/-- A name that is bound, or the underscore that binds nothing. -/
def captureOrAny : Reading (Option String) := do
  let n ← captureName
  pure (if n = "_" then .none else some n)

/-- A name that is bound, and no underscore. -/
def realCapture : Reading String := do
  match ← captureOrAny with
  | some n => pure n
  | .none => refuse

/-! ## Patterns of several parts -/

/-- An item of a sequence: a pattern, or a name for the items that the others leave. -/
def sequenceItem : Reading Pattern := do
  if ← acceptOp "*" then .star <$> captureOrAny else inner

/-- The items of a sequence after the bracket that opens it, with the one that closes it; the second
result says whether there is a comma. -/
def sequenceItems (close : String) : Reading (List Pattern × Bool) := do
  if ← acceptOp close then pure ([], true)
  else
    let (items, trailing) ← commaList (sequenceItem inner) (atOp close)
    expectOp close
    pure (items, trailing || items.length > 1)

def Pattern.isStar : Pattern → Bool
  | .star _ => true
  | _ => false

/-- A group or a sequence between round brackets. -/
def roundPattern : Reading Pattern := do
  match ← sequenceItems inner ")" with
  | ([p], false) => if Pattern.isStar p then refuse else pure p
  | (items, _) => pure (.sequence items)

/-- A key of a mapping. -/
def patternKey : Reading Expr := do
  match ← g.patternLiteral? with
  | some (.value e) => pure e
  | some (.fixed l) => pure (.literal l)
  | some _ => refuse
  | .none =>
    match ← dottedExpression with
    | .name _ => refuse
    | e => pure e

/-- The entries of a mapping after the brace that opens it. The rest comes last. -/
def mappingPattern : Reading Pattern := do
  let close := "\x7d"
  if ← acceptOp close then pure (.mapping [] .none)
  else
    let entry : Reading (Sum (Expr × Pattern) String) := do
      if ← acceptOp "**" then .inr <$> realCapture
      else
        let key ← g.patternKey
        expectOp ":"
        pure (.inl (key, ← inner))
    let (entries, _) ← commaList entry (atOp close)
    expectOp close
    let isRest := fun (e : Sum (Expr × Pattern) String) => e.isRight
    if entries.dropLast.any isRest then refuse
    pure (.mapping (entries.filterMap Sum.getLeft?) (entries.getLast?.bind Sum.getRight?))

/-- The arguments of a class after the bracket that opens them: those by position come first. An
underscore after one by position is a pattern, so it names no attribute. -/
def classPattern (c : Expr) : Reading Pattern := do
  if ← acceptOp ")" then pure (.class c [] [])
  else
    let argument : Reading (Option String × Pattern) := do
      let named : Reading (Option String × Pattern) := do
        let n ← expectName
        expectOp "="
        pure (some n, ← inner)
      orElse named (do pure (.none, ← inner))
    let (args, _) ← commaList argument (atOp ")")
    expectOp ")"
    let items := args.takeWhile (·.1.isNone)
    let named := (args.drop items.length).filterMap fun (n, p) => n.map ((·, p))
    unless items.length + named.length = args.length do refuse
    if !items.isEmpty && (named.head?.map (·.1)) = some "_" then refuse
    pure (.class c (items.map (·.2)) named)

/-- A pattern that starts with a name. An underscore does not go on. -/
def namePattern : Reading Pattern := do
  if ← acceptWord "_" then pure (.capture .none) else
  match ← dottedExpression with
  | .name n =>
    if ← acceptOp "(" then classPattern inner (.name n)
    else if ← atOp "=" then refuse
    else pure (.capture (some n))
  | e =>
    if ← acceptOp "(" then classPattern inner e
    else if ← atOp "=" then refuse
    else pure (.value e)

/-- A pattern that needs no brackets around it. -/
def closedPattern : Reading Pattern := do
  match ← g.patternLiteral? with
  | some p => pure p
  | .none =>
    if ← acceptOp "(" then roundPattern inner
    else if ← acceptOp "[" then do
      let (items, _) ← sequenceItems inner "]"
      pure (.sequence items)
    else if ← acceptOp "\x7b" then g.mappingPattern inner
    else namePattern inner

/-- Alternatives, which may be given a name. -/
def wholePattern : Reading Pattern := do
  let first ← g.closedPattern inner
  let rest ← many (do if ← acceptOp "|" then some <$> g.closedPattern inner else pure .none)
  let p := if rest.isEmpty then first else Pattern.either (first :: rest)
  if ← acceptWord "as" then .as p <$> realCapture else pure p

end

section
variable (g : Grammar)

/-- Patterns nested so deep. -/
def patternOfDepth : Nat → Reading Pattern
  | 0 => refuse
  | n + 1 => g.wholePattern (patternOfDepth n)

/-- What stands after `case`: a pattern, or a sequence without brackets. -/
def casePatterns : Reading Pattern := do
  let pattern := g.patternOfDepth (← limit)
  let ends := do pure ((← atOp ":") || (← atWord "if"))
  match ← commaList (sequenceItem pattern) ends with
  | ([p], false) => if Pattern.isStar p then refuse else pure p
  | (items, _) => pure (.sequence items)

end

end Grammar

end ScriptShell.Script
