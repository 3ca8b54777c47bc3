import ScriptShell.Script.Grammar.Basic
/-!
# Operators and lists of expressions

Operands between operators, from those that bind tightest to `or`, and what is made of expressions
between commas.
-/

namespace ScriptShell.Script

namespace Grammar

open Reading

section
variable (g : Grammar)

/-- Reads operands between operators of one level, from left to right. -/
def binaryLevel (ops : List (String × BinaryOp)) (operand : Reading Expr) : Reading Expr := do
  let first ← operand
  extend (fun left => do
    match ← peek with
    | .op s =>
      match ops.lookup s with
      | some op => do
        advance
        pure (some (.binary op left (← operand)))
      | .none => pure .none
    | _ => pure .none) (← limit) first

/-- The levels of operators between operands, those that bind tightest first. -/
def binaryLevels : List (List (String × BinaryOp)) :=
  [[("*", .mul), ("/", .div), ("//", .floorDiv), ("%", .mod), ("@", .matMul)],
    [("+", .add), ("-", .sub)],
    [("<<", .shiftLeft), (">>", .shiftRight)],
    [("&", .bitAnd)],
    [("^", .bitXor)],
    [("|", .bitOr)]]

/-- Operands with all operators that are neither comparisons nor words. -/
def operands : Reading Expr := binaryLevels.foldl (fun r ops => binaryLevel ops r) g.factor

/-- The comparison that stands here. -/
def comparison? : Reading (Option CompareOp) := do
  match ← peek with
  | .op s =>
    match [("==", CompareOp.eq), ("!=", .ne), ("<", .lt), ("<=", .le), (">", .gt), (">=", .ge)].lookup s with
    | some op => do
      advance
      pure (some op)
    | .none => pure .none
  | .name "in" => do
    advance
    pure (some .in)
  | .name "not" => do
    advance
    expectWord "in"
    pure (some .notIn)
  | .name "is" => do
    advance
    if ← acceptWord "not" then pure (some .isNot) else pure (some .is)
  | _ => pure .none

def comparison : Reading Expr := do
  let first ← g.operands
  let rest ← many (do
    match ← comparison? with
    | some op => pure (some (Comparison.mk op (← g.operands)))
    | .none => pure .none)
  pure (if rest.isEmpty then first else .compare first rest)

def inversion : Reading Expr := do
  let nots ← many (do if ← acceptWord "not" then pure (some ()) else pure .none)
  pure (nots.foldl (fun e _ => .unary .not e) (← g.comparison))

def conjunction : Reading Expr := do
  let first ← g.inversion
  extend (fun left => do
    if ← acceptWord "and" then pure (some (.and left (← g.inversion))) else pure .none)
    (← limit) first

def disjunction : Reading Expr := do
  let first ← g.conjunction
  extend (fun left => do
    if ← acceptWord "or" then pure (some (.or left (← g.conjunction))) else pure .none)
    (← limit) first

/-! ## Lists of expressions -/

/-- Whether no expression can start here. -/
def endsExpressions : Reading Bool := do
  match ← peek with
  | .op s =>
    pure (!(List.contains ["(", "[", "\x7b", "+", "-", "~", "*", "**", "...", ","] s))
  | .name s =>
    pure (keywords.contains s &&
      !(List.contains ["None", "True", "False", "not", "lambda", "await", "yield"] s))
  | .number _ | .quoted _ => pure false
  | _ => pure true

/-- An expression, or one after a star. -/
def starExpression : Reading Expr := do
  if ← acceptOp "*" then pure (.starred (← g.operands)) else g.expression

/-- Whether an expression stands here that names its value. -/
def atNaming : Reading Bool := do
  match ← peek with
  | .name s =>
    let p ← get
    pure (!keywords.contains s && p.tokens.tokens[p.position + 1]? == some (.op ":="))
  | _ => pure false

/-- An expression that may name its value. -/
def namedExpression : Reading Expr := do
  if ← atNaming then
    let name ← expectName
    expectOp ":="
    pure (.named name (← g.expression))
  else
    let e ← g.expression
    if ← atOp ":=" then refuse
    pure e

def starNamedExpression : Reading Expr := do
  if ← acceptOp "*" then pure (.starred (← g.operands)) else g.namedExpression

/-- Expressions between commas; several, or one with a comma after it, are a tuple. -/
def starExpressions : Reading Expr := do
  match ← commaList g.starExpression endsExpressions with
  | ([e], false) => pure e
  | (l, _) => pure (.tuple l)

def yieldExpression : Reading Expr := do
  expectWord "yield"
  if ← acceptWord "from" then pure (.yieldFrom (← g.expression))
  else if ← endsExpressions then pure (.yield .none)
  else pure (.yield (some (← g.starExpressions)))

/-- What may stand on the right of an assignment. -/
def yieldOrExpressions : Reading Expr := do
  if ← atWord "yield" then g.yieldExpression else g.starExpressions

end

end Grammar

end ScriptShell.Script
