import ScriptShell.Script.Grammar.Argument
/-!
# Atoms and expressions

Names, literals and what stands between brackets, with the attributes, calls and keys after them;
and the expressions that lambdas and conditionals make.
-/

namespace ScriptShell.Script

namespace Grammar

open Reading

section
variable (g : Grammar)

/-- What stands between round brackets, after the one that opens them. -/
def afterParenthesis (primary : Reading Expr) : Reading Expr := do
  if ← acceptOp ")" then pure (.tuple [])
  else if ← atWord "yield" then
    let e ← g.yieldExpression
    expectOp ")"
    pure e
  else
    let first ← g.starNamedExpression
    let isStarred := match first with
      | .starred _ => true
      | _ => false
    if !isStarred && (← atClause) then
      let cs ← g.clauses primary
      expectOp ")"
      pure (.comprehension .generator first cs)
    else if ← acceptOp "," then
      if ← acceptOp ")" then pure (.tuple [first])
      else
        let (l, _) ← commaList g.starNamedExpression (atOp ")")
        expectOp ")"
        pure (.tuple (first :: l))
    else
      if isStarred then refuse
      expectOp ")"
      pure first

/-- What stands between square brackets, after the one that opens them. -/
def afterSquare (primary : Reading Expr) : Reading Expr := do
  if ← acceptOp "]" then pure (.list [])
  else
    let first ← g.starNamedExpression
    let isStarred := match first with
      | .starred _ => true
      | _ => false
    if !isStarred && (← atClause) then
      let cs ← g.clauses primary
      expectOp "]"
      pure (.comprehension .list first cs)
    else if ← acceptOp "," then
      if ← acceptOp "]" then pure (.list [first])
      else
        let (l, _) ← commaList g.starNamedExpression (atOp "]")
        expectOp "]"
        pure (.list (first :: l))
    else
      expectOp "]"
      pure (.list [first])

/-- What stands between braces, after the one that opens them. -/
def afterBrace (primary : Reading Expr) : Reading Expr := do
  let close := "\x7d"
  let entry : Reading DictItem := do
    if ← acceptOp "**" then pure (.all (← g.operands))
    else
      let key ← g.expression
      expectOp ":"
      pure (.entry key (← g.expression))
  if ← acceptOp close then pure (.dict [])
  else if ← atOp "**" then
    let (l, _) ← commaList entry (atOp close)
    expectOp close
    pure (.dict l)
  else
    let isKey := !(← atNaming)
    let first ← g.starNamedExpression
    let isStarred := match first with
      | .starred _ => true
      | _ => false
    if isKey && !isStarred && (← atOp ":") then
      advance
      let value ← g.expression
      if ← atClause then
        let cs ← g.clauses primary
        expectOp close
        pure (.dictComprehension first value cs)
      else
        let items ← if ← acceptOp "," then
            if ← atOp close then pure []
            else Prod.fst <$> commaList entry (atOp close)
          else pure []
        expectOp close
        pure (.dict (.entry first value :: items))
    else if !isStarred && (← atClause) then
      let cs ← g.clauses primary
      expectOp close
      pure (.comprehension .set first cs)
    else
      let items ← if ← acceptOp "," then
          if ← atOp close then pure []
          else Prod.fst <$> commaList g.starNamedExpression (atOp close)
        else pure []
      expectOp close
      pure (.set (first :: items))

/-- The pieces of one formatted text, which must be read to its end. -/
def formatted (q : Quoted) : Reading (List FormatPart) := do
  match ← g.formatParts q.raw false q.body with
  | (parts, []) => pure parts
  | _ => throw (.fault .invalid)

/-- The texts that stand side by side here. -/
def texts (first : Quoted) : Reading Expr := do
  let rest ← many (do
    match ← peek with
    | .quoted q => do
      advance
      pure (some q)
    | _ => pure .none)
  let all := first :: rest
  if all.all (·.bytes) then
    match all.mapM Quoted.bytes? with
    | some bs => pure (.literal (.bytes bs.flatten))
    | .none => throw (.fault .invalid)
  else if all.any (·.bytes) then throw (.fault .invalid)
  else if all.any (·.format) then
    let parts ← all.mapM fun q => do
      if q.format then g.formatted q
      else
        match q.text? with
        | some t => pure [FormatPart.text t]
        | .none => throw (.fault .invalid)
    pure (.formatted parts.flatten)
  else
    match all.mapM Quoted.text? with
    | some ts => pure (.literal (.text (String.join ts)))
    | .none => throw (.fault .invalid)

def atom (primary : Reading Expr) : Reading Expr := do
  match ← peek with
  | .number n => do
    advance
    pure (.literal (match n with
      | .int v => .int v
      | .float m e => .float m e
      | .imaginary => .imaginary))
  | .quoted q => do
    advance
    g.texts q
  | .name s =>
    match s with
    | "None" => advance *> pure (.literal .none)
    | "True" => advance *> pure (.literal (.bool true))
    | "False" => advance *> pure (.literal (.bool false))
    | _ => do
      if keywords.contains s then refuse
      advance
      pure (.name s)
  | .op s =>
    match s with
    | "(" => advance *> g.afterParenthesis primary
    | "[" => advance *> g.afterSquare primary
    | "\x7b" => advance *> g.afterBrace primary
    | "..." => advance *> pure (.literal .ellipsis)
    | _ => refuse
  | _ => refuse

/-- An atom with the attributes, calls and keys after it. Where a rule inside it needs such an
expression itself, it takes one from the level below. -/
def primaryWith (inner : Reading Expr) : Reading Expr := do
  let first ← g.atom inner
  extend (fun e => do
    match ← peek with
    | .op "." => do
      advance
      pure (some (.attribute e (← expectName)))
    | .op "(" => do
      advance
      pure (some (.call e (← g.arguments inner true)))
    | .op "[" => do
      advance
      pure (some (.index e (← g.subscript)))
    | _ => pure .none) (← limit) first

/-- The expressions that loops and comprehensions assign to are read as factors of the level below;
one with an operator is no target. -/
def primary : Reading Expr := g.primaryWith g.factor

def power : Reading Expr := do
  let base ← if ← acceptWord "await" then Expr.await <$> g.primary else g.primary
  if ← acceptOp "**" then pure (.binary .pow base (← g.factor)) else pure base

/-- The operator before an operand that stands here. -/
def unary? : Reading (Option UnaryOp) := do
  match ← peek with
  | .op s =>
    match [("+", UnaryOp.plus), ("-", .minus), ("~", .invert)].lookup s with
    | some op => do
      advance
      pure (some op)
    | .none => pure .none
  | _ => pure .none

/-- An operand with the operators before it. -/
def signed : Reading Expr := do
  let ops ← many unary?
  pure (ops.foldr (fun op e => .unary op e) (← g.power))

def lambda : Reading Expr := do
  expectWord "lambda"
  let params ← g.parameters false ":"
  expectOp ":"
  pure (.lambda params (← g.expression))

def conditional : Reading Expr := do
  if ← atWord "lambda" then g.lambda
  else
    let yes ← g.disjunction
    if ← acceptWord "if" then
      let test ← g.disjunction
      expectWord "else"
      pure (.conditional test yes (← g.expression))
    else pure yes

end

end Grammar

end ScriptShell.Script
