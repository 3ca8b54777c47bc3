import ScriptShell.Script.Grammar.Pattern
/-!
# Statements

Simple statements, which share lines, and compound statements, which hold blocks.
-/

namespace ScriptShell.Script

namespace Grammar

open Reading

section
variable (g : Grammar)

/-! ## Simple statements -/

/-- The operators that change a target in place. -/
def augmentations : List (String × BinaryOp) :=
  [("+=", .add), ("-=", .sub), ("*=", .mul), ("@=", .matMul), ("/=", .div), ("//=", .floorDiv),
    ("%=", .mod), ("**=", .pow), ("<<=", .shiftLeft), (">>=", .shiftRight), ("&=", .bitAnd),
    ("|=", .bitOr), ("^=", .bitXor)]

/-- A statement that starts with an expression. -/
def expressionStatement : Reading Stmt := do
  let first ← g.starExpressions
  match ← peek with
  | .op ":" => do
    unless isSingleTarget first do refuse
    advance
    let hint ← g.expression
    if ← acceptOp "=" then pure (.annotate first hint (some (← g.yieldOrExpressions)))
    else pure (.annotate first hint .none)
  | .op "=" => do
    let (targets, value) ← extend (fun (targets, value) => do
      if ← acceptOp "=" then
        unless isTarget value do refuse
        pure (some (value :: targets, ← g.yieldOrExpressions))
      else pure .none) (← limit) ([], first)
    pure (.assign targets.reverse value)
  | .op s =>
    match augmentations.lookup s with
    | some op => do
      unless isSingleTarget first do refuse
      advance
      pure (.augment first op (← g.yieldOrExpressions))
    | .none => pure (.expr first)
  | _ => pure (.expr first)

/-- A name with dots. -/
def dottedName : Reading (List String) := do
  let first ← expectName
  let rest ← many (do if ← acceptOp "." then some <$> expectName else pure .none)
  pure (first :: rest)

/-- The name that an import gets, if it gives one. -/
def importAlias : Reading (Option String) := do
  if ← acceptWord "as" then some <$> expectName else pure .none

def importStatement : Reading Stmt := do
  let (names, trailing) ← commaList (do
    let name ← dottedName
    pure (⟨name, ← importAlias⟩ : ImportName)) (pure false)
  if trailing then refuse
  pure (.import names)

def importFromStatement : Reading Stmt := do
  let dots ← many (do
    if ← acceptOp "..." then pure (some 3)
    else if ← acceptOp "." then pure (some 1)
    else pure .none)
  let level := dots.foldl (· + ·) 0
  let module ← if level > 0 && (← atWord "import") then pure [] else dottedName
  expectWord "import"
  let item := do
    let name ← expectName
    pure (⟨[name], ← importAlias⟩ : ImportName)
  if ← acceptOp "*" then pure (.importFrom level module .none)
  else if ← acceptOp "(" then
    let (names, _) ← commaList item (atOp ")")
    expectOp ")"
    pure (.importFrom level module (some names))
  else
    let (names, trailing) ← commaList item (pure false)
    if trailing then refuse
    pure (.importFrom level module (some names))

/-- Names between commas. -/
def nameList : Reading (List String) := do
  let (l, _) ← commaList expectName (pure false)
  pure l

def deleteStatement : Reading Stmt := do
  let (l, _) ← commaList g.primary endsExpressions
  unless areDeletable l do refuse
  pure (.delete l)

def simpleStatement : Reading Stmt := do
  match ← peek with
  | .name s =>
    match s with
    | "return" => do
      advance
      if ← endsExpressions then pure (.return .none) else pure (.return (some (← g.starExpressions)))
    | "import" => advance *> importStatement
    | "from" => advance *> importFromStatement
    | "raise" => do
      advance
      if ← endsExpressions then pure (.raise .none .none)
      else
        let e ← g.expression
        if ← acceptWord "from" then pure (.raise (some e) (some (← g.expression)))
        else pure (.raise (some e) .none)
    | "pass" => advance *> pure .pass
    | "break" => advance *> pure .break
    | "continue" => advance *> pure .continue
    | "del" => advance *> g.deleteStatement
    | "yield" => do
      let e ← g.yieldExpression
      pure (.expr e)
    | "assert" => do
      advance
      let test ← g.expression
      if ← acceptOp "," then pure (.assert test (some (← g.expression)))
      else pure (.assert test .none)
    | "global" => advance *> (Stmt.global <$> nameList)
    | "nonlocal" => advance *> (Stmt.nonlocal <$> nameList)
    | _ => g.expressionStatement
  | _ => g.expressionStatement

/-- Simple statements on one line. -/
def simpleStatements : Reading (List Stmt) := do
  let first ← g.simpleStatement
  let l ← extend (fun l => do
    if ← acceptOp ";" then
      if (← peek) == .newline then pure (some l) else pure (some ((← g.simpleStatement) :: l))
    else pure .none) (← limit) [first]
  expectMark .newline
  pure l.reverse

/-! ## Compound statements -/

/-- The body of a compound statement, after the colon: an indented block, or simple statements on
the same line. -/
def block : Reading (List Stmt) := do
  if ← acceptMark .newline then
    unless ← acceptMark .indent do throw (.fault .indentation)
    let first ← g.statement
    let rest ← many (do
      if (← peek) == .dedent then pure .none else some <$> g.statement)
    expectMark .dedent
    pure (first ++ rest.flatten)
  else g.simpleStatements

/-- A colon and the body after it. -/
def body : Reading (List Stmt) := do
  expectOp ":"
  g.block

/-- The body of an `else`, if there is one. -/
def elseBody : Reading (List Stmt) := do
  if ← acceptWord "else" then g.body else pure []

/-- The branches of a conditional, after its first word. -/
def branches : Reading Stmt := do
  let test ← g.namedExpression
  let yes ← g.body
  let others ← many (do
    if ← acceptWord "elif" then
      let test ← g.namedExpression
      pure (some (test, ← g.body))
    else pure .none)
  let no ← g.elseBody
  pure (.if test yes (others.foldr (fun (t, b) no => [.if t b no]) no))

def whileStatement : Reading Stmt := do
  let test ← g.namedExpression
  let body ← g.body
  pure (.while test body (← g.elseBody))

def forStatement (isAsync : Bool) : Reading Stmt := do
  let target ← loopTargets g.primary
  expectWord "in"
  let iterable ← g.starExpressions
  let body ← g.body
  pure (.for isAsync target iterable body (← g.elseBody))

def tryStatement : Reading Stmt := do
  let body ← g.body
  let handlers ← many (do
    if ← acceptWord "except" then
      if ← atOp ":" then pure (some (Handler.mk .none .none (← g.body)))
      else
        let _ ← acceptOp "*"
        let type ← g.expression
        let name ← importAlias
        pure (some (Handler.mk (some type) name (← g.body)))
    else pure .none)
  let no ← if handlers.isEmpty then pure [] else g.elseBody
  if ← acceptWord "finally" then pure (.try body handlers no (← g.body))
  else
    if handlers.isEmpty then throw (.fault .invalid)
    pure (.try body handlers no [])

def withItem : Reading (Expr × Option Expr) := do
  let e ← g.expression
  if ← acceptWord "as" then
    let target ← if ← acceptOp "*" then Expr.starred <$> g.primary else g.primary
    unless isTarget target do refuse
    pure (e, some target)
  else pure (e, .none)

def withStatement (isAsync : Bool) : Reading Stmt := do
  let bracketed := do
    expectOp "("
    let (items, _) ← commaList g.withItem (atOp ")")
    expectOp ")"
    unless ← atOp ":" do refuse
    pure items
  let plain := do
    let (items, trailing) ← commaList g.withItem (pure false)
    if trailing then refuse
    pure items
  let items ← orElse bracketed plain
  pure (.with isAsync items (← g.body))

def functionStatement (isAsync : Bool) (decorators : List Expr) : Reading Stmt := do
  let name ← expectName
  expectOp "("
  let params ← g.parameters true ")"
  expectOp ")"
  let returns ← if ← acceptOp "->" then some <$> g.expression else pure .none
  pure (.function isAsync decorators name params returns (← g.body))

def classStatement (decorators : List Expr) : Reading Stmt := do
  let name ← expectName
  let args ← if ← acceptOp "(" then g.arguments g.primary false else pure []
  pure (.class decorators name args (← g.body))

def caseBlock : Reading Case := do
  let pattern ← g.casePatterns
  let condition ← if ← acceptWord "if" then some <$> g.namedExpression else pure .none
  pure (.mk pattern condition (← g.body))

/-- What is matched: an expression, or several as a tuple. -/
def matchSubject : Reading Expr := do
  match ← commaList g.starNamedExpression (atOp ":") with
  | ([.starred _], false) => refuse
  | ([e], false) => pure e
  | (l, _) => pure (.tuple l)

/-- A choice between patterns. Its first word is a name anywhere else. -/
def matchStatement : Reading Stmt := do
  expectWord "match"
  let subject ← g.matchSubject
  if (← peek) == .newline then modify ({ · with lacksColon := true })
  expectOp ":"
  expectMark .newline
  unless ← acceptMark .indent do throw (.fault .indentation)
  let cases ← many (do if ← acceptWord "case" then some <$> g.caseBlock else pure .none)
  if cases.isEmpty then refuse
  expectMark .dedent
  pure (.match subject cases)

/-- A statement: several where they share a line. -/
def anyStatement : Reading (List Stmt) := do
  let one := fun (s : Reading Stmt) => do pure [← s]
  match ← peek with
  | .op "@" => do
    let decorators ← many (do
      if ← acceptOp "@" then
        let e ← g.namedExpression
        expectMark .newline
        pure (some e)
      else pure .none)
    if ← acceptWord "class" then one (g.classStatement decorators)
    else
      let isAsync ← acceptWord "async"
      expectWord "def"
      one (g.functionStatement isAsync decorators)
  | .name s =>
    match s with
    | "if" => advance *> one g.branches
    | "while" => advance *> one g.whileStatement
    | "for" => advance *> one (g.forStatement false)
    | "try" => advance *> one g.tryStatement
    | "with" => advance *> one (g.withStatement false)
    | "def" => advance *> one (g.functionStatement false [])
    | "class" => advance *> one (g.classStatement [])
    | "async" => do
      advance
      if ← acceptWord "def" then one (g.functionStatement true [])
      else if ← acceptWord "for" then one (g.forStatement true)
      else
        expectWord "with"
        one (g.withStatement true)
    | "match" => orElse (one g.matchStatement) g.simpleStatements
    | _ => g.simpleStatements
  | _ => g.simpleStatements

end

end Grammar

end ScriptShell.Script
