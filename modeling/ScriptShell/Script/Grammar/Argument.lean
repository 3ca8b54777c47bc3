import ScriptShell.Script.Grammar.Operator
/-!
# Targets, parameters and arguments

What can be assigned to or deleted, the parameters of functions and the arguments of calls, the
clauses of comprehensions and the keys between square brackets.
-/

namespace ScriptShell.Script

namespace Grammar

open Reading

/-! ## Targets -/

mutual

/-- Whether an expression can be assigned to. -/
def isTarget : Expr → Bool
  | .name _ | .attribute .. | .index .. => true
  | .tuple items | .list items => areTargets items
  | .starred e => match e with
    | .starred _ => false
    | e => isTarget e
  | _ => false

def areTargets : List Expr → Bool
  | [] => true
  | e :: rest => isTarget e && areTargets rest

end

mutual

/-- Whether an expression can be deleted. -/
def isDeletable : Expr → Bool
  | .name _ | .attribute .. | .index .. => true
  | .tuple items | .list items => areDeletable items
  | _ => false

def areDeletable : List Expr → Bool
  | [] => true
  | e :: rest => isDeletable e && areDeletable rest

end

/-- Whether an expression is a single target, which can be changed in place. -/
def isSingleTarget : Expr → Bool
  | .name _ | .attribute .. | .index .. => true
  | _ => false

section
variable (g : Grammar)

/-! ## Parameters and arguments -/

/-- The parameters up to a closing token, with annotations or without. -/
def parameters (annotated : Bool) (close : String) : Reading (List Param) := do
  let one := fun (kind : ParamKind) => do
    let name ← expectName
    let hint ← if annotated then
        if ← acceptOp ":" then
          if kind == .rest && (← atOp "*") then some <$> g.starExpression
          else some <$> g.expression
        else pure .none
      else pure .none
    let default ← if kind == .ordinary || kind == .nameOnly then
        if ← acceptOp "=" then some <$> g.expression else pure .none
      else pure .none
    pure (Param.mk name kind default hint)
  let (params, _, _) ← extend (fun (params, kind, done) => do
    if done then pure .none
    else if ← atOp close then pure .none
    else
      let (params, kind, final) ←
        if ← acceptOp "/" then
          if params.isEmpty || kind != .ordinary || params.any (·.kind == .positionOnly) then refuse
          else
            pure (params.map (fun (p : Param) => Param.mk p.name .positionOnly p.default p.hint),
              kind, false)
        else if ← acceptOp "**" then do
          let p ← one .restNamed
          pure (p :: params, kind, true)
        else if ← acceptOp "*" then
          if kind == .nameOnly then refuse
          else if ← acceptOp "," then
            match ← peek with
            | .name _ => pure ((← one .nameOnly) :: params, .nameOnly, false)
            | _ => refuse
          else do
            let p ← one .rest
            pure (p :: params, .nameOnly, false)
        else do
          let p ← one kind
          if kind == .ordinary && p.default.isNone && params.any (·.default.isSome) then refuse
          pure (p :: params, kind, false)
      if ← acceptOp "," then pure (some (params, kind, final))
      else
        unless ← atOp close do refuse
        pure (some (params, kind, true))) (← limit) ([], .ordinary, false)
  pure params.reverse

/-- The targets of a loop, up to the word that ends them. -/
def loopTargets (primary : Reading Expr) : Reading Expr := do
  let item := do
    let e ← if ← acceptOp "*" then Expr.starred <$> primary else primary
    unless isTarget e do refuse
    pure e
  match ← commaList item (atWord "in") with
  | ([e], false) => pure e
  | (l, _) => pure (.tuple l)

/-- The clauses of a comprehension, one at least. -/
def clauses (primary : Reading Expr) : Reading (List Clause) := do
  let l ← many (do
    let isAsync ← acceptWord "async"
    if ← acceptWord "for" then
      let target ← loopTargets primary
      expectWord "in"
      let iterable ← g.disjunction
      let conditions ← many (do
        if ← acceptWord "if" then some <$> g.disjunction else pure .none)
      pure (some (Clause.mk isAsync target iterable conditions))
    else if isAsync then refuse
    else pure .none)
  if l.isEmpty then refuse
  pure l

/-- Whether a comprehension goes on here. -/
def atClause : Reading Bool := do pure ((← atWord "for") || (← atWord "async"))

/-- The arguments of a call or a class, after the bracket that opens them. In a call a comprehension
may be all that stands there. -/
def arguments (primary : Reading Expr) (ofCall : Bool) : Reading (List Arg) := do
  let (args, _, _) ← extend (fun (args, stage, done) => do
    if done then pure .none
    else if ← acceptOp ")" then pure (some (args, stage, true))
    else
      let separate := fun (a : Arg) (stage : Nat) => do
        if ← acceptOp "," then pure (some (a :: args, stage, false))
        else
          expectOp ")"
          pure (some (a :: args, stage, true))
      if ← acceptOp "**" then separate (.allNamed (← g.expression)) 2
      else if ← acceptOp "*" then
        if stage = 2 then refuse
        else separate (.all (← g.expression)) stage
      else
        let p ← get
        match p.tokens.tokens[p.position]?, p.tokens.tokens[p.position + 1]? with
        | some (.name s), some (.op "=") =>
          if keywords.contains s then refuse
          else
            advance
            advance
            separate (.keyword s (← g.expression)) (max stage 1)
        | _, _ =>
          let e ← g.namedExpression
          if ← atClause then
            let e := Expr.comprehension .generator e (← g.clauses primary)
            if ofCall && args.isEmpty then
              expectOp ")"
              pure (some ([.position e], stage, true))
            else refuse
          else if stage ≥ 1 then refuse
          else separate (.position e) stage) (← limit) ([], 0, false)
  pure args.reverse

/-- The key inside square brackets, after the bracket that opens them. -/
def subscript : Reading Expr := do
  let bound := do
    match ← peek with
    | .op s =>
      if s == ":" || s == "," || s == "]" then pure .none else some <$> g.expression
    | _ => some <$> g.expression
  let item : Reading Expr := do
    if ← acceptOp "*" then pure (.starred (← g.operands))
    else
      let isBound := !(← atNaming)
      let low ← do
        if ← atOp ":" then pure .none else some <$> g.namedExpression
      if isBound && (← atOp ":") then
        advance
        let high ← bound
        let step ← if ← acceptOp ":" then bound else pure .none
        pure (.slice low high step)
      else
        match low with
        | some e => pure e
        | .none => refuse
  let (l, trailing) ← commaList item (atOp "]")
  expectOp "]"
  match l, trailing with
  | [.starred e], false => pure (.tuple [.starred e])
  | [e], false => pure e
  | l, _ => pure (.tuple l)

end

end Grammar

end ScriptShell.Script
