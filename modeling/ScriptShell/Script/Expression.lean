import ScriptShell.Script.Builtin
import ScriptShell.Script.Directive
import ScriptShell.Script.Host
import ScriptShell.Script.Iteration
/-!
# Expressions

What an expression evaluates to: `expressionValue`. The operands are evaluated from left to right;
what is not needed is not evaluated.
-/

namespace ScriptShell.Script

/-- The special name of the method for an operator. -/
def BinaryOp.specialName : BinaryOp → String
  | .add => "add"
  | .sub => "sub"
  | .mul => "mul"
  | .matMul => "matmul"
  | .div => "truediv"
  | .floorDiv => "floordiv"
  | .mod => "mod"
  | .pow => "pow"
  | .shiftLeft => "lshift"
  | .shiftRight => "rshift"
  | .bitAnd => "and"
  | .bitOr => "or"
  | .bitXor => "xor"

/-- The special name of the method for a comparison, if an instance may have one. -/
def CompareOp.specialName? : CompareOp → Option String
  | .eq => some "__eq__"
  | .ne => some "__ne__"
  | .lt => some "__lt__"
  | .le => some "__le__"
  | .gt => some "__gt__"
  | .ge => some "__ge__"
  | _ => none

/-- The same comparison with its sides exchanged. -/
def CompareOp.reflected : CompareOp → CompareOp
  | .lt => .gt
  | .le => .ge
  | .gt => .lt
  | .ge => .le
  | op => op

namespace Exec

/-- The value of a literal. -/
def literalValue (l : Literal) : Exec Value := do
  match l with
  | .none => pure .none
  | .bool b => pure (.bool b)
  | .ellipsis => pure .ellipsis
  | .int n => pure (.int n)
  | .float mantissa exponent =>
    pure (.ofFloat (Float.ofScientific mantissa (exponent < 0) exponent.natAbs))
  | .imaginary => do
    let (r, h) := (← heap).alloc (.dict [])
    setHeap h
    alloc (.instance (.type "complex") r)
  | .text s => pure (.text s)
  | .bytes b => pure (.bytes b)

/-- What the method of a value under a special name answers; nothing if there is none, or it leaves
the answer to others. -/
def ownAnswer (ev : Evaluator) (v : Value) (name : String) (other : Value) :
    Exec (Option Value) := do
  match (← heap).special? v name with
  | some f => do
    let r ← ev.call f [v, other] []
    pure (if r = .notImplemented then none else some r)
  | none => pure none

/-- What either side of an operator answers, if one has its own way. -/
def eitherAnswer (ev : Evaluator) (a b : Value) (name reflected : String) :
    Exec (Option Value) := do
  match ← ownAnswer ev a name b with
  | some r => pure (some r)
  | none => ownAnswer ev b reflected a

/-- An operator between two values; an instance may have its own way, and a text before a percent
sign is filled. -/
def binaryValue (ev : Evaluator) (op : BinaryOp) (inPlace : Bool) (a b : Value) : Exec Value := do
  match ← eitherAnswer ev a b ("__" ++ op.specialName ++ "__") ("__r" ++ op.specialName ++ "__") with
  | some r => pure r
  | none =>
    match op, a with
    | .mod, .text s => fillWith ev s b
    | op, a => operate op inPlace a b

/-! ## Comparisons -/

/-- Whether a value is among those of another. -/
def isIn (ev : Evaluator) (x v : Value) : Exec Bool := do
  let h ← heap
  match v, h.object? v with
  | .text s, _ =>
    match x with
    | .text t => pure (Text.findFrom t.toList 0 s.toList).isSome
    | _ =>
      typeError ("'in <string>' requires string as left operand, not " ++ h.typeName x)
  | .bytes b, _ => pure (b.any fun n => x.toInt? == some (n.toNat : Int))
  | _, some (.dict entries) => do
    expectKey x
    pure (entries.any fun e => h.sameKey e.1 x)
  | _, some (.set l) => do
    expectKey x
    pure (l.any fun y => h.sameKey y x)
  | _, _ =>
    match h.special? v "__contains__" with
    | some f => do truth ev (← ev.call f [v, x] [])
    | none =>
      if h.isIterable v then do
        let l ← ev.items v
        let h ← heap
        pure (l.any fun y => h.sameKey y x)
      else typeError ("argument of type '" ++ h.typeName v ++ "' is not iterable")

/-- A comparison between two values. Values that differ are those that are not equal, if a class says
only when they are equal. -/
def compareValues (ev : Evaluator) (op : CompareOp) (a b : Value) : Exec Value := do
  let h ← heap
  let answer ← match op.specialName?, op.reflected.specialName? with
    | some n, some r => eitherAnswer ev a b n r
    | _, _ => pure none
  let equal? ← if op == .ne && answer.isNone then eitherAnswer ev a b "__eq__" "__eq__" else pure none
  let own ← match answer, equal? with
    | some r, _ => pure (some r)
    | none, some r => do pure (some (.bool (!(← truth ev r))))
    | none, none => pure none
  match own, op with
  | some r, _ => pure r
  | _, .eq => pure (.bool (h.sameKey a b))
  | _, .ne => pure (.bool (!h.sameKey a b))
  | _, .is => pure (.bool (h.isSame a b))
  | _, .isNot => pure (.bool (!h.isSame a b))
  | _, .in => .bool <$> isIn ev a b
  | _, .notIn => do pure (.bool (!(← isIn ev a b)))
  | _, op => .bool <$> inOrder op a b

/-- Comparisons one after another, each with the value before it, up to the first that fails. -/
def compareChain (ev : Evaluator) (env : Env) (a : Value) : List Comparison → Exec Value
  | [] => pure a
  | .mk op e :: rest => do
    let b ← ev.eval env e
    let answer ← compareValues ev op a b
    if rest.isEmpty then pure answer
    else if ← truth ev answer then compareChain ev env b rest
    else pure answer

/-! ## Displays -/

/-- The values of items, of which some may be starred. -/
def itemValues (ev : Evaluator) (env : Env) (items : List Expr) : Exec (List Value) := do
  let found ← items.mapM fun e => do
    match e with
    | .starred e => do
      let v ← ev.eval env e
      let h ← heap
      if h.isIterable v then ev.items v
      else typeError ("Value after * must be an iterable, not " ++ h.typeName v)
    | e => do pure [← ev.eval env e]
  pure found.flatten

/-- The entries of a dictionary in code. -/
def dictEntries (ev : Evaluator) (env : Env) (items : List DictItem) :
    Exec (List (Value × Value)) := do
  let found ← items.mapM fun e => do
    match e with
    | .entry k v => do
      let k ← ev.eval env k
      let v ← ev.eval env v
      pure [(k, v)]
    | .all e => do
      let v ← ev.eval env e
      let h ← heap
      match h.object? v with
      | some (.dict entries) => pure entries
      | _ => typeError ("'" ++ h.typeName v ++ "' object is not a mapping")
  putAll [] found.flatten

/-- The text of a formatted text. -/
def formattedText (ev : Evaluator) (env : Env) : Nat → List FormatPart → Exec String
  | 0, _ => throw .exhausted
  | fuel + 1, parts => do
    let texts ← parts.mapM fun p => do
      match p with
      | .text s => pure s
      | .value e conversion spec => do
        let v ← ev.eval env e
        let v ← match conversion with
          | none => pure v
          | some 's' => .text <$> plainText ev v
          | some 'a' => do pure (.text (asciiText (← shownValue ev v)))
          | some _ => .text <$> shownValue ev v
        formatValue ev v (← formattedText ev env fuel spec)
    pure (String.join texts)

/-! ## Functions -/

/-- A new function. -/
def functionValue (ev : Evaluator) (env : Env) (name : String) (params : List Param)
    (body : FunctionBody) (isAsync : Bool) (returns : Option Expr) : Exec Value := do
  let events := paramNames params ++ match body with
    | .expr e => exprEvents nestingLimit { kind := .function false } e
    | .block l => blockEvents (.function isAsync) l
  let given := params.filterMap fun p => p.default.map (p.name, ·)
  let defaults ← given.mapM fun (n, e) => do pure (n, ← ev.eval env e)
  for p in params do
    if let some e := p.hint then
      let _ ← ev.eval env e
  if let some e := returns then
    let _ ← ev.eval env e
  alloc (.function
    { name, path := env.path ++ name, params, defaults, body, locals := localNames events
      globalNames := events.filterMap ScopeEvent.globalName?
      isGenerator := isAsync || events.any (·.isYield)
      globals := env.globals, scope := env.scope })

/-! ## Calls -/

/-- What a call that goes wrong calls the function. -/
def calledLabel (h : Heap) (f : Value) : String :=
  match f, h.object? f with
  | .type t, _ => t ++ "()"
  | .builtin b, _ => builtinName b ++ "()"
  | .host f, _ => f.label
  | _, some (.method self name) => h.typeName self ++ "." ++ name ++ "()"
  | _, some (.function f) =>
    match h.lookup? f.globals "__name__" with
    | some (.text m) => m ++ "." ++ f.path ++ "()"
    | _ => f.path ++ "()"
  | _, some (.class ..) => h.classLabel f ++ "()"
  | _, _ => h.plain f

/-- The arguments of a call that are given by position. -/
def positionArgs (ev : Evaluator) (env : Env) (f : Value) (args : List Arg) :
    Exec (List Value) := do
  let args := args.filterMap fun
    | .position e => some (false, e)
    | .all e => some (true, e)
    | _ => none
  let found ← args.mapM fun (starred, e) => do
    let v ← ev.eval env e
    if !starred then pure [v]
    else
      let h ← heap
      if h.isIterable v then ev.items v
      else if args.length = 1 then
        typeError (calledLabel h f ++ " argument after * must be an iterable, not " ++ h.typeName v)
      else typeError ("Value after * must be an iterable, not " ++ h.typeName v)
  pure found.flatten

/-- Entries of a dictionary as arguments by name, after those before. -/
def spreadNamed (f : Value) (before : List (String × Value)) :
    List (Value × Value) → Exec (List (String × Value))
  | [] => pure before
  | (.text n, v) :: rest => do
    if (before.lookup n).isSome then
      typeError (calledLabel (← heap) f ++ " got multiple values for keyword argument '" ++ n ++ "'")
    else spreadNamed f (before ++ [(n, v)]) rest
  | _ :: _ => typeError "keywords must be strings"

/-- The arguments of a call that are given by name. -/
def namedArgs (ev : Evaluator) (env : Env) (f : Value) (args : List Arg) :
    Exec (List (String × Value)) :=
  args.foldlM (fun before a => do
    match a with
    | .keyword n e => do
      let v ← ev.eval env e
      spreadNamed f before [(.text n, v)]
    | .allNamed e => do
      let v ← ev.eval env e
      let h ← heap
      match h.object? v with
      | some (.dict entries) => spreadNamed f before entries
      | _ =>
        typeError (calledLabel h f ++ " argument after ** must be a mapping, not " ++ h.typeName v)
    | _ => pure before) []

/-! ## Comprehensions -/

/-- Where the code inside a comprehension looks names up. -/
def comprehensionEnv (env : Env) (kind : String) (clauses : List Clause) : Exec Env := do
  let inside : Standing := { kind := .comprehension false }
  let names := (clauseEvents (exprEvents nestingLimit) nestingLimit inside true clauses).filterMap fun
    | .bind n => some n
    | _ => none
  let (r, h) := (← heap).alloc (.scope names.eraseDups [] env.scope [])
  setHeap h
  pure { globals := env.globals, scope := some r, path := env.path ++ kind ++ ".<locals>." }

/-- The value that the first clause of a comprehension goes through, evaluated outside of it. -/
def firstSource (ev : Evaluator) (env : Env) (clauses : List Clause) : Exec Value := do
  match clauses with
  | .mk _ _ iterable _ :: _ => do
    let v ← ev.eval env iterable
    let h ← heap
    if h.isIterable v then pure v
    else typeError ("'" ++ h.typeName v ++ "' object is not iterable")
  | [] => pure .none

/-- What the code inside a comprehension gives, in a frame of its own. -/
def comprehensionItems {α : Type} (ev : Evaluator) (env : Env) (kind : String)
    (clauses : List Clause) (element : Env → Exec α) : Exec (List α) := do
  let first ← firstSource ev env clauses
  let inner ← comprehensionEnv env kind clauses
  inFrame inner (clauseValues ev inner (element inner) (some first) clauses)

/-! ## All expressions -/

/-- The value of an expression. -/
def expressionValue (ev : Evaluator) (env : Env) (e : Expr) : Exec Value := do
  match e with
  | .literal l => literalValue l
  | .name n => nameValue env n
  | .formatted parts => .text <$> formattedText ev env nestingLimit parts
  | .tuple items => do tuple (← itemValues ev env items)
  | .list items => do list (← itemValues ev env items)
  | .set items => do setOf (← itemValues ev env items)
  | .dict items => do dict (← dictEntries ev env items)
  | .unary .not e => do pure (.bool (!(← truth ev (← ev.eval env e))))
  | .unary op e => do operateUnary op (← ev.eval env e)
  | .binary op left right => do
    let a ← ev.eval env left
    let b ← ev.eval env right
    binaryValue ev op false a b
  | .and left right => do
    let a ← ev.eval env left
    if ← truth ev a then ev.eval env right else pure a
  | .or left right => do
    let a ← ev.eval env left
    if ← truth ev a then pure a else ev.eval env right
  | .compare first rest => do compareChain ev env (← ev.eval env first) rest
  | .conditional test yes no => do
    if ← truth ev (← ev.eval env test) then ev.eval env yes else ev.eval env no
  | .lambda params body => functionValue ev env "<lambda>" params (.expr body) false none
  | .call f args => do
    let f ← ev.eval env f
    let positions ← positionArgs ev env f args
    let named ← namedArgs ev env f args
    ev.call f positions named
  | .attribute e name => do attributeOf ev (← ev.eval env e) name
  | .index e key => do
    let v ← ev.eval env e
    valueAt ev v (← ev.eval env key)
  | .slice low high step => do
    let bound := fun (e : Option Expr) =>
      match e with
      | some e => ev.eval env e
      | none => pure .none
    let low ← bound low
    let high ← bound high
    alloc (.slice low high (← bound step))
  | .starred e => ev.eval env e
  | .named n e => do
    let v ← ev.eval env e
    bindName env n v
    pure v
  | .comprehension .generator element clauses => do
    let first ← firstSource ev env clauses
    let inner ← comprehensionEnv env "<genexpr>" clauses
    alloc (.generator (.comprehension inner element first clauses))
  | .comprehension .list element clauses => do
    list (← comprehensionItems ev env "<listcomp>" clauses fun inner => ev.eval inner element)
  | .comprehension .set element clauses => do
    setOf (← comprehensionItems ev env "<setcomp>" clauses fun inner => ev.eval inner element)
  | .dictComprehension key value clauses => do
    let entries ← comprehensionItems ev env "<dictcomp>" clauses fun inner => do
      let k ← ev.eval inner key
      let v ← ev.eval inner value
      pure (k, v)
    dict (← putAll [] entries)
  | .yield value => do
    let v ← match value with
      | some e => ev.eval env e
      | none => pure .none
    give v
    pure .none
  | .yieldFrom e => do
    for v in ← ev.items (← ev.eval env e) do
      give v
    pure .none
  | .await e => ev.eval env e

end Exec

end ScriptShell.Script
