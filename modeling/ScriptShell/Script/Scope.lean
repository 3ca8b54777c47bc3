import ScriptShell.Script.Syntax
/-!
# Scopes

What code does with names, in order: uses, bindings, declarations, and the scopes inside it. Most of
the rules that code must keep beyond the grammar can be told from these events; code that breaks one
directly, such as a `return` outside a function, leaves a `flaw`.
-/

namespace ScriptShell.Script

inductive ScopeKind
  | module
  | classBody
  | function (isAsync : Bool)
  | comprehension (isGenerator : Bool)
deriving Repr, DecidableEq, Inhabited

/-- Something that code does in its scope. -/
inductive ScopeEvent
  | use (name : String)
  | bind (name : String)
  /-- bound by an expression, and so outside of comprehensions around it -/
  | bindOuter (name : String)
  | param (name : String)
  | global (name : String)
  | nonlocal (name : String)
  /-- annotated, with or without a value -/
  | annotate (name : String)
  | yields
  | returns
  /-- something that only asynchronous code does -/
  | awaits
  | inner (kind : ScopeKind) (events : List ScopeEvent)
  /-- a rule is broken here -/
  | flaw
deriving Inhabited

/-- Where a piece of code stands. -/
structure Standing where
  kind : ScopeKind := .module
  inLoop : Bool := false
deriving Inhabited

namespace Standing

def isFunction (s : Standing) : Bool :=
  match s.kind with
  | .function _ => true
  | _ => false

/-- What waiting leaves here. -/
def awaiting (s : Standing) : List ScopeEvent :=
  match s.kind with
  | .function true => []
  | .comprehension _ => [.awaits]
  | _ => [.flaw]

end Standing

/-- A name that no code may bind. -/
def reservedName : String := "__debug__"

/-- The event of binding a name. -/
def bound (name : String) : List ScopeEvent :=
  if name = reservedName then [.flaw] else [.bind name]

namespace ScopeEvent

def isFlaw : ScopeEvent → Bool
  | .flaw => true
  | _ => false

def isAwait : ScopeEvent → Bool
  | .awaits => true
  | _ => false

def isYield : ScopeEvent → Bool
  | .yields => true
  | _ => false

def isReturn : ScopeEvent → Bool
  | .returns => true
  | _ => false

/-- The name an expression binds outside of comprehensions. -/
def outerName? : ScopeEvent → Option String
  | .bindOuter n => some n
  | _ => none

/-- The name that is a parameter or bound otherwise. -/
def boundName? : ScopeEvent → Option String
  | .bind n | .bindOuter n | .param n | .annotate n => some n
  | _ => none

/-- The name that is used or bound, but no parameter. -/
def touchedName? : ScopeEvent → Option String
  | .use n | .bind n | .bindOuter n | .annotate n => some n
  | _ => none

def globalName? : ScopeEvent → Option String
  | .global n => some n
  | _ => none

def nonlocalName? : ScopeEvent → Option String
  | .nonlocal n => some n
  | _ => none

end ScopeEvent

/-! ## Expressions -/

section
variable (rec : Standing → Expr → List ScopeEvent) (s : Standing)

/-- An item of a list, which may be starred. -/
def itemEvents (e : Expr) : List ScopeEvent :=
  match e with
  | .starred e => rec s e
  | e => rec s e

/-- Whether a keyword is given twice. -/
def repeatsKeyword (args : List Arg) : Bool :=
  let names := args.filterMap fun
    | .keyword n _ => some n
    | _ => none
  names.eraseDups.length != names.length || names.contains reservedName

def argEvents (args : List Arg) : List ScopeEvent :=
  (if repeatsKeyword args then [.flaw] else []) ++
    args.flatMap fun
      | .position e | .keyword _ e | .all e | .allNamed e => rec s e

/-- The events of parameters around a function: their defaults and annotations. -/
def paramEvents (params : List Param) : List ScopeEvent :=
  params.flatMap (fun p => (p.default.map (rec s)).getD []) ++
    params.flatMap fun p =>
      match p.hint with
      | some (.starred e) => rec s e
      | some e => rec s e
      | none => []

/-- The parameters inside a function. A name given twice is a flaw. -/
def paramNames (params : List Param) : List ScopeEvent :=
  let names := params.map Param.name
  (if names.eraseDups.length != names.length || names.contains reservedName then [.flaw] else []) ++
    names.map .param

/-- The starred items of a target. -/
def starCount (items : List Expr) : Nat :=
  items.countP fun
    | .starred _ => true
    | _ => false

/-- The events of assigning to a target. -/
def targetEvents : Nat → Expr → List ScopeEvent
  | 0, _ => []
  | fuel + 1, e =>
    match e with
    | .name n => bound n
    | .tuple items | .list items =>
      (if starCount items > 1 then [.flaw] else []) ++
        items.flatMap fun
          | .starred e => targetEvents fuel e
          | e => targetEvents fuel e
    | .attribute e n => (if n = reservedName then [.flaw] else []) ++ rec s e
    | .index e key => rec s e ++ rec s key
    | .starred _ => [.flaw]
    | e => rec s e

/-- The events of deleting a target. -/
def deletionEvents : Nat → Expr → List ScopeEvent
  | 0, _ => []
  | fuel + 1, e =>
    match e with
    | .name n => bound n
    | .tuple items | .list items => items.flatMap (deletionEvents fuel)
    | e => rec s e

/-- The clauses of a comprehension after the first iterable, seen from inside. -/
def clauseEvents (fuel : Nat) (inside : Standing) : Bool → List Clause → List ScopeEvent
  | _, [] => []
  | first, .mk isAsync target iterable conditions :: rest =>
    let source := if first then [] else rec inside iterable
    (if isAsync then [.awaits] else []) ++
      (if source.any (·.outerName?.isSome) then [.flaw] else []) ++
      targetEvents rec inside fuel target ++ source ++ conditions.flatMap (rec inside) ++
      clauseEvents fuel inside false rest

/-- A comprehension as its surroundings see it. -/
def comprehensionEvents (fuel : Nat) (isGenerator : Bool) (clauses : List Clause)
    (elements : Standing → List ScopeEvent) : List ScopeEvent :=
  let inside : Standing := { kind := .comprehension isGenerator }
  let source := match clauses with
    | .mk _ _ iterable _ :: _ => rec s iterable
    | [] => []
  let events := clauseEvents rec fuel inside true clauses ++ elements inside
  let names := events.filterMap ScopeEvent.outerName?
  let targets := events.filterMap fun
    | .bind n => some n
    | _ => none
  source ++
    (if source.any (·.outerName?.isSome) || events.any (·.isYield) ||
        names.any targets.contains || (s.kind == .classBody && !names.isEmpty) then [.flaw] else []) ++
    (if !isGenerator && events.any (·.isAwait) then s.awaiting else []) ++
    [.inner inside.kind (events.filter (·.outerName?.isNone))] ++
    (if s.kind == .module then [] else names.map .bindOuter)

end

/-- The events of pieces of a formatted text. -/
def formatEvents (rec : Expr → List ScopeEvent) : Nat → List FormatPart → List ScopeEvent
  | 0, _ => []
  | fuel + 1, parts =>
    parts.flatMap fun
      | .text _ => []
      | .value e _ spec => rec e ++ formatEvents rec fuel spec

/-- What an expression does. -/
def exprEvents : Nat → Standing → Expr → List ScopeEvent
  | 0, _, _ => []
  | fuel + 1, s, e =>
    let rec_ := exprEvents fuel
    match e with
    | .literal _ => []
    | .name n => [.use n]
    | .formatted parts => formatEvents (rec_ s) fuel parts
    | .tuple items | .list items | .set items => items.flatMap (itemEvents rec_ s)
    | .dict items =>
      items.flatMap fun
        | .entry k v => rec_ s k ++ rec_ s v
        | .all e => rec_ s e
    | .unary _ e => rec_ s e
    | .binary _ l r | .and l r | .or l r => rec_ s l ++ rec_ s r
    | .compare first rest => rec_ s first ++ rest.flatMap fun (.mk _ e) => rec_ s e
    | .conditional test yes no => rec_ s test ++ rec_ s yes ++ rec_ s no
    | .lambda params body =>
      let inside : Standing := { kind := .function false }
      paramEvents rec_ s params ++
        [.inner inside.kind (paramNames params ++ rec_ inside body)]
    | .call f args => rec_ s f ++ argEvents rec_ s args
    | .attribute e _ => rec_ s e
    | .index e key => rec_ s e ++ rec_ s key
    | .slice low high step => ([low, high, step].filterMap id).flatMap (rec_ s)
    | .starred _ => [.flaw]
    | .named n e =>
      rec_ s e ++ (if n = reservedName then [.flaw] else [.bindOuter n])
    | .comprehension kind element clauses =>
      comprehensionEvents rec_ s fuel (kind == .generator) clauses fun inside => rec_ inside element
    | .dictComprehension key value clauses =>
      comprehensionEvents rec_ s fuel false clauses fun inside =>
        rec_ inside key ++ rec_ inside value
    | .yield value =>
      (if s.isFunction then [.yields]
        else match s.kind with
          | .comprehension _ => [.yields]
          | _ => [.flaw]) ++ (value.map (rec_ s)).getD []
    | .yieldFrom e =>
      (match s.kind with
        | .function false | .comprehension _ => [.yields]
        | _ => [.flaw]) ++ rec_ s e
    | .await e => s.awaiting ++ rec_ s e

/-! ## Patterns -/

namespace Pattern

/-- The names that a pattern binds. Of alternatives, which must bind the same names, the first
counts. -/
def names : Nat → Pattern → List String
  | 0, _ => []
  | fuel + 1, p =>
    match p with
    | .value _ | .fixed _ => []
    | .capture n | .star n => n.toList
    | .sequence items => items.flatMap (names fuel)
    | .mapping entries rest => entries.flatMap (fun (_, p) => names fuel p) ++ rest.toList
    | .class _ items named => items.flatMap (names fuel) ++ named.flatMap fun (_, p) => names fuel p
    | .either options => (options.head?.map (names fuel)).getD []
    | .as p n => names fuel p ++ [n]

/-- Whether a pattern matches any value. -/
def isIrrefutable : Nat → Pattern → Bool
  | 0, _ => false
  | fuel + 1, p =>
    match p with
    | .capture _ => true
    | .as p _ => isIrrefutable fuel p
    | .either options => (options.getLast?.map (isIrrefutable fuel)).getD false
    | _ => false

/-- The whole number that a key is: the truth values are one and nothing. -/
def keyNumber? : Expr → Option Int
  | .literal (.int n) => some n
  | .literal (.bool b) => some (if b then 1 else 0)
  | .unary .minus e => (keyNumber? e).map (- ·)
  | _ => none

/-- Whether two keys of a mapping are surely the same. -/
def sameKeys : Expr → Expr → Bool
  | .literal a, .literal b =>
    a == b || (keyNumber? (.literal a)).any fun n => keyNumber? (.literal b) == some n
  | a, b => (keyNumber? a).any fun n => keyNumber? b == some n

/-- Whether some of a list come twice. -/
def repeats {α : Type} (same : α → α → Bool) : List α → Bool
  | [] => false
  | a :: rest => rest.any (same a) || repeats same rest

/-- Whether a pattern breaks a rule, apart from the names that are bound: alternatives bind the same
names, and only the last matches anything; a sequence has one name for what is left; keys and
attributes come once; a text without expressions is compared with. -/
def isFlawed : Nat → Pattern → Bool
  | 0, _ => false
  | fuel + 1, p =>
    match p with
    | .value (.formatted _) => true
    | .value _ | .fixed _ | .capture _ | .star _ => false
    | .sequence items =>
      items.countP (fun
        | .star _ => true
        | _ => false) > 1 || items.any (isFlawed fuel)
    | .mapping entries _ =>
      repeats sameKeys (entries.map (·.1)) || entries.any fun (_, p) => isFlawed fuel p
    | .class _ items named =>
      repeats (· == ·) (named.map (·.1)) || items.any (isFlawed fuel) ||
        named.any fun (_, p) => isFlawed fuel p
    | .either options =>
      let bound := options.map (names fuel)
      let first := bound.headD []
      options.any (isFlawed fuel) || options.dropLast.any (isIrrefutable fuel) ||
        bound.any fun l => !(l.all first.contains && first.all l.contains)
    | .as p _ => isFlawed fuel p

/-- The expressions in a pattern. -/
def expressions : Nat → Pattern → List Expr
  | 0, _ => []
  | fuel + 1, p =>
    match p with
    | .value e => [e]
    | .fixed _ | .capture _ | .star _ => []
    | .sequence items | .either items => items.flatMap (expressions fuel)
    | .mapping entries _ => entries.flatMap fun (k, p) => k :: expressions fuel p
    | .class c items named =>
      c :: items.flatMap (expressions fuel) ++ named.flatMap fun (_, p) => expressions fuel p
    | .as p _ => expressions fuel p

/-- What a pattern does with names. A name that is bound twice is a flaw. -/
def events (rec : Expr → List ScopeEvent) (fuel : Nat) (p : Pattern) : List ScopeEvent :=
  (if p.isFlawed fuel || repeats (· == ·) (p.names fuel) then [.flaw] else []) ++
    (p.expressions fuel).flatMap rec ++ (p.names fuel).flatMap bound

end Pattern

/-! ## Statements -/

/-- How deep code may be nested. -/
def nestingLimit : Nat := 1000000

/-- The name that an import binds. -/
def ImportName.bound (n : ImportName) : String := n.newName.getD (n.name.headD "")

/-- What a statement does. Imports from the future stand at the start of a module only, and do
nothing there; anywhere else they are flaws. -/
def stmtEvents : Nat → Standing → Stmt → List ScopeEvent
  | 0, _, _ => []
  | fuel + 1, s, st =>
    let expr := exprEvents fuel
    let block := fun (s : Standing) (l : List Stmt) => l.flatMap (stmtEvents fuel s)
    let target := targetEvents expr s fuel
    let option := fun (e : Option Expr) => (e.map (expr s)).getD []
    match st with
    | .expr e => expr s e
    | .assign targets value => expr s value ++ targets.flatMap target
    | .augment t _ value =>
      (match t with
        | .name n => [.use n]
        | _ => []) ++ target t ++ expr s value
    | .annotate t hint value =>
      (match t with
        | .name n => if n = reservedName then [.flaw] else [.annotate n]
        | t => target t) ++ expr s hint ++ option value
    | .delete targets => targets.flatMap (deletionEvents expr s fuel)
    | .pass => []
    | .break | .continue => if s.inLoop then [] else [.flaw]
    | .return value =>
      (if s.isFunction then [] else [.flaw]) ++ (if value.isSome then [.returns] else []) ++
        option value
    | .raise e cause => option e ++ option cause
    | .assert test message => expr s test ++ option message
    | .global names => names.map .global
    | .nonlocal names => names.map .nonlocal
    | .import names => names.flatMap fun n => bound n.bound
    | .importFrom _ ["__future__"] _ => [.flaw]
    | .importFrom _ _ (some names) => names.flatMap fun n => bound n.bound
    | .importFrom _ _ none => if s.kind == .module then [] else [.flaw]
    | .if test yes no => expr s test ++ block s yes ++ block s no
    | .while test body no => expr s test ++ block { s with inLoop := true } body ++ block s no
    | .for isAsync t iterable body no =>
      (if isAsync then s.awaiting else []) ++ target t ++ expr s iterable ++
        block { s with inLoop := true } body ++ block s no
    | .try body handlers no final =>
      let bare := handlers.map fun (.mk type _ _) => type.isNone
      (if bare.dropLast.any id then [.flaw] else []) ++ block s body ++
        (handlers.flatMap fun (.mk type name b) =>
          option type ++ (name.map bound).getD [] ++ block s b) ++
        block s no ++ block s final
    | .with isAsync items body =>
      (if isAsync then s.awaiting else []) ++
        (items.flatMap fun (e, t) => expr s e ++ (t.map target).getD []) ++ block s body
    | .match subject cases =>
      let all := cases.map fun (.mk p condition _) => condition.isNone && p.isIrrefutable fuel
      expr s subject ++ (if all.dropLast.any id then [.flaw] else []) ++
        cases.flatMap fun (.mk p condition body) =>
          p.events (expr s) fuel ++ option condition ++ block s body
    | .function isAsync decorators name params returns body =>
      let inside : Standing := { kind := .function isAsync }
      let events := block inside body
      bound name ++ decorators.flatMap (expr s) ++ paramEvents expr s params ++ option returns ++
        (if isAsync && events.any (·.isYield) && events.any (·.isReturn) then [.flaw] else []) ++
        [.inner inside.kind (paramNames params ++ events)]
    | .class decorators name args body =>
      bound name ++ decorators.flatMap (expr s) ++ argEvents expr s args ++
        [.inner .classBody (block { kind := .classBody } body)]

/-- What the statements of a scope do. -/
def blockEvents (kind : ScopeKind) (body : List Stmt) : List ScopeEvent :=
  body.flatMap (stmtEvents nestingLimit { kind })

/-- The names that a scope with these events has of its own. -/
def localNames (events : List ScopeEvent) : List String :=
  let others := events.filterMap ScopeEvent.globalName? ++ events.filterMap ScopeEvent.nonlocalName?
  ((events.filterMap ScopeEvent.boundName?).filter (!others.contains ·)).eraseDups

end ScriptShell.Script
