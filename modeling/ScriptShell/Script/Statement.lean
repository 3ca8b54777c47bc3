import ScriptShell.Script.Expression
import ScriptShell.Script.Import
import ScriptShell.Script.Matching
/-!
# Statements

What running a statement does: `runStatement`. Statements run one after another until one of them
leaves the block; whatever way a guarded block is left, its last part is run.
-/

namespace ScriptShell.Script.Exec

/-- Runs statements one after another, up to the first that leaves them. -/
def runAll (run : Stmt → Exec Flow) : List Stmt → Exec Flow
  | [] => pure .next
  | s :: rest => do
    match ← run s with
    | .next => runAll run rest
    | flow => pure flow

/-! ## Loops -/

/-- Runs a body as long as a test holds; says how the loop was left, or nothing if the test
failed. -/
def loopWhile (test : Exec Bool) (body : Exec Flow) : Nat → Exec (Option Flow)
  | 0 => throw .exhausted
  | n + 1 => do
    if ← test then
      match ← body with
      | .next | .continue => loopWhile test body n
      | .break => pure (some .next)
      | .return v => pure (some (.return v))
    else pure none

/-- Runs a body for each item; says how the loop was left, or nothing if the items ran out. -/
def loopFor (body : Value → Exec Flow) : Nat → Progress → Exec (Option Flow)
  | 0, _ => throw .exhausted
  | n + 1, p => do
    match ← nextInLoop p with
    | none => pure none
    | some (v, p) =>
      match ← body v with
      | .next | .continue => loopFor body n p
      | .break => pure (some .next)
      | .return v => pure (some (.return v))

/-! ## Assignments -/

/-- An operator that changes its left side, if that can be changed, and gives its new value. -/
def augmented (ev : Evaluator) (op : BinaryOp) (a b : Value) : Exec Value := do
  let h ← heap
  match h.special? a ("__i" ++ op.specialName ++ "__") with
  | some f => ev.call f [a, b] []
  | none =>
    match a, h.object? a, op with
    | .object r, some (.list l), .add => do
      let more ← ev.items b
      setObject r (.list (l ++ more))
      pure a
    | .object r, some (.list _), .mul | .object r, some (.set _), .bitOr
    | .object r, some (.set _), .bitAnd | .object r, some (.set _), .sub
    | .object r, some (.set _), .bitXor => do
      let result ← operate op true a b
      match (← heap).object? result with
      | some o => setObject r o
      | none => pure ()
      pure a
    | .object r, some (.dict entries), .bitOr => do
      let more ← entriesOf ev b
      setObject r (.dict (← putAll entries more))
      pure a
    | _, _, _ => binaryValue ev op true a b

/-- Changes what a target stands for by an operator. -/
def augment (ev : Evaluator) (env : Env) (target : Expr) (op : BinaryOp) (e : Expr) :
    Exec Unit := do
  match target with
  | .attribute o n => do
    let o ← ev.eval env o
    let old ← attributeOf ev o n
    let b ← ev.eval env e
    setAttribute o n (← augmented ev op old b)
  | .index o key => do
    let o ← ev.eval env o
    let k ← ev.eval env key
    let old ← valueAt ev o k
    let b ← ev.eval env e
    putValueAt ev o k (← augmented ev op old b)
  | target => do
    let old ← ev.eval env target
    let b ← ev.eval env e
    assign ev env nestingLimit target (← augmented ev op old b)

/-- Evaluates the parts of a target that gets no value. -/
def touchTarget (ev : Evaluator) (env : Env) (target : Expr) : Exec Unit := do
  match target with
  | .attribute e _ => discard (ev.eval env e)
  | .index e key => do
    discard (ev.eval env e)
    discard (ev.eval env key)
  | _ => pure ()

/-- Notes the annotation of a name of a module or class. Inside of functions annotations are not
evaluated. -/
def annotateTarget (ev : Evaluator) (env : Env) (target hint : Expr) : Exec Unit := do
  if env.scope.isNone || env.locals.isSome then
    let a ← ev.eval env hint
    match target with
    | .name n => do
      let own := env.locals.getD env.globals
      let (r, h) := (← heap).subDict own "__annotations__"
      setHeap (h.put r n a)
    | _ => pure ()

/-! ## Exceptions -/

/-- The exception that a value stands for: an exception, or a class of which one is made. -/
def exceptionOf (ev : Evaluator) (complaint : String) (v : Value) : Exec Value := do
  let h ← heap
  if h.isExceptionClass v then
    let e ← ev.call v [] []
    match (← heap).object? e with
    | some (.exception ..) => pure e
    | _ =>
      typeError ("calling " ++ h.shown Heap.shownDepth v ++
        " should have returned an instance of BaseException, not " ++
        (← heap).shown Heap.shownDepth ((← heap).typeOf e))
  else
    match h.object? v with
    | some (.exception ..) => pure v
    | _ => typeError complaint

/-- Raises what a statement asks for. -/
def raiseStatement (ev : Evaluator) (env : Env) (exception cause : Option Expr) : Exec Flow := do
  match exception with
  | none =>
    match (← get).handling with
    | e :: _ => throw (.raised e true)
    | [] => raise "RuntimeError" "No active exception to reraise"
  | some e => do
    let v ← ev.eval env e
    let c ← match cause with
      | some c => ev.eval env c
      | none => pure .none
    let x ← exceptionOf ev "exceptions must derive from BaseException" v
    match c with
    | .none => pure ()
    | c => do
      let c ← exceptionOf ev "exception causes must derive from BaseException" c
      setAttribute x "__cause__" c
    throw (.raised x true)

/-- Whether an exception is one of those that a handler names. -/
def isHandled (ev : Evaluator) (env : Env) (e : Value) (type : Option Expr) : Exec Bool := do
  match type with
  | none => pure true
  | some t => do
    let c ← ev.eval env t
    let h ← heap
    let classes := match h.object? c with
      | some (.tuple l) => l
      | _ => [c]
    unless classes.all h.isExceptionClass do
      typeError "catching classes that do not inherit from BaseException is not allowed"
    pure (classes.any (h.isInstance e))

/-- Runs code while an exception is being handled. -/
def whileHandling {α : Type} (e : Value) (code : Exec α) : Exec α := do
  modify fun i => { i with handling := e :: i.handling }
  let leave : Exec Unit := modify fun i => { i with handling := i.handling.tail }
  let a ← tryCatch code fun abort => do
    leave
    throw abort
  leave
  pure a

/-- Runs code and then, whatever comes of it, code that ends it. -/
def andFinally (code final : Exec Flow) : Exec Flow := do
  let outcome ← caught code
  let ended ← match outcome with
    | .error (e, _) => whileHandling e final
    | .ok _ => final
  match ended, outcome with
  | .next, .ok flow => pure flow
  | .next, .error (e, t) => throw (.raised e t)
  | flow, _ => pure flow

/-- Runs the first handler that is for an exception. -/
def handleWith (ev : Evaluator) (env : Env) (e : Value) (traced : Bool) :
    List Handler → Exec Flow
  | [] => throw (.raised e traced)
  | .mk type name body :: rest => do
    if ← whileHandling e (isHandled ev env e type) then
      whileHandling e (do
        match name with
        | none => ev.block env body
        | some n => do
          bindName env n e
          andFinally (ev.block env body) (do
            bindName env n .none
            unbindName env n
            pure .next))
    else handleWith ev env e traced rest

/-- Runs a guarded block. -/
def tryStatement (ev : Evaluator) (env : Env) (body : List Stmt) (handlers : List Handler)
    (no final : List Stmt) : Exec Flow := do
  let guarded : Exec Flow := do
    match ← caught (ev.block env body) with
    | .ok .next => ev.block env no
    | .ok flow => pure flow
    | .error (e, t) => handleWith ev env e t handlers
  if final.isEmpty then guarded else andFinally guarded (ev.block env final)

/-- Runs a block with managers, each of which is told when the block is entered and left. -/
def withStatement (ev : Evaluator) (env : Env) (body : Exec Flow) :
    List (Expr × Option Expr) → Exec Flow
  | [] => body
  | (e, target) :: rest => do
    let v ← ev.eval env e
    let h ← heap
    let refuse := fun (extra : String) =>
      (typeError ("'" ++ h.typeName v ++ "' object does not support the context manager protocol" ++
        extra) : Exec Flow)
    match h.special? v "__enter__", h.special? v "__exit__" with
    | none, _ => refuse ""
    | some _, none => refuse " (missed __exit__ method)"
    | some enter, some leave => do
      let entered ← ev.call enter [v] []
      let inside : Exec Flow := do
        if let some t := target then assign ev env nestingLimit t entered
        withStatement ev env body rest
      match ← caught inside with
      | .ok flow => do
        let _ ← ev.call leave [v, .none, .none, .none] []
        pure flow
      | .error (e, t) => do
        let answer ← ev.call leave [v, (← heap).typeOf e, e, .none] []
        if ← truth ev answer then pure .next else throw (.raised e t)

/-! ## Definitions -/

/-- A value given to the functions that stand before a definition, the last of them first. -/
def decorated (ev : Evaluator) (decorators : List Value) (v : Value) : Exec Value :=
  decorators.reverse.foldlM (fun v f => ev.call f [v] []) v

/-- Defines a class: its body runs with names of its own, which become the attributes. Its
functions find the class itself in a scope around them. -/
def classStatement (ev : Evaluator) (env : Env) (decorators : List Expr) (name : String)
    (args : List Arg) (body : List Stmt) : Exec Unit := do
  let decorators ← decorators.mapM (ev.eval env)
  let bases ← positionArgs ev env .none args
  let _ ← namedArgs ev env .none args
  let module := ((← heap).lookup? env.globals "__name__").getD .none
  let (r, h) := (← heap).alloc (.dict
    [(.text "__module__", module), (.text "__qualname__", .text (env.path ++ name))])
  setHeap h
  let (around, h) := (← heap).alloc (.scope [ownClassName] [] env.scope [])
  setHeap h
  let globalNames := (blockEvents .classBody body).filterMap ScopeEvent.globalName?
  let inner : Env :=
    { globals := env.globals, locals := some r, scope := some around, globalNames
      path := env.path ++ name ++ "." }
  let _ ← inFrame inner (ev.block inner body)
  let c ← makeClass name bases r
  setNames around fun _ => [(ownClassName, c)]
  bindName env name (← decorated ev decorators c)

/-! ## All statements -/

/-- Runs a statement. -/
def runStatement (ev : Evaluator) (env : Env) (s : Stmt) : Exec Flow := do
  match s with
  | .expr e => do
    let _ ← ev.eval env e
    pure .next
  | .assign targets e => do
    let v ← ev.eval env e
    for t in targets do
      assign ev env nestingLimit t v
    pure .next
  | .augment target op e => do
    augment ev env target op e
    pure .next
  | .annotate target hint value => do
    match value with
    | some e => do assign ev env nestingLimit target (← ev.eval env e)
    | none => touchTarget ev env target
    annotateTarget ev env target hint
    pure .next
  | .delete targets => do
    for t in targets do
      delete ev env nestingLimit t
    pure .next
  | .pass | .global _ | .nonlocal _ => pure .next
  | .break => pure .break
  | .continue => pure .continue
  | .return none => pure (.return .none)
  | .return (some e) => .return <$> ev.eval env e
  | .raise exception cause => raiseStatement ev env exception cause
  | .assert test message => do
    if ← truth ev (← ev.eval env test) then pure .next
    else
      match message with
      | none => raiseWith "AssertionError" []
      | some e => do raiseWith "AssertionError" [← ev.eval env e]
  | .import names => do
    importNames ev env names
    pure .next
  | .importFrom level module names => do
    importFromModule ev env level module names
    pure .next
  | .if test yes no => do
    if ← truth ev (← ev.eval env test) then ev.block env yes else ev.block env no
  | .while test body no => do
    let left ← loopWhile (do truth ev (← ev.eval env test)) (ev.block env body) loopLimit
    match left with
    | some flow => pure flow
    | none => ev.block env no
  | .for _ target iterable body no => do
    let start ← startLoop ev (← ev.eval env iterable)
    let once := fun v => do
      assign ev env nestingLimit target v
      ev.block env body
    match ← loopFor once loopLimit start with
    | some flow => pure flow
    | none => ev.block env no
  | .try body handlers no final => tryStatement ev env body handlers no final
  | .with _ items body => withStatement ev env (ev.block env body) items
  | .match subject cases => do
    match ← chosenCase ev env (← ev.eval env subject) cases with
    | some body => ev.block env body
    | none => pure .next
  | .function isAsync decorators name params returns body => do
    let decorators ← decorators.mapM (ev.eval env)
    let f ← functionValue ev env name params (.block body) isAsync returns
    bindName env name (← decorated ev decorators f)
    pure .next
  | .class decorators name args body => do
    classStatement ev env decorators name args body
    pure .next

end ScriptShell.Script.Exec
