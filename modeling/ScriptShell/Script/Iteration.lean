import ScriptShell.Script.Source
import ScriptShell.Script.Target
/-!
# Iteration

The items of a value, one after another: those it has at hand, those its code gives, and for a loop
those that come while the value may change.
-/

namespace ScriptShell.Script.Exec

/-- What `element` gives for each way through the clauses of a comprehension. The items that the
first clause goes through may be settled already. -/
def clauseValues {α : Type} (ev : Evaluator) (env : Env) (element : Exec α) :
    Option Value → List Clause → Exec (List α)
  | _, [] => do pure [← element]
  | first, .mk _ target iterable conditions :: rest => do
    let source ← match first with
      | some v => pure v
      | none => ev.eval env iterable
    let found ← (← ev.items source).mapM fun x => do
      assign ev env nestingLimit target x
      let holds ← conditions.allM fun c => do truth ev (← ev.eval env c)
      if holds then clauseValues ev env element none rest else pure []
    pure found.flatten

/-- What code gives one by one while it is run to its end. -/
def givenBy (code : Exec Unit) : Exec (List Value) := do
  modify fun i => { i with given := [] :: i.given }
  let leave : Exec (List Value) := do
    let i ← get
    set { i with given := i.given.tail }
    pure (i.given.headD []).reverse
  tryCatch code fun e => do
    let _ ← leave
    throw e
  leave

/-- Gives one more value. -/
def give (v : Value) : Exec Unit :=
  modify fun i => { i with given := (v :: i.given.headD []) :: i.given.tail }

/-- The items of a generator. -/
def pendingItems (ev : Evaluator) (p : Pending) : Exec (List Value) :=
  match p with
  | .comprehension env element first clauses =>
    inFrame env (clauseValues ev env (ev.eval env element) (some first) clauses)
  | .body env l => givenBy (do
    let _ ← inFrame env (ev.block env l))
  | .mapping f sources => do
    let ls ← sources.mapM ev.items
    let n := (ls.map List.length).foldl max 0
    (zipped n ls).mapM fun l => ev.call f l []
  | .filter f source => do
    (← ev.items source).filterM fun x => do
      truth ev (← if f = .none then pure x else ev.call f [x] [])

/-- What a function gives each time it is called, up to the end of the iteration. -/
def untilStop (ev : Evaluator) (next : Value) (args : List Value) : Nat → Exec (List Value)
  | 0 => throw .exhausted
  | n + 1 => do
    let item ← tryCatch (some <$> ev.call next args []) fun
      | .raised e t => do
        if (← heap).isInstance e (.type "StopIteration") then pure none else throw (.raised e t)
      | other => throw other
    match item with
    | some v => do
      let more ← untilStop ev next args n
      pure (v :: more)
    | none => pure []

/-- How many items an iteration of a script's own making goes through at most. -/
def ownIterationLimit : Nat := 10000

/-- The items of a value. -/
def itemsOf (ev : Evaluator) (v : Value) : Exec (List Value) := do
  match ← readyItems? v with
  | some l => pure l
  | none => do
    let h ← heap
    match v, h.object? v with
    | .object r, some (.generator p) => do
      setObject r (.iterator p.kind [])
      pendingItems ev p
    | _, _ =>
      match h.special? v "__iter__" with
      | some f => do
        let it ← ev.call f [v] []
        match (← heap).special? it "__next__" with
        | some next => untilStop ev next [it] ownIterationLimit
        | none => ev.items it
      | none => typeError ("'" ++ h.typeName v ++ "' object is not iterable")

/-! ## Loops -/

/-- How far a loop through a value has come. -/
inductive Progress
  /-- these items are left -/
  | items (l : List Value)
  /-- a list, which may change meanwhile, from a position on -/
  | list (r : Ref) (i : Nat)
  /-- items of a dictionary, which must keep its size -/
  | dict (r : Ref) (size : Nat) (l : List Value)
  /-- an iteration that others may go on with -/
  | iterator (r : Ref)
deriving Repr, DecidableEq, Inhabited

/-- The start of a loop through a value. -/
def startLoop (ev : Evaluator) (v : Value) : Exec Progress := do
  let h ← heap
  match v, h.object? v with
  | .object r, some (.list _) => pure (.list r 0)
  | .object r, some (.dict entries) => pure (.dict r entries.length (entries.map (·.1)))
  | _, some (.view _ d) => do
    let l ← ev.items v
    pure (.dict d l.length l)
  | .object r, some (.iterator ..) => pure (.iterator r)
  | _, _ => .items <$> ev.items v

/-- The next item of a loop and what is left after it. -/
def nextInLoop (p : Progress) : Exec (Option (Value × Progress)) := do
  match p with
  | .items [] => pure none
  | .items (v :: rest) => pure (some (v, .items rest))
  | .list r i =>
    match (← heap).get? r with
    | some (.list l) => pure ((l[i]?).map fun v => (v, .list r (i + 1)))
    | _ => pure none
  | .dict r size l =>
    if (((← heap).entries? r).getD []).length ≠ size then
      raise "RuntimeError" "dictionary changed size during iteration"
    match l with
    | [] => pure none
    | v :: rest => pure (some (v, .dict r size rest))
  | .iterator r =>
    match (← heap).get? r with
    | some (.iterator kind (v :: rest)) => do
      setObject r (.iterator kind rest)
      pure (some (v, .iterator r))
    | _ => pure none

end ScriptShell.Script.Exec
