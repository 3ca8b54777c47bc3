import ScriptShell.Script.Attribute
import ScriptShell.Script.Name
/-!
# Targets

What stands on the left of an assignment: a name, an attribute, an item, or several targets that
share the items of a value. The same targets can be deleted.
-/

namespace ScriptShell.Script.Exec

/-- The item of a value at a key; an instance may have its own way. -/
def valueAt (ev : Evaluator) (v key : Value) : Exec Value := do
  match (← heap).special? v "__getitem__" with
  | some f => ev.call f [v, key] []
  | none => itemAt v key

/-- Puts an item into a value at a key; an instance may have its own way. -/
def putValueAt (ev : Evaluator) (v key item : Value) : Exec Unit := do
  match (← heap).special? v "__setitem__" with
  | some f => do
    let _ ← ev.call f [v, key, item] []
  | none => setItem ev.items v key item

/-- The items of a value that targets share. -/
def unpacked (ev : Evaluator) (v : Value) : Exec (List Value) := do
  let h ← heap
  if h.isIterable v then ev.items v
  else typeError ("cannot unpack non-iterable " ++ h.typeName v ++ " object")

/-- Gives each target its share of the items: one item, or for a starred target all that the others
leave. -/
def shares (targets : List Expr) (items : List Value) : Exec (List (Expr × Value)) := do
  let isStarred := fun
    | Expr.starred _ => true
    | _ => false
  let before := targets.takeWhile (!isStarred ·)
  match targets.drop before.length with
  | .starred e :: after => do
    let least := before.length + after.length
    if items.length < least then
      raise "ValueError" ("not enough values to unpack (expected at least " ++ toString least ++
        ", got " ++ toString items.length ++ ")")
    let rest := items.drop before.length
    let middle ← list (rest.take (items.length - least))
    pure (before.zip items ++ (e, middle) :: after.zip (rest.drop (items.length - least)))
  | _ =>
    if items.length < targets.length then
      raise "ValueError" ("not enough values to unpack (expected " ++ toString targets.length ++
        ", got " ++ toString items.length ++ ")")
    else if targets.length < items.length then
      raise "ValueError" ("too many values to unpack (expected " ++ toString targets.length ++ ")")
    else pure (targets.zip items)

/-- Assigns a value to a target. -/
def assign (ev : Evaluator) (env : Env) : Nat → Expr → Value → Exec Unit
  | 0, _, _ => throw .exhausted
  | fuel + 1, target, v =>
    match target with
    | .name n => bindName env n v
    | .attribute e n => do setAttribute (← ev.eval env e) n v
    | .index e key => do
      let o ← ev.eval env e
      putValueAt ev o (← ev.eval env key) v
    | .tuple targets | .list targets => do
      for (t, x) in ← shares targets (← unpacked ev v) do
        assign ev env fuel t x
    | _ => pure ()

/-- Deletes what a target stands for. -/
def delete (ev : Evaluator) (env : Env) : Nat → Expr → Exec Unit
  | 0, _ => throw .exhausted
  | fuel + 1, target =>
    match target with
    | .name n => unbindName env n
    | .attribute e n => do deleteAttribute (← ev.eval env e) n
    | .index e key => do
      let o ← ev.eval env e
      let k ← ev.eval env key
      match (← heap).special? o "__delitem__" with
      | some f => do
        let _ ← ev.call f [o, k] []
      | none => deleteItem o k
    | .tuple targets | .list targets => do
      for t in targets do
        delete ev env fuel t
    | _ => pure ()

end ScriptShell.Script.Exec
