import ScriptShell.Script.Expression
/-!
# Matching

Whether a value fits a pattern, and what the names of the pattern then stand for: `matchPattern`.
The names are bound only when the whole pattern fits. Of several cases the first is chosen whose
pattern fits and whose condition holds.
-/

namespace ScriptShell.Script.Exec

/-- What the names of a pattern stand for. -/
abbrev Bindings := List (String × Value)

/-- The binding of a name, if there is one. -/
def bindingOf (name : Option String) (v : Value) : Bindings := name.toList.map ((·, v))

/-- The items of a value that fits sequences: texts do not. -/
def sequenceItems? (v : Value) : Exec (Option (List Value)) := do
  match ← object? v with
  | some (.list l) | some (.tuple l) => pure (some l)
  | some (.range a b c) => some <$> rangeItems a b c
  | _ => pure none

/-- The classes whose instances fit a single pattern as a whole. -/
def selfMatching : List String :=
  ["bool", "bytearray", "bytes", "dict", "float", "frozenset", "int", "list", "set", "str", "tuple"]

/-- The attributes that the positions of a class pattern stand for. -/
def positionNames (ev : Evaluator) (c : Value) (count : Nat) : Exec (List String) := do
  let h ← heap
  let names ← match ← attributeOf? ev c "__match_args__" with
    | some v =>
      match h.object? v with
      | some (.tuple l) => pure (l.filterMap fun
          | .text s => some s
          | _ => none)
      | _ => typeError (h.classPath c ++ ".__match_args__ must be a tuple (got " ++ h.typeName v ++ ")")
    | none => pure []
  if names.length < count then
    typeError (h.classPath c ++ "() accepts " ++ counted names.length "positional sub-pattern" ++
      " (" ++ toString count ++ " given)")
  pure (names.take count)

/-- Matches patterns with what they are for, one after another, as long as they fit. -/
def matchAll {α : Type} (fits : α → Exec (Option Bindings)) : List α → Exec (Option Bindings)
  | [] => pure (some [])
  | a :: rest => do
    match ← fits a with
    | none => pure none
    | some bound => do pure ((← matchAll fits rest).map (bound ++ ·))

/-- The first of several patterns that fits. -/
def matchFirst {α : Type} (fits : α → Exec (Option Bindings)) : List α → Exec (Option Bindings)
  | [] => pure none
  | a :: rest => do
    match ← fits a with
    | some bound => pure (some bound)
    | none => matchFirst fits rest

/-- What the names of a pattern stand for if a value fits it. -/
def matchPattern (ev : Evaluator) (env : Env) : Nat → Pattern → Value → Exec (Option Bindings)
  | 0, _, _ => throw .exhausted
  | fuel + 1, p, v =>
    let pairs := fun (l : List (Pattern × Value)) =>
      matchAll (fun (p, v) => matchPattern ev env fuel p v) l
    match p with
    | .value e => do
      let same ← compareValues ev .eq v (← ev.eval env e)
      pure (if ← truth ev same then some [] else none)
    | .fixed l => do pure (if v = (← literalValue l) then some [] else none)
    | .capture n => pure (some (bindingOf n v))
    | .star n => pure (some (bindingOf n v))
    | .sequence patterns => do
      let isStar := fun
        | Pattern.star _ => true
        | _ => false
      match ← sequenceItems? v with
      | none => pure none
      | some items =>
        let before := patterns.takeWhile (!isStar ·)
        match patterns.drop before.length with
        | [] => if items.length = before.length then pairs (before.zip items) else pure none
        | star :: after =>
          let n := items.length - before.length - after.length
          if items.length < before.length + after.length then pure none
          else do
            let middle ← list ((items.drop before.length).take n)
            pairs (before.zip items ++ (star, middle) :: after.zip (items.drop (before.length + n)))
    | .mapping entries rest => do
      match ← object? v with
      | some (.dict l) => do
        let keys ← entries.mapM fun (k, _) => ev.eval env k
        let h ← heap
        let found := keys.map fun k => (l.find? fun e => h.sameKey e.1 k).map (·.2)
        if found.all Option.isSome then
          let left ← dict (l.filter fun e => !keys.any (h.sameKey e.1))
          let bound ← pairs ((entries.map (·.2)).zip (found.filterMap id))
          pure (bound.map (· ++ bindingOf rest left))
        else pure none
      | _ => pure none
    | .class c items named => do
      let c ← ev.eval env c
      let h ← heap
      unless h.isClass c do typeError "called match pattern must be a type"
      if !h.isInstance v c then pure none
      else
        let whole := selfMatching.contains (h.builtinBase Heap.classDepth c)
        let (first, items) := if whole then (items.take 1, items.drop 1) else ([], items)
        if whole && !items.isEmpty then
          typeError (h.classPath c ++ "() accepts 1 positional sub-pattern (" ++
            toString (items.length + 1) ++ " given)")
        let names ← if whole then pure [] else positionNames ev c items.length
        let ofAttribute := fun ((n, p) : String × Pattern) => do
          match ← attributeOf? ev v n with
          | some x => matchPattern ev env fuel p x
          | none => pure none
        match ← pairs (first.map (·, v)) with
        | none => pure none
        | some bound => do
          pure ((← matchAll ofAttribute (names.zip items ++ named)).map (bound ++ ·))
    | .either options => matchFirst (fun p => matchPattern ev env fuel p v) options
    | .as p n => do pure ((← matchPattern ev env fuel p v).map (· ++ [(n, v)]))

/-- The body of the first case that is for a value. -/
def chosenCase (ev : Evaluator) (env : Env) (v : Value) : List Case → Exec (Option (List Stmt))
  | [] => pure none
  | .mk pattern condition body :: rest => do
    match ← matchPattern ev env nestingLimit pattern v with
    | none => chosenCase ev env v rest
    | some bound => do
      for (n, x) in bound do bindName env n x
      let holds ← match condition with
        | none => pure true
        | some e => do truth ev (← ev.eval env e)
      if holds then pure (some body) else chosenCase ev env v rest

end ScriptShell.Script.Exec
