import ScriptShell.Script.Evaluator
/-!
# Names

A name belongs to the innermost function around that has it, else to the module, else to what is
built in. A function has a name even while it has no value yet; a class, and text that is run with
names of its own, keep theirs in a dictionary.
-/

namespace ScriptShell.Script

/-- What the functions around a piece of code know about a name. -/
inductive Holder
  /-- a function has it; without a value it is not bound yet. `own` if that function runs the code -/
  | function (r : Ref) (value : Option Value) (own : Bool)
  | module
deriving Repr, DecidableEq, Inhabited

/-- Who has a name, looking through at most so many functions outwards. -/
def Heap.holder (h : Heap) (name : String) : Nat → Bool → Option Ref → Holder
  | 0, _, _ => .module
  | _ + 1, _, none => .module
  | n + 1, own, some r =>
    match h.get? r with
    | some (.scope locals names outer globalNames) =>
      if locals.contains name then .function r (names.lookup name) own
      else if globalNames.contains name then .module
      else h.holder name n false outer
    | _ => .module

/-- Who has a name in an environment. -/
def Env.holder (env : Env) (h : Heap) (name : String) : Holder :=
  h.holder name h.objects.size env.locals.isNone env.scope

/-- The dictionary of a value that is one, or is a module. -/
def Heap.namespace? (h : Heap) (v : Value) : Option Ref :=
  match h.object? v with
  | some (.module _ contents) => some contents
  | _ => h.dict? v

/-- The dictionary of what is built in, as a module has it. -/
def Heap.builtins? (h : Heap) (globals : Ref) : Option Ref :=
  (h.lookup? globals "__builtins__").bind h.namespace?

namespace Exec

/-- The complaint about a name that a function has without a value. -/
def unsetName {α : Type} (own : Bool) (name : String) : Exec α :=
  if own then
    raise "UnboundLocalError"
      ("cannot access local variable '" ++ name ++ "' where it is not associated with a value")
  else
    raise "NameError"
      ("cannot access free variable '" ++ name ++
        "' where it is not associated with a value in enclosing scope")

/-- The complaint about a name that nobody has. -/
def undefinedName {α : Type} (name : String) : Exec α :=
  raise "NameError" ("name '" ++ name ++ "' is not defined")

/-- The value of a name of the module, or of what is built in. -/
def globalValue (env : Env) (name : String) : Exec Value := do
  let h ← heap
  match h.lookup? env.globals name with
  | some v => pure v
  | none =>
    match (h.builtins? env.globals).bind (h.lookup? · name) with
    | some v => pure v
    | none => undefinedName name

/-- The dictionary that has a name of its own here. -/
def dictFor? (env : Env) (name : String) : Option Ref :=
  if env.globalNames.contains name then some env.globals else env.locals

/-- The value of a name. -/
def nameValue (env : Env) (name : String) : Exec Value := do
  let h ← heap
  match (dictFor? env name).bind (h.lookup? · name) with
  | some v => pure v
  | none =>
    if env.globalNames.contains name then globalValue env name
    else
      match env.holder h name with
      | .function _ (some v) _ => pure v
      | .function _ none own => unsetName own name
      | .module => globalValue env name

/-- Changes the names of a running function. -/
def setNames (r : Ref) (change : List (String × Value) → List (String × Value)) : Exec Unit := do
  match (← heap).get? r with
  | some (.scope locals names outer globalNames) =>
    setObject r (.scope locals (change names) outer globalNames)
  | _ => pure ()

/-- Gives a name a value. -/
def bindName (env : Env) (name : String) (v : Value) : Exec Unit := do
  let h ← heap
  match dictFor? env name with
  | some r => setHeap (h.put r name v)
  | none =>
    match env.holder h name with
    | .function r _ _ => setNames r fun names => (name, v) :: names.filter (·.1 != name)
    | .module => setHeap (h.put env.globals name v)

/-- Takes a name its value. -/
def unbindName (env : Env) (name : String) : Exec Unit := do
  let h ← heap
  let fromDict := fun (r : Ref) => do
    if (h.lookup? r name).isSome then setHeap (h.remove r name) else undefinedName name
  match dictFor? env name with
  | some r => fromDict r
  | none =>
    match env.holder h name with
    | .function r (some _) _ => setNames r fun names => names.filter (·.1 != name)
    | .function _ none own => unsetName own name
    | .module => fromDict env.globals

end Exec

end ScriptShell.Script
