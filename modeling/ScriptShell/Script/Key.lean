import ScriptShell.Script.Attribute
/-!
# Texts as keys

A dictionary keeps its keys under numbers, and finds a text under a key that is kept under the same
number and is equal to it. A key of a class of the script's own tells both by methods of its class,
which may run anything and raise what they like.
-/

namespace ScriptShell.Script

/-- The number that a text is kept under. -/
def textNumber (s : String) : Nat :=
  s.toList.foldl (fun n c => (n * 1000003 + c.toNat) % 2305843009213693951) 7

namespace Exec

/-- The number that a key tells by a method of its class. -/
def toldNumber (ev : Evaluator) (method key : Value) : Exec Int := do
  match (← ev.call method [key] []).toInt? with
  | some n => pure n
  | none => typeError "__hash__ method should return an integer"

/-- Whether a text is found under a key. -/
def isUnder (ev : Evaluator) (name : String) (key : Value) : Exec Bool := do
  let h ← heap
  match h.special? key "__eq__", h.special? key "__hash__" with
  | none, _ => pure (key == .text name)
  | some _, none => pure false
  | some equal, some number =>
    if (← toldNumber ev number key) = textNumber name then
      match ← ev.call equal [key, .text name] [] with
      | .notImplemented => pure false
      | answer => truth ev answer
    else pure false

/-- The first of some entries under whose key a text is found. -/
def entryUnder (ev : Evaluator) (name : String) :
    List (Value × Value) → Exec (Option (Value × Value))
  | [] => pure none
  | e :: rest => do
    if ← isUnder ev name e.1 then pure (some e) else entryUnder ev name rest

/-- The value under a text in a dictionary. -/
def lookupText (ev : Evaluator) (r : Ref) (name : String) : Exec (Option Value) := do
  let entry ← entryUnder ev name (((← heap).entries? r).getD [])
  pure (entry.map (·.2))

/-- Puts a value under a text in a dictionary, or under the key that the text is found under. -/
def storeText (ev : Evaluator) (r : Ref) (name : String) (v : Value) : Exec Unit := do
  let entry ← entryUnder ev name (((← heap).entries? r).getD [])
  let key := (entry.map (·.1)).getD (.text name)
  setObject r (.dict (Heap.putEntry (· == ·) (((← heap).entries? r).getD []) key v))

end Exec

end ScriptShell.Script
