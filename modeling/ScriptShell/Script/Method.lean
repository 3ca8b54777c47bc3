import ScriptShell.Script.Method.Dictionary
import ScriptShell.Script.Method.Sequence
import ScriptShell.Script.Method.Set
import ScriptShell.Script.Method.Text
/-!
# Methods of built-in values

What a method of a value does: `method`. A method is called with the value it belongs to and
arguments by position and by name.
-/

namespace ScriptShell.Script.Exec

/-- A method of a stream. -/
def streamMethod (s : Stream) (name : String) (args : List Value)
    (named : List (String × Value)) : Exec Value := do
  match name with
  | "write" => do
    let v ← onlyArg "TextIOWrapper.write" args named
    let t ← textArg (fun t => "write() argument must be str, not " ++ t) v
    put (.script s t)
    pure (.int t.length)
  | "flush" | "close" => pure .none
  | "isatty" => pure (.bool false)
  | "read" | "readline" => pure (.text "")
  | _ => notProvided ("TextIOWrapper." ++ name)

/-- A method of a value that is built in. -/
def method (ev : Evaluator) (self : Value) (name : String) (args : List Value)
    (named : List (String × Value)) : Exec Value := do
  let h ← heap
  match self with
  | .text s => textMethod ev s name args named
  | .bytes b =>
    if name = "decode" then
      match String.fromUTF8? ⟨b.toArray⟩ with
      | some s => pure (.text s)
      | none => raise "UnicodeDecodeError" "'utf-8' codec can't decode bytes"
    else if name = "hex" then pure (.text (String.join (b.map fun n => hexText 2 n.toNat)))
    else notProvided ("bytes." ++ name)
  | .int n =>
    if name = "bit_length" then
      pure (.int (if n = 0 then 0 else Nat.log2 n.natAbs + 1 : Nat))
    else if name = "conjugate" then pure self
    else notProvided ("int." ++ name)
  | .object r =>
    match h.get? r with
    | some (.list l) => listMethod ev r l name args named
    | some (.tuple l) => tupleMethod l name args named
    | some (.dict l) => dictMethod ev r l name args named
    | some (.set l) => setMethod ev r l name args named
    | some (.stream s) => streamMethod s name args named
    | some (.exception t _ contents) =>
      match name with
      | "__init__" => do
        setObject r (.exception t args contents)
        pure .none
      | "__repr__" => pure (.text (h.shown Heap.shownDepth self))
      | _ => pure (.text (h.plain self))
    | some (.instance ..) =>
      if name = "__init__" then pure .none else pure (.text (h.shown Heap.shownDepth self))
    | _ => notProvided (h.typeName self ++ "." ++ name)
  | _ => notProvided (h.typeName self ++ "." ++ name)

end ScriptShell.Script.Exec
