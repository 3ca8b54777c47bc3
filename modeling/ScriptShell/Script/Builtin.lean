import ScriptShell.Script.Builtin.Code
import ScriptShell.Script.Builtin.Item
import ScriptShell.Script.Builtin.Number
import ScriptShell.Script.Builtin.Object
import ScriptShell.Script.Construct
/-!
# Built-in functions

What the functions do that every script finds: `callBuiltin`. They are grouped by what they are
about; one group after another is asked.
-/

namespace ScriptShell.Script.Exec

/-- What `print` does. -/
def print (ev : Evaluator) (args : List Value) (named : List (String × Value)) : Exec Value := do
  for (n, _) in named do
    unless ["sep", "end", "file", "flush"].contains n do
      typeError ("'" ++ n ++ "' is an invalid keyword argument for print()")
  let h ← heap
  let option := fun (n usual : String) => do
    match named.lookup n with
    | none | some .none => pure usual
    | some (.text s) => pure s
    | some v => typeError (n ++ " must be None or a string, not " ++ h.typeName v)
  let separator ← option "sep" " "
  let ending ← option "end" "\n"
  let texts ← args.mapM (plainText ev)
  let text := separator.intercalate texts ++ ending
  match named.lookup "file" with
  | none | some .none => put (.script .out text)
  | some f =>
    match h.object? f with
    | some (.stream s) => put (.script s text)
    | _ => do
      let write ← attributeOf ev f "write"
      let _ ← ev.call write [.text text] []
  pure .none

/-- What `open` does: a file that is not there is told of. -/
def openFile (args : List Value) : Exec Value := do
  let p ← pathArg "open" (args.headD .none)
  match (← get).machine.disk.readBytes p with
  | .error e => raiseSystem e p
  | .ok _ => notProvided "open"

/-- A function of streams and files. -/
def streamFunction? (ev : Evaluator) (name : String) (args : List Value)
    (named : List (String × Value)) : Option (Exec Value) :=
  match name with
  | "print" => some (print ev args named)
  | "input" => some (raise "EOFError" "EOF when reading a line")
  | "open" => some (openFile args)
  | _ => none

/-- A method of a built-in class, called with the value it is for as its first argument. -/
def classMethod (ev : Evaluator) (name : String) (args : List Value)
    (named : List (String × Value)) : Exec Value :=
  match (name.toList.splitOn '.').map String.ofList, args with
  | [_, m], self :: rest => method ev self m rest named
  | [t, m], [] => typeError ("unbound method " ++ t ++ "." ++ m ++ "() needs an argument")
  | _, _ => notProvided name

/-- Calls a built-in function. -/
def callBuiltin (ev : Evaluator) (name : String) (args : List Value)
    (named : List (String × Value)) : Exec Value :=
  let plain := (streamFunction? ev name args named).or (itemFunction? ev name args named)
  let general := (numberFunction? name args named).or (objectFunction? ev name args named)
  let special := (codeFunction? ev name args named).or (moduleFunction? name args)
  ((plain.or general).or special).getD (classMethod ev name args named)

end ScriptShell.Script.Exec
