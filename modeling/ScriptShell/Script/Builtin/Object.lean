import ScriptShell.Script.Argument
import ScriptShell.Script.FormatSpec
import ScriptShell.Script.Key
/-!
# Functions of any value

The text of a value, its class, whether it can be called, and its attributes by their names.
-/

namespace ScriptShell.Script.Exec

/-- The identity of a value. -/
def identityOf : Value → Int
  | .object r => (140000000000000 + 64 * r : Nat)
  | _ => 140000000000000

/-- The number under which a key is kept: equal numbers have the same, and an instance may tell its
own. -/
def hashOf (ev : Evaluator) (v : Value) : Exec Int := do
  expectKey v
  match v, (← heap).special? v "__hash__" with
  | _, some method => toldNumber ev method v
  | .float bits, none => do
    let n ← truncated bits
    pure (if Float.ofInt n == Float.ofBits bits then n else (bits.toNat : Int))
  | .text s, none => pure (textNumber s)
  | v, none => pure ((v.toInt?).getD 0)

/-- Whether a value is of one of some classes, or a class a kind of one of them. -/
def classTest (name : String) (args : List Value) : Exec Value := do
  let h ← heap
  match args with
  | [v, c] =>
    let classes := match h.object? c with
      | some (.tuple l) => l
      | _ => [c]
    if !classes.all h.isClass then
      typeError (name ++ "() arg 2 must be a " ++
        (if name = "isinstance" then "type, a tuple of types, or a union"
          else "class, a tuple of classes, or a union"))
    else if name = "isinstance" then pure (.bool (classes.any (h.isInstance v)))
    else if !h.isClass v then typeError "issubclass() arg 1 must be a class"
    else pure (.bool (classes.any (h.isSubclass Heap.classDepth v)))
  | _ => typeError (name ++ " expected 2 arguments, got " ++ toString args.length)

/-- The value and the name of an attribute that the arguments tell. -/
def attributeArgs (name : String) (least most : Nat) (args : List Value) :
    Exec (Value × String) := do
  expectCount name least most args
  let key ← textArg (fun t => "attribute name must be string, not '" ++ t ++ "'")
    ((args[1]?).getD .none)
  pure (args.headD .none, key)

/-- A function of attributes. -/
def attributeFunction? (ev : Evaluator) (name : String) (args : List Value) :
    Option (Exec Value) :=
  match name with
  | "getattr" => some (do
    let (v, key) ← attributeArgs name 2 3 args
    match args[2]? with
    | none => attributeOf ev v key
    | some d => do pure ((← attributeOf? ev v key).getD d))
  | "hasattr" => some (do
    let (v, key) ← attributeArgs name 2 2 args
    pure (.bool (← attributeOf? ev v key).isSome))
  | "setattr" => some (do
    let (v, key) ← attributeArgs name 3 3 args
    setAttribute v key ((args[2]?).getD .none)
    pure .none)
  | "delattr" => some (do
    let (v, key) ← attributeArgs name 2 2 args
    deleteAttribute v key
    pure .none)
  | _ => none

/-- A function of any value. -/
def objectFunction? (ev : Evaluator) (name : String) (args : List Value)
    (named : List (String × Value)) : Option (Exec Value) :=
  let one := onlyArg name args named
  match name with
  | "repr" => some (do .text <$> shownValue ev (← one))
  | "ascii" => some (do pure (.text (asciiText (← shownValue ev (← one)))))
  | "format" => some (do
    expectCount name 1 2 args
    let spec ← textArg (fun t => "format() argument 2 must be str, not " ++ t)
      ((args[1]?).getD (.text ""))
    .text <$> formatValue ev (args.headD .none) spec)
  | "callable" => some (do
    let v ← one
    pure (.bool (ev.isCallable (← heap) v)))
  | "id" => some (do pure (.int (identityOf (← one))))
  | "hash" => some (do .int <$> hashOf ev (← one))
  | "isinstance" | "issubclass" => some (classTest name args)
  | _ => attributeFunction? ev name args

end ScriptShell.Script.Exec
