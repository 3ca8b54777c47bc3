import ScriptShell.Script.Literal
import ScriptShell.Script.Method
import ScriptShell.Script.Name
import ScriptShell.Script.System
/-!
# Making values

How the classes that are built in make values: `construct`. The classes are grouped by what they
make; the exceptions are all made in the same way.
-/

namespace ScriptShell.Script.Exec

/-! ## Numbers and texts -/

/-- The value of a text of digits in a base; nothing if it is none. -/
def parseInt (base : Nat) (s : String) : Option Int :=
  let cs := ((s.toList.dropWhile Text.isBlank).reverse.dropWhile Text.isBlank).reverse
  let (negative, cs) := match cs with
    | '-' :: rest => (true, rest)
    | '+' :: rest => (false, rest)
    | cs => (false, cs)
  let marked := match cs with
    | '0' :: x :: _ =>
      if x = 'x' || x = 'X' then some 16
      else if x = 'o' || x = 'O' then some 8
      else if x = 'b' || x = 'B' then some 2 else none
    | _ => none
  let isMarked := marked.isSome && (base = 0 || some base = marked)
  let cs := if isMarked then cs.drop 2 else cs
  let base := if base = 0 then marked.getD 10 else base
  let isDigit := fun (c : Char) => c.isAlphanum && digitValue c < base
  match digitRun isDigit (cs.length + 1) cs with
  | some (ds, []) =>
    if ds.isEmpty then none
    else
      let n : Int := digitsValue base ds
      some (if negative then -n else n)
  | _ => none

/-- The value of a text that is a number; nothing if it is none. -/
def parseFloat (s : String) : Option Float :=
  let cs := ((s.toList.dropWhile Text.isBlank).reverse.dropWhile Text.isBlank).reverse
  let (negative, cs) := match cs with
    | '-' :: rest => (true, rest)
    | '+' :: rest => (false, rest)
    | cs => (false, cs)
  let sign := fun (f : Float) => if negative then -f else f
  match (String.ofList cs).toLower with
  | "inf" | "infinity" => some (sign (1.0 / 0.0))
  | "nan" => some (0.0 / 0.0)
  | _ =>
    match number?.decimal cs with
    | some (.int n, []) => some (sign (Float.ofNat n))
    | some (.float m e, []) => some (sign (Float.ofScientific m (e < 0) e.natAbs))
    | _ => none

/-- What `int` makes of its arguments. -/
def makeInt (args : List Value) : Exec Value := do
  let h ← heap
  let invalid := fun (base : Nat) (v : Value) =>
    (raise "ValueError" ("invalid literal for int() with base " ++ toString base ++ ": " ++
      h.shown Heap.shownDepth v) : Exec Value)
  match args with
  | [] => pure (.int 0)
  | [v] =>
    match v with
    | .text s =>
      match parseInt 10 s with
      | some n => pure (.int n)
      | none => invalid 10 v
    | .float bits => .int <$> truncated bits
    | .bytes b =>
      match (String.fromUTF8? ⟨b.toArray⟩).bind (parseInt 10) with
      | some n => pure (.int n)
      | none => invalid 10 v
    | v =>
      match v.toInt? with
      | some n => pure (.int n)
      | none =>
        typeError
          ("int() argument must be a string, a bytes-like object or a real number, not '" ++
            h.typeName v ++ "'")
  | [v, base] => do
    let base ← intArg base
    if base ≠ 0 && (base < 2 || 36 < base) then
      raise "ValueError" "int() base must be >= 2 and <= 36, or 0"
    match v with
    | .text s =>
      match parseInt base.toNat s with
      | some n => pure (.int n)
      | none => invalid base.toNat v
    | _ => typeError "int() can't convert non-string with explicit base"
  | _ => typeError ("int() takes at most 2 arguments (" ++ toString args.length ++ " given)")

def makeFloat (args : List Value) : Exec Value := do
  let h ← heap
  match args with
  | [] => pure (.ofFloat 0)
  | [v] =>
    match v with
    | .text s =>
      match parseFloat s with
      | some f => pure (.ofFloat f)
      | none =>
        raise "ValueError" ("could not convert string to float: " ++ h.shown Heap.shownDepth v)
    | v =>
      match v.toFloat? with
      | some f => pure (.ofFloat f)
      | none =>
        typeError ("float() argument must be a string or a real number, not '" ++ h.typeName v ++ "'")
  | _ => typeError ("float expected at most 1 argument, got " ++ toString args.length)

/-- What `bool` makes of its arguments. -/
def makeBool (ev : Evaluator) (args : List Value) : Exec Value := do
  match args with
  | [] => pure (.bool false)
  | [v] => .bool <$> truth ev v
  | l => typeError ("bool expected at most 1 argument, got " ++ toString l.length)

/-- What `str` makes of its arguments. -/
def makeText (ev : Evaluator) (args : List Value) : Exec Value := do
  match args with
  | [] => pure (.text "")
  | [v] => .text <$> plainText ev v
  | [.bytes b, _] | [.bytes b, _, _] => pure (.text ((String.fromUTF8? ⟨b.toArray⟩).getD ""))
  | v :: rest =>
    if rest.length > 2 then
      typeError ("str() takes at most 3 arguments (" ++ toString args.length ++ " given)")
    else
      typeError ("decoding to str: need a bytes-like object, " ++ (← heap).typeName v ++ " found")

/-- What `bytes` makes of its arguments. -/
def makeBytes (ev : Evaluator) (args : List Value) : Exec Value := do
  match args with
  | [] => pure (.bytes [])
  | [.text _] => typeError "string argument without an encoding"
  | [.text s, _] => pure (.bytes s.toUTF8.toList)
  | [v] => do
    let items ← ev.items v
    pure (.bytes (items.filterMap fun v => v.toInt?.map fun n => n.toNat.toUInt8))
  | _ => notProvided "bytes"

/-- A number, a text or bytes out of arguments. -/
def makePlain? (ev : Evaluator) (type : String) (args : List Value)
    (named : List (String × Value)) : Option (Exec Value) :=
  match type with
  | "int" => some (makeInt (args ++ (named.lookup "base").toList))
  | "float" => some (makeFloat args)
  | "bool" => some (makeBool ev args)
  | "str" => some (makeText ev args)
  | "bytes" => some (makeBytes ev args)
  | _ => none

/-! ## Values with items -/

/-- A value out of the items of another, or out of none. -/
def makeFrom (ev : Evaluator) (type : String) (make : List Value → Exec Value)
    (args : List Value) : Exec Value := do
  expectCount type 0 1 args
  make (← match args with
    | [v] => ev.items v
    | _ => pure [])

def makeRange (args : List Value) : Exec Value := do
  expectCount "range" 1 3 args
  match ← args.mapM intArg with
  | [b] => alloc (.range 0 b 1)
  | [a, b] => alloc (.range a b 1)
  | [_, _, 0] => raise "ValueError" "range() arg 3 must not be zero"
  | [a, b, c] => alloc (.range a b c)
  | _ => pure .none

/-- What `dict` makes of its arguments. -/
def makeDict (ev : Evaluator) (args : List Value) (named : List (String × Value)) :
    Exec Value := do
  expectCount "dict" 0 1 args
  let entries ← match args with
    | [v] => entriesOf ev v
    | _ => pure []
  dict (← putAll [] (entries ++ named.map fun (n, v) => (Value.text n, v)))

/-- What `slice` makes of its arguments. -/
def makeSlice (args : List Value) : Exec Value := do
  match args with
  | [b] => alloc (.slice .none b .none)
  | [a, b] => alloc (.slice a b .none)
  | [a, b, c] => alloc (.slice a b c)
  | _ => typeError ("slice expected at least 1 argument, got " ++ toString args.length)

/-- A value with items out of arguments. -/
def makeItems? (ev : Evaluator) (type : String) (args : List Value)
    (named : List (String × Value)) : Option (Exec Value) :=
  match type with
  | "list" => some (do
    expectNoNames type named
    makeFrom ev type list args)
  | "tuple" => some (do
    expectNoNames type named
    makeFrom ev type tuple args)
  | "set" | "frozenset" => some (makeFrom ev type setOf args)
  | "dict" => some (makeDict ev args named)
  | "range" => some (makeRange args)
  | "slice" => some (makeSlice args)
  | _ => none

/-! ## Iterations -/

/-- The items of a value with their numbers. -/
def makeEnumerate (ev : Evaluator) (args : List Value) (named : List (String × Value)) :
    Exec Value := do
  let items ← ev.items (args.headD .none)
  let start := (((args[1]?).orElse fun _ => named.lookup "start").bind Value.toInt?).getD 0
  let l ← items.zipIdx.mapM fun (v, (i : Nat)) => tuple [.int (start + i), v]
  alloc (.iterator "enumerate" l)

/-- The items of a value from the last to the first. -/
def makeReversed (ev : Evaluator) (v : Value) : Exec Value := do
  let kind := match (← heap).object? v with
    | some (.list _) => "list_reverseiterator"
    | some (.range ..) => "range_iterator"
    | _ => "reversed"
  alloc (.iterator kind (← ev.items v).reverse)

/-- An iteration out of arguments. -/
def makeIteration? (ev : Evaluator) (type : String) (args : List Value)
    (named : List (String × Value)) : Option (Exec Value) :=
  match type with
  | "enumerate" => some (makeEnumerate ev args named)
  | "zip" => some (do
    let ls ← args.mapM ev.items
    alloc (.iterator type (← (zipped ((ls.map List.length).foldl max 0) ls).mapM tuple)))
  | "map" => some (do
    match args with
    | f :: a :: rest => do
      for v in a :: rest do expectIterable v
      alloc (.generator (.mapping f (a :: rest)))
    | _ => typeError "map() must have at least two arguments.")
  | "filter" => some (do
    match args with
    | [f, v] => do
      expectIterable v
      alloc (.generator (.filter f v))
    | _ => typeError ("filter expected 2 arguments, got " ++ toString args.length))
  | "reversed" => some (makeReversed ev (args.headD .none))
  | _ => none

/-! ## Classes -/

/-- A new class. -/
def makeClass (name : String) (bases : List Value) (contents : Ref) : Exec Value := do
  let h ← heap
  for b in bases do
    unless h.isClass b do
      typeError ("type() argument 2 must be a tuple of classes")
  alloc (.class name (if bases.isEmpty then [.type "object"] else bases) contents)

/-- The name under which the functions of a class find it. -/
def ownClassName : String := "__class__"

/-- The first argument of the running function as the classes see it that its class is a kind of. -/
def ownParent : Exec Value := do
  let i ← get
  let frame := i.frames.headD { globals := i.globals }
  match frame.scope.bind i.heap.get? with
  | some (.scope locals names _ _) =>
    match (locals.head?).bind (names.lookup ·), frame.holder i.heap ownClassName with
    | none, _ => raise "RuntimeError" "super(): no arguments"
    | some self, .function _ (some c) _ => alloc (.parent c self)
    | some _, _ => raise "RuntimeError" "super(): __class__ cell not found"
  | _ => raise "RuntimeError" "super(): no arguments"

/-- What `type` makes of its arguments: the class of a value, or a new class. -/
def makeType (ev : Evaluator) (args : List Value) : Exec Value := do
  let h ← heap
  match args with
  | [v] => pure (h.typeOf v)
  | [.text name, bases, contents] => do
    let bases ← ev.items bases
    match h.dict? contents with
    | some r => do
      let (copy, h) := (← heap).alloc (.dict ((h.entries? r).getD []))
      setHeap h
      makeClass name bases copy
    | none => typeError ("type.__new__() argument 3 must be dict, not " ++ h.typeName contents)
  | _ => typeError "type() takes 1 or 3 arguments"

/-- A class, or something out of one. -/
def makeOfClass? (ev : Evaluator) (type : String) (args : List Value) : Option (Exec Value) :=
  match type with
  | "type" => some (makeType ev args)
  | "object" => some (do
    let (r, h) := (← heap).alloc (.dict [])
    setHeap h
    alloc (.instance (.type type) r))
  | "staticmethod" | "classmethod" | "property" => some (alloc (.wrapped type (args.headD .none)))
  | "super" =>
    some (match args with
      | [] => ownParent
      | [c, self] => alloc (.parent c self)
      | _ => notProvided type)
  | _ => none

/-! ## Exceptions -/

/-- The class of the exception for an error of the system with a number. -/
def exceptionClass (name : String) (args : List Value) : String :=
  match args with
  | .int n :: _ :: _ => if name = "OSError" then systemErrorClass ⟨n.toNat⟩ else name
  | _ => name

/-- The classes of exceptions that keep values given by name. -/
def namedExceptions : List String :=
  ["ImportError", "ModuleNotFoundError", "AttributeError", "NameError", "UnboundLocalError"]

/-- An exception of a built-in class. -/
def makeException (type : String) (args : List Value) (named : List (String × Value)) :
    Exec Value := do
  unless named.isEmpty || namedExceptions.contains type do
    typeError (type ++ "() takes no keyword arguments")
  let (r, h) := (← heap).alloc (.dict (named.map fun (n, v) => (.text n, v)))
  setHeap h
  alloc (.exception (.type (exceptionClass type args)) args r)

/-- A value of a built-in class. -/
def construct (ev : Evaluator) (type : String) (args : List Value)
    (named : List (String × Value)) : Exec Value :=
  if Catalogue.isException type then makeException type args named
  else
    (((makePlain? ev type args named).or (makeItems? ev type args named)).or
      ((makeIteration? ev type args named).or (makeOfClass? ev type args))).getD (notProvided type)

end ScriptShell.Script.Exec
