import ScriptShell.Script.Catalogue
import ScriptShell.Script.Evaluator
/-!
# Attributes and classes

The attributes of values: those an instance has itself, then those of its class and the classes
that one is a kind of. The methods of built-in values are found by the catalogue.
-/

namespace ScriptShell.Script

namespace Heap

/-- The class of a value. -/
def typeOf (h : Heap) (v : Value) : Value :=
  match h.object? v with
  | some (.instance t _) | some (.exception t _ _) => t
  | _ => .type (h.typeName v)

/-- An attribute of a class or of those it is a kind of. -/
def classAttribute? (h : Heap) : Nat → Value → String → Option Value
  | 0, _, _ => none
  | depth + 1, c, name =>
    match h.object? c with
    | some (.class _ bases contents) =>
      match h.lookup? contents name with
      | some v => some v
      | none => bases.findSome? fun b => h.classAttribute? depth b name
    | _ => none

/-- Whether one class is another or a kind of it. -/
def isSubclass (h : Heap) : Nat → Value → Value → Bool
  | 0, _, _ => false
  | depth + 1, c, d =>
    c == d ||
      match c, d with
      | .type a, .type b => Catalogue.isKindOf a b
      | c, d =>
        match h.object? c with
        | some (.class _ bases _) => d == .type "object" || bases.any fun b => h.isSubclass depth b d
        | _ => false

/-- Whether a value is of a class. -/
def isInstance (h : Heap) (v c : Value) : Bool := h.isSubclass classDepth (h.typeOf v) c

/-- Whether a value is a class. -/
def isClass (h : Heap) (v : Value) : Bool :=
  match v with
  | .type _ => true
  | v =>
    match h.object? v with
    | some (.class ..) => true
    | _ => false

/-- Whether a value is a class of exceptions. -/
def isExceptionClass (h : Heap) (v : Value) : Bool :=
  h.isClass v && Catalogue.isException (h.builtinBase classDepth v)

/-- Whether a value can be called. -/
def isCallable (h : Heap) (v : Value) : Bool :=
  match v with
  | .type _ | .builtin _ | .host _ => true
  | v =>
    match h.object? v with
    | some (.function _) | some (.method ..) | some (.boundFunction ..) | some (.class ..) => true
    | some (.wrapped kind _) => kind = "staticmethod"
    | some (.instance t _) | some (.exception t _ _) =>
      (h.classAttribute? classDepth t "__call__").isSome
    | _ => false

/-- A method under a special name that the class of an instance has. -/
def special? (h : Heap) (v : Value) (name : String) : Option Value :=
  match h.object? v with
  | some (.instance t _) | some (.exception t _ _) => h.classAttribute? classDepth t name
  | _ => none

/-- Whether a value has items. -/
def isIterable (h : Heap) (v : Value) : Bool :=
  match v with
  | .text _ | .bytes _ => true
  | v =>
    match h.object? v with
    | some (.tuple _) | some (.list _) | some (.set _) | some (.dict _) | some (.range ..) |
      some (.iterator ..) | some (.generator _) | some (.view ..) => true
    | _ => (h.special? v "__iter__").isSome

end Heap

namespace Exec

/-- The complaint about an attribute that is not there. -/
def noAttribute {α : Type} (v : Value) (name : String) : Exec α := do
  let h ← heap
  match v, h.object? v with
  | .type t, _ =>
    raise "AttributeError" ("type object '" ++ t ++ "' has no attribute '" ++ name ++ "'")
  | _, some (.class t _ _) =>
    raise "AttributeError" ("type object '" ++ t ++ "' has no attribute '" ++ name ++ "'")
  | _, some (.module m _) =>
    raise "AttributeError" ("module '" ++ m ++ "' has no attribute '" ++ name ++ "'")
  | _, _ =>
    raise "AttributeError" ("'" ++ h.typeName v ++ "' object has no attribute '" ++ name ++ "'")

/-- An attribute of a class as an instance has it: a function belongs to the instance, unless it is
wrapped. -/
def boundTo (ev : Evaluator) (self type v : Value) : Exec Value := do
  match ← object? v with
  | some (.function _) => alloc (.boundFunction self v)
  | some (.wrapped kind f) =>
    if kind = "staticmethod" then pure f
    else if kind = "classmethod" then alloc (.boundFunction type f)
    else ev.call f [self] []
  | _ => pure v

/-- An attribute of a class as the class has it. -/
def unboundOf (type v : Value) : Exec Value := do
  match ← object? v with
  | some (.wrapped kind f) =>
    if kind = "staticmethod" then pure f
    else if kind = "classmethod" then alloc (.boundFunction type f)
    else pure v
  | _ => pure v

/-- An attribute of an instance, from itself or its class; a class may have a method for those that
are missing. -/
def instanceAttribute (ev : Evaluator) (self type : Value) (contents : Ref) (name : String) :
    Exec (Option Value) := do
  let h ← heap
  match h.lookup? contents name with
  | some v => pure (some v)
  | none =>
    match h.classAttribute? Heap.classDepth type name with
    | some v => some <$> boundTo ev self type v
    | none =>
      match h.classAttribute? Heap.classDepth type "__getattr__" with
      | some f => some <$> ev.call f [self, .text name] []
      | none => pure none

/-- An attribute of a value as the classes see it that a class is a kind of. -/
def parentAttribute (ev : Evaluator) (type self : Value) (name : String) :
    Exec (Option Value) := do
  let h ← heap
  let bases := match h.object? type with
    | some (.class _ bases _) => bases
    | _ => []
  match bases.findSome? fun b => h.classAttribute? Heap.classDepth b name with
  | some v => some <$> boundTo ev self (h.typeOf self) v
  | none =>
    if ["__init__", "__str__", "__repr__"].contains name then some <$> alloc (.method self name)
    else pure none

/-- A plain attribute of an exception. -/
def exceptionAttribute (type : String) (args : List Value) (name : String) :
    Exec (Option Value) := do
  match name with
  | "args" => some <$> tuple (mainArgs type args)
  | "code" =>
    if type = "SystemExit" then
      match args with
      | [] => pure (some .none)
      | [v] => pure (some v)
      | l => some <$> tuple l
    else pure none
  | "__cause__" | "__context__" | "__traceback__" => pure (some .none)
  | "errno" => pure (if Catalogue.isKindOf type "OSError" then some (args.headD .none) else none)
  | "strerror" =>
    pure (if Catalogue.isKindOf type "OSError" then some ((args[1]?).getD .none) else none)
  | "filename" =>
    pure (if Catalogue.isKindOf type "OSError" then some ((args[2]?).getD .none) else none)
  | _ => pure none

/-- An attribute of a value. -/
def attributeOf (ev : Evaluator) (v : Value) (name : String) : Exec Value := do
  let h ← heap
  let missing : Exec Value := noAttribute v name
  if name = "__class__" then pure (h.typeOf v)
  else
    match v with
    | .type t =>
      if name = "__name__" || name = "__qualname__" then pure (.text t)
      else if ((Catalogue.attributes.lookup t).getD []).contains name then
        pure (.builtin (t ++ "." ++ name))
      else missing
    | .builtin b =>
      if name = "__name__" || name = "__qualname__" then pure (.text (builtinName b))
      else if name = "__doc__" then pure .none
      else missing
    | v =>
      let builtIn : Exec Value := do
        let t := h.typeName v
        if ((Catalogue.attributes.lookup t).getD []).contains name then
          match v, name with
          | .int n, "real" | .int n, "numerator" => pure (.int n)
          | .int _, "imag" => pure (.int 0)
          | .int _, "denominator" => pure (.int 1)
          | v, _ => alloc (.method v name)
        else if name = "__doc__" then pure .none
        else missing
      match h.object? v with
      | some (.module m contents) =>
        match h.lookup? contents name with
        | some x => pure x
        | none =>
          if name = "__dict__" then pure (.object contents)
          else if name = "__name__" then pure (.text m)
          else missing
      | some (.instance t contents) => do
        match ← instanceAttribute ev v t contents name with
        | some x => pure x
        | none => if name = "__dict__" then pure (.object contents) else missing
      | some (.exception t args contents) => do
        match ← instanceAttribute ev v t contents name with
        | some x => pure x
        | none =>
          match ← exceptionAttribute (h.builtinBase Heap.classDepth t) args name with
          | some x => pure x
          | none => missing
      | some (.class t _ contents) =>
        match h.classAttribute? Heap.classDepth v name with
        | some x => unboundOf v x
        | none =>
          if name = "__name__" then pure (.text t)
          else if name = "__dict__" then pure (.object contents)
          else missing
      | some (.parent type self) => do
        match ← parentAttribute ev type self name with
        | some x => pure x
        | none => missing
      | some (.function f) =>
        if name = "__name__" then pure (.text f.name)
        else if name = "__qualname__" then pure (.text f.path)
        else if name = "__doc__" then pure .none
        else missing
      | some (.boundFunction self f) =>
        if name = "__self__" then pure self
        else if name = "__func__" then pure f
        else missing
      | some (.method self n) =>
        if name = "__name__" then pure (.text n)
        else if name = "__self__" then pure self
        else missing
      | some (.range a b c) =>
        match name with
        | "start" => pure (.int a)
        | "stop" => pure (.int b)
        | "step" => pure (.int c)
        | _ => builtIn
      | _ => builtIn

/-- The dictionary of a value that takes attributes. -/
def attributeDict? (h : Heap) (v : Value) : Option Ref :=
  match h.object? v with
  | some (.module _ r) | some (.instance _ r) | some (.exception _ _ r) | some (.class _ _ r) =>
    some r
  | _ => none

def setAttribute (v : Value) (name : String) (x : Value) : Exec Unit := do
  let h ← heap
  match attributeDict? h v with
  | some r => setHeap (h.put r name x)
  | none =>
    match v with
    | .type t =>
      typeError ("cannot set '" ++ name ++ "' attribute of immutable type '" ++ t ++ "'")
    | v =>
      if ((Catalogue.attributes.lookup (h.typeName v)).getD []).contains name then
        raise "AttributeError"
          ("'" ++ h.typeName v ++ "' object attribute '" ++ name ++ "' is read-only")
      else noAttribute v name

def deleteAttribute (v : Value) (name : String) : Exec Unit := do
  let h ← heap
  match attributeDict? h v with
  | some r =>
    if (h.lookup? r name).isSome then setHeap (h.remove r name) else noAttribute v name
  | none => noAttribute v name

/-- Replaces an attribute error by nothing. -/
def attributeOf? (ev : Evaluator) (v : Value) (name : String) : Exec (Option Value) := do
  tryCatch (some <$> attributeOf ev v name) fun
    | .raised e t => do
      if (← heap).typeName e = "AttributeError" then pure none else throw (.raised e t)
    | other => throw other

/-- Whether a value counts as true; an instance may have its own way. -/
def truth (ev : Evaluator) (v : Value) : Exec Bool := do
  let h ← heap
  match (h.special? v "__bool__").orElse fun _ => h.special? v "__len__" with
  | some f => do
    let answer ← ev.call f [v] []
    pure ((← heap).isTrue answer)
  | none => pure (h.isTrue v)

/-! ## Texts -/

/-- The text of a value as it is printed; an instance may give its own. -/
def plainText (ev : Evaluator) (v : Value) : Exec String := do
  let h ← heap
  match (h.special? v "__str__").orElse fun _ => h.special? v "__repr__" with
  | some f => do
    match ← ev.call f [v] [] with
    | .text s => pure s
    | r => typeError ("__str__ returned non-string (type " ++ (← heap).typeName r ++ ")")
  | none => pure (h.plain v)

/-- The text of a value as code would write it; an instance may give its own. -/
def shownValue (ev : Evaluator) (v : Value) : Exec String := do
  let h ← heap
  match h.special? v "__repr__" with
  | some f => do
    match ← ev.call f [v] [] with
    | .text s => pure s
    | r => typeError ("__repr__ returned non-string (type " ++ (← heap).typeName r ++ ")")
  | none => pure (h.shown Heap.shownDepth v)

end Exec

end ScriptShell.Script
