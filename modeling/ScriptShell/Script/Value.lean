import ScriptShell.Engine.Basic
import ScriptShell.Script.Scope
/-!
# Values and objects

A value of script code is a plain one, such as a number or a text, or an object, which stands in the
heap and may change. Dictionaries keep the order in which their keys came.
-/

namespace ScriptShell.Script

/-- Where an object stands in the heap. -/
abbrev Ref := Nat

/-- A function that the shell gives to scripts. -/
inductive HostFunction
  | prompt | alias | register
deriving Repr, DecidableEq, Inhabited

inductive Value
  | none
  | ellipsis
  /-- the answer of a method that leaves an operation to the other side -/
  | notImplemented
  | bool (b : Bool)
  | int (n : Int)
  /-- a floating-point number, by its bits -/
  | float (bits : UInt64)
  | text (s : String)
  | bytes (b : List UInt8)
  | object (r : Ref)
  /-- a class that is built in, by its name -/
  | type (name : String)
  /-- a function that is built in, by its name -/
  | builtin (name : String)
  | host (f : HostFunction)
deriving Repr, DecidableEq, Inhabited

/-- The body of a function. -/
inductive FunctionBody
  | expr (e : Expr)
  | block (l : List Stmt)
deriving Inhabited

/-- A function of script code. -/
structure Function where
  name : String
  /-- the name with those of the functions and classes around it -/
  path : String
  params : List Param
  /-- the values of the defaults, evaluated when the function was made -/
  defaults : List (String × Value)
  body : FunctionBody
  /-- the names of its own -/
  locals : List String
  /-- the names it declared to be global -/
  globalNames : List String
  isGenerator : Bool
  /-- the dictionary of its module -/
  globals : Ref
  /-- the names of the function around it, if there is one -/
  scope : Option Ref
deriving Inhabited

/-- Where code looks names up. -/
structure Env where
  /-- the dictionary of the module -/
  globals : Ref
  /-- a dictionary that takes the names bound here: that of a class, for instance -/
  locals : Option Ref := Option.none
  /-- the names of the innermost function around -/
  scope : Option Ref := Option.none
  /-- the names declared to be global -/
  globalNames : List String := []
  /-- what the names of the functions made here are put after, when they are complained about -/
  path : String := ""
deriving Inhabited

/-- What a generator runs when it is asked for its items. -/
inductive Pending
  | comprehension (env : Env) (element : Expr) (first : Value) (clauses : List Clause)
  | body (env : Env) (l : List Stmt)
  /-- a function called with the items of some values, taken side by side -/
  | mapping (f : Value) (sources : List Value)
  /-- the items of a value for which a function holds -/
  | filter (f source : Value)
deriving Inhabited

/-- The class of what gives the items. -/
def Pending.kind : Pending → String
  | .comprehension .. | .body .. => "generator"
  | .mapping .. => "map"
  | .filter .. => "filter"

inductive Object
  | tuple (items : List Value)
  | list (items : List Value)
  | set (items : List Value)
  | dict (entries : List (Value × Value))
  | range (start stop step : Int)
  | slice (low high step : Value)
  | function (f : Function)
  /-- a method of a value, by its name -/
  | method (self : Value) (name : String)
  /-- a function of a class, taken from an instance -/
  | boundFunction (self f : Value)
  /-- a function that a class has without an instance, for the class, or as an attribute: which of
  these is told by the name of the class that wraps it -/
  | wrapped (kind : String) (f : Value)
  /-- a value as the classes see it that a class of its own is a kind of -/
  | parent (type self : Value)
  | module (name : String) (contents : Ref)
  | class (name : String) (bases : List Value) (contents : Ref)
  | instance (type : Value) (contents : Ref)
  | exception (type : Value) (args : List Value) (contents : Ref)
  /-- the names of a running function: its own with their values, and those around it -/
  | scope (locals : List String) (names : List (String × Value)) (outer : Option Ref)
      (globalNames : List String)
  /-- what is left of an iteration, with the name of its class -/
  | iterator (kind : String) (items : List Value)
  | generator (p : Pending)
  /-- the keys, values or items of a dictionary, as they are when they are asked for -/
  | view (kind : String) (r : Ref)
  | stream (s : Stream)
deriving Inhabited

/-- The objects, by their place. -/
structure Heap where
  objects : Array Object := #[]
deriving Inhabited

namespace Heap

def get? (h : Heap) (r : Ref) : Option Object := h.objects[r]?

/-- Puts an object in the place of another. -/
def set (h : Heap) (r : Ref) (o : Object) : Heap := ⟨h.objects.setIfInBounds r o⟩

/-- Puts a new object into the heap. -/
def alloc (h : Heap) (o : Object) : Ref × Heap := (h.objects.size, ⟨h.objects.push o⟩)

/-- The object that a value is. -/
def object? (h : Heap) : Value → Option Object
  | .object r => h.get? r
  | _ => none

/-- The entries of a dictionary. -/
def entries? (h : Heap) (r : Ref) : Option (List (Value × Value)) :=
  match h.get? r with
  | some (.dict entries) => some entries
  | _ => none

/-- The dictionary that a value is. -/
def dict? (h : Heap) (v : Value) : Option Ref :=
  match v with
  | .object r => if (h.entries? r).isSome then some r else none
  | _ => none

/-- The value under a text in a dictionary. -/
def lookup? (h : Heap) (r : Ref) (key : String) : Option Value :=
  ((h.entries? r).getD []).lookup (.text key)

/-- Entries with another value under a key: in the place of the old one, or at the end. -/
def putEntry (same : Value → Value → Bool) (entries : List (Value × Value)) (key value : Value) :
    List (Value × Value) :=
  if entries.any (fun e => same e.1 key) then
    entries.map fun e => if same e.1 key then (e.1, value) else e
  else entries ++ [(key, value)]

/-- Puts a value under a text in a dictionary. -/
def put (h : Heap) (r : Ref) (key : String) (value : Value) : Heap :=
  h.set r (.dict (putEntry (· == ·) ((h.entries? r).getD []) (.text key) value))

/-- Takes what is under a text out of a dictionary. -/
def remove (h : Heap) (r : Ref) (key : String) : Heap :=
  h.set r (.dict (((h.entries? r).getD []).filter (·.1 != .text key)))

end Heap

end ScriptShell.Script
