/-!
# The syntax of script code

Expressions and statements as the grammar builds them. Groups in brackets leave no trace, and the
texts of an expression that stand side by side are one.
-/

namespace ScriptShell.Script

/-- A value that stands in the code itself. -/
inductive Literal
  | none
  | bool (b : Bool)
  | ellipsis
  | int (n : Nat)
  | float (mantissa : Nat) (exponent : Int)
  | imaginary
  | text (s : String)
  | bytes (b : List UInt8)
deriving DecidableEq, Inhabited

inductive UnaryOp
  | plus | minus | invert | not
deriving Repr, DecidableEq, Inhabited

inductive BinaryOp
  | add | sub | mul | matMul | div | floorDiv | mod | pow | shiftLeft | shiftRight | bitAnd | bitOr
  | bitXor
deriving Repr, DecidableEq, Inhabited

inductive CompareOp
  | eq | ne | lt | le | gt | ge | is | isNot | in | notIn
deriving Repr, DecidableEq, Inhabited

/-- How a parameter takes its argument. -/
inductive ParamKind
  | positionOnly | ordinary | rest | nameOnly | restNamed
deriving Repr, DecidableEq, Inhabited

/-- What a comprehension makes. -/
inductive ComprehensionKind
  | list | set | generator
deriving Repr, DecidableEq, Inhabited

mutual

inductive Expr
  | literal (l : Literal)
  | name (id : String)
  /-- a text with expressions in it -/
  | formatted (parts : List FormatPart)
  | tuple (items : List Expr)
  | list (items : List Expr)
  | set (items : List Expr)
  | dict (items : List DictItem)
  | unary (op : UnaryOp) (e : Expr)
  | binary (op : BinaryOp) (left right : Expr)
  | and (left right : Expr)
  | or (left right : Expr)
  | compare (first : Expr) (rest : List Comparison)
  | conditional (test yes no : Expr)
  | lambda (params : List Param) (body : Expr)
  | call (f : Expr) (args : List Arg)
  | attribute (e : Expr) (name : String)
  | index (e key : Expr)
  | slice (low high step : Option Expr)
  | starred (e : Expr)
  | named (id : String) (e : Expr)
  | comprehension (kind : ComprehensionKind) (element : Expr) (clauses : List Clause)
  | dictComprehension (key value : Expr) (clauses : List Clause)
  | yield (value : Option Expr)
  | yieldFrom (e : Expr)
  | await (e : Expr)

inductive FormatPart
  | text (s : String)
  | value (e : Expr) (conversion : Option Char) (spec : List FormatPart)

/-- An entry of a dictionary; without a key it is a dictionary whose entries are taken. -/
inductive DictItem
  | entry (key value : Expr)
  | all (e : Expr)

inductive Comparison
  | mk (op : CompareOp) (e : Expr)

inductive Arg
  | position (e : Expr)
  | keyword (name : String) (e : Expr)
  | all (e : Expr)
  | allNamed (e : Expr)

inductive Param
  | mk (name : String) (kind : ParamKind) (default : Option Expr) (hint : Option Expr)

/-- A `for` of a comprehension with the conditions after it. -/
inductive Clause
  | mk (isAsync : Bool) (target iterable : Expr) (conditions : List Expr)

end

instance : Inhabited Expr := ⟨.literal .none⟩

/-- What a value is matched with. -/
inductive Pattern
  /-- a value to compare with -/
  | value (e : Expr)
  /-- one of the fixed values, which the value must be itself -/
  | fixed (l : Literal)
  /-- any value, with a name for it or without -/
  | capture (name : Option String)
  | sequence (items : List Pattern)
  /-- the items of a sequence that the other patterns leave -/
  | star (name : Option String)
  | mapping (entries : List (Expr × Pattern)) (rest : Option String)
  | class (c : Expr) (items : List Pattern) (named : List (String × Pattern))
  | either (options : List Pattern)
  | as (p : Pattern) (name : String)
deriving Inhabited

/-- An imported name and the name it gets. -/
structure ImportName where
  name : List String
  newName : Option String := none
deriving Repr, DecidableEq, Inhabited

mutual

inductive Stmt
  | expr (e : Expr)
  | assign (targets : List Expr) (value : Expr)
  | augment (target : Expr) (op : BinaryOp) (value : Expr)
  | annotate (target hint : Expr) (value : Option Expr)
  | delete (targets : List Expr)
  | pass
  | break
  | continue
  | return (value : Option Expr)
  | raise (exception cause : Option Expr)
  | assert (test : Expr) (message : Option Expr)
  | global (names : List String)
  | nonlocal (names : List String)
  | import (names : List ImportName)
  /-- `names` is missing for all names of the module -/
  | importFrom (level : Nat) (module : List String) (names : Option (List ImportName))
  | if (test : Expr) (yes no : List Stmt)
  | while (test : Expr) (body no : List Stmt)
  | for (isAsync : Bool) (target iterable : Expr) (body no : List Stmt)
  | try (body : List Stmt) (handlers : List Handler) (no final : List Stmt)
  | with (isAsync : Bool) (items : List (Expr × Option Expr)) (body : List Stmt)
  | match (subject : Expr) (cases : List Case)
  | function (isAsync : Bool) (decorators : List Expr) (name : String) (params : List Param)
      (returns : Option Expr) (body : List Stmt)
  | class (decorators : List Expr) (name : String) (args : List Arg) (body : List Stmt)

/-- A handler of an exception; without a type it handles all. -/
inductive Handler
  | mk (type : Option Expr) (name : Option String) (body : List Stmt)

/-- A pattern, the condition after it, and what is run if both hold. -/
inductive Case
  | mk (pattern : Pattern) (condition : Option Expr) (body : List Stmt)

end

instance : Inhabited Stmt := ⟨.pass⟩

namespace Param

def name : Param → String
  | .mk n _ _ _ => n

def kind : Param → ParamKind
  | .mk _ k _ _ => k

def default : Param → Option Expr
  | .mk _ _ d _ => d

def hint : Param → Option Expr
  | .mk _ _ _ a => a

end Param

end ScriptShell.Script
