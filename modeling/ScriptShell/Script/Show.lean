import ScriptShell.Script.Catalogue
import ScriptShell.Script.Value
import ScriptShell.Text.Decimal
import ScriptShell.Text.Printable
/-!
# The text of values

`Heap.shown` is the text of a value as code would write it, `Heap.plain` the text that is printed:
the two differ for texts and exceptions. A text stands between single quotes, unless it holds one
and no double quote.
-/

namespace ScriptShell.Script

/-- Hexadecimal digits, filled up with zeros to a width. -/
def hexText (width n : Nat) : String :=
  let ds := Nat.toDigits 16 n
  String.ofList (List.replicate (width - ds.length) '0' ++ ds)

/-- A character between quotes. -/
def shownChar (quote c : Char) : String :=
  if c = quote || c = '\\' then "\\" ++ c.toString
  else if c = '\n' then "\\n"
  else if c = '\r' then "\\r"
  else if c = '\t' then "\\t"
  else if Text.isPrintable c then c.toString
  else if c.toNat < 256 then "\\x" ++ hexText 2 c.toNat
  else if c.toNat < 65536 then "\\u" ++ hexText 4 c.toNat
  else "\\U" ++ hexText 8 c.toNat

/-- The quote for a text: a double one if that saves escaping. -/
def quoteFor (cs : List Char) : Char :=
  if cs.contains '\'' && !cs.contains '"' then '"' else '\''

/-- A text between quotes. -/
def shownText (s : String) : String :=
  let q := quoteFor s.toList
  q.toString ++ String.join (s.toList.map (shownChar q)) ++ q.toString

/-- A text in which each character that is not ASCII is written as an escape. -/
def asciiText (s : String) : String :=
  String.join (s.toList.map fun c =>
    if c.toNat < 128 then c.toString
    else if c.toNat < 256 then "\\x" ++ hexText 2 c.toNat
    else if c.toNat < 65536 then "\\u" ++ hexText 4 c.toNat
    else "\\U" ++ hexText 8 c.toNat)

/-- Bytes between quotes. -/
def shownBytes (b : List UInt8) : String :=
  let cs := b.map fun n => Char.ofNat n.toNat
  let q := quoteFor cs
  "b" ++ q.toString ++ String.join (cs.map fun c =>
    if c.toNat < 128 then shownChar q c else "\\x" ++ hexText 2 c.toNat) ++ q.toString

/-- The module of a class that is built in, as its text names it. -/
def shownType (name : String) : String := "<class '" ++ name ++ "'>"

/-- A built-in function by the last part of its name. -/
def builtinName (name : String) : String := (name.splitOn ".").getLast?.getD name

/-- Names between quotes, with an `and` before the last. -/
def listedNames (names : List String) : String :=
  let quoted := names.map fun n => "'" ++ n ++ "'"
  match quoted with
  | [] => ""
  | [a] => a
  | [a, b] => a ++ " and " ++ b
  | l => ", ".intercalate l.dropLast ++ ", and " ++ l.getLastD ""

/-- The arguments that an exception of a class keeps: an error of the system has its number and its
text, and the file it is about apart from them. -/
def mainArgs (type : String) (args : List Value) : List Value :=
  if Catalogue.isKindOf type "OSError" && 2 < args.length && args.length ≤ 5 then args.take 2
  else args

namespace Heap

/-- The name of the class of a value. -/
def typeName (h : Heap) (v : Value) : String :=
  match v with
  | .none => "NoneType"
  | .ellipsis => "ellipsis"
  | .notImplemented => "NotImplementedType"
  | .bool _ => "bool"
  | .int _ => "int"
  | .float _ => "float"
  | .text _ => "str"
  | .bytes _ => "bytes"
  | .type _ => "type"
  | .builtin _ | .host _ => "builtin_function_or_method"
  | .object r =>
    match h.get? r with
    | some (.tuple _) => "tuple"
    | some (.list _) => "list"
    | some (.set _) => "set"
    | some (.dict _) => "dict"
    | some (.range ..) => "range"
    | some (.slice ..) => "slice"
    | some (.function _) => "function"
    | some (.method ..) => "builtin_function_or_method"
    | some (.boundFunction ..) => "method"
    | some (.wrapped kind _) => kind
    | some (.parent ..) => "super"
    | some (.module ..) => "module"
    | some (.class ..) => "type"
    | some (.iterator kind _) => kind
    | some (.generator p) => p.kind
    | some (.view kind _) => "dict_" ++ kind
    | some (.stream _) => "TextIOWrapper"
    | some (.scope ..) => "frame"
    | some (.instance t _) | some (.exception t _ _) =>
      match t with
      | .type name => name
      | .object r =>
        match h.get? r with
        | some (.class name _ _) => name
        | _ => "object"
      | _ => "object"
    | none => "object"

/-- How many classes up something is looked for. -/
def classDepth : Nat := 50

/-- The built-in class that a class is a kind of. -/
def builtinBase (h : Heap) : Nat → Value → String
  | 0, _ => "object"
  | depth + 1, c =>
    match c with
    | .type name => name
    | c =>
      match h.object? c with
      | some (.class _ bases _) =>
        ((bases.map (h.builtinBase depth)).find? (· ≠ "object")).getD "object"
      | _ => "object"

/-- The built-in class that the class of an exception is a kind of. -/
def exceptionBase (h : Heap) (v : Value) : String :=
  match h.object? v with
  | some (.exception t _ _) => h.builtinBase classDepth t
  | _ => "object"

/-- The name of a class with those of the functions and classes around it. -/
def classPath (h : Heap) (c : Value) : String :=
  match c, h.object? c with
  | .type t, _ => t
  | _, some (.class name _ contents) =>
    match h.lookup? contents "__qualname__" with
    | some (.text path) => path
    | _ => name
  | _, _ => "object"

/-- The name of a class with that of its module, if that is not the one of what is built in. -/
def classLabel (h : Heap) (c : Value) : String :=
  match h.object? c with
  | some (.class _ _ contents) =>
    match h.lookup? contents "__module__" with
    | some (.text m) => m ++ "." ++ h.classPath c
    | _ => "__main__." ++ h.classPath c
  | _ => h.classPath c

/-- The text of a value as code would write it. Values inside values are shown to a depth. -/
def shown (h : Heap) : Nat → Value → String
  | 0, _ => "..."
  | depth + 1, v =>
    let all := fun (l : List Value) => ", ".intercalate (l.map (h.shown depth))
    match v with
    | .none => "None"
    | .ellipsis => "Ellipsis"
    | .notImplemented => "NotImplemented"
    | .bool b => if b then "True" else "False"
    | .int n => toString n
    | .float bits => Text.floatText bits
    | .text s => shownText s
    | .bytes b => shownBytes b
    | .type name => shownType name
    | .builtin name => "<built-in function " ++ builtinName name ++ ">"
    | .host f =>
      let name := match f with
        | .prompt => "prompt"
        | .alias => "alias"
        | .register => "register"
      "<built-in method " ++ name ++ " of builtins.HostBridge object at 0x7f0000000000>"
    | .object r =>
      match h.get? r with
      | some (.tuple [a]) => "(" ++ h.shown depth a ++ ",)"
      | some (.tuple l) => "(" ++ all l ++ ")"
      | some (.list l) => "[" ++ all l ++ "]"
      | some (.set []) => "set()"
      | some (.set l) => "\x7b" ++ all l ++ "\x7d"
      | some (.dict entries) =>
        "\x7b" ++ ", ".intercalate (entries.map fun (k, v) =>
          h.shown depth k ++ ": " ++ h.shown depth v) ++ "\x7d"
      | some (.range start stop step) =>
        "range(" ++ toString start ++ ", " ++ toString stop ++
          (if step = 1 then "" else ", " ++ toString step) ++ ")"
      | some (.slice low high step) => "slice(" ++ all [low, high, step] ++ ")"
      | some (.function f) => "<function " ++ f.name ++ " at 0x7f0000000000>"
      | some (.method self name) =>
        "<built-in method " ++ name ++ " of " ++ h.typeName self ++ " object at 0x7f0000000000>"
      | some (.module name _) => "<module '" ++ name ++ "'>"
      | some (.class ..) => "<class '" ++ h.classLabel v ++ "'>"
      | some (.instance t _) => "<" ++ h.classLabel t ++ " object at 0x7f0000000000>"
      | some (.exception _ args _) =>
        h.typeName v ++ "(" ++ all (mainArgs (h.exceptionBase v) args) ++ ")"
      | some (.view kind d) =>
        let shown := ((h.entries? d).getD []).map fun (k, v) =>
          if kind = "keys" then h.shown depth k
          else if kind = "values" then h.shown depth v
          else "(" ++ h.shown depth k ++ ", " ++ h.shown depth v ++ ")"
        "dict_" ++ kind ++ "([" ++ ", ".intercalate shown ++ "])"
      | _ => "<" ++ h.typeName v ++ " object at 0x7f0000000000>"

/-- How deep values are shown. -/
def shownDepth : Nat := 200

/-- The text of an exception without its class; `plain` is that of a value inside. -/
def exceptionText (h : Heap) (plain : Value → String) (type : String) (args : List Value) :
    String :=
  match args with
  | [] => ""
  | [a] => if type = "KeyError" then h.shown shownDepth a else plain a
  | number :: why :: more =>
    if Catalogue.isKindOf type "OSError" && more.length ≤ 3 then
      "[Errno " ++ plain number ++ "] " ++ plain why ++
        (match more with
          | [] => ""
          | [file] | [file, _] => ": " ++ h.shown shownDepth file
          | file :: _ :: other :: _ =>
            ": " ++ h.shown shownDepth file ++ " -> " ++ h.shown shownDepth other)
    else "(" ++ ", ".intercalate (args.map (h.shown shownDepth)) ++ ")"

/-- The text of a value as it is printed. Exceptions inside exceptions are printed to a depth. -/
def plainAt (h : Heap) : Nat → Value → String
  | _, .text s => s
  | 0, v => h.shown shownDepth v
  | depth + 1, v =>
    match h.object? v with
    | some (.exception _ args _) => h.exceptionText (h.plainAt depth) (h.exceptionBase v) args
    | _ => h.shown shownDepth v

/-- The text of a value as it is printed. -/
def plain (h : Heap) (v : Value) : String := h.plainAt shownDepth v

end Heap

end ScriptShell.Script
