import ScriptShell.Script.Attribute
/-!
# Arguments of built-in functions

What a built-in function makes of the arguments of a call, and how it refuses them: it tells how many
it takes and how many it was given, and of which kind one should be.
-/

namespace ScriptShell.Script.Exec

/-- A number of things, with the word in the plural if it is not one. -/
def counted (n : Nat) (word : String) : String :=
  toString n ++ " " ++ word ++ (if n = 1 then "" else "s")

/-- Refuses arguments by name. -/
def expectNoNames (label : String) (named : List (String × Value)) : Exec Unit := do
  unless named.isEmpty do typeError (label ++ "() takes no keyword arguments")

/-- The only argument of a call. -/
def onlyArg (label : String) (args : List Value) (named : List (String × Value)) : Exec Value := do
  expectNoNames label named
  match args with
  | [a] => pure a
  | _ => typeError (label ++ "() takes exactly one argument (" ++ toString args.length ++ " given)")

/-- Refuses all arguments. -/
def expectNoArgs (label : String) (args : List Value) (named : List (String × Value)) :
    Exec Unit := do
  expectNoNames label named
  unless args.isEmpty do
    typeError (label ++ "() takes no arguments (" ++ toString args.length ++ " given)")

/-- Refuses too few or too many arguments. -/
def expectCount (label : String) (least most : Nat) (args : List Value) : Exec Unit := do
  let n := args.length
  if least = most ∧ n ≠ least then
    typeError (label ++ " expected " ++ counted least "argument" ++ ", got " ++ toString n)
  else if n < least then
    typeError (label ++ " expected at least " ++ counted least "argument" ++ ", got " ++ toString n)
  else if n > most then
    typeError (label ++ " expected at most " ++ counted most "argument" ++ ", got " ++ toString n)

/-- Refuses too few or too many arguments, in the words of functions that count them while they read
them. -/
def expectArity (label word : String) (least most : Nat) (args : List Value) : Exec Unit := do
  let n := args.length
  let refuse := fun (bound : String) (k : Nat) =>
    (typeError (label ++ "() takes " ++ bound ++ " " ++ counted k word ++ " (" ++ toString n ++
      " given)") : Exec Unit)
  if least = most && n ≠ least then refuse "exactly" least
  else if n < least then refuse "at least" least
  else if most < n then refuse "at most" most

/-- A method of a class that does nothing here. -/
def notProvided {α : Type} (label : String) : Exec α := raise "NotImplementedError" label

/-- The text that an argument is. -/
def textArg (complaint : String → String) (v : Value) : Exec String := do
  match v with
  | .text s => pure s
  | v => typeError (complaint ((← heap).typeName v))

/-- The whole number that an argument is. -/
def intArg (v : Value) : Exec Int := do
  match v.toInt? with
  | some n => pure n
  | none =>
    typeError ("'" ++ (← heap).typeName v ++ "' object cannot be interpreted as an integer")

/-- Refuses a value that has no items. -/
def expectIterable (v : Value) : Exec Unit := do
  let h ← heap
  unless h.isIterable v do typeError ("'" ++ h.typeName v ++ "' object is not iterable")

end ScriptShell.Script.Exec
