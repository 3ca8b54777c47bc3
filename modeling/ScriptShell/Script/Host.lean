import ScriptShell.Script.Attribute
import ScriptShell.Script.Handlers
/-!
# The functions of the shell

Scripts set the prompt, define aliases and register commands through three functions that the shell
gives them. Their arguments are texts, except the handler of a command, which is anything that can
be called; what does not fit is refused before anything changes.
-/

namespace ScriptShell.Script

namespace HostFunction

def name : HostFunction → String
  | .prompt => "prompt"
  | .alias => "alias"
  | .register => "register"

/-- The name in complaints. -/
def label (f : HostFunction) : String := "HostBridge." ++ f.name ++ "()"

/-- The names of the parameters. -/
def params : HostFunction → List String
  | .prompt => ["value"]
  | .alias => ["trigger", "expansion"]
  | .register => ["name", "handler"]

end HostFunction

/-- Why arguments are refused. -/
inductive ArgumentFault
  | tooMany (given : Nat)
  | repeated (name : String)
  | unexpected (name : String)
  | missing (names : List String)
deriving Repr, DecidableEq, Inhabited

namespace ArgumentFault

def message (f : HostFunction) : ArgumentFault → String
  | .tooMany given =>
    f.label ++ " takes " ++ toString f.params.length ++ " positional arguments but " ++
      toString given ++ (if given = 1 then " was" else " were") ++ " given"
  | .repeated name => f.label ++ " got multiple values for argument '" ++ name ++ "'"
  | .unexpected name => f.label ++ " got an unexpected keyword argument '" ++ name ++ "'"
  | .missing names =>
    f.label ++ " missing " ++ toString names.length ++ " required positional argument" ++
      (if names.length = 1 then "" else "s") ++ ": " ++ listedNames names

end ArgumentFault

/-- Gives arguments by name to parameters that have none yet. -/
def takeNamed (params : List String) : List (String × Value) → List (String × Value) →
    Except ArgumentFault (List (String × Value))
  | bound, [] => .ok bound
  | bound, (n, v) :: rest =>
    if !params.contains n then .error (.unexpected n)
    else if (bound.lookup n).isSome then .error (.repeated n)
    else takeNamed params (bound ++ [(n, v)]) rest

/-- The values of the parameters, in their order, for the arguments of a call. -/
def HostFunction.arguments (f : HostFunction) (args : List Value) (named : List (String × Value)) :
    Except ArgumentFault (List Value) := do
  if args.length > f.params.length then .error (.tooMany args.length)
  else
    let bound ← takeNamed f.params (f.params.zip args) named
    let missing := f.params.filter fun p => (bound.lookup p).isNone
    if !missing.isEmpty then .error (.missing missing)
    else .ok (f.params.filterMap fun p => bound.lookup p)

/-- Why a registration is refused. -/
inductive RegistrationFault
  | emptyName
  | notCallable (name : String)
deriving Repr, DecidableEq, Inhabited

namespace RegistrationFault

/-- The class of the exception. -/
def type : RegistrationFault → String
  | .emptyName => "ValueError"
  | .notCallable _ => "TypeError"

def message : RegistrationFault → String
  | .emptyName => "command name must not be empty"
  | .notCallable name => "handler for command '" ++ name ++ "' is not callable"

end RegistrationFault

/-- Why the registration of a command is refused, if it is. -/
def registrationFault? (ev : Evaluator) (h : Heap) (name : String) (handler : Value) :
    Option RegistrationFault :=
  if name.isEmpty then some .emptyName
  else if !ev.isCallable h handler then some (.notCallable name)
  else none

namespace Exec

/-- Puts a name into the table of commands. -/
def addCommand (name : String) : Exec Unit := do
  put (.event (.commandRegistered name))
  modify fun i => { i with shell := { i.shell with commands := i.shell.commands.insert name } }

/-- Registers a command: its name in the table of commands, then its handler where scripts see it. If
it is refused, nothing changes; if the handler cannot be stored, the name stays. -/
def register (ev : Evaluator) (name : String) (handler : Value) : Exec Unit := do
  match registrationFault? ev (← heap) name handler with
  | some fault => raise fault.type fault.message
  | none => do
    addCommand name
    storeHandler ev name handler

/-- The text that an argument of a host function is. -/
def hostText (param : String) (v : Value) : Exec String := do
  match v with
  | .text s => pure s
  | v =>
    typeError ("argument '" ++ param ++ "': '" ++ (← heap).typeName v ++
      "' object cannot be cast as 'str'")

/-- Calls a function of the shell. -/
def callHost (ev : Evaluator) (f : HostFunction) (args : List Value)
    (named : List (String × Value)) : Exec Value := do
  match f.arguments args named with
  | .error fault => typeError (fault.message f)
  | .ok values =>
    match f, values with
    | .prompt, [value] => do
      let text ← hostText "value" value
      modify fun i => { i with shell := { i.shell with prompt := text } }
      pure .none
    | .alias, [trigger, expansion] => do
      let trigger ← hostText "trigger" trigger
      let expansion ← hostText "expansion" expansion
      modify fun i =>
        { i with shell := { i.shell with aliases := i.shell.aliases.insert trigger expansion } }
      pure .none
    | .register, [name, handler] => do
      let name ← hostText "name" name
      register ev name handler
      pure .none
    | _, _ => pure .none

end Exec

end ScriptShell.Script
