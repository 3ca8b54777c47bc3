/-!
# Invocations

A program and its arguments, as one line asks for them.
-/

namespace ScriptShell

/-- One program to run, with its arguments. -/
structure Invocation where
  program : String
  args : List String
deriving Repr, DecidableEq, Inhabited

namespace Invocation

/-- The first argument names the program; there is none in an empty list. -/
def ofArguments? : List String → Option Invocation
  | [] => none
  | program :: args => some { program, args }

/-- The argument vector handed to the program, its name as typed in front. -/
def argv (i : Invocation) : List String := i.program :: i.args

end Invocation

end ScriptShell
