/-!
# The report of a failure that ends the shell

The failure itself, and below it what caused it: each cause indented, and numbered if there is more
than one.
-/

namespace ScriptShell.Failure

/-- A text whose lines are indented, the first by a text of its own. -/
def indented (first rest text : String) : String :=
  first ++ ("\n" ++ rest).intercalate ((text.toList.splitOn '\n').map String.ofList)

/-- What stands before the cause with a number. -/
def label (n : Nat) : String :=
  let digits := toString n
  String.ofList (List.replicate (5 - digits.length) ' ') ++ digits ++ ": "

/-- The causes, each on lines of its own. -/
def causeLines : List String → List String
  | [] => []
  | [cause] => [indented "    " "    " cause]
  | causes => causes.zipIdx.map fun (cause, n) => indented (label n) "       " cause

/-- The report of a failure with its causes. -/
def report (message : String) (causes : List String) : String :=
  "Error: " ++ message ++ "\n" ++
    if causes.isEmpty then "" else "\nCaused by:\n" ++ "\n".intercalate (causeLines causes) ++ "\n"

end ScriptShell.Failure
