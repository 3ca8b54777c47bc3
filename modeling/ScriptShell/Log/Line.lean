import ScriptShell.Event
/-!
# Lines of the log

An event is written on a line: the time, the level in its colour, the message and the fields, their
names set off from their values.
-/

namespace ScriptShell.Log

/-- Switches a terminal to a style and back. -/
def styled (code text : String) : String := "\x1b[" ++ code ++ "m" ++ text ++ "\x1b[0m"

/-- The name of a level in its colour, in a column of its own. -/
def levelText : Level → String
  | .error => styled "31" "ERROR"
  | .warn => styled "33" " WARN"
  | .info => styled "32" " INFO"
  | .debug => styled "34" "DEBUG"
  | .trace => styled "35" "TRACE"

/-- A field with its value. -/
def fieldText (name value : String) : String := styled "3" name ++ styled "2" "=" ++ value

/-- The line for an event at a time. -/
def line (time : String) (e : Event) : String :=
  time ++ " " ++ levelText e.level ++ " " ++
    " ".intercalate (e.message :: e.fields.map fun (n, v) => fieldText n v) ++ "\n"

end ScriptShell.Log
