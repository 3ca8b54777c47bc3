import ScriptShell.Posix.Errno
/-!
# Why a script did not run

The failures of a script engine, each with its text.
-/

namespace ScriptShell

/-- Why an engine did not run a line, a handler or a file to its end. -/
inductive ScriptError
  /-- the line parses, but holds only expressions that call nothing -/
  | notStatement
  /-- the script raised, or is no script; the text is the engine's own -/
  | runtime (text : String)
  /-- the line holds a NUL -/
  | nul
  /-- no handler is stored for the command -/
  | missingHandler (name : String)
  /-- the file cannot be read -/
  | unreadable (path : String) (why : FileError)
deriving Repr, DecidableEq, Inhabited

namespace ScriptError

def message : ScriptError → String
  | .notStatement => "not a script statement"
  | .runtime text => text
  | .nul => "script text contains a NUL byte"
  | .missingHandler name => "no handler stored for command \x60" ++ name ++ "\x60"
  | .unreadable path why => "failed to read " ++ path ++ ": " ++ why.message

/-- The causes below the error itself, outermost first. -/
def causes : ScriptError → List String
  | .unreadable _ why => [why.message]
  | _ => []

end ScriptError

end ScriptShell
