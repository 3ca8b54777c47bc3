import ScriptShell.Config.Error
import ScriptShell.Program.Error
/-!
# Events

What the shell writes to its log. An event has a level, an origin (the part of the shell it comes
from), a message and named fields.
-/

namespace ScriptShell

/-- How important an event is, the most important first. -/
inductive Level
  | error | warn | info | debug | trace
deriving Repr, DecidableEq, Inhabited

/-- The rank of a level: a filter that admits a rank admits all that are lower. -/
def Level.rank : Level → Nat
  | .error => 1
  | .warn => 2
  | .info => 3
  | .debug => 4
  | .trace => 5

def Level.name : Level → String
  | .error => "ERROR"
  | .warn => "WARN"
  | .info => "INFO"
  | .debug => "DEBUG"
  | .trace => "TRACE"

/-- Something the shell notes in its log. -/
inductive Event
  /-- a line is no script code, so it is read as a command -/
  | notScriptCode (why : ScriptError)
  /-- it is settled what a line means -/
  | resolvedLine
  | programFailed (program : String) (exitCode : Nat)
  | endOfInput
  /-- a report could not be written -/
  | reportLost (report : String) (why : Errno)
  | commandRegistered (name : String)
  | preloadLoaded (path : String)
  | preloadNotLoaded (path : String) (why : ScriptError)
  | preloadMissing
  | configurationCreated (path : String)
  | configurationNotCreated (why : ConfigError)
  | configurationLoaded (commands aliases : List String)
  | historyDisabled (path : String) (why : FileError)
  | signalTrapped (number : Nat)
deriving Repr, DecidableEq, Inhabited

/-- A text between quotes, with the characters escaped that would end it or not be seen. -/
def quotedText (text : String) : String :=
  "\"" ++ String.join (text.toList.map fun c =>
    if c = '"' then "\\\"" else if c = '\\' then "\\\\" else if c = '\n' then "\\n"
    else if c = '\t' then "\\t" else if c = '\r' then "\\r" else if c = '\x00' then "\\0"
    else c.toString) ++ "\""

/-- A list of texts, each quoted. -/
def quotedList (l : List String) : String := "[" ++ ", ".intercalate (l.map quotedText) ++ "]"

namespace Event

def level : Event → Level
  | .reportLost .. | .preloadMissing | .configurationNotCreated _ | .historyDisabled .. => .warn
  | .configurationCreated _ => .info
  | _ => .debug

/-- The part of the shell an event comes from, as filters name it. -/
def origin : Event → String
  | .notScriptCode _ | .resolvedLine | .programFailed .. | .endOfInput | .reportLost .. =>
    "gil::dispatch"
  | .commandRegistered _ => "gil::shell::commands"
  | .preloadLoaded _ | .preloadNotLoaded .. | .preloadMissing | .configurationCreated _ =>
    "gil::config"
  | .configurationNotCreated _ | .configurationLoaded .. => "gil"
  | .historyDisabled .. => "gil::repl"
  | .signalTrapped _ => "gil::signals"

def message : Event → String
  | .notScriptCode _ => "not script code"
  | .resolvedLine => "resolved input line"
  | .programFailed .. => "program exited unsuccessfully"
  | .endOfInput => "end of input"
  | .reportLost report _ => "failed to report error: " ++ report
  | .commandRegistered _ => "registered script command"
  | .preloadLoaded _ => "loaded preload script"
  | .preloadNotLoaded .. => "preload script not loaded"
  | .preloadMissing => "missing preload file, builtins may be missing"
  | .configurationCreated _ => "created user configuration"
  | .configurationNotCreated _ => "could not create user configuration"
  | .configurationLoaded .. => "configuration loaded"
  | .historyDisabled .. => "history disabled"
  | .signalTrapped _ => "trapped signal"

/-- The fields with their texts, in order. -/
def fields : Event → List (String × String)
  | .notScriptCode why => [("error", why.message)]
  | .programFailed program exitCode => [("program", program), ("exit_code", toString exitCode)]
  | .reportLost _ why => [("error", why.osMessage)]
  | .commandRegistered name => [("command", name)]
  | .preloadLoaded path => [("path", path)]
  | .preloadNotLoaded path why => [("path", path), ("error", why.message)]
  | .configurationCreated path => [("path", path)]
  | .configurationNotCreated why => [("error", why.message)]
  | .configurationLoaded commands aliases =>
    [("commands", quotedList commands), ("aliases", quotedList aliases)]
  | .historyDisabled path why => [("path", path), ("error", "I/O error: " ++ why.message)]
  | .signalTrapped number => [("signal", toString number)]
  | .resolvedLine | .endOfInput | .preloadMissing => []

/-- The names of the fields that filters know: of a line that is settled, what it means is a field
too, though it is not listed. -/
def fieldNames (e : Event) : List String :=
  match e with
  | .resolvedLine => ["resolution"]
  | e => e.fields.map (·.1)

end Event

end ScriptShell
