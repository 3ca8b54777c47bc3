import ScriptShell.Engine.Basic
import ScriptShell.Log.Filter
import ScriptShell.Log.Line
/-!
# What the streams receive

What is put out goes to standard output or standard error. Script text for standard output is held
back, at a terminal until a line of it ends, else until the end; all else goes out at once. Events
go to standard error, if the log admits them.
-/

namespace ScriptShell.Streams

/-- How long script text for standard output is held back. -/
inductive Holding
  | untilLineEnds
  | untilEnd
deriving Repr, DecidableEq, Inhabited

/-- What a stream has received, and the script text that is held back from it. -/
structure Received where
  bytes : ByteArray := ByteArray.empty
  held : String := ""

namespace Received

def add (r : Received) (b : ByteArray) : Received := { r with bytes := r.bytes ++ b }

/-- Lets what is held back go. -/
def release (r : Received) : Received := { bytes := r.bytes ++ r.held.toUTF8, held := "" }

/-- Holds more text back, unless it ends a line. -/
def hold (r : Received) (how : Holding) (text : String) : Received :=
  let r := { r with held := r.held ++ text }
  match how with
  | .untilEnd => r
  | .untilLineEnds => if text.toList.any fun c => c = '\n' || c = '\r' then r.release else r

end Received

/-- One more thing that standard output receives. -/
def receiveOut (how : Holding) (r : Received) : Output → Received
  | .script .out text => r.hold how text
  | .program .out b => r.add b
  | .shell .out text => r.add text.toUTF8
  | _ => r

/-- What standard output has received after all that was put out. -/
def received (how : Holding) (output : List Output) : Received := output.foldl (receiveOut how) {}

/-- What standard output has received in the end. -/
def standardOutput (how : Holding) (output : List Output) : ByteArray :=
  (received how output).release.bytes

/-- What standard error receives of one thing that is put out. -/
def errorBytes (log : Event → Option String) : Output → ByteArray
  | .script .err text | .shell .err text => text.toUTF8
  | .program .err b => b
  | .event e => ((log e).getD "").toUTF8
  | _ => ByteArray.empty

/-- What standard error receives. -/
def standardError (log : Event → Option String) (output : List Output) : ByteArray :=
  output.foldl (fun b o => b ++ errorBytes log o) ByteArray.empty

/-- The lines of a log with a filter. -/
def logged (filter : Log.Filter) (time : String) (e : Event) : Option String :=
  if filter.admits e then some (Log.line time e) else none

end ScriptShell.Streams
