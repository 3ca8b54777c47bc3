import ScriptShell.Engine.Basic
import ScriptShell.Posix.Disk
import ScriptShell.Posix.Signal
/-!
# Processes

What a running program has: the disk, its environment, its input, where its output goes, and the
signals it sent to the shell that started it. A program is a function that takes such a process and
says how it ended.
-/

namespace ScriptShell.Program

/-- Where the bytes written to a stream go. -/
inductive Sink
  /-- to a stream of the shell -/
  | stream (s : Stream)
  /-- to the end of a file -/
  | file (place : Location)
  /-- to the process that reads what this one writes -/
  | pipe
deriving DecidableEq, Inhabited

/-- The number of the shell's own process. -/
def shellNumber : Nat := 1000

/-- A running program. -/
structure Process where
  disk : Disk
  /-- its number, by which signals reach it -/
  id : Nat := 1001
  /-- the number of the process that started it -/
  parent : Nat := shellNumber
  environment : List (String × String) := []
  /-- what is left to read -/
  input : ByteArray := ByteArray.empty
  out : Sink := .stream .out
  err : Sink := .stream .err
  /-- what was written to the shell's streams, newest first -/
  written : List (Stream × ByteArray) := []
  /-- what was written into the pipe -/
  piped : ByteArray := ByteArray.empty
  /-- the signals sent to the shell, newest first -/
  sentToShell : List Signal := []
  /-- the signals that have no effect, as the shell arranged it -/
  ignored : List Signal := [.brokenPipe]
deriving Inhabited

/-- The file that takes everything and keeps nothing. -/
def nullDevice : Location := ["dev", "null"]

namespace Process

/-- Writes bytes to a sink. -/
def writeTo (p : Process) (sink : Sink) (bytes : ByteArray) : Process :=
  match sink with
  | .stream s => { p with written := (s, bytes) :: p.written }
  | .pipe => { p with piped := p.piped ++ bytes }
  | .file place =>
    if place = nullDevice then p
    else
      match p.disk.tree.node? place with
      | some (.file mode content) =>
        { p with disk.tree := p.disk.tree.insert place (.file mode (content ++ bytes)) }
      | _ => p

/-- Writes text to the standard output. -/
def print (p : Process) (text : String) : Process := p.writeTo p.out text.toUTF8

/-- Writes text to the standard error. -/
def complain (p : Process) (text : String) : Process := p.writeTo p.err text.toUTF8

/-- The output so far, in order. -/
def outputs (p : Process) : List Output :=
  p.written.reverse.map fun (s, bytes) => .program s bytes

/-- The value of an environment variable. -/
def value? (p : Process) (name : String) : Option String := p.environment.lookup name

end Process

/-- How a program with these arguments runs, its name first. -/
abbrev Behaviour := List String → Process → Ending × Process

end ScriptShell.Program
