import ScriptShell.Program.Installed
import ScriptShell.Session
import ScriptShell.Streams
/-!
# The program

The shell on the installed system, with the configuration of the user who runs it: it reads its lines
from standard input, and what it puts out is written when it ends.
-/

namespace ScriptShell

/-- The lines of a stream, up to its end. -/
partial def readLines (input : IO.FS.Stream) : IO (List String) := do
  let line ← input.getLine
  if line.isEmpty then pure []
  else pure (line.trimAsciiEnd.toString :: (← readLines input))

/-- A file of the user, as an entry of the installed system, if it can be read. -/
def userFile (path : String) (d : Disk) : IO Disk := do
  try
    pure (Program.withEntry d path (.file 0o644 (← IO.FS.readFile path).toUTF8))
  catch _ => pure d

/-- What the shell is started with. -/
def userSetting (args : List String) : IO Setting := do
  let home ← IO.getEnv "HOME"
  let filter ← IO.getEnv "RUST_LOG"
  let config := match StartRequest.ofArguments args with
    | .ok (.shell config) => config
    | _ => none
  let path := (Config.Locations.standard home config).userConfig
  let disk ← userFile path Program.installedDisk
  pure
    { arguments := args
      machine :=
        { disk
          environment := (home.map (("HOME", ·))).toList ++ (filter.map (("RUST_LOG", ·))).toList ++
            [("PATH", "/usr/bin:/bin")] } }

/-- The reads that the lines of an input come to. -/
def lineReads (lines : List String) : List Terminal.Reading × Terminal.Closing :=
  let reads := lines.zipIdx.map fun (line, i) =>
    { read := .line line, drawn := [], history := {}, left := lines.length - i - 1 : Terminal.Reading }
  (reads ++ [{ read := .endOfInput, drawn := [], history := {}, left := 0 }], .silence)

end ScriptShell

open ScriptShell in
def main (args : List String) : IO UInt32 := do
  let setting ← userSetting args
  let lines ← match StartRequest.ofArguments args with
    | .ok (.shell _) => readLines (← IO.getStdin)
    | _ => pure []
  let life := Life.ofSetting setting .plain lines.length fun _ => lineReads lines
  let time := toString (← IO.monoMsNow)
  (← IO.getStderr).write
    (Streams.standardError (Streams.logged setting.filter.1 time) life.output)
  (← IO.getStdout).write (Streams.standardOutput .untilEnd life.output)
  match life.ending with
  | .exited code => pure code.toUInt32
  | .signaled s => pure (128 + s.number).toUInt32
