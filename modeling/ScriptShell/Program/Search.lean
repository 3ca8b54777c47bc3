import ScriptShell.Program.Error
import ScriptShell.Posix.Disk
/-!
# Finding a program

A name with a slash is a path and is taken as it stands, if it leads to something that someone may
execute. Any other name is looked for in the directories of the search path; the first candidate
that is a file someone may execute is the program, and what else has the name is passed over.
-/

namespace ScriptShell.Program

/-- The directories searched when there is no search path. -/
def defaultDirectories : List String := ["/usr/local/bin", "/usr/bin", "/bin"]

/-- The directories of a search path: its pieces between colons, empty ones left out. -/
def searchDirectories : Option String → List String
  | none => defaultDirectories
  | some path =>
    (path.toList.splitOn ':').filterMap fun dir =>
      if dir.isEmpty then none else some (String.ofList dir)

/-- Whether a name is a path. -/
def isPath (program : String) : Bool := program.toList.contains '/'

/-- Whether a path leads to a file that someone may execute. -/
def isCandidate (d : Disk) (path : String) : Bool := d.isFile path && d.isExecutable path

/-- The path of a program. -/
def find (d : Disk) (searchPath : Option String) (program : String) : Except LaunchError String :=
  if isPath program then
    if !d.pathExists program then .error (.noSuchFile program)
    else if !d.isExecutable program then .error (.notExecutable program)
    else .ok program
  else
    match ((searchDirectories searchPath).map (Path.join · program)).find? (isCandidate d) with
    | some path => .ok path
    | none => .error (.notFound program)

end ScriptShell.Program
