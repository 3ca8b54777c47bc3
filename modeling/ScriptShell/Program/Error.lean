import ScriptShell.Posix.Errno
/-!
# Why a program did not run

The failures of launching a program and waiting for it, each with its text.
-/

namespace ScriptShell

/-- Why a program was not run to its end. -/
inductive LaunchError
  /-- no directory of the search path has the program -/
  | notFound (program : String)
  /-- the path given leads to nothing -/
  | noSuchFile (program : String)
  /-- the path given leads to something that nobody may execute -/
  | notExecutable (program : String)
  /-- the program's name or an argument holds a NUL -/
  | nulInArgument (program : String)
  | forkFailed (program : String) (why : Errno)
  | waitFailed (program : String) (why : Errno)
deriving Repr, DecidableEq, Inhabited

def LaunchError.message : LaunchError → String
  | .notFound program => program ++ ": command not found"
  | .noSuchFile program => program ++ ": No such file or directory"
  | .notExecutable program => program ++ ": Permission denied"
  | .nulInArgument program => program ++ ": argument contains a NUL byte"
  | .forkFailed program why => program ++ ": fork failed: " ++ why.kernelMessage
  | .waitFailed program why => program ++ ": waitpid failed: " ++ why.kernelMessage

end ScriptShell
