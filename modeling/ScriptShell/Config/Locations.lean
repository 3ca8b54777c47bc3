import ScriptShell.Posix.Path
/-!
# Where the configuration is

The places of preload scripts, of the user's configuration and its templates, of the history and
of the shared modules. Those of the user are below the home directory; the others are in the
system directory or in the directory the shell was started in.
-/

namespace ScriptShell.Config

/-- The directory of what is installed for all users. -/
def systemDirectory : String := "/usr/share/gil"

/-- The name of a user's configuration. -/
def fileName : String := ".gilrc.py"

/-- The name of a preload script. -/
def preloadName : String := "preload.py"

/-- The name of the history file. -/
def historyName : String := ".gil_history"

/-- Where the shell looks for its scripts and its history. -/
structure Locations where
  /-- the preload scripts, tried in order until one loads -/
  preloads : List String
  userConfig : String
  /-- the texts that a new configuration may start from, in order -/
  templates : List String
  history : Option String
  /-- the directories of shared modules -/
  libraries : List String
deriving Repr, DecidableEq, Inhabited

/-- The places for a home directory, if there is one, and a configuration asked for by the user. -/
def Locations.standard (home userConfig : Option String) : Locations where
  preloads := [Path.join systemDirectory preloadName, preloadName]
  userConfig := userConfig.getD (Path.join (home.getD ".") fileName)
  templates := [fileName, Path.join systemDirectory fileName]
  history := home.map (Path.join · historyName)
  libraries := ["lib", Path.join systemDirectory "lib"]

end ScriptShell.Config
