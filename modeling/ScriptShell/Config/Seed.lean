import ScriptShell.Config.Default
import ScriptShell.Config.Error
import ScriptShell.Engine.Basic
import ScriptShell.Posix.Disk
/-!
# Creating the user's configuration

A configuration that does not exist yet is created, with the directories above it, from the first
template that can be read as text, or from the built-in one. What exists already is left alone.
-/

namespace ScriptShell.Config

/-- The text a new configuration starts with. -/
def initialText (d : Disk) (templates : List String) : String :=
  (templates.findSome? fun path => (d.readText path).toOption).getD defaultText

/-- Creates the user's configuration at `path` if there is nothing yet. -/
def seed (path : String) (templates : List String) (d : Disk) :
    Outcome Disk (Except ConfigError Unit) :=
  if d.pathExists path then { answer := .ok (), state := d }
  else
    let text := initialText d templates
    match d.makeParent path with
    | (.error why, d) => { answer := .error (.notCreated path why), state := d }
    | (.ok (), d) =>
      match d.writeText path text with
      | .error why => { answer := .error (.notCreated path why), state := d }
      | .ok d =>
        { answer := .ok (), state := d, output := [.event (.configurationCreated path)] }

end ScriptShell.Config
