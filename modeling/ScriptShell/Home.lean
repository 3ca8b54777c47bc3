/-!
# The user's home and the active shell

The home directory is the one the environment names. If the environment names none, the user
database is asked; a home that is empty is no home.
-/

namespace ScriptShell

/-- The home directory: the environment's, or the database's for this user. -/
def homeDirectory (variable_ database : Option String) : Option String :=
  match variable_ with
  | some home => if home.isEmpty then database.filter (!·.isEmpty) else some home
  | none => database.filter (!·.isEmpty)

/-- What the variable that names the active shell is set to: the running program, however it was
set before. -/
def activeShell (_before : Option String) (running : String) : Option String := some running

end ScriptShell
