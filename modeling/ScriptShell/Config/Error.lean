import ScriptShell.Engine.Error
/-!
# Why the configuration was not set up

The failures of creating and of loading the user's configuration, each with its text.
-/

namespace ScriptShell

/-- Why the user's configuration was not created or not loaded. -/
inductive ConfigError
  | notLoaded (path : String) (why : ScriptError)
  | notCreated (path : String) (why : FileError)
deriving Repr, DecidableEq, Inhabited

namespace ConfigError

def message : ConfigError → String
  | .notLoaded path why => "failed to load configuration " ++ path ++ ": " ++ why.message
  | .notCreated path why => "failed to create configuration " ++ path ++ ": " ++ why.message

/-- The causes below the error itself, outermost first. -/
def causes : ConfigError → List String
  | .notLoaded _ why => why.message :: why.causes
  | .notCreated _ why => [why.message]

end ConfigError

end ScriptShell
