import ScriptShell.Config.Error
import ScriptShell.Engine.Basic
/-!
# Loading the configuration

The preload scripts are loaded in order until one loads; it does no harm if none does. The user's
configuration is loaded after them, and must load.
-/

namespace ScriptShell.Config

variable {σ : Type}

/-- Loads the preload scripts up to and with the first that loads; says whether one did. -/
def loadFirst (engine : Engine σ) : List String → Shared σ → Outcome (Shared σ) Bool
  | [], s => { answer := false, state := s }
  | path :: rest, s =>
    let o := engine.load path s
    match o.answer with
    | .ok () =>
      { answer := true, state := o.state, output := o.output ++ [.event (.preloadLoaded path)] }
    | .error why =>
      let next := loadFirst engine rest o.state
      { next with output := o.output ++ .event (.preloadNotLoaded path why) :: next.output }

/-- Loads the preload scripts and then the user's configuration. -/
def load (engine : Engine σ) (preloads : List String) (userConfig : String) (s : Shared σ) :
    Outcome (Shared σ) (Except ConfigError Unit) :=
  let first := loadFirst engine preloads s
  let warning : List Output := if first.answer then [] else [.event .preloadMissing]
  let o := engine.load userConfig first.state
  { answer := o.answer.mapError (.notLoaded userConfig)
    state := o.state
    output := first.output ++ warning ++ o.output }

end ScriptShell.Config
