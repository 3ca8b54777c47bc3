import ScriptShell.Engine.Basic
/-!
# Scripts given by their effects

The smallest engine: a script, a handler or a file is the list of what it does to the shell state.
Effects are performed in order up to the first that fails. What the engine and the runner beside it
were asked is kept, in order, in the trace.
-/

namespace ScriptShell

/-- One thing a script does. -/
inductive Effect
  | prompt (text : String)
  | alias (trigger expansion : String)
  /-- registers a command and stores its handler -/
  | register (name : String) (handler : List Effect)
  /-- registers a command without a handler -/
  | announce (name : String)
  | fail (why : ScriptError)
deriving Inhabited

/-- Something an engine or a runner was asked to do. -/
inductive Request
  | script (line : String)
  | call (name : String) (args : List String)
  | load (path : String)
  | run (invocation : Invocation)
deriving Repr, DecidableEq

/-- The scripts, files and handlers of the engine, and the requests so far. -/
structure EffectHost where
  scripts : List (String × List Effect) := []
  files : List (String × List Effect) := []
  handlers : List (String × List Effect) := []
  trace : List Request := []
deriving Inhabited

namespace EffectHost

/-- Notes a request, after the others. -/
def note (h : EffectHost) (r : Request) : EffectHost := { h with trace := h.trace ++ [r] }

end EffectHost

namespace Effect

/-- Performs effects in order, up to the first that fails. -/
def performAll : List Effect → Shared EffectHost →
    Outcome (Shared EffectHost) (Except ScriptError Unit)
  | [], s => { answer := .ok (), state := s }
  | .prompt text :: rest, s =>
    performAll rest { s with shell := { s.shell with prompt := text } }
  | .alias trigger expansion :: rest, s =>
    performAll rest
      { s with shell := { s.shell with aliases := s.shell.aliases.insert trigger expansion } }
  | .announce name :: rest, s =>
    let o := performAll rest
      { s with shell := { s.shell with commands := s.shell.commands.insert name } }
    { o with output := .event (.commandRegistered name) :: o.output }
  | .register name handler :: rest, s =>
    let o := performAll rest
      { host := { s.host with handlers := (name, handler) :: s.host.handlers }
        shell := { s.shell with commands := s.shell.commands.insert name } }
    { o with output := .event (.commandRegistered name) :: o.output }
  | .fail why :: _, s => { answer := .error why, state := s }

end Effect

/-- The engine whose scripts are lists of effects. -/
def effectEngine : Engine EffectHost where
  eval line s :=
    if line.toList.contains '\x00' then { answer := .error .nul, state := s }
    else
      match s.host.scripts.lookup line with
      | none => { answer := .error .notStatement, state := s }
      | some effects => Effect.performAll effects { s with host := s.host.note (.script line) }
  call name args s :=
    let s := { s with host := s.host.note (.call name args) }
    match s.host.handlers.lookup name with
    | none => { answer := .error (.missingHandler name), state := s }
    | some effects => Effect.performAll effects s
  load path s :=
    let s := { s with host := s.host.note (.load path) }
    match s.host.files.lookup path with
    | none => { answer := .error (.unreadable path (.system .noEntry)), state := s }
    | some effects => Effect.performAll effects s

end ScriptShell
