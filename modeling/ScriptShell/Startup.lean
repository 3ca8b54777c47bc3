import ScriptShell.Config.Load
import ScriptShell.Config.Locations
import ScriptShell.Config.Seed
import ScriptShell.Failure
import ScriptShell.History
import ScriptShell.Home
import ScriptShell.Log.Filter
import ScriptShell.Options
import ScriptShell.Script.Engine
/-!
# Starting a shell

A shell reads its command line, creates the user's configuration if there is none, loads the
configuration and opens the history; then it is ready to read lines. It ends earlier if it was asked
for a text only, or if the command line or the configuration is wrong.
-/

namespace ScriptShell

/-- What a shell is started with. -/
structure Setting where
  arguments : List String := []
  machine : Program.Machine
  /-- the home directory that the user database gives -/
  database : Option String := none
  /-- the program that runs as the shell -/
  executable : String := "gil"

/-- A shell that is ready to read lines. -/
structure ReadyShell where
  home : String
  history : History
  /-- where the history is kept, if it is -/
  historyFile : Option String
deriving Repr, DecidableEq, Inhabited

/-- What became of the start of a shell. -/
inductive Started
  | ended (code : Nat)
  | ready (shell : ReadyShell)
deriving Repr, DecidableEq, Inhabited

namespace Setting

/-- The machine as the shell has it: it names itself the active shell. -/
def shellMachine (s : Setting) : Program.Machine :=
  match activeShell (s.machine.environment.lookup "SHELL") s.executable with
  | some path => s.machine.setVariable "SHELL" path
  | none => s.machine.unsetVariable "SHELL"

/-- The directory of the user. -/
def home (s : Setting) : Option String :=
  homeDirectory (s.machine.environment.lookup "HOME") s.database

/-- The filter of the log, and what is said about it. -/
def filter (s : Setting) : Log.Filter × List String :=
  Log.Filter.ofText ((s.machine.environment.lookup "RUST_LOG").getD "")

end Setting

namespace Startup

/-- An interpreter with another disk. -/
def withDisk (i : Script.Interpreter) (d : Disk) : Script.Interpreter :=
  { i with machine := { i.machine with disk := d } }

/-- Opens the history; without its file it is kept in memory alone. -/
def openHistory (path : Option String) (d : Disk) : Outcome Disk (History × Option String) :=
  match path with
  | none => { answer := ({}, none), state := d }
  | some path =>
    match History.sync {} path d with
    | (.ok h, d) => { answer := (h, some path), state := d }
    | (.error why, d) =>
      { answer := ({}, none), state := d, output := [.event (.historyDisabled path why)] }

/-- Creates the user's configuration, or notes why that is not possible. -/
def seed (l : Config.Locations) (d : Disk) : Disk × List Output :=
  let o := Config.seed l.userConfig l.templates d
  (o.state, o.output ++ match o.answer with
    | .ok () => []
    | .error why => [.event (.configurationNotCreated why)])

/-- Starts a shell with a configuration asked for by the user, or without. -/
def shell (s : Setting) (config : Option String) : Outcome (Shared Script.Interpreter) Started :=
  let locations := Config.Locations.standard s.home config
  let machine := s.shellMachine
  let (disk, seeded) := seed locations machine.disk
  let host := Script.Interpreter.start {} { machine with disk } locations.libraries
  let loaded := Config.load Script.engine locations.preloads locations.userConfig { host }
  let before := s.filter.2.map (Output.shell .err) ++ seeded ++ loaded.output
  match loaded.answer with
  | .error why =>
    { answer := .ended 1, state := loaded.state
      output := before ++ [.shell .err (Failure.report why.message why.causes)] }
  | .ok () =>
    let state := loaded.state
    let opened := openHistory locations.history state.host.machine.disk
    let (history, historyFile) := opened.answer
    { answer := .ready { home := s.home.getD "", history, historyFile }
      state := { state with host := withDisk state.host opened.state }
      output := before ++
        .event (.configurationLoaded state.shell.commands.names state.shell.aliases.triggers) ::
        opened.output }

end Startup

/-- Starts a shell. -/
def startShell (s : Setting) : Outcome (Shared Script.Interpreter) Started :=
  let stay : Shared Script.Interpreter := { host := Script.Interpreter.start {} s.machine [] }
  match StartRequest.ofArguments s.arguments with
  | .error e => { answer := .ended 2, state := stay, output := [.shell .err e.message] }
  | .ok .help => { answer := .ended 0, state := stay, output := [.shell .out helpText] }
  | .ok .version => { answer := .ended 0, state := stay, output := [.shell .out versionText] }
  | .ok (.shell config) => Startup.shell s config

end ScriptShell
