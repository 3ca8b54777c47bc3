import ScriptShell.Text.Similarity
/-!
# The command line

A shell takes one option, the configuration to load, and the two flags that ask for help and for the
version. The arguments are read one after another: a flag is answered as soon as it is read, and the
first argument that does not fit is refused. An option whose value is still to come is settled when
the next option is read, or at the end.
-/

namespace ScriptShell

/-- An option or flag of the command line. -/
inductive Flag
  | config | help | version
deriving Repr, DecidableEq, Inhabited

namespace Flag

def name : Flag → String
  | .config => "config"
  | .help => "help"
  | .version => "version"

def all : List Flag := [.config, .help, .version]

def ofName? (name : String) : Option Flag := all.find? (·.name == name)

/-- The flag as a command line holds it, with the kind of its value. -/
def text : Flag → String
  | .config => "--config <PATH>"
  | .help => "--help"
  | .version => "--version"

/-- How alike a name must be to one that is meant. -/
def likeness : Float := 0.7

/-- The flag whose name is most like a text, of several the last, if one is like it at all. -/
def mostLike? (name : String) : Option Flag :=
  let like := (all.map fun f => (f, Text.similarity name f.name)).filter fun (_, x) => x > likeness
  (like.foldl (fun best (f, x) =>
    match best with
    | some (_, y) => if x < y then best else some (f, x)
    | none => some (f, x)) none).map (·.1)

end Flag

/-- What a command line asks for. -/
inductive StartRequest
  | shell (config : Option String)
  | help
  | version
deriving Repr, DecidableEq, Inhabited

/-- Why a command line is refused. -/
inductive UsageError
  /-- an argument that means nothing; `similar` is the flag it may have been meant for, and `used`
  are those that were given -/
  | unexpectedArgument (argument : String) (similar : Option Flag) (used : List Flag)
  /-- a value for a flag that takes none -/
  | unexpectedValue (value : String) (flag : Flag) (used : List Flag)
  | missingValue
  | repeatedOption
deriving Repr, DecidableEq, Inhabited

namespace UsageError

/-- The usage line that goes with the flags that were given. -/
def usage (used : List Flag) : String :=
  "Usage: gil " ++
    (if used.isEmpty then "[OPTIONS]" else " ".intercalate (used.map Flag.text)) ++ "\n\n"

/-- The flags given, with one more. -/
def withFlag (used : List Flag) (f : Option Flag) : List Flag :=
  used ++ (f.toList.filter (!used.contains ·))

/-- What is wrong, and the usage if it helps. -/
def complaint : UsageError → String
  | .unexpectedArgument argument similar used =>
    "unexpected argument '" ++ argument ++ "' found\n\n" ++
      (match similar with
        | some f => "  tip: a similar argument exists: '--" ++ f.name ++ "'\n\n"
        | none => "") ++ usage (withFlag used similar)
  | .unexpectedValue value flag used =>
    "unexpected value '" ++ value ++ "' for '" ++ flag.text ++ "' found; no more were expected\n\n" ++
      usage (withFlag used (some flag))
  | .missingValue =>
    "a value is required for '" ++ Flag.config.text ++ "' but none was supplied\n\n"
  | .repeatedOption =>
    "the argument '" ++ Flag.config.text ++ "' cannot be used multiple times\n\n" ++ usage []

/-- The text that the user sees. -/
def message (e : UsageError) : String :=
  "error: " ++ e.complaint ++ "For more information, try '--help'.\n"

end UsageError

/-- The text that `--help` asks for. -/
def helpText : String :=
  "A command shell configured in Python\n\nUsage: gil [OPTIONS]\n\nOptions:\n" ++
    "      --config <PATH>  Load this file instead of ~/.gilrc.py\n" ++
    "  -h, --help           Print help\n" ++
    "  -V, --version        Print version\n"

/-- The text that `--version` asks for. -/
def versionText : String := "gil 0.1.0\n"

/-- How far the value of the option has come. -/
inductive PendingOption
  | nothing
  /-- the option was read, its value is still to come -/
  | awaited
  | given (value : String)
deriving Repr, DecidableEq, Inhabited

/-- What has been read of a command line. -/
structure CommandLine where
  config : Option String := none
  pending : PendingOption := .nothing
deriving Repr, DecidableEq, Inhabited

namespace CommandLine

/-- Settles the option that is pending. -/
def settle (c : CommandLine) : Except UsageError CommandLine :=
  match c.pending with
  | .nothing => .ok c
  | .awaited => .error .missingValue
  | .given value =>
    if c.config.isSome then .error .repeatedOption
    else if value.isEmpty then .error .missingValue
    else .ok { config := some value }

/-- The flags given, for a complaint about an argument that comes after them. -/
def used (c : CommandLine) : List Flag :=
  match c.config, c.pending with
  | none, .nothing | none, .awaited => []
  | _, _ => [.config]

/-- Splits a text at its first equals sign. -/
def splitValue (cs : List Char) : String × Option String :=
  let name := cs.takeWhile (· ≠ '=')
  (String.ofList name,
    match cs.drop name.length with
    | _ :: value => some (String.ofList value)
    | [] => none)

/-- An argument that starts with two dashes, without them. -/
def long (c : CommandLine) (cs : List Char) :
    Except UsageError (StartRequest ⊕ CommandLine) := do
  let (name, value) := splitValue cs
  match Flag.ofName? name, value with
  | none, _ => .error (.unexpectedArgument ("--" ++ name) (Flag.mostLike? name) c.used)
  | some .config, none => do pure (.inr { ← c.settle with pending := .awaited })
  | some .config, some value => do
    pure (.inr (← CommandLine.settle { ← c.settle with pending := .given value }))
  | some .help, none => do
    let _ ← c.settle
    pure (.inl .help)
  | some .version, none => do
    let _ ← c.settle
    pure (.inl .version)
  | some f, some value =>
    .error (.unexpectedValue value f (if c.config.isSome then [.config] else []))

/-- An argument that starts with one dash, by the character after it. -/
def short (c : CommandLine) (flag : Char) : Except UsageError (StartRequest ⊕ CommandLine) := do
  if flag = 'h' then
    let _ ← c.settle
    pure (.inl .help)
  else if flag = 'V' then
    let _ ← c.settle
    pure (.inl .version)
  else .error (.unexpectedArgument ("-" ++ flag.toString) none [])

/-- An argument that is no option. -/
def plain (c : CommandLine) (argument : String) : Except UsageError CommandLine :=
  match c.pending with
  | .awaited => .ok { c with pending := .given argument }
  | _ => .error (.unexpectedArgument argument none [])

/-- What arguments ask for, after those read before. Two dashes alone end the options. -/
def read (c : CommandLine) : List String → Except UsageError StartRequest
  | [] => do pure (.shell (← c.settle).config)
  | a :: rest => do
    match a.toList with
    | ['-', '-'] =>
      match rest with
      | [] => do pure (.shell (← c.settle).config)
      | b :: _ => .error (.unexpectedArgument b none [])
    | '-' :: '-' :: cs =>
      match ← c.long cs with
      | .inl start => pure start
      | .inr c => c.read rest
    | '-' :: flag :: _ =>
      match ← c.short flag with
      | .inl start => pure start
      | .inr c => c.read rest
    | _ => (← c.plain a).read rest

end CommandLine

/-- What the arguments of a shell ask for. -/
def StartRequest.ofArguments (args : List String) : Except UsageError StartRequest :=
  CommandLine.read {} args

end ScriptShell
