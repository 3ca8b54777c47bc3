import ScriptShell.Script.Method
/-!
# Functions of the system

What scripts can do with directories, paths and the environment: the functions of the modules `os`,
`os.path` and `sys`, by their full names.
-/

namespace ScriptShell.Script

/-! ## Paths -/

namespace PathText

/-- Paths put together: one that starts at the root takes the place of those before it. -/
def join (first : String) (rest : List String) : String :=
  rest.foldl (fun path p =>
    if p.startsWith "/" then p
    else if path.isEmpty || path.endsWith "/" then path ++ p
    else path ++ "/" ++ p) first

/-- A path cut after its last slash. -/
def split (path : String) : String × String :=
  let cs := path.toList
  let tail := (cs.reverse.takeWhile (· ≠ '/')).reverse
  let head := cs.take (cs.length - tail.length)
  let bare := (head.reverse.dropWhile (· = '/')).reverse
  (String.ofList (if bare.isEmpty then head else bare), String.ofList tail)

/-- The names of a path, with two dots taken together with the name before them. -/
def reduced (absolute : Bool) (names : List String) : List String :=
  (names.foldl (fun (l : List String) n =>
    if n = "" || n = "." then l
    else if n = ".." then
      match l with
      | [] => if absolute then [] else [".."]
      | ".." :: _ => ".." :: l
      | _ :: rest => rest
    else n :: l) []).reverse

/-- A path without needless names. -/
def normal (path : String) : String :=
  if path.isEmpty then "."
  else
    let absolute := path.startsWith "/"
    let names := (path.toList.splitOn '/').map String.ofList
    let text := (if absolute then "/" else "") ++ "/".intercalate (reduced absolute names)
    if text.isEmpty then "." else text

/-- A path with a leading tilde replaced by the home directory. -/
def expandUser (home : Option String) (path : String) : String :=
  match path.toList with
  | '~' :: rest =>
    match rest, home with
    | [], some home | '/' :: _, some home =>
      let bare := String.ofList ((home.toList.reverse.dropWhile (· = '/')).reverse)
      let text := bare ++ String.ofList rest
      if text.isEmpty then "/" else text
    | _, _ => path
  | _ => path

/-- A path cut before the dot of its ending. -/
def splitEnding (path : String) : String × String :=
  let (_, name) := split path
  let cs := name.toList
  let ending := (cs.reverse.takeWhile (· ≠ '.')).reverse
  let stem := cs.take (cs.length - ending.length - 1)
  if ending.length = cs.length || stem.all (· = '.') then (path, "")
  else
    let all := path.toList
    (String.ofList (all.take (all.length - ending.length - 1)), "." ++ String.ofList ending)

end PathText

namespace Exec

/-- The class of the exception for an error of the system. -/
def systemErrorClass (e : Errno) : String :=
  match e.number with
  | 1 | 13 => "PermissionError"
  | 2 => "FileNotFoundError"
  | 17 => "FileExistsError"
  | 20 => "NotADirectoryError"
  | 21 => "IsADirectoryError"
  | _ => "OSError"

/-- Raises the exception for an error of the system about a file. -/
def raiseSystem {α : Type} (e : FileError) (file : String) : Exec α :=
  match e with
  | .system e =>
    raiseWith (systemErrorClass e) [.int e.number, .text e.libraryText, .text file]
  | .nulInPath => raise "ValueError" "embedded null byte"
  | .notText => raise "UnicodeDecodeError" "'utf-8' codec can't decode bytes"

/-- The path that an argument is. -/
def pathArg (function : String) (v : Value) : Exec String := do
  match v with
  | .text s => pure s
  | v =>
    typeError (function ++ ": path should be string, bytes or os.PathLike, not " ++
      (← heap).typeName v)

/-- The home directory as the environment gives it. -/
def homeVariable : Exec (Option String) := do
  let i ← get
  match i.heap.lookup? i.environment "HOME" with
  | some (.text s) => pure (some s)
  | _ => pure (some "/root")

/-- A function of the module `os`. -/
def osFunction (name : String) (args : List Value) : Exec Value := do
  let i ← get
  let d := i.machine.disk
  let path := fun (n : Nat) => pathArg name ((args[n]?).getD .none)
  let setDisk := fun (d : Disk) => do
    modify fun i => { i with machine := { i.machine with disk := d } }
    pure Value.none
  match name with
  | "chdir" => do
    match args with
    | [.text p] =>
      match d.changeDirectory p with
      | .ok d => setDisk d
      | .error e => raiseSystem e p
    | [] => typeError "chdir() missing required argument 'path' (pos 1)"
    | v :: _ =>
      typeError ("chdir: path should be string, bytes, os.PathLike or integer, not " ++
        i.heap.typeName v)
  | "getcwd" => do
    expectNoArgs "posix.getcwd" args []
    pure (.text d.directoryPath)
  | "listdir" => do
    let p ← match args with
      | [] | [.none] => pure "."
      | _ => path 0
    match d.locate p with
    | .ok (.found place (.directory _)) => list ((d.tree.childNames place).map .text)
    | .ok (.found ..) => raiseSystem (.system ⟨20⟩) p
    | .ok (.vacant ..) => raiseSystem (.system .noEntry) p
    | .error e => raiseSystem e p
  | "mkdir" => do
    let p ← path 0
    match d.makeDirectory p with
    | .ok d => setDisk d
    | .error e => raiseSystem e p
  | "makedirs" => do
    let p ← path 0
    match d.makeDirectories p with
    | (.ok (), d) => setDisk d
    | (.error e, _) => raiseSystem e p
  | "remove" | "unlink" => do
    let p ← path 0
    match d.locate p false with
    | .ok (.found _ (.directory _)) => raiseSystem (.system .isDirectory) p
    | .ok (.found place _) => setDisk { d with tree := d.tree.erase place }
    | .ok (.vacant ..) => raiseSystem (.system .noEntry) p
    | .error e => raiseSystem e p
  | "getenv" =>
    match args with
    | v :: rest =>
      let entries := (i.heap.entries? i.environment).getD []
      pure ((entries.lookup v).getD (rest.headD .none))
    | [] => typeError "getenv() missing 1 required positional argument: 'key'"
  | "getpid" => pure (.int Program.shellNumber)
  | _ => notProvided ("os." ++ name)

/-- A function of the module `os.path`. -/
def pathFunction (name : String) (args : List Value) : Exec Value := do
  let i ← get
  let d := i.machine.disk
  let text := fun (v : Value) => do
    match v with
    | .text s => pure s
    | v => typeError ("expected str, bytes or os.PathLike object, not " ++ i.heap.typeName v)
  let only := do
    match args with
    | [v] => text v
    | [] => typeError (name ++ "() missing 1 required positional argument: 'path'")
    | _ =>
      typeError (name ++ "() takes 1 positional argument but " ++ toString args.length ++
        " were given")
  match name with
  | "join" => do
    match ← args.mapM text with
    | [] => typeError "join() missing 1 required positional argument: 'a'"
    | first :: rest => pure (.text (PathText.join first rest))
  | "exists" => do pure (.bool (d.pathExists (← only)))
  | "isfile" => do pure (.bool (d.isFile (← only)))
  | "isdir" => do pure (.bool (d.isDirectory (← only)))
  | "basename" => do pure (.text (PathText.split (← only)).2)
  | "dirname" => do pure (.text (PathText.split (← only)).1)
  | "split" => do
    let (a, b) := PathText.split (← only)
    tuple [.text a, .text b]
  | "splitext" => do
    let (a, b) := PathText.splitEnding (← only)
    tuple [.text a, .text b]
  | "normpath" => do pure (.text (PathText.normal (← only)))
  | "abspath" | "realpath" => do
    pure (.text (PathText.normal (PathText.join d.directoryPath [← only])))
  | "isabs" => do pure (.bool ((← only).startsWith "/"))
  | "expanduser" => do pure (.text (PathText.expandUser (← homeVariable) (← only)))
  | _ => notProvided ("os.path." ++ name)

/-- The functions of the modules that scripts find without a file. -/
def moduleFunctions : List (String × List String) :=
  [("os", ["chdir", "getcwd", "listdir", "mkdir", "makedirs", "remove", "unlink", "getenv",
      "getpid", "system", "popen", "rename", "rmdir", "stat", "walk", "kill", "execvp", "fork"]),
    ("os.path", ["join", "exists", "isfile", "isdir", "basename", "dirname", "split", "splitext",
      "normpath", "abspath", "realpath", "isabs", "expanduser", "getsize", "islink",
      "expandvars"]),
    ("sys", ["exit", "getrecursionlimit"])]

/-- A function of a module, by its full name; nothing if it is none. -/
def moduleFunction? (name : String) (args : List Value) : Option (Exec Value) :=
  match (name.toList.splitOn '.').map String.ofList with
  | ["os", "path", f] => some (pathFunction f args)
  | ["os", f] => some (osFunction f args)
  | ["sys", "exit"] => some (raiseWith "SystemExit" (args.filter (· ≠ .none)))
  | ["sys", "getrecursionlimit"] => some (pure (.int 1000))
  | _ => none

end Exec

end ScriptShell.Script
