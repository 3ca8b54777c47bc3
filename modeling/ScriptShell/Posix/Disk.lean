import ScriptShell.Posix.Walk
/-!
# File operations

A `Disk` is a tree and the directory that relative paths start from. Each operation resolves its
path on its own: looking at a node, reading, writing, making directories, changing the directory.
A write goes through links and creates the file at the end of them, unless the path asks for a
directory.
-/

namespace ScriptShell

/-- A tree and the directory that relative paths start from. -/
structure Disk where
  tree : FileTree := {}
  directory : Location := []
deriving Inhabited

namespace Disk

/-- Checks what no system call accepts or what the system refuses before it walks. -/
def checkPath (path : String) : Except FileError Unit :=
  if path.toList.contains '\x00' then .error .nulInPath
  else if path.isEmpty then .error (.system .noEntry)
  else if FileTree.pathLimit < path.utf8ByteSize then .error (.system .nameTooLong)
  else .ok ()

/-- The directory a path starts from. -/
def start (d : Disk) (path : String) : Location :=
  if Path.isAbsolute path then [] else d.directory

/-- Where a path leads. -/
def locate (d : Disk) (path : String) (follow : Bool := true) : Except FileError Place := do
  checkPath path
  (d.tree.walk follow FileTree.linkLimit (d.start path) (FileTree.walkNames path)).mapError .system

/-- The node at the end of a path, links followed. -/
def node (d : Disk) (path : String) : Except FileError Node := do
  match ← d.locate path with
  | .found _ n => .ok n
  | .vacant .. => .error (.system .noEntry)

/-- Whether a path leads to something. -/
def pathExists (d : Disk) (path : String) : Bool := (d.node path).isOk

/-- Whether a path leads to a directory. -/
def isDirectory (d : Disk) (path : String) : Bool :=
  match d.node path with
  | .ok n => n.isDirectory
  | .error _ => false

/-- Whether a path leads to a file. -/
def isFile (d : Disk) (path : String) : Bool :=
  match d.node path with
  | .ok n => n.isFile
  | .error _ => false

/-- Whether a path leads to something that someone may execute. -/
def isExecutable (d : Disk) (path : String) : Bool :=
  match d.node path with
  | .ok n => n.isExecutable
  | .error _ => false

/-! ## Reading -/

/-- The bytes of a file. -/
def readBytes (d : Disk) (path : String) : Except FileError ByteArray := do
  match ← d.node path with
  | .file _ content => .ok content
  | _ => .error (.system .isDirectory)

/-- The text of a file. -/
def readText (d : Disk) (path : String) : Except FileError String := do
  match String.fromUTF8? (← d.readBytes path) with
  | some text => .ok text
  | none => .error .notText

/-! ## Writing -/

/-- The file that a write to `path` fills, and the mode it has afterwards. -/
def writeTarget (d : Disk) (path : String) : Except FileError (Location × Nat) := do
  checkPath path
  let names := Path.names path
  let stem := if Path.endsInSlash path then names.dropLast ++ ["."] else names
  match ← (d.tree.walk true FileTree.linkLimit (d.start path) stem).mapError .system with
  | .found place (.file mode _) => .ok (place, mode)
  | .found .. => .error (.system .isDirectory)
  | .vacant directory name => .ok (directory ++ [name], newFileMode)

/-- Gives the file at `path` this content, creating it if there is none. -/
def writeBytes (d : Disk) (path : String) (content : ByteArray) : Except FileError Disk := do
  let (place, mode) ← d.writeTarget path
  .ok { d with tree := d.tree.insert place (.file mode content) }

/-- Gives the file at `path` this text, creating it if there is none. -/
def writeText (d : Disk) (path text : String) : Except FileError Disk :=
  d.writeBytes path text.toUTF8

/-! ## Directories -/

/-- Makes one directory, where nothing stands yet. A link in its place counts as something. -/
def makeDirectory (d : Disk) (path : String) : Except FileError Disk := do
  checkPath path
  match ← (d.tree.walk false FileTree.linkLimit (d.start path) (Path.names path)).mapError .system with
  | .found .. => .error (.system .alreadyExists)
  | .vacant parent name =>
    .ok { d with tree := d.tree.insert (parent ++ [name]) (.directory newDirectoryMode) }

/-- Makes the directory at the first of some paths. If what is above it is missing, those at the
paths behind are made before. What has been made stays when a later one fails. -/
def makeEach (d : Disk) : List String → Except FileError Unit × Disk
  | [] => (.ok (), d)
  | path :: above =>
    match d.makeDirectory path with
    | .ok d => (.ok (), d)
    | .error e =>
      if e = .system .noEntry then
        match d.makeEach above with
        | (.error e, d) => (.error e, d)
        | (.ok (), d) =>
          match d.makeDirectory path with
          | .ok d => (.ok (), d)
          | .error e => (if d.isDirectory path then .ok () else .error e, d)
      else (if d.isDirectory path then .ok () else .error e, d)

/-- Makes a directory and those above it that are missing. -/
def makeDirectories (d : Disk) (path : String) : Except FileError Unit × Disk :=
  d.makeEach (Path.upward path)

/-- Makes the directories above a path. -/
def makeParent (d : Disk) (path : String) : Except FileError Unit × Disk :=
  match Path.parent? path with
  | none => (.ok (), d)
  | some parent => if parent.isEmpty then (.ok (), d) else d.makeDirectories parent

/-- Makes the directory at the end of a path the one that relative paths start from. -/
def changeDirectory (d : Disk) (path : String) : Except FileError Disk := do
  match ← d.locate path with
  | .found place (.directory _) => .ok { d with directory := place }
  | .found .. => .error (.system .notDirectory)
  | .vacant .. => .error (.system .noEntry)

/-- The absolute path of the directory that relative paths start from. -/
def directoryPath (d : Disk) : String := "/" ++ "/".intercalate d.directory

end Disk

end ScriptShell
