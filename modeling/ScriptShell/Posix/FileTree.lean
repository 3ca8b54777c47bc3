import ScriptShell.Posix.Errno
import ScriptShell.Posix.Path
import ScriptShell.Text.Bytes
/-!
# File trees

A tree maps locations to nodes: files, directories and symbolic links. A location is the list of
names from the root, without dots and links, so every node has one location. The root itself is
always a directory.
-/

namespace ScriptShell

/-- The names that lead from the root to a place in the tree. -/
abbrev Location := List String

/-- What stands at a location. Modes are the permission bits, nine and the three special ones. -/
inductive Node
  | file (mode : Nat) (content : ByteArray)
  | directory (mode : Nat)
  | link (target : String)
deriving DecidableEq, Inhabited

namespace Node

/-- The permission bits; a link has them all. -/
def mode : Node → Nat
  | .file m _ => m
  | .directory m => m
  | .link _ => 0o777

/-- Whether someone may execute it (for a directory: search it). -/
def isExecutable (n : Node) : Bool := n.mode &&& 0o111 != 0

def isFile : Node → Bool
  | .file .. => true
  | _ => false

def isDirectory : Node → Bool
  | .directory .. => true
  | _ => false

end Node

/-- The mode of a file that is created with no mode asked for. -/
def newFileMode : Nat := 0o644

/-- The mode of a directory that is created with no mode asked for. -/
def newDirectoryMode : Nat := 0o755

/-- Nodes by location, each location at most once. -/
structure FileTree where
  entries : List (Location × Node) := []
deriving Inhabited

namespace FileTree

/-- What stands at `place`. -/
def node? (t : FileTree) (place : Location) : Option Node :=
  match place with
  | [] => some (.directory newDirectoryMode)
  | _ => t.entries.lookup place

/-- Puts a node at a location, in the place of what was there. -/
def insert (t : FileTree) (place : Location) (n : Node) : FileTree :=
  ⟨(place, n) :: t.entries.filter (fun e => e.1 != place)⟩

/-- Takes away what stands at a location. -/
def erase (t : FileTree) (place : Location) : FileTree :=
  ⟨t.entries.filter (fun e => e.1 != place)⟩

/-- The names directly below a location, sorted. -/
def childNames (t : FileTree) (place : Location) : List String :=
  (t.entries.filterMap fun e =>
    if e.1.dropLast = place then e.1.getLast? else none).mergeSort (fun a b => decide (a ≤ b))

/-- Everything below a location, by the path from there, sorted by that path. -/
def below (t : FileTree) (place : Location) : List (String × Node) :=
  (t.entries.filterMap fun e =>
    if place.isPrefixOf e.1 && e.1 != place then
      some ("/".intercalate (e.1.drop place.length), e.2)
    else none).mergeSort (fun a b => decide (a.1 ≤ b.1))

/-- Puts directories at every location on the way to `place` that has nothing yet. -/
def withAncestors (t : FileTree) (place : Location) : FileTree :=
  ((List.range place.length).map place.take).foldl
    (fun t p => if (t.node? p).isSome then t else t.insert p (.directory newDirectoryMode)) t

end FileTree

end ScriptShell
