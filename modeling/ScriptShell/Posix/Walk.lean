import ScriptShell.Posix.FileTree
/-!
# Walking a path

A path is followed name by name from a directory. A name that is a link is replaced by the names
of its target, at most `linkLimit` times; a dot stays, two dots go up, and anything but a directory
ends the walk unless it is the last name. The walk ends at a `Place`: a node, or a name that is
free in an existing directory.
-/

namespace ScriptShell

/-- Where a walk ends. -/
inductive Place
  /-- a node and its location -/
  | found (place : Location) (node : Node)
  /-- a directory that exists and has no entry of this name -/
  | vacant (directory : Location) (name : String)
deriving DecidableEq

namespace FileTree

/-- How many links one walk follows. -/
def linkLimit : Nat := 40

/-- The longest name, in bytes. -/
def nameLimit : Nat := 255

/-- The longest path, in bytes. -/
def pathLimit : Nat := 4095

/-- The names to walk for a path: a slash at the end asks for a directory, as a dot would. -/
def walkNames (path : String) : List String :=
  if Path.endsInSlash path then Path.names path ++ ["."] else Path.names path

/-- Follows `todo` from the directory `from_`. A link under the last name is followed only if
`follow` is set. -/
def walk (t : FileTree) (follow : Bool) (links : Nat) (from_ : Location) (todo : List String) :
    Except Errno Place :=
  match todo with
  | [] => .ok (.found from_ ((t.node? from_).getD (.directory newDirectoryMode)))
  | name :: rest =>
    if name = "." then t.walk follow links from_ rest
    else if name = ".." then t.walk follow links from_.dropLast rest
    else if nameLimit < name.utf8ByteSize then .error .nameTooLong
    else
      match t.node? (from_ ++ [name]) with
      | none => if rest = [] then .ok (.vacant from_ name) else .error .noEntry
      | some (.directory m) =>
        if rest = [] then .ok (.found (from_ ++ [name]) (.directory m))
        else t.walk follow links (from_ ++ [name]) rest
      | some (.file m c) =>
        if rest = [] then .ok (.found (from_ ++ [name]) (.file m c)) else .error .notDirectory
      | some (.link target) =>
        if rest = [] ∧ follow = false then .ok (.found (from_ ++ [name]) (.link target))
        else
          match links with
          | 0 => .error .tooManyLinks
          | links + 1 =>
            t.walk follow links (if Path.isAbsolute target then [] else from_)
              (walkNames target ++ rest)
termination_by (links, todo.length)

end FileTree

end ScriptShell
