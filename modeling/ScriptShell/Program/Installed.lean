import ScriptShell.Posix.Disk
import ScriptShell.Program.Utility
/-!
# The installed system

The tree a shell finds: the system's directories, the utilities, and an empty directory to work in.
-/

namespace ScriptShell.Program

/-- The directory the shell is started in. -/
def workDirectory : Location := ["tmp", "work"]

/-- The directories of the system. -/
def systemDirectories : List Location :=
  [["dev"], ["etc"], ["home"], ["proc"], ["root"], ["tmp"], ["usr"], ["usr", "bin"],
    ["usr", "lib"], ["usr", "local"], ["usr", "local", "bin"], ["usr", "share"], ["var"],
    workDirectory]

/-- The tree of the system, with an empty directory to work in. -/
def installedTree : FileTree :=
  ⟨systemDirectories.map (fun p => (p, .directory 0o755)) ++
    Utility.all.map (fun u => (["usr", "bin", u.name], .file 0o755 u.image.toUTF8)) ++
    [(["usr", "bin", "["], .file 0o755 Utility.test.image.toUTF8),
      (["usr", "bin", "dash"], .file 0o755 Utility.sh.image.toUTF8),
      (["bin"], .link "usr/bin"),
      (["dev", "null"], .file 0o666 ByteArray.empty)]⟩

/-- The system as the shell finds it. -/
def installedDisk : Disk := { tree := installedTree, directory := workDirectory }

/-- Puts a node at a path below the working directory, with the directories above it. -/
def withEntry (d : Disk) (path : String) (n : Node) : Disk :=
  let place := d.directory ++ Path.names path
  { d with tree := (d.tree.withAncestors place).insert place n }

end ScriptShell.Program
