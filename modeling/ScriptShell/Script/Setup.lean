import ScriptShell.Script.Check
import ScriptShell.Script.Handlers
import ScriptShell.Script.Running
import ScriptShell.Script.System
/-!
# The start of an interpreter

What scripts find before anything has run: the names that are built in, the modules of the system,
and the shell's own namespace with its three functions and the table of handlers. The names that end
an interactive session are missing there, so that the shell's own command ends the shell.
-/

namespace ScriptShell.Script

/-! ## What is built in -/

/-- The names that would end an interactive session. -/
def sessionEnders : List String := ["exit", "quit"]

/-- The names that every script finds, with their values. -/
def builtinEntries : List (String × Value) :=
  [("__name__", .text "builtins")] ++
    (Catalogue.functions ++ sessionEnders).map (fun n => (n, Value.builtin n)) ++
    (Catalogue.classes ++ Catalogue.exceptionParents.map (·.1)).map (fun n => (n, Value.type n)) ++
    Catalogue.exceptionAliases.map (fun (n, t) => (n, Value.type t)) ++
    [("Ellipsis", .ellipsis), ("NotImplemented", .notImplemented),
      ("None", .none), ("True", .bool true), ("False", .bool false), ("__debug__", .bool true)]

/-- Entries of a dictionary under texts. -/
def textEntries (l : List (String × Value)) : List (Value × Value) :=
  l.map fun (n, v) => (.text n, v)

/-- The functions of a module, by their names. -/
def functionEntries (module : String) : List (String × Value) :=
  ((Exec.moduleFunctions.lookup module).getD []).map fun n => (n, .builtin (module ++ "." ++ n))

/-- The directories that are searched for modules before any are added. -/
def systemSearchPath : List String :=
  ["/usr/lib/python311.zip", "/usr/lib/python3.11", "/usr/lib/python3.11/lib-dynload",
    "/usr/local/lib/python3.11/dist-packages", "/usr/lib/python3/dist-packages"]

/-- A search path with directories at its end that were not on it. -/
def extendSearchPath (path : List String) (directories : List String) : List String :=
  directories.foldl (fun path d => if path.contains d then path else path ++ [d]) path

namespace Heap

/-- Puts a new module into the heap: the module and its dictionary. -/
def allocModule (h : Heap) (name : String) (entries : List (String × Value)) :
    Value × Ref × Heap :=
  let (r, h) := h.alloc (.dict (textEntries (("__name__", .text name) :: entries)))
  let (m, h) := h.alloc (.module name r)
  (.object m, r, h)

/-- Puts the module `sys` into the heap, with the directories that are searched for modules and a
table of modules that is still empty: the module, its dictionary and the table. -/
def allocSystem (h : Heap) (directories : List String) : Value × Ref × Ref × Heap :=
  let (path, h) := h.alloc (.list (directories.map .text))
  let (out, h) := h.alloc (.stream .out)
  let (err, h) := h.alloc (.stream .err)
  let (argv, h) := h.alloc (.list [.text ""])
  let (modules, h) := h.alloc (.dict [])
  let (m, system, h) := h.allocModule "sys"
    ([("path", .object path), ("modules", .object modules), ("argv", .object argv),
      ("stdout", .object out), ("stderr", .object err), ("platform", .text "linux"),
      ("byteorder", .text "little"), ("maxsize", .int 9223372036854775807),
      ("maxunicode", .int 1114111)] ++ functionEntries "sys")
  (m, system, modules, h)

end Heap

/-! ## The interpreter -/

/-- The interpreter of a shell that has not run any script yet. -/
def Interpreter.start (shell : ShellState) (machine : Program.Machine) (libraries : List String) :
    Interpreter :=
  let h : Heap := {}
  let (every, h) := h.alloc (.dict (textEntries builtinEntries))
  let (own, h) := h.alloc (.dict (textEntries
    (builtinEntries.filter fun e => !sessionEnders.contains e.1)))
  let (builtinModule, h) := h.alloc (.module "builtins" every)
  -- the namespace of the shell
  let (globals, h) := h.alloc (.dict (textEntries
    [("__name__", .text "__main__"), ("__builtins__", .object own),
      ("prompt", .host .prompt), ("alias", .host .alias)]))
  let (_, h) := h.handlers globals
  let (commander, _, h) := h.allocModule "commander" [("register", .host .register)]
  let h := h.put globals "commander" commander
  -- the modules of the system
  let (environment, h) := h.alloc (.dict (textEntries
    (machine.environment.map fun (n, v) => (n, .text v))))
  let (pathModule, _, h) := h.allocModule "posixpath"
    (("__file__", .text "/usr/lib/python3.11/posixpath.py") :: ("sep", .text "/") ::
      functionEntries "os.path")
  let (osModule, _, h) := h.allocModule "os"
    (("__file__", .text "/usr/lib/python3.11/os.py") :: ("path", pathModule) ::
      ("environ", .object environment) :: ("sep", .text "/") :: ("linesep", .text "\n") ::
      ("name", .text "posix") :: ("curdir", .text ".") :: ("pardir", .text "..") ::
      ("error", .type "OSError") :: functionEntries "os")
  let (systemModule, system, modules, h) :=
    h.allocSystem (extendSearchPath systemSearchPath libraries)
  let (main, _, h) := h.allocModule "__main__" []
  let (future, _, h) := h.allocModule "__future__" (futureFeatures.map fun n => (n, .none))
  let h := h.set modules (.dict (textEntries
    [("sys", systemModule), ("builtins", .object builtinModule), ("os", osModule),
      ("os.path", pathModule), ("posixpath", pathModule), ("__main__", main),
      ("__future__", future), ("commander", commander)]))
  { heap := h, shell, machine, builtins := own, modules, system, environment, globals }

/-- The machine as programs find it, with the environment that scripts see. -/
def Interpreter.currentMachine (i : Interpreter) : Program.Machine :=
  { i.machine with
    environment := ((i.heap.entries? i.environment).getD []).filterMap fun
      | (.text n, .text v) => some (n, v)
      | _ => none }

end ScriptShell.Script
