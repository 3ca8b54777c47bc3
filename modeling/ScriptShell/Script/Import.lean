import ScriptShell.Script.Builtin
import ScriptShell.Script.Name
/-!
# Modules

A module that is loaded is in the table of modules. One that is not is looked for in the directories
of the search path, first come first served: as a package, a directory with a file of its own, or as
a file. Its code is run once, with names of its own; if it fails, the module is not loaded.
-/

namespace ScriptShell.Script

/-- Where the code of a module is. -/
inductive ModulePlace
  | file (path : String)
  /-- a directory; without a file of its own it only holds other modules -/
  | package (directory : String) (file : Option String)
deriving Repr, DecidableEq, Inhabited

namespace ModulePlace

/-- The name of the file of a package. -/
def packageFile : String := "__init__.py"

/-- The place of a module in a directory. -/
def find? (d : Disk) (directory name : String) : Option ModulePlace :=
  let base := PathText.join directory [name]
  let own := PathText.join base [packageFile]
  let file := base ++ ".py"
  if d.isFile own then some (.package base (some own))
  else if d.isFile file then some (.file file)
  else if d.isDirectory base then some (.package base none)
  else none

/-- Whether there is code. -/
def hasCode : ModulePlace → Bool
  | .package _ none => false
  | _ => true

/-- The place of a module in the first directory that has code for it, else in the first that has
anything. -/
def findFirst? (d : Disk) (directories : List String) (name : String) : Option ModulePlace :=
  let found := directories.filterMap (find? d · name)
  (found.find? hasCode).orElse fun _ => found.head?

end ModulePlace

namespace Exec

/-- The loaded module with a name. -/
def loadedModule? (name : String) : Exec (Option Value) := do
  let i ← get
  pure (i.heap.lookup? i.modules name)

/-- A new module, in the table of modules. -/
def addModule (name : String) (contents : List (String × Value)) : Exec (Value × Ref) := do
  let i ← get
  let (r, h) := i.heap.alloc (.dict (contents.map fun (n, v) => (.text n, v)))
  let (m, h) := h.alloc (.module name r)
  setHeap (h.put i.modules name (.object m))
  pure (.object m, r)

/-- The complaint about a module that is not found. -/
def noModule {α : Type} (name extra : String) : Exec α :=
  raise "ModuleNotFoundError" ("No module named '" ++ name ++ "'" ++ extra)

/-- Where a directory of the search path is. -/
def anchored (directory : String) : Exec (Option String) := do
  let i ← get
  match i.searched.lookup directory with
  | some place => pure place
  | none => do
    let d := i.machine.disk
    let path := if directory.isEmpty then d.directoryPath
      else PathText.join d.directoryPath [directory]
    let place := if d.isDirectory path then some path else none
    unless directory.isEmpty do
      set { i with searched := (directory, place) :: i.searched }
    pure place

/-- The texts in a list. -/
def textsOf (h : Heap) (v : Value) : List String :=
  let items := match h.object? v with
    | some (.list l) | some (.tuple l) => l
    | _ => []
  items.filterMap fun
    | .text s => some s
    | _ => none

/-- The text of the code of a module. -/
def moduleText (path : String) : Exec String := do
  match (← get).machine.disk.readBytes path with
  | .error e => raiseSystem e path
  | .ok bytes =>
    match String.fromUTF8? bytes with
    | some s => pure (if s.startsWith "\ufeff" then (s.drop 1).toString else s)
    | none => raise "SyntaxError" "(unicode error)"

/-- Loads a module from its place. -/
def loadModule (ev : Evaluator) (name : String) (place : ModulePlace) : Exec Value := do
  let i ← get
  let (file, inner, package) := match place with
    | .file path => (some path, none, ".".intercalate (name.splitOn ".").dropLast)
    | .package directory file => (file, some directory, name)
  let path ← match inner with
    | some directory => do pure [("__path__", ← list [.text directory])]
    | none => pure []
  let builtins := (← loadedModule? "builtins").bind i.heap.namespace?
  let (m, contents) ← addModule name
    ([("__name__", .text name), ("__doc__", .none), ("__package__", .text package)] ++
      (file.map fun f => ("__file__", Value.text f)).toList ++ path ++
      (builtins.map fun r => ("__builtins__", Value.object r)).toList)
  match file with
  | none => pure m
  | some file => do
    tryCatch (do
        let text ← moduleText file
        runText ev { globals := contents } text) fun e => do
      setHeap ((← heap).remove (← get).modules name)
      throw e
    pure ((← loadedModule? name).getD m)

/-- A module by its name and the module it belongs to, if it belongs to one. -/
def findModule (ev : Evaluator) (parent : Option (String × Value)) (name : String) :
    Exec Value := do
  let full := match parent with
    | some (p, _) => p ++ "." ++ name
    | none => name
  match ← loadedModule? full with
  | some .none =>
    raise "ModuleNotFoundError" ("import of " ++ full ++ " halted; None in sys.modules")
  | some m => pure m
  | none => do
    let i ← get
    let directories ← match parent with
      | none => do
        let path := textsOf i.heap ((i.heap.lookup? i.system "path").getD .none)
        pure (← path.filterMapM anchored)
      | some (p, m) =>
        match (i.heap.namespace? m).bind (i.heap.lookup? · "__path__") with
        | some path => pure (textsOf i.heap path)
        | none => noModule full ("; '" ++ p ++ "' is not a package")
    if parent.isNone && Catalogue.modules.contains name then
      pure (← addModule name [("__name__", .text name)]).1
    else
      match ModulePlace.findFirst? i.machine.disk directories name with
      | some place => loadModule ev full place
      | none => noModule full ""

/-- The module with these parts of a name, those before it loaded first. Each is an attribute of the
one it belongs to. -/
def importParts (ev : Evaluator) (parent : Option (String × Value)) : List String → Exec Value
  | [] => pure ((parent.map (·.2)).getD .none)
  | name :: rest => do
    let wasLoaded := (← loadedModule? (match parent with
      | some (p, _) => p ++ "." ++ name
      | none => name)).isSome
    let m ← findModule ev parent name
    match parent with
    | some (_, p) => unless wasLoaded do setAttribute p name m
    | none => pure ()
    importParts ev (some (match parent with
      | some (p, _) => p ++ "." ++ name
      | none => name, m)) rest

/-! ## What the statements bind -/

/-- The parts of the name of a module that is named from where the code stands, so many packages
up. -/
def relativeParts (env : Env) (level : Nat) (module : List String) : Exec (List String) := do
  if level = 0 then pure module
  else
    let h ← heap
    let package := match h.lookup? env.globals "__package__" with
      | some (.text s) => s
      | _ => ""
    if package.isEmpty then
      raise "ImportError" "attempted relative import with no known parent package"
    let parts := package.splitOn "."
    if parts.length < level then
      raise "ImportError" "attempted relative import beyond top-level package"
    pure (parts.take (parts.length - (level - 1)) ++ module)

/-- A name out of a module: an attribute, or a module that belongs to it. -/
def importedName (ev : Evaluator) (parts : List String) (m : Value) (name : String) :
    Exec Value := do
  match ← attributeOf? ev m name with
  | some v => pure v
  | none => do
    let h ← heap
    let contents := h.namespace? m
    let get? := fun (n : String) => contents.bind (h.lookup? · n)
    let refuse : Exec Value := do
      let label := match get? "__name__" with
        | some (.text s) => shownText s
        | _ => "'" ++ ".".intercalate parts ++ "'"
      let place := match get? "__file__" with
        | some (.text s) => s
        | _ => "unknown location"
      raise "ImportError" ("cannot import name '" ++ name ++ "' from " ++ label ++ " (" ++ place ++ ")")
    if (get? "__path__").isNone then refuse
    else
      tryCatch (ev.importModule (parts ++ [name])) fun
        | .raised e t => do
          let h ← heap
          let expected := "No module named '" ++ ".".intercalate (parts ++ [name]) ++ "'"
          if h.typeName e = "ModuleNotFoundError" && h.plain e = expected then refuse
          else throw (.raised e t)
        | other => throw other

/-- The names that a module gives to those who ask for all. -/
def publicNames (m : Value) : Exec (List String) := do
  let h ← heap
  match h.namespace? m with
  | none => pure []
  | some r =>
    match h.lookup? r "__all__" with
    | some all => pure (textsOf h all)
    | none =>
      pure (((h.entries? r).getD []).filterMap fun
        | (.text s, _) => if s.startsWith "_" then none else some s
        | _ => none)

/-- Imports modules and binds their names. -/
def importNames (ev : Evaluator) (env : Env) (names : List ImportName) : Exec Unit := do
  for n in names do
    let m ← ev.importModule n.name
    match n.newName with
    | some a => bindName env a m
    | none => do
      let top ← ev.importModule (n.name.take 1)
      bindName env (n.name.headD "") top

/-- Imports a module and binds names out of it. -/
def importFromModule (ev : Evaluator) (env : Env) (level : Nat) (module : List String)
    (names : Option (List ImportName)) : Exec Unit := do
  let parts ← relativeParts env level module
  let m ← ev.importModule parts
  match names with
  | some names =>
    for n in names do
      let id := n.name.headD ""
      bindName env (n.newName.getD id) (← importedName ev parts m id)
  | none =>
    for n in ← publicNames m do
      bindName env n (← importedName ev parts m n)

end Exec

end ScriptShell.Script
