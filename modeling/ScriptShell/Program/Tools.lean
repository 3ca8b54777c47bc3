import ScriptShell.Program.Format
import ScriptShell.Program.Process
import ScriptShell.Program.Utility
/-!
# What the utilities do

The behaviour of each installed program but the command interpreter, which has modules of its own.
-/

namespace ScriptShell.Program.Tools

/-- Ends with an exit code. -/
def exit (code : Nat) (p : Process) : Ending × Process := (.exited code, p)

/-- The complaint of a utility about a path, as the C library words it. -/
def fileComplaint (utility path : String) (why : FileError) : String :=
  let text := match why with
    | .system number => number.libraryText
    | other => other.message
  utility ++ ": " ++ path ++ ": " ++ text ++ "\n"

/-- Writes files one after another; a dash, or no file at all, is the input. -/
def cat (files : List String) (p : Process) : Ending × Process :=
  let (code, p) := (if files.isEmpty then ["-"] else files).foldl
    (fun (code, p) path =>
      if path = "-" then (code, { p.writeTo p.out p.input with input := ByteArray.empty })
      else
        match p.disk.readBytes path with
        | .ok bytes => (code, p.writeTo p.out bytes)
        | .error why => (1, p.complain (fileComplaint "cat" path why))) (0, p)
  exit code p

/-- The location of a directory. -/
def directoryAt? (d : Disk) (path : String) : Option Location :=
  match d.locate path with
  | .ok (.found place (.directory _)) => some place
  | _ => none

/-- Lists directories and files, one name a line. -/
def ls (args : List String) (p : Process) : Ending × Process :=
  let options := args.filter (fun a => a.startsWith "-" && a != "-")
  let paths := args.filter (fun a => !(a.startsWith "-" && a != "-"))
  let has := fun (c : Char) => options.any (fun o => o.toList.contains c)
  let shown := fun (place : Location) =>
    let names := p.disk.tree.childNames place
    let names := if has 'a' || has 'A' then names else names.filter (!·.startsWith ".")
    if has 'a' then [".", ".."] ++ names else names
  let paths := if paths.isEmpty then ["."] else paths
  let missing := paths.filter (fun path => !p.disk.pathExists path)
  let files := paths.filter (fun path => p.disk.pathExists path && !p.disk.isDirectory path)
  let directories := paths.filter p.disk.isDirectory
  let p := missing.foldl (fun p path =>
    p.complain ("ls: cannot access '" ++ path ++ "': No such file or directory\n")) p
  let p := files.foldl (fun p path => p.print (path ++ "\n")) p
  let p := directories.foldl (fun p path =>
    match directoryAt? p.disk path with
    | none => p
    | some place =>
      let p := if paths.length > 1 then p.print (path ++ ":\n") else p
      (shown place).foldl (fun p name => p.print (name ++ "\n")) p) p
  exit (if missing.isEmpty then 0 else 2) p

/-- Writes the environment. -/
def env (p : Process) : Ending × Process :=
  exit 0 (p.environment.foldl (fun p (name, value) => p.print (name ++ "=" ++ value ++ "\n")) p)

def mkdir (args : List String) (p : Process) : Ending × Process :=
  let parents := args.contains "-p"
  let (code, p) := (args.filter (!·.startsWith "-")).foldl
    (fun (code, p) path =>
      if parents then
        match p.disk.makeDirectories path with
        | (.ok (), d) => (code, { p with disk := d })
        | (.error why, d) =>
          (1, Process.complain { p with disk := d }
            (fileComplaint "mkdir" ("cannot create directory '" ++ path ++ "'") why))
      else
        match p.disk.makeDirectory path with
        | .ok d => (code, { p with disk := d })
        | .error why =>
          (1, p.complain (fileComplaint "mkdir" ("cannot create directory '" ++ path ++ "'") why)))
    (0, p)
  exit code p

def touch (args : List String) (p : Process) : Ending × Process :=
  exit 0 (args.foldl (fun p path =>
    if p.disk.pathExists path then p
    else
      match p.disk.writeText path "" with
      | .ok d => { p with disk := d }
      | .error _ => p) p)

def rm (args : List String) (p : Process) : Ending × Process :=
  let (code, p) := (args.filter (!·.startsWith "-")).foldl
    (fun (code, p) path =>
      match p.disk.locate path false with
      | .ok (.found place (.file ..)) | .ok (.found place (.link _)) =>
        (code, { p with disk.tree := p.disk.tree.erase place })
      | .ok (.found ..) =>
        (1, p.complain ("rm: cannot remove '" ++ path ++ "': Is a directory\n"))
      | _ =>
        if args.contains "-f" then (code, p)
        else (1, p.complain ("rm: cannot remove '" ++ path ++ "': No such file or directory\n")))
    (0, p)
  exit code p

/-- The lines of a text, each with its line end if it has one. -/
def lines : List UInt8 → List (List UInt8)
  | [] => []
  | b :: rest =>
    if b = 10 then [b] :: lines rest
    else
      match lines rest with
      | [] => [[b]]
      | l :: more => (b :: l) :: more

/-- The first lines of the input. -/
def head (args : List String) (p : Process) : Ending × Process :=
  let count := match args with
    | ["-n", n] => (n.toNat?).getD 10
    | [a] => if a.startsWith "-n" then ((a.drop 2).toString.toNat?).getD 10
      else ((a.drop 1).toString.toNat?).getD 10
    | _ => 10
  exit 0 (p.writeTo p.out ⟨((lines p.input.toList).take count).flatten.toArray⟩)

/-- Counts of the input: lines, words or bytes. -/
def wc (args : List String) (p : Process) : Ending × Process :=
  let bytes := p.input.toList
  let count := if args.contains "-c" then bytes.length
    else if args.contains "-l" then bytes.count 10
    else (bytes.splitOnP (fun b => b = 32 || b = 10 || b = 9)).countP (!·.isEmpty)
  exit 0 (p.print (toString count ++ "\n"))

/-- The numbers from one to another, one a line. -/
def seq (args : List String) (p : Process) : Ending × Process :=
  let numbers := args.filterMap (·.toNat?)
  let (first, last) := match numbers with
    | [n] => (1, n)
    | [a, b] => (a, b)
    | _ => (1, 0)
  exit 0 ((List.range (last + 1 - first)).foldl
    (fun p i => p.print (toString (first + i) ++ "\n")) p)

/-- Whether a conditional expression holds; nothing if it is not one. -/
def condition (d : Disk) : List String → Option Bool
  | [] => some false
  | [a] => some (!a.isEmpty)
  | ["!", a] => some a.isEmpty
  | ["-n", a] => some (!a.isEmpty)
  | ["-z", a] => some a.isEmpty
  | ["-e", a] => some (d.pathExists a)
  | ["-f", a] => some (d.isFile a)
  | ["-d", a] => some (d.isDirectory a)
  | ["-x", a] => some (d.isExecutable a)
  | ["-t", _] => some false
  | [a, "=", b] => some (a == b)
  | [a, "!=", b] => some (a != b)
  | [a, "-eq", b] => some (Format.numberOf a == Format.numberOf b)
  | [a, "-ne", b] => some (Format.numberOf a != Format.numberOf b)
  | [a, "-lt", b] => some (Format.numberOf a < Format.numberOf b)
  | [a, "-le", b] => some (Format.numberOf a ≤ Format.numberOf b)
  | [a, "-gt", b] => some (Format.numberOf a > Format.numberOf b)
  | [a, "-ge", b] => some (Format.numberOf a ≥ Format.numberOf b)
  | "!" :: rest => (condition d rest).map (!·)
  | _ => none

/-- The exit code of a conditional expression. -/
def test (args : List String) (p : Process) : Ending × Process :=
  match condition p.disk args with
  | some true => exit 0 p
  | some false => exit 1 p
  | none => exit 2 p

/-- What the installed `echo` writes: it leaves escapes alone. -/
def echo (args : List String) (p : Process) : Ending × Process :=
  match args with
  | "-n" :: rest => exit 0 (p.print (" ".intercalate rest))
  | "-e" :: rest => exit 0 (p.writeTo p.out (Format.echo rest))
  | _ => exit 0 (p.print (" ".intercalate args ++ "\n"))

/-- The behaviour of a utility; the command interpreter's is `sh`. -/
def behaviour (sh : Behaviour) (u : Utility) : Behaviour := fun argv p =>
  let args := argv.tail
  match u with
  | .sh => sh argv p
  | .true | .sleep | .kill => exit 0 p
  | .false => exit 1 p
  | .echo => echo args p
  | .printf =>
    match args with
    | [] => exit 1 (p.complain "printf: missing operand\n")
    | format :: rest => exit 0 (p.writeTo p.out (Format.printf format rest))
  | .cat => cat args p
  | .ls => ls args p
  | .env => env p
  | .pwd => exit 0 (p.print (p.disk.directoryPath ++ "\n"))
  | .test => test (if argv.head? = some "[" then args.dropLast else args) p
  | .mkdir => mkdir args p
  | .touch => touch args p
  | .rm => rm args p
  | .wc => wc args p
  | .head => head args p
  | .seq => seq args p

end ScriptShell.Program.Tools
