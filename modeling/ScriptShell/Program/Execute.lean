import ScriptShell.Program.Process
import ScriptShell.Program.Utility
/-!
# Executing a file

What the system does with a file it is asked to execute: a directory is refused, the image of a
utility runs as it is, and a text that begins with `#!` names the program that runs it, with one
argument at most. Anything else is no program.
-/

namespace ScriptShell.Program

/-- What a file is when it is executed. -/
inductive Image
  | utility (u : Utility)
  /-- a text for another program, with the argument its first line gives -/
  | interpreted (program : String) (arg : Option String)
deriving DecidableEq

/-- How many bytes of a file the system looks at. -/
def imageHeader : Nat := 256

def isBlank (c : Char) : Bool := c = ' ' || c = '\t'

/-- The program and the argument that the first line of a text names. -/
def interpreterOf? (text : List Char) : Option Image :=
  match text with
  | '#' :: '!' :: rest =>
    let line := (rest.take imageHeader).takeWhile (· != '\n')
    let line := (line.dropWhile isBlank).reverse.dropWhile isBlank |>.reverse
    let program := line.takeWhile (fun c => !isBlank c)
    let arg := (line.dropWhile (fun c => !isBlank c)).dropWhile isBlank
    if program.isEmpty then none
    else some (.interpreted (String.ofList program)
      (if arg.isEmpty then none else some (String.ofList arg)))
  | _ => none

/-- What a file's content is when it is executed. -/
def Image.ofContent? (content : ByteArray) : Option Image :=
  match String.fromUTF8? content with
  | none => none
  | some text =>
    match Utility.ofImage? text with
    | some u => some (.utility u)
    | none => interpreterOf? text.toList

/-- What executing `path` means: the utility that runs, and its arguments. A text may name another
text as its program, at most `depth` times. -/
def resolveImage (d : Disk) : Nat → String → List String → Except Errno (Utility × List String)
  | depth, path, argv =>
    match d.node path with
    | .error (.system number) => .error number
    | .error _ => .error .noEntry
    | .ok (.file mode content) =>
      if mode &&& 0o111 = 0 then .error .accessDenied
      else
        match Image.ofContent? content with
        | none => .error .execFormat
        | some (.utility u) => .ok (u, argv)
        | some (.interpreted program arg) =>
          match depth with
          | 0 => .error .tooManyLinks
          | depth + 1 =>
            resolveImage d depth program (program :: arg.toList ++ path :: argv.tail)
    | .ok _ => .error .accessDenied

/-- How many texts in a row may name another text as their program. -/
def interpreterDepth : Nat := 5

end ScriptShell.Program
