/-!
# The utilities of the system

The programs that are installed on the system and that lines, scripts and handlers run. A utility
is a file whose content is its image: a magic number and the utility's name.
-/

namespace ScriptShell.Program

/-- An installed program that the model can run. -/
inductive Utility
  | sh | env | echo | printf | true | false | cat | ls | sleep | pwd | kill | test | mkdir | touch
  | rm | wc | head | seq
deriving Repr, DecidableEq, Inhabited

namespace Utility

def all : List Utility :=
  [.sh, .env, .echo, .printf, .true, .false, .cat, .ls, .sleep, .pwd, .kill, .test, .mkdir, .touch,
    .rm, .wc, .head, .seq]

/-- The name a utility is installed under. -/
def name : Utility → String
  | .sh => "sh"
  | .env => "env"
  | .echo => "echo"
  | .printf => "printf"
  | .true => "true"
  | .false => "false"
  | .cat => "cat"
  | .ls => "ls"
  | .sleep => "sleep"
  | .pwd => "pwd"
  | .kill => "kill"
  | .test => "test"
  | .mkdir => "mkdir"
  | .touch => "touch"
  | .rm => "rm"
  | .wc => "wc"
  | .head => "head"
  | .seq => "seq"

/-- The bytes every image starts with. -/
def magic : List Char := ['\x7f', 'E', 'L', 'F']

/-- The text of a utility's file. -/
def image (u : Utility) : String := String.ofList (magic ++ u.name.toList)

/-- The utility that a text is the image of. -/
def ofImage? (text : String) : Option Utility := all.find? (fun u => u.image == text)

end Utility

end ScriptShell.Program
