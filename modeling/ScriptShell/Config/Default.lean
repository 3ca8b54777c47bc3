/-!
# The configuration a user starts with

The text that is written when there is neither a configuration nor a template: it sets the prompt
and two aliases, and registers the commands that change and show the directory.
-/

namespace ScriptShell.Config

/-- The lines of the built-in configuration. -/
def defaultLines : List String :=
  ["# gil user configuration. This file is plain Python and runs once at startup.",
   "#",
   "#   prompt(text)              set the prompt string",
   "#   alias(name, expansion)    rewrite a leading word before running a program",
   "#   commander.register(name, handler)",
   "#                             add a command; handler receives a list of args",
   "",
   "import os",
   "",
   "prompt(\"gil> \")",
   "",
   "alias(\"ll\", \"ls -la\")",
   "alias(\"la\", \"ls -A\")",
   "",
   "",
   "def cd(args):",
   "    target = args[0] if args else os.path.expanduser(\"~\")",
   "    os.chdir(target)",
   "",
   "",
   "def pwd(args):",
   "    print(os.getcwd())",
   "",
   "",
   "commander.register(\"cd\", cd)",
   "commander.register(\"pwd\", pwd)"]

/-- The built-in configuration. -/
def defaultText : String := String.join (defaultLines.map (· ++ "\n"))

end ScriptShell.Config
