/-!
# Byte strings

The contents of files and the output of programs are byte strings, which need not be text.
-/

namespace ScriptShell

/-- Byte strings are equal when their bytes are. -/
instance (priority := 2000) instDecidableEqBytes : DecidableEq ByteArray :=
  ByteArray.instDecidableEq

end ScriptShell
