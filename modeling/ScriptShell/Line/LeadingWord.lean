/-!
# The leading word of a line

An alias replaces the leading word of the raw line: the text after the leading spaces, up to the
first space outside quotes. What follows keeps that space, so an expansion can be put in front of
it as it stands.
-/

namespace ScriptShell.Line

/-- The part of a text that starts at its first space outside quotes; `quoted` says whether the
text starts between quotes. -/
def fromUnquotedSpace (quoted : Bool) : List Char → List Char
  | [] => []
  | c :: rest =>
    if c = '"' then fromUnquotedSpace (!quoted) rest
    else if c = ' ' && !quoted then c :: rest
    else fromUnquotedSpace quoted rest

/-- What follows the leading word, as characters. -/
def restAfterWord (line : List Char) : List Char :=
  fromUnquotedSpace false (line.dropWhile (· == ' '))

/-- What follows the leading word of `line`: empty, or beginning with the space that ends it. -/
def afterLeadingWord (line : String) : String :=
  String.ofList (restAfterWord line.toList)

/-- The line with `expansion` in the place of its leading word. The result is not looked at
again, so an expansion that names itself is replaced once. -/
def replaceLeadingWord (line expansion : String) : String :=
  expansion ++ afterLeadingWord line

end ScriptShell.Line
