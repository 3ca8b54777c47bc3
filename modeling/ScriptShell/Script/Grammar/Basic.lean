import ScriptShell.Script.Literal
import ScriptShell.Script.Reading
/-!
# The grammar

The rules of the grammar are readers of tokens. Rules that contain each other go through a
`Grammar`, whose readers are those of a level below.
-/

namespace ScriptShell.Script

/-- The readers of the rules that other rules contain. -/
structure Grammar where
  expression : Reading Expr
  factor : Reading Expr
  statement : Reading (List Stmt)
  /-- the pieces of a formatted text, inside a format or not -/
  formatParts : (raw inner : Bool) → List Char → Reading (List FormatPart × List Char)

/-- The grammar in which nothing fits. -/
def Grammar.none : Grammar :=
  ⟨Reading.refuse, Reading.refuse, Reading.refuse, fun _ _ _ => Reading.refuse⟩

end ScriptShell.Script
