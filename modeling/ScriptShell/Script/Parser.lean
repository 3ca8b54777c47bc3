import ScriptShell.Script.Grammar.Format
import ScriptShell.Script.Grammar.Statement
/-!
# From tokens to syntax

The grammar of a text is the level of the grammar that is deep enough for it. Main entries:
`Script.parse` for statements and `Script.parseExpression` for a single expression.
-/

namespace ScriptShell.Script

namespace Grammar

/-- The grammar whose rules contain those of another. -/
def above (g : Grammar) : Grammar :=
  { expression := g.conditional
    factor := g.signed
    statement := g.anyStatement
    formatParts := g.pieces }

/-- The grammar of so many levels. -/
def ofDepth : Nat → Grammar
  | 0 => none
  | n + 1 => (ofDepth n).above

end Grammar

open Reading in
/-- A whole text: statements up to its end. -/
def wholeText (g : Grammar) : Reading (List Stmt) := do
  let l ← many (do
    if (← peek) == .endOfText then pure none else some <$> g.statement)
  pure l.flatten

open Reading in
/-- A single expression, with nothing after it. -/
def wholeExpression (g : Grammar) : Reading Expr := do
  let e ← match ← commaList g.expression Grammar.endsExpressions with
    | ([e], false) => pure e
    | (l, _) => pure (.tuple l)
  let _ ← many (do if ← acceptMark .newline then pure (some ()) else pure none)
  expectMark .endOfText
  pure e

/-- The fault that a refusal tells of. A block that is missing is a fault of the blocks, unless the
tokens after it have a hard fault; the start or the end of a block in a wrong place is one too. A
colon that may be missing counts more than any fault of the blocks. -/
def Refusal.faultAt (r : Refusal) (c : Cursor) : SourceFault :=
  if c.lacksColon then .invalid else
  match r with
  | .fault .indentation =>
    if (c.tokens.fault.map (·.hard)).getD false then .invalid else .indentation
  | .fault f => f
  | .unexpected =>
    match c.tokens.tokens[c.furthest]? with
    | some .indent | some .dedent => .indentation
    | _ => .invalid

/-- How deep the grammar is nested at most in a text with so many tokens. -/
def grammarDepth (ts : Tokens) (text : String) : Nat := ts.tokens.size + text.length + 3

/-- Reads a text as a whole. -/
def readText {α : Type} (rule : Grammar → Reading α) (text : String) : Except SourceFault α :=
  let ts := Tokens.ofText text
  let depth := grammarDepth ts text
  match (rule (Grammar.ofDepth depth)).run { tokens := ts } with
  | (.ok a, _) => .ok a
  | (.error r, c) => .error (r.faultAt c)

/-- The statements of a text. -/
def parse (text : String) : Except SourceFault (List Stmt) := readText wholeText text

/-- The expression that a text is. -/
def parseExpression (text : String) : Except SourceFault Expr := readText wholeExpression text

end ScriptShell.Script
