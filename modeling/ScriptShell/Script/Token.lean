/-!
# Tokens of script code

Script code is Python. A token is a name, a number, a text between quotes, an operator, or one of
the marks that lines and their indentation leave: the end of a logical line, and the start and the
end of a block.
-/

namespace ScriptShell.Script

/-- Why a text is no script code, as far as an error tells. -/
inductive SourceFault
  /-- not in the grammar -/
  | invalid
  /-- blocks that do not line up -/
  | indentation
  /-- blocks that line up only for one width of a tab -/
  | tabs
deriving Repr, DecidableEq, Inhabited

/-- A number as it is written. -/
inductive Number
  | int (value : Nat)
  /-- `mantissa` times ten to the power of `exponent` -/
  | float (mantissa : Nat) (exponent : Int)
  | imaginary
deriving Repr, DecidableEq, Inhabited

/-- A text between quotes, not yet unescaped. -/
structure Quoted where
  bytes : Bool := false
  raw : Bool := false
  /-- whether braces hold expressions -/
  format : Bool := false
  body : List Char
deriving Repr, DecidableEq, Inhabited

inductive Token
  | name (id : String)
  | number (n : Number)
  | quoted (q : Quoted)
  | op (symbol : String)
  | newline
  | indent
  | dedent
  | endOfText
deriving Repr, DecidableEq, Inhabited

/-- A fault in the tokens. A `hard` one is found even by a reader that only looks for the end of
the text. -/
structure TokenFault where
  fault : SourceFault
  hard : Bool
deriving Repr, DecidableEq, Inhabited

/-- The tokens of a text, up to its end or to the first fault. -/
structure Tokens where
  tokens : Array Token
  fault : Option TokenFault := none
deriving Repr, Inhabited

/-- The words that are no names. -/
def keywords : List String :=
  ["False", "None", "True", "and", "as", "assert", "async", "await", "break", "class", "continue",
    "def", "del", "elif", "else", "except", "finally", "for", "from", "global", "if", "import",
    "in", "is", "lambda", "nonlocal", "not", "or", "pass", "raise", "return", "try", "while",
    "with", "yield"]

end ScriptShell.Script
