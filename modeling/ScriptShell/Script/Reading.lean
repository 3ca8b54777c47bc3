import ScriptShell.Script.Token
/-!
# Reading tokens

A reader of tokens stands at a place among them. It remembers the furthest token it looked at: when
nothing fits, that token tells what kind of fault it is.
-/

namespace ScriptShell.Script

/-- Where a reader stands. -/
structure Cursor where
  tokens : Tokens
  position : Nat := 0
  furthest : Nat := 0
  /-- whether a line was read that would choose between patterns if it ended in a colon -/
  lacksColon : Bool := false
deriving Inhabited

/-- Why a reader does not go on. -/
inductive Refusal
  /-- what stands here does not fit -/
  | unexpected
  /-- a fault that nothing else can fit either -/
  | fault (f : SourceFault)
deriving Repr, DecidableEq, Inhabited

/-- A reader of tokens. -/
abbrev Reading := ExceptT Refusal (StateM Cursor)

namespace Reading

/-- What stands here does not fit. -/
def refuse {α : Type} : Reading α := throw .unexpected

/-- The token here. A fault in the tokens is met when the reader comes to it. -/
def peek : Reading Token := do
  let p ← get
  set { p with furthest := max p.furthest p.position }
  match p.tokens.tokens[p.position]? with
  | some t => pure t
  | none => throw (.fault ((p.tokens.fault.map (·.fault)).getD .invalid))

def advance : Reading Unit := modify fun p => { p with position := p.position + 1 }

/-- How many steps a loop over the tokens takes at most. -/
def limit : Reading Nat := do
  let p ← get
  pure (p.tokens.tokens.size + 1)

/-- Whether this operator stands here. -/
def atOp (symbol : String) : Reading Bool := do
  match ← peek with
  | .op s => pure (s == symbol)
  | _ => pure false

/-- Passes over an operator if it stands here. -/
def acceptOp (symbol : String) : Reading Bool := do
  if ← atOp symbol then
    advance
    pure true
  else pure false

/-- Passes over an operator, which must stand here. -/
def expectOp (symbol : String) : Reading Unit := do
  unless ← acceptOp symbol do refuse

/-- Whether this word stands here. -/
def atWord (word : String) : Reading Bool := do
  match ← peek with
  | .name s => pure (s == word)
  | _ => pure false

def acceptWord (word : String) : Reading Bool := do
  if ← atWord word then
    advance
    pure true
  else pure false

def expectWord (word : String) : Reading Unit := do
  unless ← acceptWord word do refuse

/-- Passes over a token of a kind that has no text. -/
def acceptMark (mark : Token) : Reading Bool := do
  if (← peek) == mark then
    advance
    pure true
  else pure false

def expectMark (mark : Token) : Reading Unit := do
  unless ← acceptMark mark do refuse

/-- The name here, if one stands here that is no keyword. -/
def acceptName : Reading (Option String) := do
  match ← peek with
  | .name s =>
    if keywords.contains s then pure none
    else
      advance
      pure (some s)
  | _ => pure none

def expectName : Reading String := do
  match ← acceptName with
  | some s => pure s
  | none => refuse

/-- Reads on from a first result as long as there is more. -/
def extend {α : Type} (step : α → Reading (Option α)) : Nat → α → Reading α
  | 0, a => pure a
  | n + 1, a => do
    match ← step a with
    | some a => extend step n a
    | none => pure a

/-- Reads as many items as there are. -/
def many {α : Type} (item : Reading (Option α)) : Reading (List α) := do
  let l ← extend (fun l => do pure ((← item).map (· :: l))) (← limit) []
  pure l.reverse

/-- Reads items between commas, one at least. The second result says whether a comma ends them;
`ends` tells where no further item can start. -/
def commaList {α : Type} (item : Reading α) (ends : Reading Bool) : Reading (List α × Bool) := do
  let first ← item
  let (l, trailing) ← extend (fun (l, _) => do
    if ← acceptOp "," then
      if ← ends then
        pure (some (l, true))
      else
        let next ← item
        pure (some (next :: l, false))
    else pure none) (← limit) ([first], false)
  pure (l.reverse, trailing)

/-- Reads the same tokens again in another way if they do not fit the first. -/
def orElse {α : Type} (first second : Reading α) : Reading α := do
  let p ← get
  try first catch
    | .unexpected => do
      modify fun q => { p with furthest := q.furthest, lacksColon := q.lacksColon }
      second
    | other => throw other

/-- Reads other tokens, which must fit as a whole. -/
def among {α : Type} (ts : Tokens) (r : Reading α) : Reading α := do
  let p ← get
  set ({ tokens := ts } : Cursor)
  let a ← try r catch _ => throw (.fault .invalid)
  set p
  pure a

end Reading

end ScriptShell.Script
