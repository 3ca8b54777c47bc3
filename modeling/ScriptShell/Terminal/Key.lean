/-!
# Keys

What the user types, as keys. A key that moves sends several characters, of which the first is an
escape; control characters that mean nothing here are no keys.
-/

namespace ScriptShell.Terminal

inductive Key
  | char (c : Char)
  | enter
  /-- a line break inside the line -/
  | lineBreak
  | interrupt
  | endOfInput
  | erase
  | lineStart
  | lineEnd
  | left
  | right
  | up
  | down
  | search
deriving Repr, DecidableEq, Inhabited

namespace Key

/-- The key that a control character is. -/
def control? (c : Char) : Option Key :=
  if c = '\r' then some .enter
  else if c = '\x03' then some .interrupt
  else if c = '\x04' then some .endOfInput
  else if c = '\x08' || c = '\x7f' then some .erase
  else if c = '\x01' then some .lineStart
  else if c = '\x05' then some .lineEnd
  else if c = '\x12' then some .search
  else none

/-- The key that moves, by the last of its characters. -/
def arrow? (c : Char) : Option Key :=
  if c = 'A' then some .up
  else if c = 'B' then some .down
  else if c = 'C' then some .right
  else if c = 'D' then some .left
  else if c = 'H' then some .lineStart
  else if c = 'F' then some .lineEnd
  else none

/-- The keys that were typed. -/
def ofChars : List Char → List Key
  | [] => []
  | '\x1b' :: '\r' :: rest => .lineBreak :: ofChars rest
  | '\x1b' :: '[' :: c :: rest | '\x1b' :: 'O' :: c :: rest => (arrow? c).toList ++ ofChars rest
  | '\x1b' :: _ :: rest => ofChars rest
  | c :: rest =>
    (if c.toNat < 32 || c = '\x7f' then (control? c).toList else [.char c]) ++ ofChars rest

/-- Whether a key changes the line or moves in it without asking the history first: such keys are
acted on together when they come together. -/
def isEdit : Key → Bool
  | .char _ | .lineBreak | .erase | .lineStart => true
  | _ => false

end Key

end ScriptShell.Terminal
