/-!
# The line that is edited

A line is text with a cursor in it. It may hold line breaks, so that it is several lines on the
screen; then the cursor moves within the lines and between them.
-/

namespace ScriptShell.Terminal

/-- A line: the characters before the cursor, the nearest first, and those after it. -/
structure Line where
  before : List Char := []
  after : List Char := []
deriving Repr, DecidableEq, Inhabited

namespace Line

/-- The line with this text and the cursor at its end. -/
def ofText (s : String) : Line := { before := s.toList.reverse }

def chars (l : Line) : List Char := l.before.reverse ++ l.after

def text (l : Line) : String := String.ofList l.chars

def isEmpty (l : Line) : Bool := l.before.isEmpty && l.after.isEmpty

/-! ## Editing -/

def insert (l : Line) (c : Char) : Line := { l with before := c :: l.before }

/-- Erases the character before the cursor. -/
def erase (l : Line) : Line := { l with before := l.before.tail }

/-- Deletes the character after the cursor. -/
def delete (l : Line) : Line := { l with after := l.after.tail }

/-! ## Moving -/

def left (l : Line) : Line :=
  match l.before with
  | [] => l
  | c :: rest => { before := rest, after := c :: l.after }

def right (l : Line) : Line :=
  match l.after with
  | [] => l
  | c :: rest => { before := c :: l.before, after := rest }

/-- The characters before the cursor on its line of the screen, the nearest first. -/
def column (l : Line) : List Char := l.before.takeWhile (· ≠ '\n')

/-- To the start of the line of the screen. -/
def toStart (l : Line) : Line :=
  { before := l.before.drop l.column.length, after := l.column.reverse ++ l.after }

/-- The characters from the cursor to the end of its line of the screen. -/
def restOfLine (l : Line) : List Char := l.after.takeWhile (· ≠ '\n')

/-- To the end of the line of the screen. -/
def toEnd (l : Line) : Line :=
  { before := l.restOfLine.reverse ++ l.before, after := l.after.drop l.restOfLine.length }

def isOnFirst (l : Line) : Bool := !l.before.contains '\n'

def isOnLast (l : Line) : Bool := !l.after.contains '\n'

/-- So many steps to the right on the line of the screen, or to its end. -/
def forward (n : Nat) (l : Line) : Line :=
  let step := l.restOfLine.take n
  { before := step.reverse ++ l.before, after := l.after.drop step.length }

/-- To the line of the screen above, in the same column or at its end. -/
def up (l : Line) : Line := if l.isOnFirst then l else l.toStart.left.toStart.forward l.column.length

/-- To the line of the screen below, in the same column or at its end. -/
def down (l : Line) : Line := if l.isOnLast then l else l.toEnd.right.forward l.column.length

/-- With the cursor at the end of the first line of the screen. -/
def atFirstEnd (s : String) : Line := toEnd { after := s.toList }

end Line

end ScriptShell.Terminal
