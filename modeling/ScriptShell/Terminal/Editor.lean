import ScriptShell.History
import ScriptShell.Loop
import ScriptShell.Terminal.Key
import ScriptShell.Terminal.Line
/-!
# The line editor

Keys change the line until it is submitted. The keys that move up and down walk through the history
when there is no line to move to: through all of it, or, if the cursor is at the end of a line that
has text, through the entries that start so. A search goes to the newest entry that holds a pattern,
and from there to older ones.
-/

namespace ScriptShell.Terminal

/-- The entries that a walk goes through. -/
inductive Walk
  /-- all, and at the end the line as it was -/
  | all (original : Line)
  | startingWith (text : String)
deriving Repr, DecidableEq, Inhabited

/-- What the editor is doing; a walk and a search may be at an entry. -/
inductive Mode
  | typing
  | walking (walk : Walk) (place : Option Nat)
  | searching (pattern : String) (place : Option Nat)
deriving Repr, DecidableEq, Inhabited

structure Editor where
  line : Line := {}
  mode : Mode := .typing
  history : History := {}
deriving Repr, DecidableEq, Inhabited

/-! ## Finding entries -/

/-- Whether a text holds a pattern. -/
def holds (pattern : List Char) : List Char → Bool
  | [] => pattern.isEmpty
  | c :: rest => pattern.isPrefixOf (c :: rest) || holds pattern rest

/-- Whether a walk goes through an entry. -/
def Walk.visits : Walk → String → Bool
  | .all _, _ => true
  | .startingWith s, entry => entry.startsWith s

namespace Entries

/-- The entry at a place. -/
def entryAt? (h : History) (place : Option Nat) : Option String := place.bind (h.entries[·]?)

/-- The places of the entries that are wanted, and differ from the one at `place`. -/
def candidates (h : History) (wanted : String → Bool) (place : Option Nat) : List Nat :=
  (h.entries.zipIdx.filter fun (e, _) => wanted e && some e != entryAt? h place).map (·.2)

/-- The nearest older place that is wanted; without one, the place stays. -/
def older (h : History) (wanted : String → Bool) (place : Option Nat) : Option Nat :=
  let before := (candidates h wanted place).filter fun i =>
    match place with
    | some p => decide (i < p)
    | none => true
  before.getLast?.or place

/-- The nearest newer place that is wanted, if there is one. -/
def newer (h : History) (wanted : String → Bool) (place : Option Nat) : Option Nat :=
  place.bind fun p => (candidates h wanted place).find? fun i => decide (p < i)

end Entries

namespace Editor

/-! ## Walking -/

/-- The walk that starts at a line. -/
def walkFrom (l : Line) : Walk :=
  if l.isEmpty || !l.after.isEmpty then .all l else .startingWith l.text

/-- The walk the editor is on, or a new one. -/
def currentWalk (e : Editor) : Walk × Option Nat :=
  match e.mode with
  | .walking w place => (w, place)
  | _ => (walkFrom e.line, none)

/-- The text that a walk shows. -/
def shownBy (e : Editor) (w : Walk) (place : Option Nat) : String :=
  match Entries.entryAt? e.history place, w with
  | some entry, _ => entry
  | none, .all original => original.text
  | none, .startingWith s => s

/-- To an older entry. -/
def previous (e : Editor) : Editor :=
  let (w, place) := e.currentWalk
  let place := Entries.older e.history w.visits place
  { e with mode := .walking w place, line := Line.atFirstEnd (e.shownBy w place) }

/-- To a newer entry; past the newest the walk is over. -/
def next (e : Editor) : Editor :=
  let (w, place) := e.currentWalk
  let place := Entries.newer e.history w.visits place
  { e with
    mode := if place.isSome then .walking w place else .typing
    line := Line.ofText (e.shownBy w place) }

/-! ## Searching -/

/-- The newest entry that holds a pattern. -/
def found (e : Editor) (pattern : String) : Option Nat :=
  Entries.older e.history (fun s => holds pattern.toList s.toList) none

/-- A key in a search: it changes the pattern or ends the search. -/
def searchKey (e : Editor) (k : Key) : Editor :=
  match e.mode, k with
  | .searching pattern _, .char c =>
    let pattern := pattern.push c
    { e with mode := .searching pattern (e.found pattern) }
  | .searching pattern _, .erase =>
    let pattern := String.ofList pattern.toList.dropLast
    { e with mode := .searching pattern (e.found pattern) }
  | .searching .., _ => { e with mode := .typing }
  | _, _ => e

/-- Ends a search with the entry it is at. -/
def takeFound (e : Editor) (place : Option Nat) : Editor :=
  { e with
    mode := .typing
    line := (Entries.entryAt? e.history place).elim e.line Line.ofText }

/-! ## Acting on keys -/

/-- A key that changes the line. -/
def editKey (l : Line) : Key → Line
  | .char c => l.insert c
  | .lineBreak => l.insert '\n'
  | .erase => l.erase
  | .lineStart => l.toStart
  | _ => l

/-- What comes of a change to the line. -/
def changed (e : Editor) (change : Line → Line) : Editor :=
  { e with mode := .typing, line := change e.line }

/-- Submits the line. -/
def submit (e : Editor) : Editor × Option Read :=
  ({ history := e.history.add e.line.text }, some (.line e.line.text))

/-- A key, when nothing is searched for. -/
def press (e : Editor) (k : Key) : Editor × Option Read :=
  match k with
  | .enter => e.submit
  | .interrupt => ({ history := e.history }, some .interrupted)
  | .endOfInput =>
    if e.line.isEmpty then (e, some .endOfInput) else (e.changed Line.delete, none)
  | .up => (if e.line.isOnFirst then e.previous else { e with line := e.line.up }, none)
  | .down => (if e.line.isOnLast then e.next else { e with line := e.line.down }, none)
  | .left => (e.changed Line.left, none)
  | .right => (e.changed Line.right, none)
  | .lineEnd => (e.changed Line.toEnd, none)
  | .search => ({ e with mode := .searching "" none }, none)
  | k => (e.changed (editKey · k), none)

/-- A key in a search. -/
def pressInSearch (e : Editor) (pattern : String) (place : Option Nat) (k : Key) :
    Editor × Option Read :=
  let wanted := fun (s : String) => holds pattern.toList s.toList
  let at_ := fun (place : Option Nat) => { e with mode := .searching pattern place }
  match k with
  | .enter | .right | .lineEnd => (e.takeFound place, none)
  | .interrupt => ({ e with mode := .typing }, some .interrupted)
  | .endOfInput => ({ e with mode := .typing }, if e.line.isEmpty then some .endOfInput else none)
  | .up | .search => (at_ (Entries.older e.history wanted place), none)
  | .down =>
    let newer := Entries.newer e.history wanted place
    (at_ (if newer.isSome then newer else Entries.older e.history wanted none), none)
  | .left => (e, none)
  | k => (e.searchKey k, none)

/-- Keys that are acted on together: either one, or several that change the line. -/
def act (e : Editor) (keys : List Key) : Editor × Option Read :=
  match e.mode, keys with
  | .searching pattern place, [k] => e.pressInSearch pattern place k
  | .searching .., keys => (keys.foldl searchKey e, none)
  | _, [k] => e.press k
  | _, keys => (e.changed fun l => keys.foldl editKey l, none)

/-! ## What is drawn -/

/-- What stands before a search, by whether it found something. -/
def searchLabel (failing : Bool) : String :=
  "(" ++ (if failing then "failing " else "") ++ "reverse search) "

/-- What is drawn on the screen, the prompt apart. -/
def drawn (e : Editor) : List String :=
  match e.mode with
  | .searching pattern place =>
    [searchLabel (!pattern.isEmpty && place.isNone)] ++ (Entries.entryAt? e.history place).toList
  | _ => [e.line.text]

end Editor

end ScriptShell.Terminal
