import ScriptShell.Posix.Signal
import ScriptShell.Terminal.Editor
/-!
# Reading lines at a terminal

What a user does at a terminal, one thing after another, becomes what a shell reads: lines, lines
that were given up, the end of the input. Keys that are typed at once are acted on together up to
the key that submits; what is typed after a read that they end is lost.
-/

namespace ScriptShell.Terminal

/-- Something that happens at the terminal. -/
inductive Act
  | typed (text : String)
  | signal (s : Signal)
deriving Repr, DecidableEq, Inhabited

/-- A read, with what there is to know after it. -/
structure Reading where
  read : Read
  /-- what was drawn for it, the prompt apart -/
  drawn : List String
  history : History
  /-- how many things that happen are left -/
  left : Nat
deriving Repr, DecidableEq, Inhabited

/-- What ends the reading. -/
inductive Closing
  /-- nothing more happens -/
  | silence
  | killed (s : Signal) (drawn : List String) (left : Nat)
deriving Repr, DecidableEq, Inhabited

/-- Keys cut after each that submits. -/
def batches (keys : List Key) : List (List Key) :=
  keys.foldr (fun k l =>
    match k, l with
    | .enter, l => [.enter] :: l
    | k, b :: rest => (k :: b) :: rest
    | k, [] => [[k]]) []

/-- Acts on keys that come together, up to the first read that they end. -/
def Editor.actAll (e : Editor) (drawn : List String) :
    List (List Key) → Editor × List String × Option Read
  | [] => (e, drawn, none)
  | keys :: rest =>
    let (after, read) := e.act keys
    match read with
    | some r => (after, drawn ++ e.drawn, some r)
    | none => after.actAll (drawn ++ after.drawn) rest

/-- The keys of a batch, those together that are acted on together. -/
def together (keys : List Key) : List (List Key) :=
  keys.splitBy fun a b => a.isEdit && b.isEdit

/-- Acts on batches one after another; gives the reads that they end. -/
def Editor.typeBatches (left : Nat) : Editor × List String → List (List Key) →
    (Editor × List String) × List Reading
  | at_, [] => (at_, [])
  | (e, drawn), keys :: rest =>
    let (e, drawn, read) := e.actAll drawn (together keys)
    match read with
    | none => Editor.typeBatches left (e, drawn) rest
    | some read =>
      let (at_, more) := Editor.typeBatches left (e, []) rest
      (at_, { read, drawn, history := e.history, left } :: more)

/-- The reads that come of what happens at a terminal. When nothing more happens, the input ends. -/
def readings (trapped : List Signal) : Editor × List String → List Act → List Reading × Closing
  | (e, drawn), [] =>
    ([{ read := .endOfInput, drawn, history := e.history, left := 0 }], .silence)
  | (e, drawn), .signal s :: rest =>
    match fatalSignal? trapped [s] with
    | some s => ([], .killed s drawn rest.length)
    | none => readings trapped (e, drawn) rest
  | at_, .typed text :: rest =>
    let (at_, reads) := Editor.typeBatches rest.length at_ (batches (Key.ofChars text.toList))
    let (more, closing) := readings trapped at_ rest
    (reads ++ more, closing)

/-- What a read puts out: a line that is given up is marked. -/
def Reading.delivery (r : Reading) : Delivery :=
  { read := r.read
    output := if r.read = .interrupted then [.shell .out "^C\n"] else [] }

end ScriptShell.Terminal
