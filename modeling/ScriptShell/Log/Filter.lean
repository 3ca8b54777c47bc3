import ScriptShell.Event
import ScriptShell.Text.Identifier
import ScriptShell.Text.Printable
/-!
# Which events are logged

A filter is a list of directives. A directive admits the events up to a level whose origin starts
with its target, and that have the fields it names; of the directives that are about an event the
most specific decides. A directive about a span is about no event, since the shell has no spans.
-/

namespace ScriptShell.Log

/-- How much a directive admits: the events up to a rank. -/
structure Threshold where
  rank : Nat
deriving Repr, DecidableEq, Inhabited

namespace Threshold

/-- The thresholds by name. -/
def named : List (String × Nat) :=
  [("off", 0), ("error", 1), ("warn", 2), ("info", 3), ("debug", 4), ("trace", 5)]

def all : Threshold := ⟨5⟩

/-- The threshold that a text names, by a word or a number. -/
def ofText? (s : String) : Option Threshold :=
  let digits := match s.toList with
    | '+' :: rest => rest
    | cs => cs
  if !digits.isEmpty && digits.all Char.isDigit then
    let n := digits.foldl (fun n c => n * 10 + (c.toNat - '0'.toNat)) 0
    if n ≤ all.rank then some ⟨n⟩ else none
  else (named.lookup s.toLower).map (⟨·⟩)

end Threshold

/-- A field that a directive asks for. -/
structure FieldPattern where
  name : String
  hasValue : Bool
deriving Repr, DecidableEq, Inhabited

structure Directive where
  target : Option String := none
  /-- the span it is about -/
  span : Option String := none
  fields : List FieldPattern := []
  threshold : Threshold := .all
deriving Repr, DecidableEq, Inhabited

/-- Why a text is no directive. -/
inductive DirectiveFault
  | level
  | other
deriving Repr, DecidableEq, Inhabited

def DirectiveFault.message : DirectiveFault → String
  | .level =>
    "error parsing level filter: expected one of \"off\", \"error\", \"warn\", \"info\", " ++
      "\"debug\", \"trace\", or a number 0-5"
  | .other => "invalid filter directive"

namespace Directive

/-- Where the reading of a directive stands; a part that is being read started at a position. -/
inductive Position
  | start
  | levelOrTarget (start : Nat)
  | span (start : Nat)
  | field (start : Nat)
  | afterFields
  | afterTarget
  | level (start : Nat)
deriving Repr, DecidableEq, Inhabited

/-- A field in a directive, with a value or without. -/
def fieldPattern (cs : List Char) : Except DirectiveFault FieldPattern :=
  if cs.isEmpty then .error .other
  else
    let name := cs.takeWhile (· ≠ '=')
    .ok ⟨String.ofList name, name.length < cs.length⟩

/-- A level at the end of a directive; none at all admits everything. -/
def levelText (cs : List Char) : Except DirectiveFault Threshold :=
  if cs.isEmpty then .ok .all
  else
    match Threshold.ofText? (String.ofList cs) with
    | some t => .ok t
    | none => .error .level

/-- One more character, at a position of its own. `slice` gives the text between two positions. -/
def step (slice : Nat → Nat → List Char) (d : Directive) (p : Position) (i : Nat) (c : Char) :
    Except DirectiveFault (Directive × Position) :=
  match p with
  | .start =>
    if c = '[' then .ok (d, .span (i + 1))
    else if c = '-' || c = ':' || c = '_' || Text.isIdentifierContinue c then .ok (d, .levelOrTarget i)
    else .error .other
  | .levelOrTarget a =>
    if c = '=' then .ok ({ d with target := some (String.ofList (slice a i)) }, .level (i + 1))
    else if c = '[' then .ok ({ d with target := some (String.ofList (slice a i)) }, .span (i + 1))
    else .ok (d, p)
  | .afterTarget => if c = '=' then .ok (d, .level (i + 1)) else .error .other
  | .span a =>
    if c = ']' then .ok ({ d with span := some (String.ofList (slice a i)) }, .afterTarget)
    else if c = '\x7b' then
      let name := slice a i
      .ok ({ d with span := if name.isEmpty then none else some (String.ofList name) },
        .field (i + 1))
    else .ok (d, p)
  | .field a =>
    if c = '\x7d' then do
      let f ← fieldPattern (slice a i)
      pure ({ d with fields := d.fields ++ [f] }, .afterFields)
    else if c = ',' then do
      let f ← fieldPattern (slice a i)
      pure ({ d with fields := d.fields ++ [f] }, .field (i + 1))
    else .ok (d, p)
  | .afterFields => if c = ']' then .ok (d, .afterTarget) else .error .other
  | .level _ => .ok (d, p)

/-- The rest of a directive. -/
def steps (slice : Nat → Nat → List Char) :
    List (Char × Nat) → Directive × Position → Except DirectiveFault (Directive × Position)
  | [], at_ => .ok at_
  | (c, i) :: rest, (d, p) => do steps slice rest (← step slice d p i c)

/-- Reads a directive. Blanks around it are skipped, but the positions in it are counted from where
the blanks start, so that they shift what is read. -/
def ofText (text : String) : Except DirectiveFault Directive := do
  let all := text.toList
  let trimmed := ((all.dropWhile Text.isBlank).reverse.dropWhile Text.isBlank).reverse
  let slice := fun (a b : Nat) => (all.drop a).take (b - a)
  let (d, p) ← steps slice trimmed.zipIdx ({}, .start)
  match p with
  | .levelOrTarget a =>
    let part := String.ofList (all.drop a)
    match Threshold.ofText? part with
    | some t => pure { d with threshold := t, target := none }
    | none => pure { d with target := some part }
  | .level a => do pure { d with threshold := ← levelText (all.drop a) }
  | .afterTarget => pure d
  | _ => .error .other

/-- Whether it is about events at all. -/
def isAboutEvents (d : Directive) : Bool := d.span.isNone && !d.fields.any (·.hasValue)

/-- Whether it is about an event. -/
def isAbout (d : Directive) (e : Event) : Bool :=
  (d.target.map (e.origin.startsWith ·)).getD true &&
    d.fields.all fun f => f.name == "message" || e.fieldNames.contains f.name

/-- Whether two directives are about the same events. -/
def coincides (d e : Directive) : Bool :=
  d.target == e.target && d.fields.map (·.name) == e.fields.map (·.name)

/-- How specific it is: by its target, then by its fields. -/
def weight (d : Directive) : Nat × Nat :=
  ((d.target.map (·.utf8ByteSize + 1)).getD 0, d.fields.length)

/-- Whether it is at least as specific as another. -/
def outweighs (d e : Directive) : Bool :=
  let (a, b) := (d.weight, e.weight)
  a.1 > b.1 || (a.1 == b.1 && a.2 ≥ b.2)

end Directive

/-- The directives that decide about events. -/
structure Filter where
  directives : List Directive
deriving Repr, DecidableEq, Inhabited

namespace Filter

/-- The directives with one more, in the place of one about the same events. -/
def add (l : List Directive) (d : Directive) : List Directive :=
  if l.any d.coincides then l.map fun e => if d.coincides e then d else e else l ++ [d]

/-- The filter of directives; without any it admits errors. -/
def ofDirectives (l : List Directive) : Filter :=
  if l.isEmpty then ⟨[{ threshold := ⟨1⟩ }]⟩
  else ⟨(l.filter Directive.isAboutEvents).foldl add []⟩

/-- The filter that a text asks for, and what is said about the parts of it that are no
directives. -/
def ofText (text : String) : Filter × List String :=
  let parts := ((text.toList.splitOn ',').map String.ofList).filter (!·.isEmpty)
  let read := parts.map fun p => (p, Directive.ofText p)
  (ofDirectives (read.filterMap fun (_, d) => d.toOption),
    read.filterMap fun (p, d) =>
      match d with
      | .ok _ => none
      | .error why => some ("ignoring \x60" ++ p ++ "\x60: " ++ why.message ++ "\n"))

/-- The directive that decides about an event, if there is one. -/
def deciding? (f : Filter) (e : Event) : Option Directive :=
  (f.directives.filter (·.isAbout e)).foldl (fun best d =>
    match best with
    | some b => if b.outweighs d then best else some d
    | none => some d) none

/-- Whether an event is logged. -/
def admits (f : Filter) (e : Event) : Bool :=
  match f.deciding? e with
  | some d => e.level.rank ≤ d.threshold.rank
  | none => false

end Filter

end ScriptShell.Log
