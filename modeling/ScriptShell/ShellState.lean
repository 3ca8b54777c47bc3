/-!
# Shell state

What scripts can change and the dispatcher reads: the prompt, the aliases and the names of the
registered commands. Listings are sorted by code point.
-/

namespace ScriptShell

/-- Texts in the order of their code points. -/
def sortedTexts (l : List String) : List String := l.mergeSort (fun a b => decide (a ≤ b))

/-- Expansions by trigger, the last one written first. -/
structure AliasTable where
  entries : List (String × String) := []
deriving Repr, DecidableEq, Inhabited

namespace AliasTable

/-- Gives `trigger` the expansion, in the place of any earlier one. -/
def insert (t : AliasTable) (trigger expansion : String) : AliasTable :=
  ⟨(trigger, expansion) :: t.entries.filter (fun e => e.1 != trigger)⟩

/-- The expansion of `trigger`. -/
def get? (t : AliasTable) (trigger : String) : Option String := t.entries.lookup trigger

/-- The triggers, sorted. -/
def triggers (t : AliasTable) : List String := sortedTexts (t.entries.map (·.1))

/-- The triggers with their expansions, sorted by trigger. -/
def sortedEntries (t : AliasTable) : List (String × String) :=
  t.entries.mergeSort (fun a b => decide (a.1 ≤ b.1))

end AliasTable

/-- Names of the commands that scripts registered; the handlers are the engine's. -/
structure CommandTable where
  members : List String := []
deriving Repr, DecidableEq, Inhabited

namespace CommandTable

/-- Adds a name; one that is there already stays as it is. -/
def insert (t : CommandTable) (name : String) : CommandTable :=
  if name ∈ t.members then t else ⟨name :: t.members⟩

/-- Whether the name is registered. -/
def contains (t : CommandTable) (name : String) : Bool := decide (name ∈ t.members)

/-- The names, sorted. -/
def names (t : CommandTable) : List String := sortedTexts t.members

end CommandTable

/-- The prompt of a shell that no script has changed. -/
def defaultPrompt : String := "gil> "

/-- The state that scripts and the dispatcher share. -/
structure ShellState where
  prompt : String := defaultPrompt
  aliases : AliasTable := {}
  commands : CommandTable := {}
deriving Repr, DecidableEq, Inhabited

end ScriptShell
