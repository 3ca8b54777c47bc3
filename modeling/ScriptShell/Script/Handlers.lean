import ScriptShell.Script.Evaluator
/-!
# The table of handlers

The handlers of commands are kept where scripts can see and change them: in a dictionary under a
name of the script namespace, in which a key leads to the dictionary of handlers by name. A level
that is missing, or is no dictionary, is made anew when the table is asked for. Whatever asks the
dictionaries may fail where a key of theirs compares itself by code; at the start there is none, and
the levels are made on the heap alone.
-/

namespace ScriptShell.Script

/-- The name in the namespace. -/
def handlersName : String := "commanding"

/-- The key below it. -/
def handlersKey : String := "__commands"

namespace Heap

/-- The dictionary under a text in another, made anew if there is none. -/
def subDict (h : Heap) (parent : Ref) (key : String) : Ref × Heap :=
  match (h.lookup? parent key).bind h.dict? with
  | some r => (r, h)
  | none =>
    let (r, h) := h.alloc (.dict [])
    (r, h.put parent key (.object r))

/-- The dictionary of handlers, both levels made anew where they are missing. -/
def handlers (h : Heap) (globals : Ref) : Ref × Heap :=
  let (outer, h) := h.subDict globals handlersName
  h.subDict outer handlersKey

end Heap

namespace Exec

/-- A new dictionary, put under a text in another. -/
def freshDict (ev : Evaluator) (parent : Ref) (key : String) : Exec Ref := do
  let (r, h) := (← heap).alloc (.dict [])
  setHeap h
  ev.store parent key (.object r)
  pure r

/-- The dictionary under a text in another, made anew if there is none. -/
def subDict (ev : Evaluator) (parent : Ref) (key : String) : Exec Ref := do
  let found ← ev.lookup parent key
  match found.bind (← heap).dict? with
  | some r => pure r
  | none => freshDict ev parent key

/-- The dictionary of handlers, both levels made anew where they are missing. -/
def handlers (ev : Evaluator) : Exec Ref := do
  let outer ← subDict ev (← get).globals handlersName
  subDict ev outer handlersKey

/-- Stores the handler of a command. -/
def storeHandler (ev : Evaluator) (name : String) (handler : Value) : Exec Unit := do
  let table ← handlers ev
  ev.store table name handler

/-- The handler of a command, with the levels made anew where they are missing. -/
def findHandler (ev : Evaluator) (name : String) : Exec (Option Value) := do
  let table ← handlers ev
  ev.lookup table name

end Exec

end ScriptShell.Script
