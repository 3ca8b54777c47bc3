import ScriptShell.Posix.Disk
/-!
# The history

The lines that were submitted, the oldest first, of which a number is kept. They are kept in a file
as well, a line of it for each entry, with a mark in the place of each line break in an entry. The
file may have grown meanwhile: what is in it comes before what is new.
-/

namespace ScriptShell

structure History where
  entries : List String := []
  /-- how many of the entries the file holds -/
  saved : Nat := 0
deriving Repr, DecidableEq, Inhabited

namespace History

/-- How many entries are kept. -/
def capacity : Nat := 1000

/-! ## Entries and lines -/

/-- The mark of a line break in an entry. -/
def breakMark : List Char := ['<', '\\', 'n', '>']

/-- An entry as a line of the file. -/
def encode : List Char → List Char
  | [] => []
  | '\n' :: rest => breakMark ++ encode rest
  | c :: rest => c :: encode rest

/-- The entry that a line of the file holds. -/
def decode : List Char → List Char
  | [] => []
  | '<' :: '\\' :: 'n' :: '>' :: rest => '\n' :: decode rest
  | c :: rest => c :: decode rest

/-- The lines of a file; one that ends in a carriage return and a line break loses both. -/
def fileLines (cs : List Char) : List (List Char) :=
  let lines := cs.splitOn '\n'
  let ended := lines.dropLast.map fun l => if l.getLast? = some '\r' then l.dropLast else l
  ended ++ (lines.getLast?.filter (!·.isEmpty)).toList

/-- The entries that a file holds. -/
def ofFile (content : String) : List String :=
  (fileLines content.toList).map fun l => String.ofList (decode l)

/-- Entries as a file holds them. -/
def toFile (entries : List String) : String :=
  String.join (entries.map fun e => String.ofList (encode e.toList) ++ "\n")

/-! ## Adding and saving -/

/-- Adds an entry, unless it is empty or equal to the one before it. The oldest makes room. -/
def add (h : History) (entry : String) : History :=
  if entry.isEmpty || h.entries.getLast? = some entry then h
  else if h.entries.length = capacity then
    { entries := h.entries.tail ++ [entry], saved := h.saved - 1 }
  else { h with entries := h.entries ++ [entry] }

/-- The entries that the file does not hold. -/
def unsaved (h : History) : List String := h.entries.drop h.saved

/-- Brings the history and its file together: what is new goes to the end of the file, which is
written anew if it would hold too many. -/
def sync (h : History) (path : String) (d : Disk) : Except FileError History × Disk :=
  match d.makeParent path with
  | (.error why, d) => (.error why, d)
  | (.ok (), d) =>
    match d.writeTarget path with
    | .error why => (.error why, d)
    | .ok (place, mode) =>
      let content := match d.tree.node? place with
        | some (.file _ content) => content
        | _ => ByteArray.empty
      let filled := fun (bytes : ByteArray) =>
        { d with tree := d.tree.insert place (.file mode bytes) }
      match String.fromUTF8? content with
      | none => (.error .notText, filled content)
      | some text =>
        let before := ofFile text
        let room := capacity - h.unsaved.length
        let kept := before.drop (before.length - room)
        let entries := kept ++ h.unsaved
        let bytes := if before.length ≤ room then content ++ (toFile h.unsaved).toUTF8
          else (toFile entries).toUTF8
        (.ok { entries, saved := entries.length }, filled bytes)

end History

end ScriptShell
