/-!
# How alike two texts are

The measure by Jaro: characters of the two texts match if they are equal and not too far apart; the
more of them match, and the more of the matches stand in the same order, the more alike the texts.
-/

namespace ScriptShell.Text

/-- How far apart matching characters may be. -/
def matchRange (a b : Nat) : Nat := max a b / 2 - 1

/-- The first place from `low` up to `high` at which this character stands and is not taken. -/
def freePlace? (c : Char) (low high : Nat) (taken : List Nat) (b : List Char) : Option Nat :=
  (b.zipIdx.find? fun (x, j) => x == c && low ≤ j && j < high && !taken.contains j).map (·.2)

/-- The places in `b` that match those of `a`, which are tried in their order: the matching
characters of `a`, and the places taken. -/
def matches_ (range : Nat) (b : List Char) :
    List (Char × Nat) → List Char × List Nat → List Char × List Nat
  | [], found => found
  | (c, i) :: rest, (matched, taken) =>
    match freePlace? c (i - range) (i + range + 1) taken b with
    | some j => matches_ range b rest (matched ++ [c], taken ++ [j])
    | none => matches_ range b rest (matched, taken)

/-- How alike two texts are, from 0 for not at all to 1 for equal. -/
def similarity (s t : String) : Float :=
  let (a, b) := (s.toList, t.toList)
  if a.isEmpty && b.isEmpty then 1
  else
    let (matched, taken) := matches_ (matchRange a.length b.length) b a.zipIdx ([], [])
    let others := (b.zipIdx.filter fun (_, j) => taken.contains j).map (·.1)
    let turned := ((matched.zip others).countP fun (x, y) => x != y) / 2
    let n := matched.length
    if n = 0 then 0
    else
      (Float.ofNat n / Float.ofNat a.length + Float.ofNat n / Float.ofNat b.length +
        Float.ofNat (n - turned) / Float.ofNat n) / 3

end ScriptShell.Text
