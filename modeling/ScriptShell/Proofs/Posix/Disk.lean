import ScriptShell.Posix.Disk
import ScriptShell.Proofs.Posix.Walk

/-!
# Disks

A disk grows with its tree (`Disk.Grown`); it is well-formed if its tree is and relative paths start
in a directory (`Disk.WellFormed`). File operations are chains of steps that may fail:
`bind_eq_ok` and `mapError_eq_ok` take one that succeeded apart.
-/

namespace ScriptShell

open FileTree ScriptShell.Path

/-! ## Steps that may fail -/

theorem bind_eq_ok {ε α β : Type} {x : Except ε α} {f : α → Except ε β} {b : β} :
    x >>= f = .ok b ↔ ∃ a, x = .ok a ∧ f a = .ok b := by
  cases x with
  | error e => simp [bind, Except.bind]
  | ok a => simp [bind, Except.bind]

theorem mapError_eq_ok {ε ε' α : Type} {x : Except ε α} {f : ε → ε'} {a : α} :
    x.mapError f = .ok a ↔ x = .ok a := by
  cases x with
  | error e => exact iff_of_false nofun nofun
  | ok a' =>
    constructor
    · rintro ⟨⟩
      rfl
    · rintro ⟨⟩
      rfl

namespace Disk

variable {d d' d'' : Disk} {path : String} {place : Location} {n : Node}

/-! ## Growing -/

/-- The tree has grown, and relative paths start where they started. -/
structure Grown (d d' : Disk) : Prop where
  tree : d.tree.Grown d'.tree
  directory : d'.directory = d.directory

theorem Grown.refl (d : Disk) : d.Grown d := ⟨.refl d.tree, rfl⟩

theorem Grown.trans (h : d.Grown d') (h' : d'.Grown d'') : d.Grown d'' :=
  ⟨h.tree.trans h'.tree, h'.directory.trans h.directory⟩

theorem Grown.start (h : d.Grown d') (path : String) : d'.start path = d.start path := by
  rw [Disk.start, Disk.start, h.directory]

/-! ## Well-formed disks -/

/-- A well-formed tree, and a directory of it. -/
structure WellFormed (d : Disk) : Prop where
  tree : d.tree.WellFormed
  directory : ∃ m, d.tree.node? d.directory = some (.directory m)

theorem WellFormed.start (h : d.WellFormed) (path : String) :
    ∃ m, d.tree.node? (d.start path) = some (.directory m) := by
  rw [Disk.start]
  split
  · exact ⟨newDirectoryMode, node?_root d.tree⟩
  · exact h.directory

/-! ## Where a path leads -/

theorem checkPath_eq_ok : checkPath path = .ok () ↔
    '\x00' ∉ path.toList ∧ path ≠ "" ∧ path.utf8ByteSize ≤ pathLimit := by
  unfold checkPath
  by_cases hnul : '\x00' ∈ path.toList
  · simp [hnul]
  · by_cases hempty : path = ""
    · simp [hempty]
    · by_cases hlong : pathLimit < path.utf8ByteSize
      · simp [hnul, hempty, hlong]
      · simp [hnul, hempty, hlong, Nat.not_lt.1 hlong]

theorem locate_eq_ok {end_ : Place} : d.locate path = .ok end_ ↔ checkPath path = .ok () ∧
    d.tree.walk true linkLimit (d.start path) (walkNames path) = .ok end_ := by
  unfold locate
  simp only [bind_eq_ok, mapError_eq_ok]
  exact ⟨fun ⟨(), hc, hw⟩ => ⟨hc, hw⟩, fun ⟨hc, hw⟩ => ⟨(), hc, hw⟩⟩

theorem node_eq_ok : d.node path = .ok n ↔ ∃ place, d.locate path = .ok (.found place n) := by
  unfold node
  rw [bind_eq_ok]
  constructor
  · rintro ⟨end_, hl, h⟩
    cases end_ with
    | found place n' =>
      cases h
      exact ⟨place, hl⟩
    | vacant q name => cases h
  · rintro ⟨place, hl⟩
    exact ⟨_, hl, rfl⟩

theorem pathExists_iff : d.pathExists path = true ↔ ∃ n, d.node path = .ok n := by
  unfold pathExists
  cases d.node path with
  | error e => exact iff_of_false nofun nofun
  | ok n => exact iff_of_true rfl ⟨n, rfl⟩

theorem isFile_iff : d.isFile path = true ↔ ∃ n, d.node path = .ok n ∧ n.isFile = true := by
  unfold isFile
  cases d.node path with
  | error e => exact iff_of_false nofun nofun
  | ok n => simp

theorem isExecutable_iff :
    d.isExecutable path = true ↔ ∃ n, d.node path = .ok n ∧ n.isExecutable = true := by
  unfold isExecutable
  cases d.node path with
  | error e => exact iff_of_false nofun nofun
  | ok n => simp

theorem pathExists_of_locate (h : d.locate path = .ok (.found place n)) :
    d.pathExists path = true := by
  unfold pathExists node
  rw [h]
  rfl

end Disk

end ScriptShell
