import ScriptShell.Proofs.Posix.Directories

/-!
# What a write touches

A write goes to one place: a file that is there, or a name that is free (`Disk.writeTarget_ok`). A
file that is there is the one the path leads to (`Disk.writeTarget_found`). What was written to a
path is read from it (`Disk.readText_writeText`).
-/

namespace ScriptShell

open FileTree ScriptShell.Path

namespace Disk

variable {d d' : Disk} {path : String} {place : Location} {mode : Nat} {n : Node} {e : FileError}

/-! ## Where a write goes -/

/-- The names a write follows. A path that ends in a slash asks for a directory, where no write can
go; its last name is not even looked at. -/
def writeNames (path : String) : List String :=
  if endsInSlash path then (names path).dropLast ++ ["."] else names path

theorem writeTarget_eq (d : Disk) (path : String) : d.writeTarget path = (do
    checkPath path
    match ← (d.tree.walk true linkLimit (d.start path) (writeNames path)).mapError .system with
    | .found place (.file mode _) => .ok (place, mode)
    | .found .. => .error (.system .isDirectory)
    | .vacant directory name => .ok (directory ++ [name], newFileMode)) := rfl

/-- A write goes where its names lead. -/
theorem writeTarget_walk (h : d.writeTarget path = .ok (place, mode)) :
    checkPath path = .ok () ∧ ∃ end_,
      d.tree.walk true linkLimit (d.start path) (writeNames path) = .ok end_ ∧
      ((∃ content, end_ = .found place (.file mode content)) ∨
        ∃ q name, end_ = .vacant q name ∧ place = q ++ [name]) := by
  rw [writeTarget_eq] at h
  simp only [bind_eq_ok, mapError_eq_ok] at h
  obtain ⟨⟨⟩, hc, end_, hw, h⟩ := h
  refine ⟨hc, end_, hw, ?_⟩
  cases end_ with
  | vacant q name =>
    cases h
    exact .inr ⟨q, name, rfl, rfl⟩
  | found q n =>
    cases n with
    | file mode' content =>
      cases h
      exact .inl ⟨content, rfl⟩
    | directory m => cases h
    | link target => cases h

/-- A write goes to a free name or to a file, whose mode stays. -/
theorem writeTarget_ok (h : d.writeTarget path = .ok (place, mode)) :
    d.tree.node? place = none ∨ ∃ content, d.tree.node? place = some (.file mode content) := by
  obtain ⟨-, end_, hw, ⟨content, rfl⟩ | ⟨q, name, rfl, rfl⟩⟩ := writeTarget_walk h
  · exact .inr ⟨content, walk_found hw (by simp)⟩
  · exact .inl (walk_holds hw)

/-- No write goes to a path that ends in a slash. -/
theorem writeTarget_noSlash (hd : d.WellFormed) (h : d.writeTarget path = .ok (place, mode)) :
    endsInSlash path = false := by
  obtain ⟨-, end_, hw, hend⟩ := writeTarget_walk h
  cases hs : endsInSlash path with
  | false => rfl
  | true =>
    rw [writeNames, if_pos hs] at hw
    obtain ⟨q, m, rfl⟩ := walk_last_dot hd.tree (hd.start path) hw
    obtain ⟨content, hf⟩ | ⟨q', name, hf, -⟩ := hend <;> cases hf

/-- What stands where a write goes is what the path leads to. -/
theorem writeTarget_found (hd : d.WellFormed) (h : d.writeTarget path = .ok (place, mode))
    (hn : d.tree.node? place = some n) :
    endsInSlash path = false ∧ d.locate path = .ok (.found place n) := by
  obtain ⟨hc, end_, hw, hend⟩ := writeTarget_walk h
  have hs := writeTarget_noSlash hd h
  rw [writeNames, hs] at hw
  refine ⟨hs, locate_eq_ok.2 ⟨hc, ?_⟩⟩
  rw [walkNames, hs]
  obtain ⟨content, rfl⟩ | ⟨q, name, rfl, rfl⟩ := hend
  · rw [walk_found hw (by simp)] at hn
    rw [← Option.some.inj hn]
    exact hw
  · rw [walk_holds hw] at hn
    cases hn

/-! ## What a write changes -/

theorem writeText_ok {text : String} (h : d.writeText path text = .ok d') :
    ∃ place mode, d.writeTarget path = .ok (place, mode) ∧
      d' = { d with tree := d.tree.insert place (.file mode text.toUTF8) } := by
  unfold writeText writeBytes at h
  obtain ⟨⟨place, mode⟩, ht, h⟩ := bind_eq_ok.1 h
  exact ⟨place, mode, ht, (Except.ok.inj h).symm⟩

theorem writeText_target (h : d.writeTarget path = .ok (place, mode)) (text : String) :
    d.writeText path text = .ok { d with tree := d.tree.insert place (.file mode text.toUTF8) } := by
  rw [writeText, writeBytes, h]
  rfl

theorem writeText_error (h : d.writeTarget path = .error e) (text : String) :
    d.writeText path text = .error e := by
  rw [writeText, writeBytes, h]
  rfl

/-! ## Reading -/

theorem fromUTF8?_eq_some {bytes : ByteArray} {text : String} :
    String.fromUTF8? bytes = some text ↔ bytes = text.toUTF8 := by
  rw [String.fromUTF8?]
  constructor
  · intro h
    split at h
    · cases h
      rfl
    · cases h
  · rintro rfl
    exact dif_pos text.isValidUTF8

/-- Links followed, the path leads to a file that holds this text. -/
def HasText (d : Disk) (path text : String) : Prop :=
  ∃ place mode, d.locate path = .ok (.found place (.file mode text.toUTF8))

theorem readText_eq_ok {text : String} : d.readText path = .ok text ↔ d.HasText path text := by
  have hbytes : ∀ bytes, d.readBytes path = .ok bytes ↔
      ∃ place mode, d.locate path = .ok (.found place (.file mode bytes)) := by
    intro bytes
    rw [readBytes, bind_eq_ok]
    constructor
    · rintro ⟨n, hn, h⟩
      obtain ⟨place, hl⟩ := node_eq_ok.1 hn
      cases n with
      | file mode content =>
        cases h
        exact ⟨place, mode, hl⟩
      | directory mode => cases h
      | link target => cases h
    · rintro ⟨place, mode, hl⟩
      exact ⟨_, node_eq_ok.2 ⟨place, hl⟩, rfl⟩
  rw [readText, bind_eq_ok, HasText, ← hbytes]
  constructor
  · rintro ⟨bytes, hb, h⟩
    split at h
    · next text' ht =>
      cases h
      rw [← fromUTF8?_eq_some.1 ht]
      exact hb
    · cases h
  · intro hb
    refine ⟨_, hb, ?_⟩
    rw [fromUTF8?_eq_some.2 rfl]

/-- What was written to a path is read from it. -/
theorem readText_writeText {text : String} (hd : d.WellFormed)
    (h : d.writeText path text = .ok d') : d'.readText path = .ok text := by
  obtain ⟨place, mode, ht, hd'⟩ := writeText_ok h
  have hold := writeTarget_ok ht
  have hne : place ≠ [] := by
    rintro rfl
    obtain hv | ⟨content, hf⟩ := hold
    · cases hv
    · cases hf
  obtain ⟨hc, end_, hw, hend⟩ := writeTarget_walk ht
  have hs := writeTarget_noSlash hd ht
  have htakes : Takes end_ place := by
    obtain ⟨content, rfl⟩ | ⟨q, name, rfl, rfl⟩ := hend
    · exact .file place mode content
    · exact .free q name
  rw [writeNames, hs] at hw
  refine readText_eq_ok.2 ⟨place, mode, locate_eq_ok.2 ⟨hc, ?_⟩⟩
  rw [walkNames, hs, hd']
  have hways := keepsWays_insert (hold.imp_right fun ⟨c, hc⟩ => ⟨mode, c, hc⟩)
    (.file mode text.toUTF8)
  exact walk_filled hways hw htakes (node?_insert_self _ _ hne)

end Disk

end ScriptShell
