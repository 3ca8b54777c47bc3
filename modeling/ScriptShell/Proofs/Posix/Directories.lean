import ScriptShell.Proofs.Posix.Disk

/-!
# Making directories

Whatever comes of it, making directories is making some of them one after another (`Disk.Makes`), so
the tree only grows (`Disk.Makes.grown`) and stays well-formed (`Disk.WellFormed.makes`). It changes
at all only if a name of the path is missing where the names before it lead
(`Disk.makeParent_lacks`).
-/

namespace ScriptShell

open FileTree ScriptShell.Path

namespace Disk

variable {d d' d'' : Disk} {path : String} {l above : List String} {answer : Except FileError Unit}

/-! ## One directory -/

/-- From `p`, the names lead to `q`, and there is no entry of this name there. -/
structure Lacks (d : Disk) (p : Location) (above : List String) (q : Location) (name : String) :
    Prop where
  leads : ∃ links', Leads d.tree linkLimit p above links' q
  plain : Plain name
  vacant : d.tree.node? (q ++ [name]) = none

/-- A directory is made where the path leads and nothing stands. -/
theorem makeDirectory_ok (h : d.makeDirectory path = .ok d') :
    ∃ above q name, names path = above ++ [name] ∧ d.Lacks (d.start path) above q name ∧
      d' = { d with tree := d.tree.insert (q ++ [name]) (.directory newDirectoryMode) } := by
  unfold makeDirectory at h
  simp only [bind_eq_ok, mapError_eq_ok] at h
  obtain ⟨-, -, end_, hw, h⟩ := h
  cases end_ with
  | found place n => cases h
  | vacant q name =>
    cases h
    obtain ⟨above, links', hn, hl, hp, hv⟩ := walk_vacant_leads hw
    exact ⟨above, q, name, hn, ⟨⟨links', hl⟩, hp, hv⟩, rfl⟩

theorem makeDirectory_grown (h : d.makeDirectory path = .ok d') : d.Grown d' := by
  obtain ⟨above, q, name, -, hl, rfl⟩ := makeDirectory_ok h
  exact ⟨grown_insert_directory hl.vacant _, rfl⟩

theorem WellFormed.makeDirectory (hd : d.WellFormed) (h : d.makeDirectory path = .ok d') :
    d'.WellFormed := by
  have hg := makeDirectory_grown h
  obtain ⟨above, q, name, -, ⟨⟨links', hl⟩, -, hv⟩, rfl⟩ := makeDirectory_ok h
  obtain ⟨m, hm⟩ := hl.to_directory hd.tree (hd.start path)
  obtain ⟨m', hm'⟩ := hd.directory
  exact ⟨hd.tree.insert hm hv _, m', hg.tree.keeps _ _ hm'⟩

/-! ## One after another -/

/-- `d'` comes from `d` by making directories, one after another. -/
inductive Makes : Disk → Disk → Prop
  | nothing (d : Disk) : Makes d d
  | more {d d' d'' : Disk} {path : String} :
    Makes d d' → d'.makeDirectory path = .ok d'' → Makes d d''

theorem Makes.grown (h : Makes d d') : d.Grown d' := by
  induction h with
  | nothing => exact .refl _
  | more _ hm ih => exact ih.trans (makeDirectory_grown hm)

theorem WellFormed.makes (hd : d.WellFormed) (h : Makes d d') : d'.WellFormed := by
  induction h with
  | nothing => exact hd
  | more _ hm ih => exact ih.makeDirectory hm

/-! ## Directories above one another -/

/-- What making the directories at some paths comes to: the one at the first is made at once, or it
cannot be made there, or it is tried again once those behind it are made. -/
inductive MakesEach (d : Disk) (path : String) (above : List String) :
    Except FileError Unit → Disk → Prop
  | made {d' : Disk} : d.makeDirectory path = .ok d' → MakesEach d path above (.ok ()) d'
  | refused {e : FileError} : d.makeDirectory path = .error e → e ≠ .system .noEntry →
    MakesEach d path above (if d.isDirectory path then .ok () else .error e) d
  | aboveFailed {d' : Disk} {e : FileError} : d.makeDirectory path = .error (.system .noEntry) →
    d.makeEach above = (.error e, d') → MakesEach d path above (.error e) d'
  | aboveMade {d' d'' : Disk} : d.makeDirectory path = .error (.system .noEntry) →
    d.makeEach above = (.ok (), d') → d'.makeDirectory path = .ok d'' →
    MakesEach d path above (.ok ()) d''
  | aboveRefused {d' : Disk} {e : FileError} :
    d.makeDirectory path = .error (.system .noEntry) → d.makeEach above = (.ok (), d') →
    d'.makeDirectory path = .error e →
    MakesEach d path above (if d'.isDirectory path then .ok () else .error e) d'

theorem MakesEach.eq (h : MakesEach d path above answer d') :
    d.makeEach (path :: above) = (answer, d') := by
  rw [makeEach]
  cases h with
  | made hm => rw [hm]
  | refused hm he =>
    rw [hm]
    exact if_neg he
  | aboveFailed hm ha =>
    rw [hm, ha]
    rfl
  | aboveMade hm ha hm' =>
    rw [hm, ha]
    dsimp only
    rw [if_pos rfl, hm']
  | aboveRefused hm ha hm' =>
    rw [hm, ha]
    dsimp only
    rw [if_pos rfl, hm']

theorem makesEach (d : Disk) (path : String) (above : List String) :
    ∃ answer d', d.makeEach (path :: above) = (answer, d') ∧ MakesEach d path above answer d' := by
  suffices h : ∃ answer d', MakesEach d path above answer d' by
    obtain ⟨answer, d', h⟩ := h
    exact ⟨answer, d', h.eq, h⟩
  cases hm : d.makeDirectory path with
  | ok d' => exact ⟨_, _, .made hm⟩
  | error e =>
    by_cases he : e = .system .noEntry
    · subst he
      rcases ha : d.makeEach above with ⟨answer, d'⟩
      cases answer with
      | error e => exact ⟨_, _, .aboveFailed hm ha⟩
      | ok =>
        cases hm' : d'.makeDirectory path with
        | ok d'' => exact ⟨_, _, .aboveMade hm ha hm'⟩
        | error e => exact ⟨_, _, .aboveRefused hm ha hm'⟩
    · exact ⟨_, _, .refused hm he⟩

/-- `d'` comes from `d` by making directories at some of the paths. -/
inductive MakesAt (paths : List String) : Disk → Disk → Prop
  | nothing (d : Disk) : MakesAt paths d d
  | more {d d' d'' : Disk} {path : String} :
    MakesAt paths d d' → path ∈ paths → d'.makeDirectory path = .ok d'' → MakesAt paths d d''

theorem MakesAt.makes (h : MakesAt l d d') : Makes d d' := by
  induction h with
  | nothing => exact .nothing _
  | more _ _ hm ih => exact .more ih hm

theorem MakesAt.longer (path : String) (h : MakesAt above d d') :
    MakesAt (path :: above) d d' := by
  induction h with
  | nothing => exact .nothing _
  | more _ hmem hm ih => exact .more ih (List.mem_cons_of_mem _ hmem) hm

theorem makeEach_makesAt (d : Disk) (paths : List String) :
    MakesAt paths d (d.makeEach paths).2 := by
  induction paths with
  | nil => exact .nothing d
  | cons path above ih =>
    obtain ⟨answer, d', heq, h⟩ := makesEach d path above
    rw [heq]
    cases h with
    | made hm => exact .more (.nothing d) List.mem_cons_self hm
    | refused => exact .nothing d
    | aboveFailed _ ha =>
      rw [ha] at ih
      exact ih.longer path
    | aboveMade _ ha hm' =>
      rw [ha] at ih
      exact .more (ih.longer path) List.mem_cons_self hm'
    | aboveRefused _ ha =>
      rw [ha] at ih
      exact ih.longer path

theorem makeEach_makes (d : Disk) (paths : List String) : Makes d (d.makeEach paths).2 :=
  (makeEach_makesAt d paths).makes

/-! ## The directories above a path -/

/-- The disk has no say in which directories above a path are made: none, or those that lead up to
its parent. -/
theorem makeParent_cases (path : String) :
    (∃ answer, ∀ d : Disk, d.makeParent path = (answer, d)) ∨
      ∃ parent, parent? path = some parent ∧
        ∀ d : Disk, d.makeParent path = d.makeEach (upward parent) := by
  cases hparent : parent? path with
  | none => exact .inl ⟨.ok (), fun d => by rw [makeParent, hparent]⟩
  | some parent =>
    cases hempty : parent.isEmpty with
    | true => exact .inl ⟨.ok (), fun d => by simp [makeParent, hparent, hempty]⟩
    | false =>
      exact .inr ⟨parent, rfl, fun d => by simp [makeParent, hparent, hempty, makeDirectories]⟩

theorem makeParent_makes (d : Disk) (path : String) : Makes d (d.makeParent path).2 := by
  obtain ⟨answer, hmake⟩ | ⟨parent, -, hmake⟩ := makeParent_cases path
  · rw [hmake]
    exact .nothing d
  · rw [hmake]
    exact makeEach_makes d _

/-! ## The first name that is missing -/

/-- Nothing is made unless a name of one of the paths is missing where the names before it lead. -/
theorem makeEach_lacks (d : Disk) (paths : List String) :
    (d.makeEach paths).2 = d ∨ ∃ path ∈ paths, ∃ above q name,
      names path = above ++ [name] ∧ d.Lacks (d.start path) above q name := by
  induction paths with
  | nil => exact .inl rfl
  | cons path above ih =>
    -- the directories above come first; if they change nothing, the second attempt fails too
    have habove : (d.makeEach above).2 = d ∨ ∃ p ∈ path :: above, ∃ above q name,
        names p = above ++ [name] ∧ d.Lacks (d.start p) above q name := by
      refine ih.imp_right ?_
      rintro ⟨p, hp, hlacks⟩
      exact ⟨p, List.mem_cons_of_mem _ hp, hlacks⟩
    obtain ⟨answer, d', heq, h⟩ := makesEach d path above
    rw [heq]
    cases h with
    | made hm =>
      obtain ⟨before, q, name, hnames, hl, -⟩ := makeDirectory_ok hm
      exact .inr ⟨path, List.mem_cons_self, before, q, name, hnames, hl⟩
    | refused => exact .inl rfl
    | aboveFailed _ ha =>
      rw [ha] at habove
      exact habove
    | aboveMade hm ha hm' =>
      rw [ha] at habove
      obtain rfl | hl := habove
      · rw [hm] at hm'
        cases hm'
      · exact .inr hl
    | aboveRefused _ ha =>
      rw [ha] at habove
      exact habove

theorem start_of_begins {text : String} (h : Begins path text) (d : Disk) :
    d.start text = d.start path := by
  rw [start, start, h.absolute]

/-- Making the directories above a path changes nothing unless a name of the path is missing where
the names before it lead. -/
theorem makeParent_lacks (d : Disk) (path : String) :
    (d.makeParent path).2 = d ∨ ∃ above q name below,
      names path = above ++ name :: below ∧ d.Lacks (d.start path) above q name := by
  obtain ⟨answer, hmake⟩ | ⟨parent, hparent, hmake⟩ := makeParent_cases path
  · exact .inl (by rw [hmake])
  · rw [hmake]
    refine (makeEach_lacks d (upward parent)).imp_right ?_
    rintro ⟨text, hmem, above, q, name, hnames, hl⟩
    obtain ⟨last, -, hupward, -⟩ := parent?_eq_some hparent
    have hbegins : Begins path text :=
      begins_of_mem_upward (by rw [hupward]; exact List.mem_cons_of_mem _ hmem)
    obtain ⟨below, hbelow⟩ := hbegins.names
    rw [start_of_begins hbegins] at hl
    exact ⟨above, q, name, below, by rw [hbelow, hnames, ← List.append_cons], hl⟩

end Disk

end ScriptShell
