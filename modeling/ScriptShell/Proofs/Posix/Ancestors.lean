import ScriptShell.Proofs.Posix.Directories

/-!
# Making the directories above a path again

What making the directories above a path makes lies on the way that its steps lead
(`Disk.makeParent_onWay`). Making them again makes nothing, and succeeds if and only if it succeeded
the first time (`Disk.makeParent_again`).
-/

namespace ScriptShell

open FileTree ScriptShell.Path

namespace Disk

variable {d d' : Disk} {path text : String} {p q place : Location} {above l : List String}
  {e : FileError}

/-- From `p`, the names lead to `q`. -/
def LeadsTo (d : Disk) (p : Location) (l : List String) (q : Location) : Prop :=
  ∃ links', Leads d.tree linkLimit p l links' q

theorem LeadsTo.grown (h : d.LeadsTo p l q) (hg : d.Grown d') : d'.LeadsTo p l q := by
  obtain ⟨links', hl⟩ := h
  exact ⟨links', hl.grown hg.tree⟩

/-! ## Directories at the end of a path -/

theorem isDirectory_iff : d.isDirectory path = true ↔
    ∃ place m, d.locate path = .ok (.found place (.directory m)) := by
  unfold isDirectory
  constructor
  · intro h
    split at h
    · next n hn =>
      obtain ⟨place, hl⟩ := node_eq_ok.1 hn
      cases n with
      | directory m => exact ⟨place, m, hl⟩
      | file m c => cases h
      | link target => cases h
    · cases h
  · rintro ⟨place, m, hl⟩
    rw [node_eq_ok.2 ⟨place, hl⟩]
    rfl

/-- A path whose names lead to a directory has a directory at its end. -/
theorem LeadsTo.isDirectory (h : d.LeadsTo (d.start path) (names path) q)
    (hc : checkPath path = .ok ()) (hq : ∃ m, d.tree.node? q = some (.directory m)) :
    d.isDirectory path = true := by
  obtain ⟨links', hl⟩ := h
  obtain ⟨m, hm⟩ := hq
  refine isDirectory_iff.2 ⟨q, m, locate_eq_ok.2 ⟨hc, ?_⟩⟩
  rw [walkNames]
  split
  · exact (hl.trans (.dot (.here links' q))).walk_end hm
  · exact hl.walk_end hm

/-- No directory is made where there is one. -/
theorem makeDirectory_isDirectory (hd : d.WellFormed) (h : d.isDirectory path = true) :
    d.makeDirectory path = .error (.system .alreadyExists) := by
  obtain ⟨place, m, hl⟩ := isDirectory_iff.1 h
  obtain ⟨hc, hw⟩ := locate_eq_ok.1 hl
  have hfound : ∃ q n, d.tree.walk true linkLimit (d.start path) (names path) =
      .ok (.found q n) := by
    rw [walkNames] at hw
    split at hw
    · obtain ⟨links', q, hleads⟩ := walk_leads hw (List.cons_ne_nil _ _)
      obtain ⟨m, hm⟩ := hleads.to_directory hd.tree (hd.start path)
      exact ⟨_, _, hleads.walk_end hm⟩
    · exact ⟨_, _, hw⟩
  obtain ⟨q, n, hw⟩ := hfound
  obtain ⟨q', n', hw'⟩ := walk_unfollowed hw
  unfold makeDirectory
  rw [hc, hw']
  rfl

/-- A directory that is made is what the names of its path lead to from then on, and it is all that
is new. -/
theorem makeDirectory_leadsTo (h : d.makeDirectory path = .ok d') :
    ∃ q, d'.LeadsTo (d.start path) (names path) q ∧ (∃ m, d'.tree.node? q = some (.directory m)) ∧
      ∀ place, d'.tree.node? place ≠ none → d.tree.node? place = none → place = q := by
  have hg := makeDirectory_grown h
  obtain ⟨above, q, name, hnames, ⟨hl, hp, hv⟩, hd'⟩ := makeDirectory_ok h
  have hmade : d'.tree.node? (q ++ [name]) = some (.directory newDirectoryMode) := by
    rw [hd']
    exact node?_insert_self _ _ (ne_root_of_vacant hv)
  obtain ⟨links', hl⟩ := LeadsTo.grown hl hg
  refine ⟨q ++ [name], ⟨links', ?_⟩, ⟨_, hmade⟩, fun place hn hv => ?_⟩
  · rw [hnames]
    exact hl.trans (.directory hp hmade (.here _ _))
  · by_cases he : place = q ++ [name]
    · exact he
    · rw [hd', node?_insert_other _ _ he] at hn
      exact absurd hv hn

theorem makeDirectory_checked (h : d.makeDirectory path = .ok d') : checkPath path = .ok () := by
  unfold makeDirectory at h
  obtain ⟨⟨⟩, hc, -⟩ := bind_eq_ok.1 h
  exact hc

theorem makeDirectory_made (h : d.makeDirectory path = .ok d') : d'.isDirectory path = true := by
  obtain ⟨q, hl, hq, -⟩ := makeDirectory_leadsTo h
  rw [← (makeDirectory_grown h).start] at hl
  exact hl.isDirectory (makeDirectory_checked h) hq

/-! ## Where directories are made -/

/-- What is new is where one of the paths leads. -/
theorem MakesAt.onWay (h : MakesAt l d d') (hnew : d'.tree.node? place ≠ none)
    (hold : d.tree.node? place = none) :
    ∃ path ∈ l, d'.LeadsTo (d.start path) (names path) place := by
  induction h with
  | nothing => exact absurd hold hnew
  | @more d₁ d₂ path h hmem hm ih =>
    by_cases hold₁ : d₁.tree.node? place = none
    · obtain ⟨q, hl, -, hq⟩ := makeDirectory_leadsTo hm
      rw [← hq place hnew hold₁, h.makes.grown.start] at hl
      exact ⟨path, hmem, hl⟩
    · obtain ⟨path', hmem', hl⟩ := ih hold₁
      exact ⟨path', hmem', hl.grown (makeDirectory_grown hm)⟩

/-! ## Making directories again -/

/-- Where the first path has a directory at its end, nothing is made. -/
theorem makeEach_isDirectory (hd : d.WellFormed)
    (h : ∀ path above, l = path :: above → d.isDirectory path = true) :
    d.makeEach l = (.ok (), d) := by
  cases l with
  | nil => rfl
  | cons path above =>
    have hdir := h path above rfl
    rw [(MakesEach.refused (makeDirectory_isDirectory hd hdir) (by decide)).eq, if_pos hdir]

/-- If a path is not refused for its text, neither is one that it begins with. -/
theorem checkPath_of_begins (h : Begins path text) (hne : text ≠ "")
    (hc : checkPath path = .ok ()) : checkPath text = .ok () := by
  obtain ⟨more, rfl⟩ := h.starts
  obtain ⟨hnul, -, hfits⟩ := checkPath_eq_ok.1 hc
  refine checkPath_eq_ok.2 ⟨fun hm => hnul ?_, hne, ?_⟩
  · rw [String.toList_append]
    exact List.mem_append_left _ hm
  · rw [String.utf8ByteSize_append] at hfits
    omega

section

variable (hd : d.WellFormed) (ha : Ascends text above)
include hd ha

/-- Where the names but the last lead somewhere, and the path is not refused for its text, the
directories above are there. -/
theorem makeEach_above_leadsTo (hc : checkPath text = .ok ()) {front : List String} {last : String}
    (hnames : names text = front ++ [last]) (hl : d.LeadsTo (d.start text) front q) :
    d.makeEach above = (.ok (), d) := by
  refine makeEach_isDirectory hd fun path rest habove => ?_
  obtain ⟨hbegins, hne, dots, last', hsplit, hdots⟩ := ha.next path rest habove
  rw [hnames] at hsplit
  obtain ⟨rfl, -⟩ := List.append_inj' hsplit rfl
  -- dots change nothing, so the names of the path above lead there too
  obtain ⟨links', hleads⟩ := hl
  have hredot : withoutDots (names path) = withoutDots (names path ++ dots) := by
    rw [withoutDots_append, hdots, List.append_nil]
  have hleads := hleads.redot hredot
  rw [← start_of_begins hbegins] at hleads
  exact LeadsTo.isDirectory ⟨links', hleads⟩ (checkPath_of_begins hbegins hne hc)
    (hleads.to_directory hd.tree (hd.start _))

theorem makeEach_above_of_made (h : d.makeDirectory text = .ok d') :
    d.makeEach above = (.ok (), d) := by
  obtain ⟨front, q, last, hnames, ⟨hl, -, -⟩, -⟩ := makeDirectory_ok h
  exact makeEach_above_leadsTo hd ha (makeDirectory_checked h) hnames hl

theorem makeEach_above_of_isDirectory (h : d.isDirectory text = true) :
    d.makeEach above = (.ok (), d) := by
  obtain ⟨place, m, hl⟩ := isDirectory_iff.1 h
  obtain ⟨hc, hw⟩ := locate_eq_ok.1 hl
  obtain ⟨front, last, hnames⟩ := ha.names
  rw [walkNames, ha.endsInSlash, if_neg Bool.false_ne_true, hnames] at hw
  obtain ⟨links', q, hleads⟩ := walk_leads hw (List.cons_ne_nil _ _)
  exact makeEach_above_leadsTo hd ha hc hnames ⟨links', hleads⟩

/-- If the directories above cannot be made, none of them, then neither can all. -/
theorem makeEach_error_of_above (hfailed : d.makeEach above = (.error e, d)) :
    ∃ e', d.makeEach (text :: above) = (.error e', d) := by
  have hfails : d.makeEach above ≠ (.ok (), d) := by
    rw [hfailed]
    exact nofun
  cases hm : d.makeDirectory text with
  | ok d' => exact absurd (makeEach_above_of_made hd ha hm) hfails
  | error e' =>
    by_cases he' : e' = .system .noEntry
    · subst he'
      exact ⟨e, (MakesEach.aboveFailed hm hfailed).eq⟩
    · have hdir : ¬ d.isDirectory text = true :=
        fun hdir => hfails (makeEach_above_of_isDirectory hd ha hdir)
      exact ⟨e', by rw [(MakesEach.refused hm he').eq, if_neg hdir]⟩

end

/-- Making the same directories again makes nothing, and comes to an error if and only if it did so
the first time (but it may be another one). -/
theorem makeEach_again (hd : d.WellFormed) (hl : upward path = l)
    {answer : Except FileError Unit} (h : d.makeEach l = (answer, d')) :
    ∃ answer', d'.makeEach l = (answer', d') ∧ (answer' = .ok () ↔ answer = .ok ()) := by
  induction l generalizing path answer d' with
  | nil =>
    cases h
    exact ⟨_, rfl, .rfl⟩
  | cons text above ih =>
    have hascends := ascends hl
    obtain ⟨higher, hhigher⟩ := hascends.higher
    have hd' : d'.WellFormed := by
      have hmakes := makeEach_makes d (text :: above)
      rw [h] at hmakes
      exact hd.makes hmakes
    -- once the directory is there, it is left alone
    have hthere : d'.isDirectory text = true → d'.makeEach (text :: above) = (.ok (), d') :=
      fun hdir => makeEach_isDirectory hd' fun _ _ heq => (List.cons.inj heq).1 ▸ hdir
    obtain ⟨answer₁, d₁, heq, hmakes⟩ := makesEach d text above
    rw [heq] at h
    cases h
    cases hmakes with
    | made hm => exact ⟨_, hthere (makeDirectory_made hm), .rfl⟩
    | refused => exact ⟨_, heq, .rfl⟩
    | aboveFailed _ ha =>
      obtain ⟨answer', ha', hiff⟩ := ih hhigher ha
      cases answer' with
      | ok => cases hiff.1 rfl
      | error e' =>
        obtain ⟨e', h'⟩ := makeEach_error_of_above hd' hascends ha'
        exact ⟨_, h', iff_of_false nofun nofun⟩
    | aboveMade _ _ hm' => exact ⟨_, hthere (makeDirectory_made hm'), .rfl⟩
    | @aboveRefused _ e _ ha hm' =>
      obtain ⟨answer', ha', hiff⟩ := ih hhigher ha
      obtain rfl : answer' = .ok () := hiff.2 rfl
      by_cases he : e = .system .noEntry
      · subst he
        exact ⟨_, (MakesEach.aboveRefused hm' ha' hm').eq, .rfl⟩
      · exact ⟨_, (MakesEach.refused hm' he).eq, .rfl⟩

/-! ## The directories above a path -/

/-- Making the directories above a path again makes nothing, and fails if it failed before. -/
theorem makeParent_again (hd : d.WellFormed) {answer : Except FileError Unit}
    (h : d.makeParent path = (answer, d')) :
    ∃ answer', d'.makeParent path = (answer', d') ∧ (answer' = .ok () ↔ answer = .ok ()) := by
  obtain ⟨always, hmake⟩ | ⟨parent, -, hmake⟩ := makeParent_cases path
  · rw [hmake] at h
    cases h
    exact ⟨_, hmake d, .rfl⟩
  · rw [hmake] at h ⊢
    exact makeEach_again hd rfl h

/-- What making the directories above a path makes stands where some steps of the path lead, but not
all. -/
theorem makeParent_onWay (hnew : (d.makeParent path).2.tree.node? place ≠ none)
    (hold : d.tree.node? place = none) :
    ∃ before after, steps path = before ++ after ∧ after ≠ [] ∧
      (d.makeParent path).2.LeadsTo (d.start path) before place := by
  obtain ⟨answer, hmake⟩ | ⟨parent, hparent, hmake⟩ := makeParent_cases path
  · rw [hmake] at hnew
    exact absurd hold hnew
  · rw [hmake] at hnew ⊢
    obtain ⟨text, hmem, links', hl⟩ := (makeEach_makesAt d (upward parent)).onWay hnew hold
    obtain ⟨first, last, hupward, hsteps⟩ := parent?_eq_some hparent
    obtain ⟨later, hlater⟩ := (begins_of_mem_upward hmem).steps
    have hbegins : Begins path text :=
      begins_of_mem_upward (by rw [hupward]; exact List.mem_cons_of_mem _ hmem)
    rw [start_of_begins hbegins] at hl
    refine ⟨steps text, later ++ [last], by rw [hsteps, hlater, List.append_assoc], by simp,
      links', hl.redot (withoutDots_steps text)⟩

end Disk

end ScriptShell
