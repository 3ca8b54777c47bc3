import ScriptShell.Config.Seed
import ScriptShell.Proofs.Posix.Writing

/-!
# What seeding leaves alone

Seeding looks whether the configuration exists, makes the directories above it and writes it: three
walks over a tree that the second step changes. What stands in the tree stays there unless the third
walk comes to a file that the first one did not find (`Config.Uncovers`). `Config.seed_keeps_iff` is
the exact condition; it also says that this needs a path that goes up again behind a name that is
missing.
-/

namespace ScriptShell

open FileTree ScriptShell.Path

/-- Following the names from where the path starts comes to a directory. -/
def Disk.Reaches (d : Disk) (path : String) (names : List String) : Prop :=
  ∃ q m, d.tree.walk true linkLimit (d.start path) names = .ok (.found q (.directory m))

/-- Nothing behind a missing name can be reached. -/
theorem Disk.Lacks.not_reaches {d : Disk} {path name : String} {above : List String} {q : Location}
    (h : d.Lacks (d.start path) above q name) (below : List String) :
    ¬ d.Reaches path (above ++ name :: below) := by
  rintro ⟨q', m, hw⟩
  obtain ⟨⟨links', hl⟩, hp, hv⟩ := h
  rw [hl.walk (.inr rfl), walk_vacant hp hv] at hw
  split at hw <;> cases hw

namespace Config

variable {path : String} {templates : List String} {d : Disk} {place : Location} {mode : Nat}
  {content : ByteArray}

/-- The path leads nowhere, but once the directories above it are made, a write to it goes to a file
that stood there before. -/
structure Uncovers (path : String) (d : Disk) (place : Location) (mode : Nat)
    (content : ByteArray) : Prop where
  missing : d.pathExists path = false
  made : (d.makeParent path).1 = .ok ()
  goes : (d.makeParent path).2.writeTarget path = .ok (place, mode)
  stood : d.tree.node? place = some (.file mode content)

/-- The write replaces the content of a file that stood there before. -/
def Overwrites (path : String) (templates : List String) (d : Disk) : Prop :=
  ∃ place mode content, Uncovers path d place mode content ∧
    content ≠ (initialText d templates).toUTF8

/-! ## The three steps -/

/-- What a call comes to: it finds the configuration, or fails on the directories above it or on the
write, which leaves the directories, or writes the text. -/
inductive Seeds (path : String) (templates : List String) (d : Disk) :
    Outcome Disk (Except ConfigError Unit) → Prop
  | present : d.pathExists path = true →
    Seeds path templates d { answer := .ok (), state := d }
  | notMade {d' : Disk} {why : FileError} : d.pathExists path = false →
    d.makeParent path = (.error why, d') →
    Seeds path templates d { answer := .error (.notCreated path why), state := d' }
  | notWritten {d' : Disk} {why : FileError} : d.pathExists path = false →
    d.makeParent path = (.ok (), d') → d'.writeTarget path = .error why →
    Seeds path templates d { answer := .error (.notCreated path why), state := d' }
  | created {d' d'' : Disk} : d.pathExists path = false → d.makeParent path = (.ok (), d') →
    d'.writeText path (initialText d templates) = .ok d'' →
    Seeds path templates d
      { answer := .ok (), state := d'', output := [.event (.configurationCreated path)] }

theorem Seeds.eq {o : Outcome Disk (Except ConfigError Unit)} (h : Seeds path templates d o) :
    seed path templates d = o := by
  rw [seed]
  cases h with
  | present he => rw [if_pos he]
  | notMade he hp => rw [he, if_neg Bool.false_ne_true, hp]
  | notWritten he hp hw =>
    rw [he, if_neg Bool.false_ne_true, hp]
    dsimp only
    rw [Disk.writeText_error hw]
  | created he hp hw =>
    rw [he, if_neg Bool.false_ne_true, hp]
    dsimp only
    rw [hw]

theorem seeds (path : String) (templates : List String) (d : Disk) :
    Seeds path templates d (seed path templates d) := by
  suffices h : ∃ o, Seeds path templates d o by
    obtain ⟨o, ho⟩ := h
    rwa [ho.eq]
  cases he : d.pathExists path with
  | true => exact ⟨_, .present he⟩
  | false =>
    rcases hp : d.makeParent path with ⟨answer, d'⟩
    cases answer with
    | error why => exact ⟨_, .notMade he hp⟩
    | ok =>
      cases hw : d'.writeTarget path with
      | error why => exact ⟨_, .notWritten he hp hw⟩
      | ok target => exact ⟨_, .created he hp (Disk.writeText_target hw _)⟩

/-- The write is made if the path leads nowhere, the directories above it are made and the write has
a place to go to. -/
theorem seed_written (templates : List String) (hm : d.pathExists path = false)
    (hd : (d.makeParent path).1 = .ok ())
    (ht : (d.makeParent path).2.writeTarget path = .ok (place, mode)) :
    (seed path templates d).state.tree = (d.makeParent path).2.tree.insert place
      (.file mode (initialText d templates).toUTF8) := by
  have hp : d.makeParent path = (.ok (), (d.makeParent path).2) := by rw [← hd]
  rw [(Seeds.created hm hp (Disk.writeText_target ht _)).eq]

/-- Seeding makes directories, and after that it may write. -/
theorem seed_cases (path : String) (templates : List String) (d : Disk) :
    Disk.Makes d (seed path templates d).state ∨ ∃ place mode, d.pathExists path = false ∧
      (d.makeParent path).1 = .ok () ∧
      (d.makeParent path).2.writeTarget path = .ok (place, mode) := by
  have hmakes := Disk.makeParent_makes d path
  have h := seeds path templates d
  generalize seed path templates d = o at h ⊢
  cases h with
  | present he => exact .inl (.nothing d)
  | notMade he hp =>
    rw [hp] at hmakes
    exact .inl hmakes
  | notWritten he hp hw =>
    rw [hp] at hmakes
    exact .inl hmakes
  | created he hp hw =>
    obtain ⟨place, mode, ht, -⟩ := Disk.writeText_ok hw
    rw [hp]
    exact .inr ⟨place, mode, he, rfl, ht⟩

/-- What does not stay as it was is a file that the write uncovers. -/
theorem seed_keeps_or_uncovers (path : String) (templates : List String) {n : Node}
    (hn : d.tree.node? place = some n) :
    (seed path templates d).state.tree.node? place = some n ∨
      ∃ mode content, n = .file mode content ∧ Uncovers path d place mode content := by
  obtain hmakes | ⟨target, mode, hm, hd, ht⟩ := seed_cases path templates d
  · exact .inl (hmakes.grown.tree.keeps place n hn)
  · have hg := (Disk.makeParent_makes d path).grown.tree
    rw [seed_written templates hm hd ht]
    by_cases he : place = target
    · subst he
      have hn' := hg.keeps place n hn
      obtain hv | ⟨content, hf⟩ := Disk.writeTarget_ok ht
      · rw [hv] at hn'
        cases hn'
      · obtain rfl : n = .file mode content := Option.some.inj (hn'.symm.trans hf)
        exact .inr ⟨mode, content, rfl, hm, hd, ht, hn⟩
    · rw [node?_insert_other _ _ he]
      exact .inl (hg.keeps place n hn)

/-- An uncovered file has the seeded text afterwards. -/
theorem Uncovers.seeded (h : Uncovers path d place mode content) (templates : List String) :
    (seed path templates d).state.tree.node? place =
      some (.file mode (initialText d templates).toUTF8) := by
  rw [seed_written templates h.missing h.made h.goes]
  refine node?_insert_self _ _ ?_
  rintro rfl
  have := h.stood
  rw [node?_root] at this
  cases this

/-! ## Where a file is uncovered -/

/-- A file is uncovered only if the path goes up behind a name that is missing: what has been made
holds nothing but directories. -/
theorem Uncovers.climbs (h : Uncovers path d place mode content) (hd : d.WellFormed) :
    ∃ before after, names path = before ++ ".." :: after ∧ ¬ d.Reaches path before := by
  have hmakes := Disk.makeParent_makes d path
  have hg := hmakes.grown
  obtain ⟨hs, hfound⟩ := Disk.writeTarget_found (hd.makes hmakes) h.goes
    (hg.tree.keeps _ _ h.stood)
  obtain hsame | ⟨above, q, name, below, hnames, hlacks⟩ := Disk.makeParent_lacks d path
  · -- nothing was made, so the path led to the file from the beginning
    rw [hsame] at hfound
    have hm := h.missing
    rw [Disk.pathExists_of_locate hfound] at hm
    cases hm
  · obtain ⟨⟨links', hl⟩, hp, hv⟩ := hlacks
    obtain ⟨-, hw⟩ := Disk.locate_eq_ok.1 hfound
    rw [hg.start, walkNames, if_neg (by simp [hs]), hnames,
      (hl.grown hg.tree).walk (.inr rfl)] at hw
    have hbelow : ∀ names n, (d.makeParent path).2.tree.node? (q ++ [name] ++ names) = some n →
        ∃ m, n = .directory m := fun names n hn =>
      hg.tree.fresh _ n hn (hd.tree.vacant_below names hv)
    have hup : ".." ∈ below := by
      refine Decidable.byContradiction fun hup => ?_
      cases hn : (d.makeParent path).2.tree.node? (q ++ [name]) with
      | none =>
        rw [walk_vacant hp hn] at hw
        split at hw <;> cases hw
      | some n =>
        obtain ⟨m, rfl⟩ := hbelow [] n (by rwa [List.append_nil])
        rw [walk_directory hp hn] at hw
        obtain ⟨m', hm'⟩ := walk_below hbelow hup hw
        cases hm'
    obtain ⟨between, after, rfl⟩ := List.append_of_mem hup
    exact ⟨above ++ name :: between, after, by rw [hnames]; simp,
      Disk.Lacks.not_reaches ⟨⟨links', hl⟩, hp, hv⟩ between⟩

/-! ## What seeding leaves alone -/

/-- Seeding keeps the whole tree exactly if it does not overwrite an uncovered file. That file is
all it can change, and it takes a path that goes up behind a name that is missing. -/
theorem seed_keeps_iff (path : String) (templates : List String) (d : Disk) :
    (d.tree.Keeps (seed path templates d).state.tree ↔ ¬ Overwrites path templates d) ∧
    (∀ place n, d.tree.node? place = some n →
      (seed path templates d).state.tree.node? place = some n ∨
        ∃ mode content, n = .file mode content ∧ Uncovers path d place mode content) ∧
    (d.WellFormed →
      (∀ before after, names path = before ++ ".." :: after → d.Reaches path before) →
      d.tree.Keeps (seed path templates d).state.tree) := by
  have hkeeps : d.tree.Keeps (seed path templates d).state.tree ↔
      ¬ Overwrites path templates d := by
    constructor
    · rintro hk ⟨place, mode, content, hu, hne⟩
      have hc := (hu.seeded templates).symm.trans (hk place _ hu.stood)
      simp only [Option.some.injEq, Node.file.injEq, true_and] at hc
      exact hne hc.symm
    · intro ho place n hn
      obtain hsame | ⟨mode, content, rfl, hu⟩ := seed_keeps_or_uncovers path templates hn
      · exact hsame
      · have hc : content = (initialText d templates).toUTF8 :=
          Decidable.byContradiction fun hne => ho ⟨place, mode, content, hu, hne⟩
        rw [hc]
        exact hu.seeded templates
  refine ⟨hkeeps, fun place n hn => seed_keeps_or_uncovers path templates hn, fun hd hreaches => ?_⟩
  refine hkeeps.2 ?_
  rintro ⟨place, mode, content, hu, -⟩
  obtain ⟨before, after, hnames, hnot⟩ := hu.climbs hd
  exact hnot (hreaches before after hnames)

/-! ## A file that is overwritten -/

/-- A file, and nothing else. -/
def oneFile : Disk where
  tree := ({} : FileTree).insert ["rc.py"] (.file newFileMode "mine\n".toUTF8)

/-- The file, with an empty directory beside it. -/
def oneFileBeside : Disk where
  tree := oneFile.tree.insert ["new"] (.directory newDirectoryMode)

theorem walk_oneFile (follow : Bool) (name : String) (rest : List String) :
    oneFile.tree.walk follow linkLimit [] ("new" :: name :: rest) = .error .noEntry := by
  rw [walk_vacant ⟨by decide, by decide, by decide⟩ rfl, if_neg (List.cons_ne_nil _ _)]

theorem walk_oneFileBeside (follow : Bool) (rest : List String) :
    oneFileBeside.tree.walk follow linkLimit [] ("new" :: ".." :: rest) =
      oneFileBeside.tree.walk follow linkLimit [] rest := by
  rw [walk_directory ⟨by decide, by decide, by decide⟩ rfl, walk_up]
  rfl

/-- Making what is above the path makes the directory that the path leaves again. -/
theorem makeParent_oneFile : oneFile.makeParent "new/../rc.py" = (.ok (), oneFileBeside) := by
  have hup : ∀ d : Disk, d.directory = [] → ∀ follow, d.tree.walk follow linkLimit
      (d.start "new/..") (names "new/..") = d.tree.walk follow linkLimit [] ["new", ".."] := by
    rintro ⟨tree, directory⟩ rfl follow
    rfl
  have hfirst : oneFile.makeDirectory "new/.." = .error (.system .noEntry) := by
    unfold Disk.makeDirectory
    rw [hup oneFile rfl, walk_oneFile]
    rfl
  have hnew : oneFile.makeDirectory "new" = .ok oneFileBeside := by
    have hw : oneFile.tree.walk false linkLimit [] ["new"] = .ok (.vacant [] "new") :=
      walk_vacant ⟨by decide, by decide, by decide⟩ rfl
    unfold Disk.makeDirectory
    rw [show names "new" = ["new"] from rfl, show oneFile.start "new" = [] from rfl, hw]
    rfl
  have hagain : oneFileBeside.makeDirectory "new/.." = .error (.system .alreadyExists) := by
    unfold Disk.makeDirectory
    rw [hup oneFileBeside rfl, walk_oneFileBeside, walk_nil]
    rfl
  have hthere : oneFileBeside.isDirectory "new/.." = true := by
    unfold Disk.isDirectory Disk.node Disk.locate
    rw [show walkNames "new/.." = names "new/.." from rfl, hup oneFileBeside rfl,
      walk_oneFileBeside, walk_nil]
    rfl
  show oneFile.makeEach ["new/..", "new"] = _
  simp only [Disk.makeEach, hfirst, hnew, hagain, hthere, if_true]

theorem oneFile_uncovers :
    Uncovers "new/../rc.py" oneFile ["rc.py"] newFileMode "mine\n".toUTF8 where
  missing := by
    unfold Disk.pathExists Disk.node Disk.locate
    rw [show walkNames "new/../rc.py" = ["new", "..", "rc.py"] from rfl,
      show oneFile.start "new/../rc.py" = [] from rfl, walk_oneFile]
    rfl
  made := by rw [makeParent_oneFile]
  goes := by
    have hw : oneFileBeside.tree.walk true linkLimit [] ["new", "..", "rc.py"] =
        .ok (.found ["rc.py"] (.file newFileMode "mine\n".toUTF8)) := by
      rw [walk_oneFileBeside, walk_file ⟨by decide, by decide, by decide⟩ rfl, if_pos rfl]
      rfl
    rw [makeParent_oneFile, Disk.writeTarget_eq,
      show Disk.writeNames "new/../rc.py" = ["new", "..", "rc.py"] from rfl,
      show oneFileBeside.start "new/../rc.py" = [] from rfl, hw]
    rfl
  stood := rfl

/-- A well-formed tree does not keep its file when it is seeded at a path that goes through a
directory that is missing and up again. -/
theorem seed_overwrites_behind_missing : oneFile.WellFormed ∧
    ¬ oneFile.tree.Keeps (seed "new/../rc.py" [] oneFile).state.tree := by
  refine ⟨⟨wellFormed_empty.insert (node?_root _) rfl _, _, node?_root _⟩, fun hk => ?_⟩
  have hseeded := oneFile_uncovers.seeded []
  rw [hk _ _ oneFile_uncovers.stood] at hseeded
  revert hseeded
  decide +kernel

end Config

end ScriptShell
