import ScriptShell.Program.Launch
import ScriptShell.Proofs.Posix.Disk

/-!
# What a search finds

`LeadsToProgram d path`: links followed, the path leads to a regular file that someone may execute.
A name without a slash finds nothing else. A name with a slash is only asked whether someone may
execute what it leads to, which holds of most directories (`LeadsAstray`). The main statement,
`find_leads_to_program_iff`, says that this is the one way to find what cannot be a program, and
that a name that leads to no program, and not astray, is refused before a child is started.
-/

namespace ScriptShell

open FileTree

namespace Program

/-- Links followed, the path leads to a regular file that someone may execute. -/
def LeadsToProgram (d : Disk) (path : String) : Prop :=
  ∃ place mode content, d.locate path = .ok (.found place (.file mode content)) ∧
    mode &&& 0o111 ≠ 0

/-- The name is a path, and what it leads to has an execute bit but is no regular file. -/
structure LeadsAstray (d : Disk) (program : String) : Prop where
  path : isPath program = true
  other : ∃ place n, d.locate program = .ok (.found place n) ∧ n.isFile = false ∧
    n.isExecutable = true

/-- The paths that a name may stand for, in the order in which they are tried. -/
def candidates (searchPath : Option String) (program : String) : List String :=
  if isPath program then [program] else (searchDirectories searchPath).map (Path.join · program)

/-- The ways to refuse a name that leads to no program. -/
inductive Refuses (program : String) : LaunchError → Prop
  | notFound : Refuses program (.notFound program)
  | noSuchFile : Refuses program (.noSuchFile program)
  | notExecutable : Refuses program (.notExecutable program)

variable {d : Disk} {searchPath : Option String} {program path : String}

/-! ## What a path leads to -/

theorem leadsToProgram_iff :
    LeadsToProgram d path ↔ ∃ n, d.node path = .ok n ∧ n.isFile = true ∧ n.isExecutable = true := by
  constructor
  · rintro ⟨place, mode, content, hl, hm⟩
    exact ⟨_, Disk.node_eq_ok.2 ⟨place, hl⟩, rfl, by simpa [Node.isExecutable, Node.mode] using hm⟩
  · rintro ⟨n, hn, hf, hx⟩
    obtain ⟨place, hl⟩ := Disk.node_eq_ok.1 hn
    cases n with
    | file mode content =>
      exact ⟨place, mode, content, hl, by simpa [Node.isExecutable, Node.mode] using hx⟩
    | directory mode => cases hf
    | link target => cases hf

theorem leadsAstray_iff :
    LeadsAstray d program ↔ isPath program = true ∧
      ∃ n, d.node program = .ok n ∧ n.isFile = false ∧ n.isExecutable = true := by
  constructor
  · rintro ⟨hp, place, n, hl, hf, hx⟩
    exact ⟨hp, n, Disk.node_eq_ok.2 ⟨place, hl⟩, hf, hx⟩
  · rintro ⟨hp, n, hn, hf, hx⟩
    obtain ⟨place, hl⟩ := Disk.node_eq_ok.1 hn
    exact ⟨hp, place, n, hl, hf, hx⟩

/-- The two tests of a candidate look at the same node. -/
theorem isCandidate_iff : isCandidate d path = true ↔ LeadsToProgram d path := by
  rw [isCandidate, Bool.and_eq_true, Disk.isFile_iff, Disk.isExecutable_iff, leadsToProgram_iff]
  constructor
  · rintro ⟨⟨n, hn, hf⟩, n', hn', hx⟩
    obtain rfl : n = n' := Except.ok.inj (hn.symm.trans hn')
    exact ⟨n, hn, hf, hx⟩
  · rintro ⟨n, hn, hf, hx⟩
    exact ⟨⟨n, hn, hf⟩, n, hn, hx⟩

/-- What a path with an execute bit leads to is a program, or leads astray. -/
theorem isExecutable_cases (hp : isPath program = true) :
    d.isExecutable program = true ↔ LeadsToProgram d program ∨ LeadsAstray d program := by
  rw [Disk.isExecutable_iff, leadsToProgram_iff, leadsAstray_iff]
  constructor
  · rintro ⟨n, hn, hx⟩
    cases hf : n.isFile with
    | true => exact .inl ⟨n, hn, hf, hx⟩
    | false => exact .inr ⟨hp, n, hn, hf, hx⟩
  · rintro (⟨n, hn, -, hx⟩ | ⟨-, n, hn, -, hx⟩)
    · exact ⟨n, hn, hx⟩
    · exact ⟨n, hn, hx⟩

/-- In a well-formed tree, a name leads astray to a directory. -/
theorem LeadsAstray.directory (h : LeadsAstray d program) (hd : d.WellFormed) :
    ∃ place mode, d.locate program = .ok (.found place (.directory mode)) := by
  obtain ⟨-, place, n, hl, hf, -⟩ := h
  cases n with
  | file mode content => cases hf
  | directory mode => exact ⟨place, mode, hl⟩
  | link target =>
    have hw := (Disk.locate_eq_ok.1 hl).2
    exact absurd rfl (walk_follows hd.tree (hd.start program) hw target)

/-! ## The two ways to search -/

/-- A path is found if what it leads to has an execute bit. -/
theorem find_path (hp : isPath program = true) :
    find d searchPath program =
      if d.isExecutable program then .ok program
      else if d.pathExists program then .error (.notExecutable program)
      else .error (.noSuchFile program) := by
  rw [find, if_pos hp]
  by_cases hx : d.isExecutable program = true
  · obtain ⟨n, hn, -⟩ := Disk.isExecutable_iff.1 hx
    have he : d.pathExists program = true := Disk.pathExists_iff.2 ⟨n, hn⟩
    simp [hx, he]
  · by_cases he : d.pathExists program = true
    · simp [hx, he]
    · simp [hx, he]

/-- A plain name is found where the first candidate leads to a program. -/
theorem find_name (hp : isPath program = false) :
    find d searchPath program =
      match (candidates searchPath program).find? (isCandidate d) with
      | some path => .ok path
      | none => .error (.notFound program) := by
  rw [find, candidates, hp]
  rfl

/-- What is found is a candidate that leads to a program, or leads astray. -/
theorem find_ok (h : find d searchPath program = .ok path) :
    path ∈ candidates searchPath program ∧
      (LeadsToProgram d path ∨ path = program ∧ LeadsAstray d program) := by
  cases hp : isPath program with
  | true =>
    rw [find_path hp] at h
    split at h
    · next hx =>
      cases h
      refine ⟨by rw [candidates, if_pos hp]; exact List.mem_singleton_self _, ?_⟩
      exact ((isExecutable_cases hp).1 hx).imp_right fun ha => ⟨rfl, ha⟩
    · split at h <;> cases h
  | false =>
    rw [find_name hp] at h
    split at h
    · next found hfound =>
      cases h
      exact ⟨List.mem_of_find?_eq_some hfound,
        .inl (isCandidate_iff.1 (List.find?_some hfound))⟩
    · cases h

theorem find_astray (h : LeadsAstray d program) : find d searchPath program = .ok program := by
  rw [find_path h.path, if_pos ((isExecutable_cases h.path).2 (.inr h))]

/-- A name is refused if no candidate leads to a program and it does not lead astray. -/
theorem find_refused (hc : ∀ path ∈ candidates searchPath program, ¬ LeadsToProgram d path)
    (ha : ¬ LeadsAstray d program) :
    ∃ why, find d searchPath program = .error why ∧ Refuses program why := by
  cases hfind : find d searchPath program with
  | ok path =>
    obtain ⟨hmem, hl | ⟨-, hastray⟩⟩ := find_ok hfind
    · exact absurd hl (hc path hmem)
    · exact absurd hastray ha
  | error why =>
    refine ⟨why, rfl, ?_⟩
    cases hp : isPath program with
    | true =>
      rw [find_path hp] at hfind
      split at hfind
      · cases hfind
      · split at hfind
        · cases hfind
          exact .notExecutable
        · cases hfind
          exact .noSuchFile
    | false =>
      rw [find_name hp] at hfind
      split at hfind
      · cases hfind
      · cases hfind
        exact .notFound

/-! ## What is launched -/

/-- A name that is refused is not planned, and launching it does nothing but say so. -/
theorem launch_refused {m : Machine} {run : Invocation} {why : LaunchError}
    (h : find m.disk m.searchPath? run.program = .error why) :
    plan m.disk m.searchPath? run = .error why ∧
      launch run m = { answer := .error why, state := m } := by
  have hplan : plan m.disk m.searchPath? run = .error why := by
    rw [plan, h]
    rfl
  refine ⟨hplan, ?_⟩
  rw [launch, Execution.launch, hplan]

/-- What leads astray cannot be executed: the child says so and ends. -/
theorem child_astray (h : LeadsAstray d program) (argv : List String) {p : Process}
    (hp : p.disk = d) :
    child program ⟨program, argv⟩ p =
      (.exited executionFailed, p.complain ("Failed to execute " ++ program ++ ": " ++
        Errno.accessDenied.kernelMessage ++ "\n")) := by
  obtain ⟨-, n, hn, hf, -⟩ := leadsAstray_iff.1 h
  have himage : resolveImage p.disk interpreterDepth program argv = .error .accessDenied := by
    rw [hp, resolveImage, hn]
    cases n with
    | file mode content => cases hf
    | directory mode => rfl
    | link target => rfl
  have hexecute : execute program argv p = .error .accessDenied := by
    rw [execute, himage]
    rfl
  rw [child, Execution.child, hexecute]

/-- All that is found leads to a regular file with an execute bit, unless the name leads astray: it
has a slash and leads to something else with an execute bit. Then a child is started in vain. -/
theorem find_leads_to_program_iff (d : Disk) (searchPath : Option String) (program : String) :
    ((∀ path, find d searchPath program = .ok path → LeadsToProgram d path) ↔
      ¬ LeadsAstray d program) ∧
    (LeadsAstray d program →
      find d searchPath program = .ok program ∧
      (d.WellFormed → ∃ place mode, d.locate program = .ok (.found place (.directory mode))) ∧
      ∀ argv (p : Process), p.disk = d → child program ⟨program, argv⟩ p =
        (.exited executionFailed, p.complain ("Failed to execute " ++ program ++ ": " ++
          Errno.accessDenied.kernelMessage ++ "\n"))) ∧
    ((∀ path ∈ candidates searchPath program, ¬ LeadsToProgram d path) →
      ¬ LeadsAstray d program →
      ∃ why, find d searchPath program = .error why ∧ Refuses program why) ∧
    ∀ (m : Machine) (args : List String) (why : LaunchError),
      find m.disk m.searchPath? program = .error why →
      plan m.disk m.searchPath? ⟨program, args⟩ = .error why ∧
        launch ⟨program, args⟩ m = { answer := .error why, state := m } := by
  refine ⟨⟨fun h ha => ?_, fun ha path hfind => ?_⟩, fun ha => ?_, find_refused,
    fun m args why hfind => launch_refused hfind⟩
  · -- one node cannot be a regular file and something else
    obtain ⟨n, hn, hf, -⟩ := leadsToProgram_iff.1 (h program (find_astray ha))
    obtain ⟨-, n', hn', hf', -⟩ := leadsAstray_iff.1 ha
    obtain rfl : n = n' := Except.ok.inj (hn.symm.trans hn')
    rw [hf] at hf'
    cases hf'
  · obtain ⟨-, hl | ⟨-, hastray⟩⟩ := find_ok hfind
    · exact hl
    · exact absurd hastray ha
  · exact ⟨find_astray ha, ha.directory, fun argv p hp => child_astray ha argv hp⟩

/-! ## A directory that is found -/

/-- A directory, and nothing else. -/
def oneDirectory : Disk where
  tree := ({} : FileTree).insert ["d"] (.directory newDirectoryMode)

theorem locate_oneDirectory :
    oneDirectory.locate "./d" = .ok (.found ["d"] (.directory newDirectoryMode)) := by
  refine Disk.locate_eq_ok.2 ⟨rfl, ?_⟩
  rw [show walkNames "./d" = [".", "d"] from rfl, show oneDirectory.start "./d" = [] from rfl,
    walk_dot, walk_directory ⟨by decide, by decide, by decide⟩ rfl, walk_nil]
  rfl

/-- The path of a directory is found, and what it leads to is no program. -/
theorem find_finds_directory : oneDirectory.WellFormed ∧
    find oneDirectory none "./d" = .ok "./d" ∧ ¬ LeadsToProgram oneDirectory "./d" := by
  have hastray : LeadsAstray oneDirectory "./d" :=
    ⟨by decide, _, _, locate_oneDirectory, rfl, by decide⟩
  refine ⟨⟨wellFormed_empty.insert (node?_root _) rfl _, _, node?_root _⟩, find_astray hastray, ?_⟩
  rintro ⟨place, mode, content, hl, -⟩
  rw [locate_oneDirectory] at hl
  cases hl

end Program

end ScriptShell
