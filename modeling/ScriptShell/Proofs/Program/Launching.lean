import ScriptShell.Proofs.Program.SearchPath
import ScriptShell.Proofs.Program.Waiting

/-!
# When a child is started

Before a child is started its program is found, and then its path and its arguments are handed over,
which a NUL in one of them prevents (`planInSteps`). `childrenOf` are the children that a launch
starts, as a launch that records them has it; the record changes nothing (`launch_recorded`). What
executing a program comes to is left open. The main statement is `launch_comes_to`: a launch that
fails before starting a child leaves the machine alone, and the one child of a launch that does not
is executed at the path that was found, with the name as typed and all arguments.
-/

namespace ScriptShell.Program

variable {d : Disk} {searchPath : Option String} {program path : String} {run : Invocation}
  {m : Machine}

/-! ## Handing over -/

theorem holdsNul_iff {text : String} : holdsNul text = true ↔ '\x00' ∈ text.toList := by
  rw [holdsNul, List.contains_iff_mem]

theorem not_holdsNul_iff {text : String} : holdsNul text = false ↔ '\x00' ∉ text.toList := by
  rw [← holdsNul_iff, Bool.not_eq_true]

/-- A text as the system takes it: as it is, unless it holds a NUL. -/
def handedOver (program text : String) : Except LaunchError String :=
  if holdsNul text then .error (.nulInArgument program) else .ok text

/-- A plan made in steps: the program is found, its path is handed over, and then its name and one
argument after another. The first step that fails is the failure of the plan. -/
def planInSteps (d : Disk) (searchPath : Option String) (run : Invocation) :
    Except LaunchError Plan := do
  let path ← find d searchPath run.program
  let path ← handedOver run.program path
  let argv ← run.argv.mapM (handedOver run.program)
  pure ⟨path, argv⟩

/-- The first argument with a NUL ends the handing over, wherever it stands. -/
theorem mapM_handedOver (program : String) (texts : List String) :
    texts.mapM (handedOver program) =
      if texts.any holdsNul then .error (.nulInArgument program) else .ok texts := by
  induction texts with
  | nil => rfl
  | cons text texts ih =>
    rw [List.mapM_cons, ih, handedOver, List.any_cons]
    cases holdsNul text with
    | true => rfl
    | false =>
      cases texts.any holdsNul with
      | true => rfl
      | false => rfl

/-- A path that is found has no NUL, so handing it over never fails. -/
theorem plan_eq_planInSteps (d : Disk) (searchPath : Option String) (run : Invocation) :
    plan d searchPath run = planInSteps d searchPath run := by
  rw [plan, planInSteps, mapM_handedOver]
  cases hfind : find d searchPath run.program with
  | error why => rfl
  | ok path =>
    have hpath : handedOver run.program path = .ok path := by
      rw [handedOver, (find_ok_noNul hfind).2, if_neg Bool.false_ne_true]
    simp only [bind, Except.bind, hpath]
    split
    · rfl
    · rfl

/-! ## What is planned -/

/-- What a plan comes to. -/
inductive Plans (d : Disk) (searchPath : Option String) (run : Invocation) :
    Except LaunchError Plan → Prop
  | unfound {why : LaunchError} (search : find d searchPath run.program = .error why) :
      Plans d searchPath run (.error why)
  | nul {path arg : String} (search : find d searchPath run.program = .ok path)
      (given : arg ∈ run.args) (nul : '\x00' ∈ arg.toList) :
      Plans d searchPath run (.error (.nulInArgument run.program))
  | whole {path : String} (search : find d searchPath run.program = .ok path)
      (whole : ∀ text ∈ run.program :: run.args, '\x00' ∉ text.toList) :
      Plans d searchPath run (.ok ⟨path, run.program :: run.args⟩)

theorem plans (d : Disk) (searchPath : Option String) (run : Invocation) :
    Plans d searchPath run (plan d searchPath run) := by
  cases hfind : find d searchPath run.program with
  | error why =>
    rw [plan, hfind]
    exact .unfound hfind
  | ok path =>
    have hprogram : holdsNul run.program = false := (find_ok_noNul hfind).1
    by_cases hargs : ∃ arg ∈ run.args, '\x00' ∈ arg.toList
    · obtain ⟨arg, hmem, hnul⟩ := hargs
      have hany : run.argv.any holdsNul = true :=
        List.any_eq_true.2 ⟨arg, List.mem_cons_of_mem _ hmem, holdsNul_iff.2 hnul⟩
      rw [plan, hfind]
      simp only [bind, Except.bind, hany, if_true]
      exact .nul hfind hmem hnul
    · have hwhole : ∀ arg ∈ run.args, '\x00' ∉ arg.toList :=
        fun arg hmem hnul => hargs ⟨arg, hmem, hnul⟩
      have hplan : plan d searchPath run = .ok ⟨path, run.program :: run.args⟩ :=
        plan_found hfind fun arg hmem => not_holdsNul_iff.2 (hwhole arg hmem)
      rw [hplan]
      exact .whole hfind (List.forall_mem_cons.2 ⟨not_holdsNul_iff.1 hprogram, hwhole⟩)

/-! ## Waiting for the child -/

/-- What a shell learns from waiting for a child that ended so. -/
def statusOf (program : String) (m : Machine) (ending : Ending) : Except LaunchError ExitStatus :=
  if m.forgetsChildren then .error (.waitFailed program .noChild)
  else
    match ending with
    | .exited code => .ok ⟨UInt8.ofNat code⟩
    | .signaled s => .ok ⟨UInt8.ofNat (128 + s.number)⟩

/-- What a launch comes to whose child lived so. -/
def awaited (program : String) (m : Machine) (lived : Ending × Process) :
    Outcome Machine (Except LaunchError ExitStatus) :=
  { answer := statusOf program m lived.1
    state := { m with disk.tree := lived.2.disk.tree }
    output := lived.2.outputs }

/-- However often a wait is interrupted, it ends with what became of the child. -/
theorem waitForChild_waitAnswers (program : String) (m : Machine) (ending : Ending)
    (sent : List Signal) :
    waitForChild program (waitAnswers m ending sent) = some (statusOf program m ending, []) := by
  refine waitForChild_eq_some_iff.2 ⟨_, _, rfl, ?_, ?_⟩
  · intro a ha
    obtain ⟨s, -, rfl⟩ := List.mem_map.1 ha
    exact .interrupted
  · unfold statusOf
    cases m.forgetsChildren with
    | true => exact .failed (by decide)
    | false =>
      cases ending with
      | exited code => exact .exited code
      | signaled s => exact .signaled s.number

/-! ## The children of a launch -/

/-- A launch in which starting a child is left open. -/
def launchWith {M : Type → Type} [Monad M] (start : Plan → M (Ending × Process))
    (run : Invocation) (m : Machine) : M (Outcome Machine (Except LaunchError ExitStatus)) :=
  match plan m.disk m.searchPath? run with
  | .error why => pure { answer := .error why, state := m }
  | .ok plan => do pure (awaited run.program m (← start plan))

/-- A child of a machine before it executes anything. -/
def startOf (m : Machine) : Process := { disk := m.disk, environment := m.environment }

/-- The life of the child that a machine starts by a plan. -/
def lifeOf (x : Execution) (program : String) (m : Machine) (plan : Plan) : Ending × Process :=
  x.child program plan (startOf m)

/-- A launch that records the children it starts. -/
def recordedLaunch (x : Execution) (run : Invocation) (m : Machine) :
    Outcome Machine (Except LaunchError ExitStatus) × List Plan :=
  (launchWith (fun plan => do
    modify (· ++ [plan])
    pure (lifeOf x run.program m plan)) run m : StateM (List Plan) _).run []

/-- The children that a launch starts, by what is executed in them. -/
def childrenOf (x : Execution) (run : Invocation) (m : Machine) : List Plan :=
  (recordedLaunch x run m).2

variable {x : Execution}

theorem launch_eq_launchWith (x : Execution) (run : Invocation) (m : Machine) :
    x.launch run m = Id.run (launchWith (fun plan => pure (lifeOf x run.program m plan)) run m) := by
  rw [Execution.launch, launchWith]
  cases plan m.disk m.searchPath? run with
  | error why => rfl
  | ok plan =>
    simp only [waitForChild_waitAnswers]
    rfl

/-- The record changes nothing. -/
theorem launch_recorded (x : Execution) (run : Invocation) (m : Machine) :
    x.launch run m = (recordedLaunch x run m).1 := by
  rw [launch_eq_launchWith, recordedLaunch, launchWith, launchWith]
  cases plan m.disk m.searchPath? run with
  | error why => rfl
  | ok plan => rfl

theorem launch_unplanned {why : LaunchError} (h : plan m.disk m.searchPath? run = .error why) :
    x.launch run m = { answer := .error why, state := m } ∧ childrenOf x run m = [] := by
  rw [launch_recorded, childrenOf, recordedLaunch, launchWith, h]
  exact ⟨rfl, rfl⟩

theorem launch_planned {plan : Plan} (h : Program.plan m.disk m.searchPath? run = .ok plan) :
    x.launch run m = awaited run.program m (lifeOf x run.program m plan) ∧
      childrenOf x run m = [plan] := by
  rw [launch_recorded, childrenOf, recordedLaunch, launchWith, h]
  exact ⟨rfl, rfl⟩

/-! ## What a launch comes to -/

/-- What a launch comes to: the children that it starts, and its outcome. -/
inductive Launches (x : Execution) (run : Invocation) (m : Machine) :
    List Plan → Outcome Machine (Except LaunchError ExitStatus) → Prop
  | unfound {why : LaunchError} (search : find m.disk m.searchPath? run.program = .error why) :
      Launches x run m [] { answer := .error why, state := m }
  | nul {path arg : String} (search : find m.disk m.searchPath? run.program = .ok path)
      (given : arg ∈ run.args) (nul : '\x00' ∈ arg.toList) :
      Launches x run m [] { answer := .error (.nulInArgument run.program), state := m }
  | started {path : String} (search : find m.disk m.searchPath? run.program = .ok path)
      (whole : ∀ text ∈ run.program :: run.args, '\x00' ∉ text.toList) :
      Launches x run m [⟨path, run.program :: run.args⟩]
        (awaited run.program m (lifeOf x run.program m ⟨path, run.program :: run.args⟩))

theorem launches (x : Execution) (run : Invocation) (m : Machine) :
    Launches x run m (childrenOf x run m) (x.launch run m) := by
  have hplans := plans m.disk m.searchPath? run
  cases hplan : plan m.disk m.searchPath? run with
  | error why =>
    obtain ⟨hlaunch, hchildren⟩ := launch_unplanned hplan
    rw [hlaunch, hchildren]
    rw [hplan] at hplans
    cases hplans with
    | unfound search => exact .unfound search
    | nul search given nul => exact .nul search given nul
  | ok plan =>
    obtain ⟨hlaunch, hchildren⟩ := launch_planned hplan
    rw [hlaunch, hchildren]
    rw [hplan] at hplans
    cases hplans with
    | whole search whole => exact .started search whole

namespace Launches

variable {children : List Plan} {outcome : Outcome Machine (Except LaunchError ExitStatus)}

theorem planned {plan : Plan} (h : Launches x run m children outcome) (hplan : plan ∈ children) :
    ∃ path, find m.disk m.searchPath? run.program = .ok path ∧
      (∀ text ∈ run.program :: run.args, '\x00' ∉ text.toList) ∧
      plan = ⟨path, run.program :: run.args⟩ := by
  cases h with
  | unfound search => cases hplan
  | nul search given nul => cases hplan
  | started search whole => exact ⟨_, search, whole, List.mem_singleton.1 hplan⟩

theorem childless {text : String} (h : Launches x run m children outcome)
    (hmem : text ∈ run.program :: run.args) (hnul : '\x00' ∈ text.toList) : children = [] := by
  cases h with
  | unfound search => rfl
  | nul search given nul => rfl
  | started search whole => exact absurd hnul (whole text hmem)

end Launches

/-- When a launch starts a child, and with what. -/
structure LaunchPlan (x : Execution) (run : Invocation) (m : Machine) : Prop where
  outcome : Launches x run m (childrenOf x run m) (x.launch run m)
  children : ∀ plan, plan ∈ childrenOf x run m ↔
    ∃ path, find m.disk m.searchPath? run.program = .ok path ∧
      (∀ text ∈ run.program :: run.args, '\x00' ∉ text.toList) ∧
      plan = ⟨path, run.program :: run.args⟩
  /-- a NUL anywhere means that there is no child -/
  childless : (∃ text ∈ run.program :: run.args, '\x00' ∈ text.toList) → childrenOf x run m = []
  /-- handing over the path and the arguments one by one fails in the same cases and the same way -/
  inSteps : plan m.disk m.searchPath? run = planInSteps m.disk m.searchPath? run
  recorded : x.launch run m = (recordedLaunch x run m).1
  executed : ∀ path lived, x path (run.program :: run.args) (startOf m) = .ok lived →
    lifeOf x run.program m ⟨path, run.program :: run.args⟩ = lived
  unexecuted : ∀ path why, x path (run.program :: run.args) (startOf m) = .error why →
    lifeOf x run.program m ⟨path, run.program :: run.args⟩ =
      (.exited executionFailed, (startOf m).complain
        ("Failed to execute " ++ run.program ++ ": " ++ why.kernelMessage ++ "\n"))

/-- A launch starts a child just if its program is found and neither the program nor an argument
holds a NUL. The child is executed at the path that was found, with the name as typed and all
arguments. -/
theorem launch_comes_to (x : Execution) (run : Invocation) (m : Machine) : LaunchPlan x run m where
  outcome := launches x run m
  children plan := by
    refine ⟨(launches x run m).planned, ?_⟩
    rintro ⟨path, search, whole, rfl⟩
    have hplan : Program.plan m.disk m.searchPath? run = .ok ⟨path, run.program :: run.args⟩ :=
      plan_found search fun arg hmem =>
        not_holdsNul_iff.2 (whole arg (List.mem_cons_of_mem _ hmem))
    rw [(launch_planned hplan).2]
    exact List.mem_singleton_self _
  childless := fun ⟨_, hmem, hnul⟩ => (launches x run m).childless hmem hnul
  inSteps := plan_eq_planInSteps ..
  recorded := launch_recorded x run m
  executed path lived hlived := by
    rw [lifeOf, Execution.child, hlived]
  unexecuted path why hfails := by
    rw [lifeOf, Execution.child, hfails]

end ScriptShell.Program
