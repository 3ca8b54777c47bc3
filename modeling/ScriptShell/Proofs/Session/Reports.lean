import ScriptShell.Proofs.Loop.Reports
import ScriptShell.Proofs.Session.Journal

/-!
# Reports in sessions

The error stream is written to and nothing else. Sessions that differ only in the stream have the
same answers, prompts and reads left over, make the same requests and leave the same states
(`session_reporting`), and they put out the same but for the reports (`session_said`). The main
statement is `session_reports`.
-/

namespace ScriptShell

variable {ε σ : Type}

/-- What shows of a step, what is put out apart. -/
def StepResult.seen (r : StepResult σ) : StepAnswer × Shared σ × List String × List Delivery :=
  (r.answer, r.state, r.prompts, r.unread)

namespace Dispatcher

variable (d : Dispatcher σ) (perform : Perform ε σ)

/-- The errors that are reported in a step: those of lines that a loop has taken. -/
def stepFailures (s : Shared σ) : Step ε → List DispatchError
  | .loop items => d.failures s (linesOf ((d.run items s).taken items))
  | _ => []

/-- The errors that are reported in each step of a session. -/
def sessionFailures (s : Shared σ) : List (Step ε) → List (List DispatchError)
  | [] => []
  | step :: rest =>
    d.stepFailures s step :: sessionFailures (d.step perform s step).state rest

end Dispatcher

/-- No read of the step says anything in the name of the shell. -/
def Step.Quiet : Step ε → Prop
  | .loop items => ∀ item ∈ items, ownErrors item.output = []
  | _ => True

/-- Engine, runner, reads and what is done from outside say nothing in the name of the shell. -/
structure Dispatcher.KeepsQuiet (d : Dispatcher σ) (perform : Perform ε σ)
    (steps : List (Step ε)) : Prop where
  shell : d.Quiet
  direct : ∀ e s, ownErrors (perform e s).output = []
  reads : ∀ step ∈ steps, step.Quiet

/-! ## The same on every stream -/

theorem StepResult.Agrees.seen_eq {r q : StepResult σ} (h : r.Agrees Eq q) : r.seen = q.seen := by
  rw [seen, seen, h.answer, h.state, h.prompts, h.unread]

theorem StepResult.map_seen_eq {l l' : List (StepResult σ)}
    (h : List.Forall₂ (StepResult.Agrees Eq) l l') : l.map seen = l'.map seen := by
  induction h with
  | nil => rfl
  | cons hstep _ ih => rw [List.map_cons, List.map_cons, hstep.seen_eq, ih]

namespace Dispatcher

variable (d : Dispatcher σ) {perform : Perform ε σ}

theorem alike_reporting (stream : ErrorStream) : Alike Eq (d.reporting stream) d where
  home := rfl
  shell := congrArg Shared.shell
  eval line s t h := by
    subst h
    exact ⟨rfl, rfl⟩
  call name args s t h := by
    subst h
    exact ⟨rfl, rfl⟩
  load path s t h := by
    subst h
    exact ⟨rfl, rfl⟩
  run run s t h := by
    subst h
    exact ⟨rfl, rfl⟩

/-- Nothing that shows of a session depends on the error stream. -/
theorem session_reporting (stream : ErrorStream) (s : Shared σ) (steps : List (Step ε)) :
    ((d.reporting stream).session perform s steps).map StepResult.seen =
      (d.session perform s steps).map StepResult.seen := by
  refine StepResult.map_seen_eq ((d.alike_reporting stream).session (fun x s t h => ?_) rfl steps)
  subst h
  exact ⟨rfl, rfl⟩

theorem step_reporting (stream : ErrorStream) (s : Shared σ) (step : Step ε) :
    ((d.reporting stream).step perform s step).state = (d.step perform s step).state := by
  refine ((d.alike_reporting stream).step (fun x s t h => ?_) rfl step).state
  subst h
  exact ⟨rfl, rfl⟩

/-! ## What is put out -/

variable {d}

namespace Quiet

variable (h : d.Quiet)
include h

theorem loadFirst (paths : List String) (s : Shared σ) :
    ownErrors (Config.loadFirst d.engine paths s).output = [] := by
  induction paths generalizing s with
  | nil => rfl
  | cons path rest ih =>
    rw [Config.loadFirst]
    dsimp only
    cases (d.engine.load path s).answer with
    | ok _ => rw [ownErrors_append, h.load path s]; rfl
    | error why => rw [ownErrors_append, h.load path s, ownErrors_event, ih]; rfl

theorem configure (preloads : List String) (userConfig : String) (s : Shared σ) :
    ownErrors (Config.load d.engine preloads userConfig s).output = [] := by
  rw [Config.load]
  dsimp only
  rw [ownErrors_append, ownErrors_append, h.loadFirst preloads s, h.load userConfig]
  split <;> rfl

end Quiet

/-- Only loops report, and only the errors of lines that fail. -/
theorem step_said (perform : Perform ε σ) (s : Shared σ) (step : Step ε) :
    ReportsOnly (d.KeepsQuiet perform [step]) (d.stepFailures s step)
      fun stream => ((d.reporting stream).step perform s step).output := by
  cases step with
  | direct e => exact .of_same (fun _ => rfl) rfl fun hq => hq.direct e s
  | eval line => exact .of_same (fun _ => rfl) rfl fun hq => hq.shell.eval line s
  | call name args => exact .of_same (fun _ => rfl) rfl fun hq => hq.shell.call name args s
  | load path => exact .of_same (fun _ => rfl) rfl fun hq => hq.shell.load path s
  | configure preloads userConfig =>
    exact .of_same (fun _ => rfl) rfl fun hq => hq.shell.configure preloads userConfig s
  | resolve line => exact .of_same (fun _ => rfl) rfl fun hq => hq.shell.resolve line s
  | dispatch line => exact .of_same (fun _ => rfl) rfl fun hq => hq.shell.dispatchLine line s
  | loop items =>
    obtain ⟨said, herrors, houtput, hquiet⟩ := run_said (d := d) items s
    exact ⟨said, herrors, houtput,
      fun hq => hquiet ⟨hq.shell, hq.reads _ (List.mem_singleton_self _)⟩⟩

theorem session_said (perform : Perform ε σ) (s : Shared σ) (steps : List (Step ε)) :
    ∃ said : List (List Remark), said.map Remark.errors = d.sessionFailures perform s steps ∧
      (∀ stream, ((d.reporting stream).session perform s steps).map StepResult.output =
        said.map fun remarks => remarks.map (Remark.on stream)) ∧
      (d.KeepsQuiet perform steps → ∀ remarks ∈ said, ownErrors (Remark.others remarks) = []) := by
  induction steps generalizing s with
  | nil => exact ⟨[], rfl, fun _ => rfl, fun _ _ h => absurd h List.not_mem_nil⟩
  | cons step rest ih =>
    obtain ⟨remarks, herrors, houtput, hquiet⟩ := step_said (d := d) perform s step
    obtain ⟨said, herrors', houtput', hquiet'⟩ := ih (d.step perform s step).state
    refine ⟨remarks :: said, ?_, fun stream => ?_, fun hquiets => ?_⟩
    · rw [List.map_cons, sessionFailures, herrors, herrors']
    · have hstate : ((d.reporting stream).step perform s step).state =
          (d.step perform s step).state := d.step_reporting stream s step
      have hout : ((d.reporting stream).step perform s step).output =
          remarks.map (Remark.on stream) := houtput stream
      rw [session, List.map_cons, List.map_cons, hout, hstate, houtput' stream]
    · obtain ⟨hstep, hrest⟩ := List.forall_mem_cons.1 hquiets.reads
      refine List.forall_mem_cons.2
        ⟨hquiet ⟨hquiets.shell, hquiets.direct, ?_⟩, hquiet' ⟨hquiets.shell, hquiets.direct, hrest⟩⟩
      exact List.forall_mem_singleton.2 hstep

/-- If nothing else is said in the name of the shell, the reports are all that is. -/
theorem ownErrors_session {perform : Perform ε σ} {steps : List (Step ε)} (s : Shared σ)
    (hquiet : d.KeepsQuiet perform steps) (stream : ErrorStream) :
    ((d.reporting stream).session perform s steps).map (fun r => ownErrors r.output) =
      (d.sessionFailures perform s steps).map fun errors =>
        errors.filterMap fun e => (stream.write e).ownError? := by
  obtain ⟨said, herrors, houtput, hothers⟩ := session_said (d := d) perform s steps
  have hmap := congrArg (List.map ownErrors) (houtput stream)
  rw [List.map_map, List.map_map] at hmap
  rw [← herrors, List.map_map]
  refine hmap.trans (List.map_congr_left fun remarks hr => ?_)
  exact Remark.ownErrors_on (hothers hquiet remarks hr) stream

theorem ownErrors_session_lines {perform : Perform ε σ} {steps : List (Step ε)} (s : Shared σ)
    (hquiet : d.KeepsQuiet perform steps) {stream : ErrorStream} {text : DispatchError → String}
    (htext : ∀ e, (stream.write e).ownError? = some (text e)) :
    ((d.reporting stream).session perform s steps).map (fun r => ownErrors r.output) =
      (d.sessionFailures perform s steps).map fun errors => errors.map text := by
  rw [ownErrors_session s hquiet]
  refine List.map_congr_left fun errors _ => ?_
  rw [← List.filterMap_eq_map]
  exact List.filterMap_congr fun e _ => htext e

end Dispatcher

/-! ## Scripts given by their effects -/

theorem Effect.ownErrors_performAll (effects : List Effect) (s : Shared EffectHost) :
    ownErrors (performAll effects s).output = [] := by
  induction effects generalizing s with
  | nil => rfl
  | cons e rest ih =>
    cases e with
    | prompt text => exact ih _
    | «alias» trigger expansion => exact ih _
    | announce name => exact ih _
    | register name handler => exact ih _
    | fail why => rfl

/-- Scripts given by their effects say nothing in the name of the shell. -/
theorem quiet_effectShell {τ : Type} {runner : Runner (EffectHost × τ)}
    (hrun : ∀ run host, ownErrors (runner.run run host).output = []) (home : String)
    (errors : ErrorStream) : (effectShell runner home errors).Quiet where
  eval line s := by
    have heval : ownErrors (effectEngine.eval line s.first).output = [] := by
      unfold effectEngine
      dsimp only
      split
      · rfl
      · cases s.first.host.scripts.lookup line with
        | none => rfl
        | some effects => exact Effect.ownErrors_performAll effects _
    exact heval
  call name args s := by
    have hcall : ownErrors (effectEngine.call name args s.first).output = [] := by
      unfold effectEngine
      dsimp only
      split
      · rfl
      · exact Effect.ownErrors_performAll _ _
    exact hcall
  load path s := by
    have hload : ownErrors (effectEngine.load path s.first).output = [] := by
      unfold effectEngine
      dsimp only
      split
      · rfl
      · exact Effect.ownErrors_performAll _ _
    exact hload
  run := hrun

/-- So sessions of theirs keep quiet if programs and reads do. -/
theorem keepsQuiet_effectShell {τ : Type} {runner : Runner (EffectHost × τ)}
    (hrun : ∀ run host, ownErrors (runner.run run host).output = []) (home : String)
    (errors : ErrorStream) {steps : List (Step (List Effect))}
    (hreads : ∀ step ∈ steps, step.Quiet) :
    (effectShell runner home errors).KeepsQuiet Effect.direct steps where
  shell := quiet_effectShell hrun home errors
  direct effects s := Effect.ownErrors_performAll effects s.first
  reads := hreads

/-! ## The reports of a session -/

namespace Dispatcher

/-- What a session shows of its error stream. -/
structure SessionReports (d : Dispatcher σ) (perform : Perform ε σ)
    (performTraced : Perform ε (σ × List Request)) (s : Shared σ) (past : List Request)
    (steps : List (Step ε)) : Prop where
  /-- answers, states, prompts and reads left over are the same on every stream -/
  seen : ∀ stream, ((d.reporting stream).session perform s steps).map StepResult.seen =
    (d.session perform s steps).map StepResult.seen
  /-- and so are the requests -/
  requests : ∀ stream,
    ((d.reporting stream).recorded.session performTraced (s.withNotes past) steps).map
        StepResult.seen =
      (d.recorded.session performTraced (s.withNotes past) steps).map StepResult.seen
  /-- what is put out differs in the reports alone, one for each line that fails in a loop -/
  output : ∃ said : List (List Remark), said.map Remark.errors = d.sessionFailures perform s steps ∧
    ∀ stream, ((d.reporting stream).session perform s steps).map StepResult.output =
      said.map fun remarks => remarks.map (Remark.on stream)
  plain : d.KeepsQuiet perform steps →
    ((d.reporting .plain).session perform s steps).map (fun r => ownErrors r.output) =
      (d.sessionFailures perform s steps).map fun errors =>
        errors.map fun e => "gil: " ++ e.message ++ "\n"
  terminal : d.KeepsQuiet perform steps →
    ((d.reporting .terminal).session perform s steps).map (fun r => ownErrors r.output) =
      (d.sessionFailures perform s steps).map fun errors =>
        errors.map fun e => "\x1b[38;5;9m" ++ ("gil: " ++ e.message) ++ "\x1b[39m" ++ "\n"
  full : d.KeepsQuiet perform steps →
    ((d.reporting .full).session perform s steps).map (fun r => ownErrors r.output) =
      (d.sessionFailures perform s steps).map fun _ => []

/-- The error stream is written to and nothing else: whatever it is, a session comes to the same, and
only the reports differ. -/
theorem session_reports (d : Dispatcher σ) (perform : Perform ε σ)
    (performTraced : Perform ε (σ × List Request)) (s : Shared σ) (past : List Request)
    (steps : List (Step ε)) : SessionReports d perform performTraced s past steps where
  seen stream := d.session_reporting stream s steps
  requests stream := d.recorded.session_reporting stream (s.withNotes past) steps
  output := by
    obtain ⟨said, herrors, houtput, -⟩ := session_said (d := d) perform s steps
    exact ⟨said, herrors, houtput⟩
  plain hquiet := by
    refine ownErrors_session_lines s hquiet fun e => ?_
    rw [ErrorStream.write_plain]
    rfl
  terminal hquiet := by
    refine ownErrors_session_lines s hquiet fun e => ?_
    rw [ErrorStream.write_terminal]
    rfl
  full hquiet := by
    rw [ownErrors_session s hquiet]
    refine List.map_congr_left fun errors _ => List.filterMap_eq_nil_iff.2 fun e _ => ?_
    rw [ErrorStream.write_full]
    rfl

/-- A shell that finds no program. -/
def barrenShell : Dispatcher (EffectHost × Unit) :=
  effectShell { run := fun run host => { answer := .error (.notFound run.program), state := host } }
    "/home/u" .plain

/-- A command that fails and a program that is not found, in a loop and then outside of it. -/
def failingSteps : List (Step (List Effect)) :=
  [.direct [.register "greet" [.fail (.runtime "first\nsecond")]],
    .loop [{ read := .line "greet" }, { read := .line "nope x" }], .dispatch "nope x"]

theorem session_reports_on_terminal :
    ((barrenShell.reporting .terminal).session Effect.direct ⟨({}, ()), {}⟩ failingSteps).map
        (fun r => ownErrors r.output) =
      [[], ["\x1b[38;5;9mgil: greet: first\nsecond\x1b[39m\n",
        "\x1b[38;5;9mgil: nope: command not found\x1b[39m\n"], []] := by
  have hquiet : barrenShell.KeepsQuiet Effect.direct failingSteps :=
    keepsQuiet_effectShell (fun _ _ => rfl) "/home/u" .plain
      (by simp [failingSteps, Step.Quiet, ownErrors])
  have hreports := session_reports barrenShell Effect.direct
    (fun effects s => (Effect.direct effects s.first).withNotes s.host.2) ⟨({}, ()), {}⟩ []
    failingSteps
  rw [hreports.terminal hquiet]
  rfl

end Dispatcher

end ScriptShell
