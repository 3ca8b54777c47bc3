import ScriptShell.Proofs.Engine.Recorded
import ScriptShell.Proofs.Resolution.Order

/-!
# One line, one action

`Reads home line shell action`: the documented order of the readings of a line that is no script
code, as rules. `Carried d s action o`: carrying out an action in a state comes to the outcome `o`.
The main statement is `dispatchLine_one_action`: a line is evaluated once, and if that fails the one
action that the rules give it in the state left behind is carried out, with nothing asked of engine
and runner beyond it.
-/

namespace ScriptShell

/-- What is left to do about a line that is no script code. -/
inductive Action
  | nothing
  | run (invocation : Invocation)
  | call (name : String) (args : List String)
  | exit
deriving Repr, DecidableEq

/-- What an action asks of engine and runner. -/
def Action.requests : Action → List Request
  | .nothing | .exit => []
  | .run invocation => [.run invocation]
  | .call name args => [.call name args]

theorem Action.requests_length_le (a : Action) : a.requests.length ≤ 1 := by
  cases a <;> simp [Action.requests]

/-- The readings of a line in their order: blank, alias, registered command, `exit`, program. -/
inductive Reads (home line : String) (shell : ShellState) : Action → Prop
  | blank (hl : Line.arguments home line = []) : Reads home line shell .nothing
  /-- an alias whose rewritten line is blank -/
  | aliasBlank {first : String} {others : List String} {expansion : String}
      (hl : Line.arguments home line = first :: others)
      (ha : shell.aliases.get? first = some expansion)
      (hw : Line.arguments home (Line.replaceLeadingWord line expansion) = []) :
      Reads home line shell .nothing
  /-- the rewritten line is run as it is, whatever its first argument names -/
  | alias {first : String} {others : List String} {expansion program : String} {args : List String}
      (hl : Line.arguments home line = first :: others)
      (ha : shell.aliases.get? first = some expansion)
      (hw : Line.arguments home (Line.replaceLeadingWord line expansion) = program :: args) :
      Reads home line shell (.run ⟨program, args⟩)
  | command {first : String} {others : List String}
      (hl : Line.arguments home line = first :: others) (ha : shell.aliases.get? first = none)
      (hc : first ∈ shell.commands.members) : Reads home line shell (.call first others)
  | exit {others : List String} (hl : Line.arguments home line = exitWord :: others)
      (ha : shell.aliases.get? exitWord = none) (hc : exitWord ∉ shell.commands.members) :
      Reads home line shell .exit
  | program {first : String} {others : List String}
      (hl : Line.arguments home line = first :: others) (ha : shell.aliases.get? first = none)
      (hc : first ∉ shell.commands.members) (he : first ≠ exitWord) :
      Reads home line shell (.run ⟨first, others⟩)

section
variable {σ : Type}

/-- What carrying out an action comes to. -/
inductive Carried (d : Dispatcher σ) (s : Shared σ) :
    Action → Outcome (Shared σ) (Except DispatchError Flow) → Prop
  | nothing : Carried d s .nothing { answer := .ok .continue, state := s }
  | exit : Carried d s .exit { answer := .ok .exit, state := s }
  /-- a program that has run; its exit status matters for the log only -/
  | ran {i : Invocation} {status : ExitStatus} (h : (d.runner.run i s.host).answer = .ok status) :
      Carried d s (.run i)
        { answer := .ok .continue
          state := { s with host := (d.runner.run i s.host).state }
          output := (d.runner.run i s.host).output ++ exitNote i status }
  | notRun {i : Invocation} {why : LaunchError} (h : (d.runner.run i s.host).answer = .error why) :
      Carried d s (.run i)
        { answer := .error (.launch why)
          state := { s with host := (d.runner.run i s.host).state }
          output := (d.runner.run i s.host).output }
  | called {name : String} {args : List String}
      (h : (d.engine.call name args s).answer = .ok ()) :
      Carried d s (.call name args)
        { answer := .ok .continue
          state := (d.engine.call name args s).state
          output := (d.engine.call name args s).output }
  | callFailed {name : String} {args : List String} {why : ScriptError}
      (h : (d.engine.call name args s).answer = .error why) :
      Carried d s (.call name args)
        { answer := .error (.command name why)
          state := (d.engine.call name args s).state
          output := (d.engine.call name args s).output }

end

/-! ## The rules give each line one action -/

/-- The action that a resolution stands for. -/
def Resolution.action : Resolution → Action
  | .script | .empty => .nothing
  | .alias run | .external run => .run run
  | .command name args => .call name args
  | .exit => .exit

variable {home line : String} {shell : ShellState}

theorem Reads.eq_action {action : Action} (h : Reads home line shell action) :
    action = (Resolution.ofLine home line shell).action := by
  cases h with
  | blank hl => rw [Resolution.ofLine_blank hl]; rfl
  | aliasBlank hl ha hw => rw [Resolution.ofLine_alias hl ha, hw]; rfl
  | «alias» hl ha hw => rw [Resolution.ofLine_alias hl ha, hw]; rfl
  | command hl ha hc => rw [Resolution.ofLine_command hl ha hc]; rfl
  | exit hl ha hc => rw [Resolution.ofLine_exit hl ha hc]; rfl
  | program hl ha hc he => rw [Resolution.ofLine_external hl ha hc he]; rfl

theorem Reads.total (home line : String) (shell : ShellState) :
    ∃ action, Reads home line shell action := by
  cases hl : Line.arguments home line with
  | nil => exact ⟨_, .blank hl⟩
  | cons first others =>
    cases ha : shell.aliases.get? first with
    | some expansion =>
      cases hw : Line.arguments home (Line.replaceLeadingWord line expansion) with
      | nil => exact ⟨_, .aliasBlank hl ha hw⟩
      | cons program args => exact ⟨_, .alias hl ha hw⟩
    | none =>
      by_cases hc : first ∈ shell.commands.members
      · exact ⟨_, .command hl ha hc⟩
      by_cases he : first = exitWord
      · subst he
        exact ⟨_, .exit hl ha hc⟩
      · exact ⟨_, .program hl ha hc he⟩

/-- The action of the resolution is the one the rules give. -/
theorem reads_ofLine : Reads home line shell (Resolution.ofLine home line shell).action := by
  obtain ⟨action, h⟩ := Reads.total home line shell
  exact h.eq_action ▸ h

theorem reads_iff {action : Action} :
    Reads home line shell action ↔ action = (Resolution.ofLine home line shell).action :=
  ⟨Reads.eq_action, fun h => h ▸ reads_ofLine⟩

/-! ## What an action can come to -/

section
variable {σ : Type} {d : Dispatcher σ} {s : Shared σ} {action : Action}
  {o : Outcome (Shared σ) (Except DispatchError Flow)}

/-- Only the action `exit` ends the shell. -/
theorem Carried.answer_exit_iff (h : Carried d s action o) : o.answer = .ok .exit ↔ action = .exit := by
  cases h <;> simp

/-- A line fails with the failure of its one call. -/
theorem Carried.answer_error_iff {e : DispatchError} (h : Carried d s action o) :
    o.answer = .error e ↔
      (∃ i why, action = .run i ∧ (d.runner.run i s.host).answer = .error why ∧ e = .launch why) ∨
      ∃ name args why, action = .call name args ∧
        (d.engine.call name args s).answer = .error why ∧ e = .command name why := by
  cases h with
  | nothing => simp
  | exit => simp
  | ran h => simp [h]
  | notRun h => simp [h, eq_comm]
  | called h => simp [h]
  | @callFailed name args why h =>
    constructor
    · intro he
      exact .inr ⟨name, args, why, rfl, h, (Except.error.inj he).symm⟩
    · rintro (⟨_, _, ha, _⟩ | ⟨_, _, why', ha, hw, rfl⟩)
      · cases ha
      · cases ha
        rw [h] at hw
        cases hw
        rfl

end

/-! ## Carrying it out -/

namespace Dispatcher

variable {σ : Type} (d : Dispatcher σ)

theorem requestsOf_eq (r : Resolution) : requestsOf r = r.action.requests := by
  cases r <;> rfl

theorem carried_execute (r : Resolution) (s : Shared σ) : Carried d s r.action (d.execute r s) := by
  have hrun : ∀ i, Carried d s (.run i) (d.runProgram i s) := by
    intro i
    cases h : (d.runner.run i s.host).answer with
    | error why => rw [runProgram_failed d h]; exact .notRun h
    | ok status => rw [runProgram_ended d h]; exact .ran h
  cases r with
  | script => exact .nothing
  | empty => exact .nothing
  | exit => exact .exit
  | «alias» run => exact hrun run
  | external run => exact hrun run
  | command name args =>
    cases h : (d.engine.call name args s).answer with
    | error why =>
      have he : d.execute (.command name args) s = _ := callCommand_failed d h
      rw [he]
      exact .callFailed h
    | ok u =>
      have he : d.execute (.command name args) s = _ := callCommand_returned d h
      rw [he]
      exact .called h

variable {d} {s : Shared σ}

theorem dispatchLine_accepted (h : (d.engine.eval line s).answer = .ok ()) :
    d.dispatchLine line s =
        { answer := .ok .continue
          state := (d.engine.eval line s).state
          output := (d.engine.eval line s).output ++ [.event .resolvedLine] } ∧
      d.requests line s = [.script line] := by
  rw [dispatchLine_eq, requests, resolve, Engine.resolve_accepted h]
  exact ⟨rfl, rfl⟩

theorem dispatchLine_rejected {why : ScriptError} (h : (d.engine.eval line s).answer = .error why)
    {action : Action} (hr : Reads d.home line (d.engine.eval line s).state.shell action) :
    ∃ o, Carried d (d.engine.eval line s).state action o ∧
      d.dispatchLine line s =
        { answer := o.answer
          state := o.state
          output := (d.engine.eval line s).output ++
            .event (.notScriptCode why) :: .event .resolvedLine :: o.output } ∧
      d.requests line s = .script line :: action.requests := by
  refine ⟨_, hr.eq_action ▸ d.carried_execute _ _, ?_, ?_⟩
  · rw [dispatchLine_eq, resolve, Engine.resolve_rejected h, List.append_assoc]
    rfl
  · rw [requests, resolve, Engine.resolve_rejected h, requestsOf_eq, hr.eq_action]

variable (d) in
/-- A line is evaluated once. If that fails, its one action is carried out in the state left behind:
at most one call of engine or runner, of which alone the line can fail. -/
theorem dispatchLine_one_action (line : String) (s : Shared σ) (past : List Request) :
    (∃ calls, calls.length ≤ 1 ∧
      d.recorded.dispatchLine line (s.withNotes past) =
        (d.dispatchLine line s).withNotes (past ++ .script line :: calls)) ∧
    ((d.engine.eval line s).answer = .ok () →
      d.recorded.dispatchLine line (s.withNotes past) =
        Outcome.withNotes
          { answer := .ok .continue
            state := (d.engine.eval line s).state
            output := (d.engine.eval line s).output ++ [.event .resolvedLine] }
          (past ++ [.script line])) ∧
    (∀ why, (d.engine.eval line s).answer = .error why →
      ∃ action o, Reads d.home line (d.engine.eval line s).state.shell action ∧
        (∀ other, Reads d.home line (d.engine.eval line s).state.shell other → other = action) ∧
        Carried d (d.engine.eval line s).state action o ∧
        d.recorded.dispatchLine line (s.withNotes past) =
          Outcome.withNotes
            { answer := o.answer
              state := o.state
              output := (d.engine.eval line s).output ++
                .event (.notScriptCode why) :: .event .resolvedLine :: o.output }
            (past ++ .script line :: action.requests)) ∧
    ((d.dispatchLine line s).answer = .ok .exit ↔
      ∃ why, (d.engine.eval line s).answer = .error why ∧
        Reads d.home line (d.engine.eval line s).state.shell .exit) ∧
    ∀ e, (d.dispatchLine line s).answer = .error e ↔
      ∃ why action, (d.engine.eval line s).answer = .error why ∧
        Reads d.home line (d.engine.eval line s).state.shell action ∧
        ((∃ i cause, action = .run i ∧
            (d.runner.run i (d.engine.eval line s).state.host).answer = .error cause ∧
            e = .launch cause) ∨
          ∃ name args cause, action = .call name args ∧
            (d.engine.call name args (d.engine.eval line s).state).answer = .error cause ∧
            e = .command name cause) := by
  have hrec := d.dispatchLine_recorded line s past
  cases ht : (d.engine.eval line s).answer with
  | ok u =>
    obtain ⟨heq, hreq⟩ := dispatchLine_accepted ht
    rw [hreq] at hrec
    refine ⟨⟨[], by simp, hrec⟩, fun _ => by rw [hrec, heq], by simp, ?_, fun e => ?_⟩
    · simp [heq]
    · simp [heq]
  | error why =>
    obtain ⟨action, hr⟩ := Reads.total d.home line (d.engine.eval line s).state.shell
    have hunique : ∀ other, Reads d.home line (d.engine.eval line s).state.shell other →
        other = action := fun other ho => (reads_iff.1 ho).trans (reads_iff.1 hr).symm
    obtain ⟨o, hc, heq, hreq⟩ := dispatchLine_rejected ht hr
    have hanswer : (d.dispatchLine line s).answer = o.answer := by rw [heq]
    rw [hreq] at hrec
    refine ⟨⟨action.requests, action.requests_length_le, hrec⟩, by simp, fun why' hw => ?_, ?_,
      fun e => ?_⟩
    · obtain rfl : why = why' := by simpa using hw
      exact ⟨action, o, hr, hunique, hc, by rw [hrec, heq]⟩
    · rw [hanswer, hc.answer_exit_iff]
      constructor
      · rintro rfl
        exact ⟨why, rfl, hr⟩
      · rintro ⟨-, -, he⟩
        exact (hunique _ he).symm
    · rw [hanswer, hc.answer_error_iff]
      constructor
      · intro h
        exact ⟨why, action, rfl, hr, h⟩
      · rintro ⟨-, other, -, ho, h⟩
        rwa [hunique other ho] at h

end Dispatcher

end ScriptShell
