import ScriptShell.Dispatch

/-!
# What each step of a dispatch comes to

One equation for every way a step can end. Proofs about dispatching use these and never unfold the
steps themselves.
-/

namespace ScriptShell

/-- What is noted about a program that has ended: only that it failed. -/
def exitNote (run : Invocation) (status : ExitStatus) : List Output :=
  if status.isSuccess then [] else [.event (.programFailed run.program status.code.toNat)]

namespace Dispatcher

variable {σ : Type} (d : Dispatcher σ) {s : Shared σ}

/-- A program that has run makes no line fail, whatever its exit status. -/
theorem runProgram_ended {run : Invocation} {status : ExitStatus}
    (h : (d.runner.run run s.host).answer = .ok status) :
    d.runProgram run s =
      { answer := .ok .continue
        state := { s with host := (d.runner.run run s.host).state }
        output := (d.runner.run run s.host).output ++ exitNote run status } := by
  by_cases hs : status.isSuccess = true
  · simp [runProgram, h, exitNote, hs]
  · simp [runProgram, h, exitNote, hs]

theorem runProgram_failed {run : Invocation} {why : LaunchError}
    (h : (d.runner.run run s.host).answer = .error why) :
    d.runProgram run s =
      { answer := .error (.launch why)
        state := { s with host := (d.runner.run run s.host).state }
        output := (d.runner.run run s.host).output } := by
  simp [runProgram, h]

theorem callCommand_returned {name : String} {args : List String}
    (h : (d.engine.call name args s).answer = .ok ()) :
    d.callCommand name args s =
      { answer := .ok .continue
        state := (d.engine.call name args s).state
        output := (d.engine.call name args s).output } := by
  simp [callCommand, h]

theorem callCommand_failed {name : String} {args : List String} {why : ScriptError}
    (h : (d.engine.call name args s).answer = .error why) :
    d.callCommand name args s =
      { answer := .error (.command name why)
        state := (d.engine.call name args s).state
        output := (d.engine.call name args s).output } := by
  simp [callCommand, h]

/-- A line is settled and then acted on. -/
theorem dispatchLine_eq (line : String) :
    d.dispatchLine line s =
      { answer := (d.execute (d.resolve line s).answer (d.resolve line s).state).answer
        state := (d.execute (d.resolve line s).answer (d.resolve line s).state).state
        output := (d.resolve line s).output ++ .event .resolvedLine ::
          (d.execute (d.resolve line s).answer (d.resolve line s).state).output } := rfl

end Dispatcher

end ScriptShell
