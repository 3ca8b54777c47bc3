import ScriptShell.Program.Error
import ScriptShell.Engine.Basic
/-!
# Waiting for a child

The system answers each wait with what became of the child, or with an error. Waiting goes on
until the child is gone or an error other than an interruption comes; a child that stopped or was
continued is still there.
-/

namespace ScriptShell

/-- One answer of the system to a wait. -/
inductive WaitAnswer
  | exited (code : Nat)
  | signaled (signal : Nat)
  /-- the child is still there: it stopped, went on, or the like -/
  | alive
  | failed (why : Errno)
deriving Repr, DecidableEq, Inhabited

namespace WaitAnswer

/-- What an answer says about the child's end; nothing if the child is to be waited for again. -/
def verdict? (program : String) : WaitAnswer → Option (Except LaunchError ExitStatus)
  | .exited code => some (.ok ⟨UInt8.ofNat code⟩)
  | .signaled signal => some (.ok ⟨128 + UInt8.ofNat signal⟩)
  | .alive => none
  | .failed why =>
    if why = .interrupted then none else some (.error (.waitFailed program why))

end WaitAnswer

/-- Waits through the system's answers: the first that decides, and the answers not yet used.
There is no result while none decides. -/
def waitForChild (program : String) :
    List WaitAnswer → Option (Except LaunchError ExitStatus × List WaitAnswer)
  | [] => none
  | a :: rest =>
    match a.verdict? program with
    | some v => some (v, rest)
    | none => waitForChild program rest

end ScriptShell
