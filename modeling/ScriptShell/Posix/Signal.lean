/-!
# Signals

A signal has a number and a default action. A process that is sent one takes the default action
unless it traps or ignores the signal; nothing keeps a process from being killed.
-/

namespace ScriptShell

/-- A signal, by its number. -/
structure Signal where
  number : Nat
deriving Repr, DecidableEq, Inhabited

/-- What a signal does to a process that made no arrangement for it. -/
inductive SignalAction
  | terminate | ignore | stop
deriving Repr, DecidableEq, Inhabited

namespace Signal

/-- The names of the signals, with their numbers. -/
def named : List (String × Nat) :=
  [("HUP", 1), ("INT", 2), ("QUIT", 3), ("ILL", 4), ("TRAP", 5), ("ABRT", 6), ("BUS", 7),
    ("FPE", 8), ("KILL", 9), ("USR1", 10), ("SEGV", 11), ("USR2", 12), ("PIPE", 13),
    ("ALRM", 14), ("TERM", 15), ("STKFLT", 16), ("CHLD", 17), ("CONT", 18), ("STOP", 19),
    ("TSTP", 20), ("TTIN", 21), ("TTOU", 22), ("URG", 23), ("XCPU", 24), ("XFSZ", 25),
    ("VTALRM", 26), ("PROF", 27), ("WINCH", 28), ("IO", 29), ("PWR", 30), ("SYS", 31)]

/-- The signal of this name. -/
def ofName? (name : String) : Option Signal := (named.lookup name).map (⟨·⟩)

def interrupt : Signal := ⟨2⟩
def kill : Signal := ⟨9⟩
def user1 : Signal := ⟨10⟩
def brokenPipe : Signal := ⟨13⟩
def terminate : Signal := ⟨15⟩

/-- The default action. -/
def action (s : Signal) : SignalAction :=
  if s.number ∈ [17, 18, 23, 28] then .ignore
  else if s.number ∈ [19, 20, 21, 22] then .stop
  else .terminate

end Signal

/-- How a process ended. -/
inductive Ending
  | exited (code : Nat)
  | signaled (signal : Signal)
deriving Repr, DecidableEq, Inhabited

/-- How it is reported. -/
def Ending.text : Ending → String
  | .exited code => "exited " ++ toString code
  | .signaled s => "killed by signal " ++ toString s.number

/-- The signals a shell traps: they are noted, and do not end it. -/
def trappedSignals : List Signal := [.interrupt, .terminate]

/-- The signal among those sent that ends a process which traps some, if one does. -/
def fatalSignal? (trapped sent : List Signal) : Option Signal :=
  sent.find? fun s => s = .kill || (s ∉ trapped && s.action = .terminate)

/-- How a process ends that is sent signals while it traps some, and then exits. -/
def endingUnder (trapped sent : List Signal) : Ending :=
  match fatalSignal? trapped sent with
  | some s => .signaled s
  | none => .exited 0

end ScriptShell
