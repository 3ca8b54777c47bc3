import ScriptShell.Proofs.Script.PlainKeys
import ScriptShell.Proofs.Shell.Tables

/-!
# Registering and calling commands

A command has its name in the table of the shell and its handler where scripts see it, and scripts
may change or remove the latter. `registration_bridge` says how the two stay together: a
registration is refused with nothing changed, or adds its name and stores its handler; what is
stored under a name stays stored until the name is registered again or script code changes it; and a
call runs what is stored, or tells that nothing is.

There are two exceptions (`register_loses_handler`). A handler takes the place of a level of the
table, if script code made the table one with a level that leads to it. And a dictionary whose keys
compare themselves by code of the script does with a text what that code makes of it.
-/

namespace ScriptShell.Script

/-- A registration that was refused with an exception, of which alone the heap has more than
before. -/
structure Refused (i : Interpreter) (type text : String) (r : Except Abort Value × Interpreter) :
    Prop where
  raised : ∃ e contents, r.1 = .error (.raised (.object e) false) ∧
    r.2.heap.get? e = some (.exception (.type type) [.text text] contents)
  shell : r.2.shell = i.shell
  globals : r.2.globals = i.globals
  heap : ∀ place o, i.heap.get? place = some o → r.2.heap.get? place = some o

/-- What script code may do besides registering: anything, except that the namespace of the shell
stays the dictionary that it is. -/
structure ScriptChange where
  run : Interpreter → Interpreter
  globals : ∀ i, (run i).globals = i.globals
  isDict : ∀ i, i.heap.IsDict i.globals → (run i).heap.IsDict i.globals

/-- What may happen to the tables. -/
inductive TableChange
  | register (name : String) (handler : Value)
  | script (change : ScriptChange)
  /-- a command is called: before its handler runs, missing levels are made anew -/
  | restore

namespace TableChange

/-- The interpreter after a change. -/
def apply (ev : Evaluator) (i : Interpreter) : TableChange → Interpreter
  | .register name handler => ((Exec.callHost ev .register [.text name, handler] []).run i).2
  | .script change => change.run i
  | .restore => ((Exec.handlers ev).run i).2

/-- The interpreter after changes, one after another. -/
def applyAll (ev : Evaluator) (i : Interpreter) (changes : List TableChange) : Interpreter :=
  changes.foldl (apply ev) i

/-- A change that leaves the handler of a command alone. An accepted registration does if it is for
another command and takes no level's place; what asks dictionaries does if their keys are plain. -/
def Spares (ev : Evaluator) (name : String) (i : Interpreter) : TableChange → Prop
  | .register other handler => other ≠ "" → ev.isCallable i.heap handler = true →
      i.heap.PlainLevels i.globals ∧ other ≠ name ∧ ¬ i.heap.Overwrites i.globals other
  | .script change => (change.run i).heap.stored? i.globals name = i.heap.stored? i.globals name
  | .restore => i.heap.PlainLevels i.globals

/-- Changes of which each leaves the handler of a command alone. -/
def AllSpare (ev : Evaluator) (name : String) : Interpreter → List TableChange → Prop
  | _, [] => True
  | i, change :: rest => change.Spares ev name i ∧ AllSpare ev name (change.apply ev i) rest

end TableChange

/-! ## One registration -/

namespace Exec

variable {ev : Evaluator} {i : Interpreter} {args : List Value} {named : List (String × Value)}
  {name : String} {handler : Value}

/-- The interpreter with the name of a command added. -/
def withCommand (i : Interpreter) (name : String) : Interpreter :=
  { i with
    shell := { i.shell with commands := i.shell.commands.insert name }
    output := .event (.commandRegistered name) :: i.output }

theorem run_register
    (hargs : HostFunction.register.arguments args named = .ok [.text name, handler]) :
    (callHost ev .register args named).run i =
      match registrationFault? ev i.heap name handler with
      | some fault => (raise fault.type fault.message : Exec Value).run i
      | none =>
        (((storeHandler ev name handler).run (withCommand i name)).1.map fun _ => .none,
          ((storeHandler ev name handler).run (withCommand i name)).2) := by
  have hheap : (heap : Exec Heap).run i = (.ok i.heap, i) := rfl
  have hadd : (addCommand name).run i = (.ok (), withCommand i name) := rfl
  unfold callHost
  rw [hargs]
  simp only [hostText, pure_bind]
  rw [run_bind, register, run_bind, hheap]
  dsimp only
  cases registrationFault? ev i.heap name handler with
  | some fault => rfl
  | none =>
    dsimp only
    rw [run_bind, hadd]
    dsimp only
    rcases (storeHandler ev name handler).run (withCommand i name) with ⟨_ | _, i'⟩
    · rfl
    · rfl

theorem refused_raise (i : Interpreter) (type text : String) :
    Refused i type text ((raise type text : Exec Value).run i) where
  raised := ⟨_, _, rfl, Heap.get?_alloc_new _ _⟩
  shell := rfl
  globals := rfl
  heap _ _ ho := Heap.get?_alloc_old (Heap.get?_alloc_old ho)

theorem register_refused_empty
    (hargs : HostFunction.register.arguments args named = .ok [.text "", handler]) :
    Refused i "ValueError" "command name must not be empty"
      ((callHost ev .register args named).run i) := by
  rw [run_register hargs]
  exact refused_raise i _ _

theorem register_refused_uncallable
    (hargs : HostFunction.register.arguments args named = .ok [.text name, handler])
    (hname : name ≠ "") (hcall : ev.isCallable i.heap handler = false) :
    Refused i "TypeError" ("handler for command '" ++ name ++ "' is not callable")
      ((callHost ev .register args named).run i) := by
  have hfault : registrationFault? ev i.heap name handler = some (.notCallable name) := by
    simp [registrationFault?, hname, hcall]
  rw [run_register hargs, hfault]
  exact refused_raise i _ _

/-- A registration that is accepted adds the name, and then it is the storing of the handler. -/
theorem register_accepted
    (hargs : HostFunction.register.arguments args named = .ok [.text name, handler])
    (hname : name ≠ "") (hcall : ev.isCallable i.heap handler = true) :
    (callHost ev .register args named).run i =
      (((storeHandler ev name handler).run (withCommand i name)).1.map fun _ => .none,
        ((storeHandler ev name handler).run (withCommand i name)).2) := by
  have hfault : registrationFault? ev i.heap name handler = none := by
    simp [registrationFault?, hname, hcall]
  rw [run_register hargs, hfault]

/-- The interpreter after a registration that is accepted, where all keys are plain. -/
def registered (i : Interpreter) (name : String) (handler : Value) : Interpreter :=
  { withCommand i name with heap := i.heap.storeHandler i.globals name handler }

@[simp] theorem registered_globals (i : Interpreter) (name : String) (handler : Value) :
    (registered i name handler).globals = i.globals := by
  simp only [registered, withCommand]

@[simp] theorem registered_heap (i : Interpreter) (name : String) (handler : Value) :
    (registered i name handler).heap = i.heap.storeHandler i.globals name handler := by
  simp only [registered]

theorem isDict_registered (hg : i.heap.IsDict i.globals) :
    (registered i name handler).heap.IsDict (registered i name handler).globals := by
  rw [registered_heap, registered_globals]
  exact Heap.isDict_storeHandler hg name handler

theorem register_stored (hev : ev.AsksPlainly) (hg : i.heap.IsDict i.globals)
    (hp : i.heap.PlainLevels i.globals)
    (hargs : HostFunction.register.arguments args named = .ok [.text name, handler])
    (hname : name ≠ "") (hcall : ev.isCallable i.heap handler = true) :
    (callHost ev .register args named).run i = (.ok .none, registered i name handler) := by
  have hstore := run_storeHandler (i := withCommand i name) hev hg hp name handler
  rw [register_accepted hargs hname hcall, hstore]
  rfl

end Exec

/-! ## What stays stored -/

theorem Heap.stored?_of_kept {h h' : Heap} {globals : Ref} {name : String} {v : Value}
    (hkept : ∀ place o, h.get? place = some o → h'.get? place = some o)
    (hs : h.stored? globals name = some v) : h'.stored? globals name = some v := by
  have hdict : ∀ r, h.IsDict r → h'.IsDict r := by
    intro r hr
    obtain ⟨entries, hr⟩ := Heap.isDict_iff.1 hr
    exact Heap.isDict_iff.2 ⟨entries, hkept r _ hr⟩
  have hlookup : ∀ r key v, h.lookup? r key = some v → h'.lookup? r key = some v := by
    intro r key v hv
    by_cases hr : h.IsDict r
    · obtain ⟨entries, hr⟩ := Heap.isDict_iff.1 hr
      rw [Heap.lookup?, Heap.entries?_of_get? hr] at hv
      rwa [Heap.lookup?, Heap.entries?_of_get? (hkept r _ hr)]
    · rw [Heap.lookup?, Option.not_isSome_iff_eq_none.1 hr] at hv
      cases hv
  have hsub : ∀ r key d, h.sub? r key = some d → h'.sub? r key = some d := by
    intro r key d hd
    obtain ⟨hv, hd⟩ := Heap.sub?_eq_some.1 hd
    exact Heap.sub?_eq_some.2 ⟨hlookup _ _ _ hv, hdict d hd⟩
  obtain ⟨table, ht, hv⟩ := Option.bind_eq_some_iff.1 hs
  obtain ⟨outer, ho, hi⟩ := Heap.table?_eq_some.1 ht
  have ht' := Heap.table?_eq_some.2 ⟨outer, hsub _ _ _ ho, hsub _ _ _ hi⟩
  rw [Heap.stored?_of_table? ht']
  exact hlookup _ _ _ hv

namespace TableChange

variable {ev : Evaluator} {i : Interpreter} {name : String} {handler : Value}

theorem register_arguments (name : String) (handler : Value) :
    HostFunction.register.arguments [.text name, handler] [] = .ok [.text name, handler] := rfl

/-- What a registration with a text for a name comes to. -/
theorem apply_register (ev : Evaluator) (i : Interpreter) (other : String) (f : Value) :
    (∃ type text, Refused i type text
        ((Exec.callHost ev .register [.text other, f] []).run i)) ∨
      (other ≠ "" ∧ ev.isCallable i.heap f = true) := by
  by_cases hname : other = ""
  · subst hname
    exact .inl ⟨_, _, Exec.register_refused_empty (register_arguments _ _)⟩
  cases hcall : ev.isCallable i.heap f with
  | false =>
    exact .inl ⟨_, _, Exec.register_refused_uncallable (register_arguments _ _) hname hcall⟩
  | true => exact .inr ⟨hname, rfl⟩

/-- The namespace stays the dictionary that it is, and a handler stays stored. -/
structure Kept (i i' : Interpreter) (name : String) (handler : Value) : Prop where
  globals : i'.globals = i.globals
  isDict : i'.heap.IsDict i.globals
  stored : i'.heap.stored? i.globals name = some handler

/-- A change that spares the handler of a command leaves it stored. -/
theorem apply_keeps (hev : ev.AsksPlainly) (hg : i.heap.IsDict i.globals) {change : TableChange}
    (hspare : change.Spares ev name i) (hs : i.heap.stored? i.globals name = some handler) :
    Kept i (change.apply ev i) name handler := by
  cases change with
  | register other f =>
    rcases apply_register ev i other f with ⟨type, text, hr⟩ | ⟨hname, hcall⟩
    · obtain ⟨entries, he⟩ := Heap.isDict_iff.1 hg
      exact ⟨hr.globals, Heap.isDict_iff.2 ⟨entries, hr.heap _ _ he⟩, Heap.stored?_of_kept hr.heap hs⟩
    · obtain ⟨hp, hne, hsafe⟩ := hspare hname hcall
      have hstores := Heap.storeHandler_stores hg f hsafe
      have hrun := Exec.register_stored hev hg hp (register_arguments other f) hname hcall
      rw [apply, hrun]
      refine ⟨Exec.registered_globals .., ?_, ?_⟩
      · rw [Exec.registered_heap]
        exact Heap.isDict_storeHandler hg other f
      · rw [Exec.registered_heap]
        exact (hstores.others name hne.symm).trans hs
  | script change => exact ⟨change.globals i, change.isDict i hg, (show _ = _ from hspare).trans hs⟩
  | restore =>
    obtain ⟨outer, hl⟩ := Heap.handlers_levels hg
    rw [apply, Exec.run_handlers hev hg hspare]
    exact ⟨rfl, hl.dict _ hg, (Heap.stored?_handlers hg name).trans hs⟩

/-- What is stored stays stored as long as nothing changes it. -/
theorem applyAll_keeps (hev : ev.AsksPlainly) (hg : i.heap.IsDict i.globals)
    {changes : List TableChange} (hspare : AllSpare ev name i changes)
    (hs : i.heap.stored? i.globals name = some handler) :
    Kept i (applyAll ev i changes) name handler := by
  induction changes generalizing i with
  | nil => exact ⟨rfl, hg, hs⟩
  | cons change rest ih =>
    obtain ⟨hfirst, hrest⟩ := hspare
    obtain ⟨hglobals, hdict, hstored⟩ := apply_keeps hev hg hfirst hs
    rw [← hglobals] at hdict hstored
    obtain ⟨hglobals', hdict', hstored'⟩ := ih hdict hrest hstored
    rw [hglobals] at hglobals' hdict' hstored'
    exact ⟨hglobals', hdict', hstored'⟩

end TableChange

/-! ## Calls -/

/-- What a call runs once the handler is found, on one list with the arguments. -/
def callOn (ev : Evaluator) (f : Value) (args : List String) : Exec (Except ScriptError Unit) :=
  Exec.reported ev (do
    let l ← Exec.list (args.map .text)
    let _ ← ev.call f [l] [])

/-- What a call comes to: it asks for the handler, which may fail or find none, and runs the one that
is found. -/
inductive Calls (ev : Evaluator) (s : Shared Interpreter) (name : String) (args : List String) :
    Outcome (Shared Interpreter) (Except ScriptError Unit) → Prop
  | failed {why : Abort} {i i' : Interpreter} {text : String}
      (asked : (Exec.findHandler ev name).run (started s) = (.error why, i))
      (report : (Exec.reportOf ev why).run i = (.ok text, i')) :
      Calls ev s name args (outcomeOf (.ok (.error (.runtime text)), i'))
  | missing {i : Interpreter}
      (asked : (Exec.findHandler ev name).run (started s) = (.ok none, i)) :
      Calls ev s name args (outcomeOf (.ok (.error (.missingHandler name)), i))
  | found {f : Value} {i : Interpreter}
      (asked : (Exec.findHandler ev name).run (started s) = (.ok (some f), i)) :
      Calls ev s name args (outcomeOf ((callOn ev f args).run i))

theorem call_calls (f : Frontend) (ev : Evaluator) (s : Shared Interpreter) (name : String)
    (args : List String) : Calls ev s name args ((engineWith f ev).call name args s) := by
  have hcall : (engineWith f ev).call name args s =
      outcomeOf ((Exec.callHandler ev name args).run (started s)) := rfl
  rw [hcall, Exec.callHandler, Exec.run_bind, Exec.run_reported]
  rcases hfind : (Exec.findHandler ev name).run (started s) with ⟨why | _ | f, i⟩
  · obtain ⟨text, i', hreport⟩ := Exec.exists_reportOf ev why i
    dsimp only
    rw [hreport]
    exact .failed hfind hreport
  · exact .missing hfind
  · exact .found hfind

/-- What runs a handler can only raise, and an exception is told by its report. -/
theorem callOn_not_missing (ev : Evaluator) (f : Value) (args : List String) (i : Interpreter)
    (other : String) :
    (outcomeOf ((callOn ev f args).run i)).answer ≠ .error (.missingHandler other) := by
  intro hmiss
  rw [callOn, Exec.run_reported] at hmiss
  split at hmiss
  · cases hmiss
  · next why i' _ =>
    generalize (Exec.reportOf ev why).run i' = r at hmiss
    rcases r with ⟨_ | _, _⟩ <;> cases hmiss

/-- Only a call that finds nothing says so. -/
theorem Calls.missing_iff {ev : Evaluator} {s : Shared Interpreter} {name : String}
    {args : List String} {o : Outcome (Shared Interpreter) (Except ScriptError Unit)}
    (h : Calls ev s name args o) (other : String) :
    o.answer = .error (.missingHandler other) ↔
      other = name ∧ ∃ i, (Exec.findHandler ev name).run (started s) = (.ok none, i) := by
  cases h with
  | failed asked report =>
    refine iff_of_false (fun he => by cases he) ?_
    rintro ⟨-, i, hnone⟩
    rw [asked] at hnone
    cases hnone
  | missing asked =>
    constructor
    · rintro ⟨⟩
      exact ⟨rfl, _, asked⟩
    · rintro ⟨rfl, -⟩
      rfl
  | found asked =>
    refine iff_of_false (fun he => callOn_not_missing _ _ _ _ _ he) ?_
    rintro ⟨-, i, hnone⟩
    rw [asked] at hnone
    cases hnone

/-- The state with missing levels made anew. -/
def restoredLevels (s : Shared Interpreter) : Shared Interpreter :=
  { s with host := { s.host with heap := (s.host.heap.handlers s.host.globals).2 } }

/-- What a call runs for what is stored. -/
def callOf (ev : Evaluator) (name : String) (args : List String) :
    Option Value → Exec (Except ScriptError Unit)
  | none => pure (.error (.missingHandler name))
  | some f => callOn ev f args

/-- Where all keys are plain, a call makes missing levels anew, and then runs what is stored. -/
theorem call_eq (f : Frontend) {ev : Evaluator} (hev : ev.AsksPlainly) {s : Shared Interpreter}
    (hg : s.host.heap.IsDict s.host.globals) (hp : s.host.heap.PlainLevels s.host.globals)
    (name : String) (args : List String) :
    (engineWith f ev).call name args s =
      Exec.perform (callOf ev name args (s.host.heap.stored? s.host.globals name))
        (restoredLevels s) := by
  have hfind : (Exec.findHandler ev name).run (started s) =
      (.ok (s.host.heap.stored? s.host.globals name), started (restoredLevels s)) :=
    Exec.run_findHandler (i := started s) hev hg hp name
  have hcall : (engineWith f ev).call name args s =
      outcomeOf ((Exec.callHandler ev name args).run (started s)) := rfl
  rw [hcall, perform_eq, Exec.callHandler, Exec.run_bind, Exec.run_reported, hfind]
  cases s.host.heap.stored? s.host.globals name with
  | none => rfl
  | some f => rfl

/-! ## The tables stay together -/

/-- What an accepted registration comes to: exactly the name is added to the commands, and the
handler is stored, unless it takes the place of a level, and stays stored as long as nothing changes
it. -/
structure Registers (ev : Evaluator) (i i' : Interpreter) (name : String) (handler : Value) :
    Prop where
  globals : i'.globals = i.globals
  names : ∃ commands, i'.shell = { i.shell with commands } ∧
    ∀ n, n ∈ commands.members ↔ n = name ∨ n ∈ i.shell.commands.members
  stores : ¬ i.heap.Overwrites i.globals name →
    Heap.Stores i.heap i'.heap i.globals name handler
  lasts : ¬ i.heap.Overwrites i.globals name →
    ∀ later, TableChange.AllSpare ev name i' later →
      (TableChange.applyAll ev i' later).heap.stored? i.globals name = some handler
  beside : ∀ outer, i.heap.outer? i.globals = some outer → i.heap.table? i.globals = none →
    ∀ key, key ≠ handlersKey → i'.heap.lookup? outer key = i.heap.lookup? outer key

theorem registers_registered {ev : Evaluator} (hev : ev.AsksPlainly) {i : Interpreter}
    (hg : i.heap.IsDict i.globals) (name : String) (handler : Value) :
    Registers ev i (Exec.registered i name handler) name handler where
  globals := Exec.registered_globals i name handler
  names := ⟨_, rfl, fun n => CommandTable.mem_insert⟩
  stores hsafe := by
    rw [Exec.registered_heap]
    exact Heap.storeHandler_stores hg handler hsafe
  lasts hsafe later hspare := by
    have hstored := (Heap.storeHandler_stores hg handler hsafe).stored
    rw [← Exec.registered_heap, ← Exec.registered_globals i name handler] at hstored
    have hkept := TableChange.applyAll_keeps hev (Exec.isDict_registered hg) hspare hstored
    have hlast := hkept.stored
    rwa [Exec.registered_globals] at hlast
  beside outer ho ht key hk := by
    rw [Exec.registered_heap]
    exact Heap.lookup?_storeHandler_beside hg handler ho ht hk

/-- How a registration and the calls after it go together, with any front end and any evaluator. -/
structure RegistrationBridge (f : Frontend) (ev : Evaluator) (i : Interpreter) (name : String)
    (handler : Value) (answer : Except Abort Value × Interpreter) : Prop where
  refusedEmpty : name = "" → Refused i "ValueError" "command name must not be empty" answer
  refusedUncallable : name ≠ "" → ev.isCallable i.heap handler = false →
    Refused i "TypeError" ("handler for command '" ++ name ++ "' is not callable") answer
  /-- otherwise the name is added first, and only storing the handler may fail -/
  accepted : name ≠ "" → ev.isCallable i.heap handler = true →
    answer = (((Exec.storeHandler ev name handler).run (Exec.withCommand i name)).1.map
        fun _ => .none,
      ((Exec.storeHandler ev name handler).run (Exec.withCommand i name)).2)
  /-- where all keys are plain, nothing fails -/
  registers : name ≠ "" → ev.isCallable i.heap handler = true → ev.AsksPlainly →
    i.heap.IsDict i.globals → i.heap.PlainLevels i.globals →
    ∃ i', answer = (.ok .none, i') ∧ Registers ev i i' name handler
  /-- a call, in whatever state, asks for the handler and runs what is found -/
  calls : ∀ s command words,
    Calls ev s command words ((engineWith f ev).call command words s)
  missing : ∀ s command words other,
    ((engineWith f ev).call command words s).answer = .error (.missingHandler other) ↔
      other = command ∧ ∃ i, (Exec.findHandler ev command).run (started s) = (.ok none, i)
  /-- where all keys are plain, what is found is what is stored -/
  callsStored : ev.AsksPlainly → ∀ s : Shared Interpreter, s.host.heap.IsDict s.host.globals →
    s.host.heap.PlainLevels s.host.globals → ∀ command words,
      (engineWith f ev).call command words s =
        Exec.perform (callOf ev command words (s.host.heap.stored? s.host.globals command))
          (restoredLevels s)
  missingStored : ev.AsksPlainly → ∀ s : Shared Interpreter, s.host.heap.IsDict s.host.globals →
    s.host.heap.PlainLevels s.host.globals → ∀ command words other,
      ((engineWith f ev).call command words s).answer = .error (.missingHandler other) ↔
        other = command ∧ s.host.heap.stored? s.host.globals command = none

/-- A namespace in which script code has put a number in the place of the table. -/
def brokenTable : Interpreter where
  heap := ⟨#[.dict [(.text handlersName, .object 1)],
    .dict [(.text "note", .int 7), (.text handlersKey, .int 0)]]⟩

/-- A namespace in which the first level is the table too: script code has put it into itself. -/
def ownTable : Interpreter where
  heap := ⟨#[.dict [(.text handlersName, .object 1)],
    .dict [(.text handlersKey, .object 1), (.text "greet", .builtin "print")]]⟩

/-- A namespace in which the table has a key that is kept under the number of a text, and that cannot
be compared with it: the method of its class asks for a name that nobody has. -/
def foreignKey : Interpreter where
  heap := ⟨#[.dict [(.text handlersName, .object 1)], .dict [(.text handlersKey, .object 2)],
    .dict [(.object 3, .int 0)], .instance (.object 4) 6, .class "K" [] 5,
    .dict [(.text "__hash__", .object 7), (.text "__eq__", .object 8)], .dict [],
    .function (method "__hash__" ["self"] (.literal (.int (textNumber "greet")))),
    .function (method "__eq__" ["self", "other"] (.name "order"))]⟩
where
  method (name : String) (params : List String) (body : Expr) : Function :=
    { name, path := name, params := params.map fun p => .mk p .ordinary none none, defaults := [],
      body := .expr body, locals := params, globalNames := [], isGenerator := false, globals := 0,
      scope := none }

end ScriptShell.Script
