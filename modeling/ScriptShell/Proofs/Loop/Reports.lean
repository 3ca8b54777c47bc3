import ScriptShell.Proofs.Loop.Fold
import ScriptShell.Proofs.Resolution.Order

/-!
# Reports of failed lines

A loop reports the error of each line that fails, and of no other, on the error stream
(`Dispatcher.run_said`): what it puts out is the same on every stream but for the reports, which
stand in the same places. Dispatching a line says nothing in the name of the shell, whether the line
fails or not, unless engine or runner do (`Quiet.dispatchLine`).
-/

namespace ScriptShell

variable {σ : Type}

/-- The text of something put out that the shell itself says on the error stream. -/
def Output.ownError? : Output → Option String
  | .shell .err text => some text
  | _ => none

/-- What the shell itself says on the error stream. -/
def ownErrors (output : List Output) : List String := output.filterMap Output.ownError?

/-- One thing that is put out, or the error of a failed line in the place of its report. -/
inductive Remark
  | other (o : Output)
  | report (e : DispatchError)

namespace Remark

/-- What is put out with an error stream. -/
def on (stream : ErrorStream) : Remark → Output
  | .other o => o
  | .report e => stream.write e

def error? : Remark → Option DispatchError
  | .other _ => none
  | .report e => some e

def other? : Remark → Option Output
  | .other o => some o
  | .report _ => none

/-- What others say, or the shell itself outside of reports. -/
def others (said : List Remark) : List Output := said.filterMap other?

/-- The errors that are reported. -/
def errors (said : List Remark) : List DispatchError := said.filterMap error?

end Remark

/-- What is put out is the same on every stream but for the reports of the errors, which stand in
the same places; and if all keep `quiet`, nothing else is said in the name of the shell. -/
def ReportsOnly (quiet : Prop) (errors : List DispatchError) (output : ErrorStream → List Output) :
    Prop :=
  ∃ said, Remark.errors said = errors ∧ (∀ stream, output stream = said.map (Remark.on stream)) ∧
    (quiet → ownErrors (Remark.others said) = [])

/-- The reads that a loop has taken. -/
def LoopResult.taken (r : LoopResult σ) (items : List Delivery) : List Delivery :=
  items.take (items.length - r.unread.length)

/-- The error of a line that failed. -/
def failure? : Except DispatchError Flow → Option DispatchError
  | .ok _ => none
  | .error e => some e

namespace Dispatcher

variable (d : Dispatcher σ)

/-- The dispatcher with another error stream. -/
def reporting (stream : ErrorStream) : Dispatcher σ := { d with errors := stream }

/-- The errors of the lines that fail, of lines dispatched one after another. -/
def failures (s : Shared σ) : List String → List DispatchError
  | [] => []
  | line :: rest =>
    (failure? (d.dispatchLine line s).answer).toList ++ failures (d.dispatchLine line s).state rest

/-- What is put out on one read. -/
def saidOn (s : Shared σ) (item : Delivery) : List Remark :=
  item.output.map .other ++
    match item.read with
    | .line text =>
      (d.dispatchLine text s).output.map .other ++
        (failure? (d.dispatchLine text s).answer).toList.map .report
    | .endOfInput => [.other (.event .endOfInput)]
    | .interrupted | .failed _ => []

/-- What is put out on some reads, each made in the state that those before it left. -/
def said (s : Shared σ) : List Delivery → List Remark
  | [] => []
  | item :: rest => d.saidOn s item ++ said (d.after s [item]) rest

/-- Engine and runner say nothing in the name of the shell. -/
structure Quiet : Prop where
  eval : ∀ line s, ownErrors (d.engine.eval line s).output = []
  call : ∀ name args s, ownErrors (d.engine.call name args s).output = []
  load : ∀ path s, ownErrors (d.engine.load path s).output = []
  run : ∀ run host, ownErrors (d.runner.run run host).output = []

end Dispatcher

/-! ## What is said -/

@[simp] theorem ownErrors_nil : ownErrors [] = [] := rfl

@[simp] theorem ownErrors_append (xs ys : List Output) :
    ownErrors (xs ++ ys) = ownErrors xs ++ ownErrors ys :=
  List.filterMap_append

@[simp] theorem ownErrors_event (e : Event) (rest : List Output) :
    ownErrors (.event e :: rest) = ownErrors rest := rfl

namespace Remark

@[simp] theorem on_comp_other (stream : ErrorStream) : on stream ∘ other = id := rfl

@[simp] theorem on_comp_report (stream : ErrorStream) : on stream ∘ report = stream.write := rfl

@[simp] theorem errors_nil : errors [] = [] := rfl

@[simp] theorem others_nil : others [] = [] := rfl

@[simp] theorem errors_cons_other (o : Output) (rest : List Remark) :
    errors (other o :: rest) = errors rest := rfl

@[simp] theorem others_cons_other (o : Output) (rest : List Remark) :
    others (other o :: rest) = o :: others rest := rfl

@[simp] theorem errors_append (xs ys : List Remark) :
    errors (xs ++ ys) = errors xs ++ errors ys :=
  List.filterMap_append

@[simp] theorem others_append (xs ys : List Remark) :
    others (xs ++ ys) = others xs ++ others ys :=
  List.filterMap_append

@[simp] theorem errors_other (output : List Output) : errors (output.map other) = [] := by
  rw [errors, List.filterMap_map]
  exact List.filterMap_eq_nil_iff.2 fun _ _ => rfl

@[simp] theorem others_other (output : List Output) : others (output.map other) = output := by
  rw [others, List.filterMap_map]
  exact List.filterMap_some

@[simp] theorem errors_report (l : List DispatchError) : errors (l.map report) = l := by
  rw [errors, List.filterMap_map]
  exact List.filterMap_some

@[simp] theorem others_report (l : List DispatchError) : others (l.map report) = [] := by
  rw [others, List.filterMap_map]
  exact List.filterMap_eq_nil_iff.2 fun _ _ => rfl

/-- If nothing else is said in the name of the shell, the reports are all that is. -/
theorem ownErrors_on {said : List Remark} (h : ownErrors (others said) = [])
    (stream : ErrorStream) :
    ownErrors (said.map (on stream)) =
      (errors said).filterMap fun e => (stream.write e).ownError? := by
  induction said with
  | nil => rfl
  | cons remark rest ih =>
    cases remark with
    | report e =>
      have hrest : ownErrors (others rest) = [] := h
      have herrors : errors (report e :: rest) = e :: errors rest := rfl
      rw [List.map_cons, herrors, List.filterMap_cons, ← ih hrest, ownErrors, List.filterMap_cons]
      rfl
    | other o =>
      have hnone := List.filterMap_eq_nil_iff.1 h
      have ho : o.ownError? = none := hnone o List.mem_cons_self
      have hrest : ownErrors (others rest) = [] :=
        List.filterMap_eq_nil_iff.2 fun x hx => hnone x (List.mem_cons_of_mem _ hx)
      have hskip : ownErrors ((other o :: rest).map (on stream)) =
          ownErrors (rest.map (on stream)) :=
        List.filterMap_cons_none ho
      exact hskip.trans (ih hrest)

end Remark

theorem ReportsOnly.of_same {quiet : Prop} {errors : List DispatchError}
    {output : ErrorStream → List Output} {same : List Output}
    (houtput : ∀ stream, output stream = same) (hnone : errors = [])
    (h : quiet → ownErrors same = []) : ReportsOnly quiet errors output := by
  refine ⟨same.map .other, ?_, fun stream => ?_, fun hq => ?_⟩
  · rw [Remark.errors_other, hnone]
  · rw [houtput stream, List.map_map, Remark.on_comp_other, List.map_id]
  · rw [Remark.others_other, h hq]

namespace Dispatcher

variable {d : Dispatcher σ}

/-! ## What is put out -/

theorem outputOf_reporting (stream : ErrorStream) (s : Shared σ) (item : Delivery) :
    (d.reporting stream).outputOf s item = (d.saidOn s item).map (Remark.on stream) := by
  unfold outputOf saidOn
  cases item.read with
  | line text =>
    have hline : (d.reporting stream).dispatchLine text s = d.dispatchLine text s := rfl
    dsimp only
    rw [hline]
    cases (d.dispatchLine text s).answer with
    | ok flow => simp [reports, failure?]
    | error e => simp [reports_error, failure?, Remark.on, reporting]
  | interrupted => simp
  | endOfInput => simp [Remark.on]
  | failed why => simp

theorem outputs_reporting (stream : ErrorStream) (s : Shared σ) (items : List Delivery) :
    (d.reporting stream).outputs s items = (d.said s items).map (Remark.on stream) := by
  induction items generalizing s with
  | nil => rfl
  | cons item rest ih =>
    have hafter : (d.reporting stream).after s [item] = d.after s [item] := rfl
    rw [outputs, said, List.map_append, outputOf_reporting, hafter, ih]

theorem failures_append (s : Shared σ) (xs ys : List String) :
    d.failures s (xs ++ ys) = d.failures s xs ++ d.failures (d.afterLines s xs) ys := by
  induction xs generalizing s with
  | nil => rfl
  | cons line rest ih =>
    have hstate : d.afterLines s (line :: rest) =
        d.afterLines (d.dispatchLine line s).state rest := rfl
    rw [List.cons_append, failures, failures, ih, hstate, List.append_assoc]

theorem errors_saidOn (s : Shared σ) (item : Delivery) :
    Remark.errors (d.saidOn s item) = d.failures s (linesOf [item]) := by
  cases hr : item.read with
  | line text => simp [saidOn, linesOf, hr, failures]
  | interrupted => simp [saidOn, linesOf, hr, failures]
  | endOfInput => simp [saidOn, linesOf, hr, failures]
  | failed why => simp [saidOn, linesOf, hr, failures]

/-- The errors reported are those of the lines that fail. -/
theorem errors_said (s : Shared σ) (items : List Delivery) :
    Remark.errors (d.said s items) = d.failures s (linesOf items) := by
  induction items generalizing s with
  | nil => rfl
  | cons item rest ih =>
    have hlines : linesOf (item :: rest) = linesOf [item] ++ linesOf rest :=
      linesOf_append [item] rest
    rw [said, Remark.errors_append, errors_saidOn, ih, hlines, failures_append]
    rfl

/-! ## What is said in the name of the shell -/

namespace Quiet

variable (h : d.Quiet)
include h

theorem resolve (line : String) (s : Shared σ) : ownErrors (d.resolve line s).output = [] := by
  cases hd : (d.engine.eval line s).answer with
  | ok _ =>
    rw [Dispatcher.resolve, Engine.resolve_accepted hd]
    exact h.eval line s
  | error why =>
    rw [Dispatcher.resolve, Engine.resolve_rejected hd, ownErrors_append, h.eval line s]
    rfl

theorem runProgram (run : Invocation) (s : Shared σ) :
    ownErrors (d.runProgram run s).output = [] := by
  cases hd : (d.runner.run run s.host).answer with
  | error why =>
    rw [d.runProgram_failed hd]
    exact h.run run s.host
  | ok status =>
    have hnote : ownErrors (exitNote run status) = [] := by
      unfold exitNote
      split <;> rfl
    rw [d.runProgram_ended hd, ownErrors_append, h.run run s.host, hnote]
    rfl

theorem callCommand (name : String) (args : List String) (s : Shared σ) :
    ownErrors (d.callCommand name args s).output = [] := by
  cases hd : (d.engine.call name args s).answer with
  | error why =>
    rw [d.callCommand_failed hd]
    exact h.call name args s
  | ok _ =>
    rw [d.callCommand_returned hd]
    exact h.call name args s

theorem execute (r : Resolution) (s : Shared σ) : ownErrors (d.execute r s).output = [] := by
  cases r with
  | script => rfl
  | empty => rfl
  | exit => rfl
  | «alias» run => exact h.runProgram run s
  | external run => exact h.runProgram run s
  | command name args => exact h.callCommand name args s

/-- A line that is dispatched says nothing in the name of the shell, whether it fails or not. -/
theorem dispatchLine (line : String) (s : Shared σ) :
    ownErrors (d.dispatchLine line s).output = [] := by
  rw [d.dispatchLine_eq, ownErrors_append, h.resolve line s, ownErrors_event, h.execute]
  rfl

theorem saidOn {item : Delivery} (hitem : ownErrors item.output = []) (s : Shared σ) :
    ownErrors (Remark.others (d.saidOn s item)) = [] := by
  unfold Dispatcher.saidOn
  cases item.read with
  | line text => simp [hitem, h.dispatchLine text s]
  | interrupted => simp [hitem]
  | endOfInput => simp [hitem]
  | failed why => simp [hitem]

theorem said {items : List Delivery} (hitems : ∀ item ∈ items, ownErrors item.output = [])
    (s : Shared σ) : ownErrors (Remark.others (d.said s items)) = [] := by
  induction items generalizing s with
  | nil => rfl
  | cons item rest ih =>
    obtain ⟨hitem, hrest⟩ := List.forall_mem_cons.1 hitems
    rw [Dispatcher.said, Remark.others_append, ownErrors_append, h.saidOn hitem, ih hrest]
    rfl

end Quiet

/-- A loop reports the errors of the lines that fail, of the reads that it has taken. -/
theorem run_said (items : List Delivery) (s : Shared σ) :
    ReportsOnly (d.Quiet ∧ ∀ item ∈ items, ownErrors item.output = [])
      (d.failures s (linesOf ((d.run items s).taken items)))
      fun stream => ((d.reporting stream).run items s).output := by
  rcases goesOn_or_stops items s with hg | ⟨going, last, rest, rfl, hg, hs⟩
  · refine ⟨d.said s items ++ [.other (.event .endOfInput)], ?_, fun stream => ?_, ?_⟩
    · rw [run_exhausted hg]
      simp [LoopResult.taken, errors_said]
    · have hg' : (d.reporting stream).GoesOn s items := hg
      dsimp only
      rw [run_exhausted hg', outputs_reporting, List.map_append]
      rfl
    · rintro ⟨hq, hitems⟩
      simp [hq.said hitems s]
  · refine ⟨d.said s (going ++ [last]), ?_, fun stream => ?_, ?_⟩
    · have hlength : (going ++ last :: rest).length - rest.length = (going ++ [last]).length := by
        simp
        omega
      have hsplit : going ++ last :: rest = going ++ [last] ++ rest := by simp
      rw [run_stopped hg hs, errors_said, LoopResult.taken, hlength, hsplit, List.take_left]
    · have hg' : (d.reporting stream).GoesOn s going := hg
      have hs' : (d.reporting stream).Stops ((d.reporting stream).after s going) last := hs
      dsimp only
      rw [run_stopped hg' hs', outputs_reporting]
    · rintro ⟨hq, hitems⟩
      refine hq.said (fun item hi => hitems item ?_) s
      rw [List.append_cons]
      exact List.mem_append_left rest hi

end Dispatcher

end ScriptShell
