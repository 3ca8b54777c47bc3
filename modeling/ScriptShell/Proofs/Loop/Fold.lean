import ScriptShell.Loop
import ScriptShell.Proofs.Engine.Recorded

/-!
# The loop is a fold

The state of a loop is that of dispatching the lines one after another (`Dispatcher.afterLines`);
reads that bring no line leave it alone. `Dispatcher.Stops` says which read ends the loop in a
state. The main statement is `Dispatcher.run_eq_fold`: the loop takes the reads up to and with the
first that stops it, or all of them, and what comes of it is the fold over these.
-/

namespace ScriptShell

/-- The lines that were delivered, in order. -/
def linesOf (items : List Delivery) : List String :=
  items.filterMap fun item =>
    match item.read with
    | .line text => some text
    | _ => none

@[simp] theorem linesOf_nil : linesOf [] = [] := rfl

theorem linesOf_append (xs ys : List Delivery) : linesOf (xs ++ ys) = linesOf xs ++ linesOf ys :=
  List.filterMap_append

/-- What a loop returns that ends with a read: only a failure to read is an error. -/
def Read.verdict : Read → Except String Unit
  | .failed why => .error why
  | _ => .ok ()

/-- The result with reads before it that did not end the loop. -/
def LoopResult.behind {σ : Type} (prompts : List String) (output : List Output)
    (r : LoopResult σ) : LoopResult σ :=
  { r with output := output ++ r.output, prompts := prompts ++ r.prompts }

namespace Dispatcher

variable {σ : Type} (d : Dispatcher σ)

/-- The state after dispatching lines one after another. -/
def afterLines (s : Shared σ) (lines : List String) : Shared σ :=
  lines.foldl (fun s line => (d.dispatchLine line s).state) s

/-- The state after some reads. -/
def after (s : Shared σ) (items : List Delivery) : Shared σ := d.afterLines s (linesOf items)

/-- A read ends the loop if it is no line and no interruption, or if its line asks to exit. -/
def Stops (s : Shared σ) (item : Delivery) : Prop :=
  match item.read with
  | .line text => (d.dispatchLine text s).answer = .ok .exit
  | .interrupted => False
  | .endOfInput | .failed _ => True

/-- None of the reads ends the loop, each met in the state that those before it left. -/
def GoesOn (s : Shared σ) (items : List Delivery) : Prop :=
  ∀ before item rest, items = before ++ item :: rest → ¬ d.Stops (d.after s before) item

/-- The reports that a dispatched line calls for: one if it failed, else none. A report that cannot
be written is noted in the log. -/
def reports (answer : Except DispatchError Flow) : List Output :=
  match answer, d.errors with
  | .ok _, _ => []
  | .error e, .plain => [.shell .err ("gil: " ++ e.message ++ "\n")]
  | .error e, .terminal =>
    [.shell .err ("\x1b[38;5;9m" ++ ("gil: " ++ e.message) ++ "\x1b[39m" ++ "\n")]
  | .error e, .full => [.event (.reportLost e.message .noSpace)]

/-- What is put out on one read. -/
def outputOf (s : Shared σ) (item : Delivery) : List Output :=
  item.output ++
    match item.read with
    | .line text => (d.dispatchLine text s).output ++ d.reports (d.dispatchLine text s).answer
    | .endOfInput => [.event .endOfInput]
    | .interrupted | .failed _ => []

/-- What is put out on some reads, each made in the state that those before it left. -/
def outputs (s : Shared σ) : List Delivery → List Output
  | [] => []
  | item :: rest => d.outputOf s item ++ outputs (d.after s [item]) rest

/-- The prompts of `n` reads of which the first ones bring `items`: each is the prompt of the state
that the reads before it left. -/
def promptsOf (s : Shared σ) (items : List Delivery) (n : Nat) : List String :=
  (List.range n).map fun k => (d.after s (items.take k)).shell.prompt

/-- What lines ask of engine and runner, dispatched one after another. -/
def requestsOfLines (s : Shared σ) : List String → List Request
  | [] => []
  | line :: rest => d.requests line s ++ requestsOfLines (d.dispatchLine line s).state rest

/-! ## The state after some reads -/

variable {d} {s : Shared σ}

@[simp] theorem after_nil : d.after s [] = s := rfl

theorem after_append (xs ys : List Delivery) :
    d.after s (xs ++ ys) = d.after (d.after s xs) ys := by
  unfold after afterLines
  rw [linesOf_append, List.foldl_append]

theorem after_cons (item : Delivery) (rest : List Delivery) :
    d.after s (item :: rest) = d.after (d.after s [item]) rest :=
  after_append [item] rest

theorem after_line {item : Delivery} {text : String} (h : item.read = .line text) :
    d.after s [item] = (d.dispatchLine text s).state := by
  simp [after, linesOf, h, afterLines]

theorem after_interrupted {item : Delivery} (h : item.read = .interrupted) :
    d.after s [item] = s := by
  simp [after, linesOf, h, afterLines]

theorem goesOn_nil : d.GoesOn s [] := by
  intro before item rest h
  simp at h

theorem goesOn_cons {item : Delivery} {rest : List Delivery} :
    d.GoesOn s (item :: rest) ↔ ¬ d.Stops s item ∧ d.GoesOn (d.after s [item]) rest := by
  constructor
  · intro h
    refine ⟨h [] item rest rfl, fun before item' rest' hr => ?_⟩
    have := h (item :: before) item' rest' (by rw [hr, List.cons_append])
    rwa [after_cons] at this
  · rintro ⟨hs, hr⟩ before item' rest' h
    cases before with
    | nil =>
      obtain ⟨rfl, rfl⟩ := List.cons.inj h
      exact hs
    | cons first before =>
      obtain ⟨rfl, rfl⟩ := List.cons.inj h
      rw [after_cons]
      exact hr before item' rest' rfl

theorem promptsOf_cons (item : Delivery) (rest : List Delivery) (n : Nat) :
    d.promptsOf s (item :: rest) (n + 1) =
      s.shell.prompt :: d.promptsOf (d.after s [item]) rest n := by
  simp only [promptsOf, List.range_succ_eq_map, List.map_cons, List.map_map, List.take_zero,
    after_nil]
  congr 1
  refine List.map_congr_left fun k _ => ?_
  simp only [Function.comp_apply, List.take_succ_cons]
  rw [after_cons]

/-! ## One read -/

theorem reports_error (e : DispatchError) : d.reports (.error e) = [d.errors.write e] := by
  unfold reports
  cases d.errors with
  | plain => rw [ErrorStream.write_plain]
  | terminal => rw [ErrorStream.write_terminal]
  | full => rw [ErrorStream.write_full]

theorem run_step {item : Delivery} (h : ¬ d.Stops s item) (rest : List Delivery) :
    d.run (item :: rest) s =
      (d.run rest (d.after s [item])).after s.shell.prompt (d.outputOf s item) := by
  unfold Stops at h
  rw [run, outputOf]
  cases hr : item.read with
  | interrupted =>
    rw [after_interrupted hr]
    simp
  | endOfInput => simp [hr] at h
  | failed why => simp [hr] at h
  | line text =>
    rw [after_line hr]
    simp only [hr] at h ⊢
    cases ha : (d.dispatchLine text s).answer with
    | error e => simp [reports_error]
    | ok flow =>
      cases flow with
      | «continue» => simp [reports]
      | exit => exact absurd ha h

theorem run_stop {item : Delivery} (h : d.Stops s item) (rest : List Delivery) :
    d.run (item :: rest) s =
      { answer := item.read.verdict
        state := d.after s [item]
        output := d.outputOf s item
        prompts := [s.shell.prompt]
        unread := rest } := by
  unfold Stops at h
  rw [run, outputOf]
  cases hr : item.read with
  | interrupted => simp [hr] at h
  | endOfInput => simp [after, linesOf, hr, afterLines, Read.verdict]
  | failed why => simp [after, linesOf, hr, afterLines, Read.verdict]
  | line text =>
    rw [after_line hr]
    simp only [hr] at h
    simp [h, reports, Read.verdict]

/-! ## A whole run -/

/-- Reads that do not end the loop come before whatever the rest of the reads come to. -/
theorem run_append {xs : List Delivery} (h : d.GoesOn s xs) (ys : List Delivery) :
    d.run (xs ++ ys) s =
      (d.run ys (d.after s xs)).behind (d.promptsOf s xs xs.length) (d.outputs s xs) := by
  induction xs generalizing s with
  | nil => rfl
  | cons item rest ih =>
    obtain ⟨hs, hr⟩ := goesOn_cons.1 h
    rw [List.cons_append, run_step hs, ih hr, after_cons item rest, List.length_cons,
      promptsOf_cons]
    simp [LoopResult.behind, LoopResult.after, outputs]

theorem promptsOf_concat (xs : List Delivery) :
    d.promptsOf s xs xs.length ++ [(d.after s xs).shell.prompt] = d.promptsOf s xs (xs.length + 1) := by
  simp [promptsOf, List.range_succ]

theorem outputs_concat (xs : List Delivery) (item : Delivery) :
    d.outputs s (xs ++ [item]) = d.outputs s xs ++ d.outputOf (d.after s xs) item := by
  induction xs generalizing s with
  | nil => simp [outputs]
  | cons first xs ih => rw [List.cons_append, outputs, ih, outputs, after_cons first xs, List.append_assoc]

theorem run_exhausted {items : List Delivery} (h : d.GoesOn s items) :
    d.run items s =
      { answer := .ok ()
        state := d.after s items
        output := d.outputs s items ++ [.event .endOfInput]
        prompts := d.promptsOf s items (items.length + 1)
        unread := [] } := by
  rw [← promptsOf_concat]
  have hrun := run_append h []
  rwa [List.append_nil] at hrun

theorem run_stopped {going : List Delivery} {last : Delivery} (h : d.GoesOn s going)
    (hs : d.Stops (d.after s going) last) (rest : List Delivery) :
    d.run (going ++ last :: rest) s =
      { answer := last.read.verdict
        state := d.after s (going ++ [last])
        output := d.outputs s (going ++ [last])
        prompts := d.promptsOf s going (going.length + 1)
        unread := rest } := by
  rw [run_append h, run_stop hs, ← promptsOf_concat, outputs_concat, after_append]
  rfl

/-- Any reads fall into those that go on and, if there is one, the first that does not. -/
theorem goesOn_or_stops (items : List Delivery) (s : Shared σ) :
    d.GoesOn s items ∨ ∃ going last rest, items = going ++ last :: rest ∧ d.GoesOn s going ∧
      d.Stops (d.after s going) last := by
  induction items generalizing s with
  | nil => exact .inl goesOn_nil
  | cons item items ih =>
    by_cases hs : d.Stops s item
    · exact .inr ⟨[], item, items, rfl, goesOn_nil, hs⟩
    · rcases ih (d.after s [item]) with h | ⟨going, last, rest, rfl, hg, hl⟩
      · exact .inl (goesOn_cons.2 ⟨hs, h⟩)
      · refine .inr ⟨item :: going, last, rest, rfl, goesOn_cons.2 ⟨hs, hg⟩, ?_⟩
        rwa [after_cons]

/-! ## Requests -/

theorem afterLines_recorded (lines : List String) (trace : List Request) :
    d.recorded.afterLines (s.withNotes trace) lines =
      (d.afterLines s lines).withNotes (trace ++ d.requestsOfLines s lines) := by
  induction lines generalizing s trace with
  | nil => simp [afterLines, requestsOfLines]
  | cons line lines ih =>
    have hstep : d.recorded.afterLines (s.withNotes trace) (line :: lines) =
        d.recorded.afterLines (d.recorded.dispatchLine line (s.withNotes trace)).state lines := rfl
    rw [hstep, dispatchLine_recorded, Outcome.withNotes_state, ih, requestsOfLines,
      List.append_assoc]
    rfl

theorem stops_recorded {item : Delivery} {trace : List Request} :
    d.recorded.Stops (s.withNotes trace) item ↔ d.Stops s item := by
  unfold Stops
  cases item.read with
  | line text => simp only [dispatchLine_recorded, Outcome.withNotes_answer]
  | interrupted => rfl
  | endOfInput => rfl
  | failed why => rfl

theorem goesOn_recorded {items : List Delivery} {trace : List Request} (h : d.GoesOn s items) :
    d.recorded.GoesOn (s.withNotes trace) items := by
  intro before item rest hi
  rw [after, afterLines_recorded, stops_recorded]
  exact h before item rest hi

variable (d) in
/-- The loop takes the reads up to and with the first that stops it, or all of them. What comes of
it is what dispatching the lines among them one after another comes to. -/
theorem run_eq_fold (items : List Delivery) (s : Shared σ) (past : List Request) :
    (∃ going, d.GoesOn s going ∧
      ((items = going ∧
          d.run items s =
            { answer := .ok ()
              state := d.after s going
              output := d.outputs s going ++ [.event .endOfInput]
              prompts := d.promptsOf s going (going.length + 1)
              unread := [] } ∧
          (d.recorded.run items (s.withNotes past)).state =
            (d.after s going).withNotes (past ++ d.requestsOfLines s (linesOf going))) ∨
        ∃ last rest, items = going ++ last :: rest ∧ d.Stops (d.after s going) last ∧
          d.run items s =
            { answer := last.read.verdict
              state := d.after s (going ++ [last])
              output := d.outputs s (going ++ [last])
              prompts := d.promptsOf s going (going.length + 1)
              unread := rest } ∧
          (d.recorded.run items (s.withNotes past)).state =
            (d.after s (going ++ [last])).withNotes
              (past ++ d.requestsOfLines s (linesOf (going ++ [last]))))) ∧
    ∀ xs ys, items = xs ++ ys → d.GoesOn s xs →
      d.run items s =
        (d.run ys (d.after s xs)).behind (d.promptsOf s xs xs.length) (d.outputs s xs) := by
  refine ⟨?_, fun xs ys h hg => h ▸ run_append hg ys⟩
  rcases goesOn_or_stops items s with hg | ⟨going, last, rest, rfl, hg, hs⟩
  · refine ⟨items, hg, .inl ⟨rfl, run_exhausted hg, ?_⟩⟩
    rw [run_exhausted (goesOn_recorded hg)]
    exact afterLines_recorded _ _
  · refine ⟨going, hg, .inr ⟨last, rest, rfl, hs, run_stopped hg hs rest, ?_⟩⟩
    have hs' : d.recorded.Stops (d.recorded.after (s.withNotes past) going) last := by
      rw [after, afterLines_recorded, stops_recorded]
      exact hs
    rw [run_stopped (goesOn_recorded hg) hs']
    exact afterLines_recorded _ _

end Dispatcher

end ScriptShell
