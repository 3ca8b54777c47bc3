import ScriptShell.Proofs.Script.Heap
import ScriptShell.Script.Engine

/-!
# What running code comes to

Code is run on an interpreter and leaves another. One equation for each way of putting code
together, and one for code whose exceptions are told by their reports (`run_reported`); proofs
rewrite with these and never unfold the monad. `Answers code P` says that whatever `code` answers
has the property `P`, with a rule for each way of putting code together. What the engine makes of
running code is `outcomeOf`.
-/

namespace ScriptShell.Script

/-- The interpreter that code of the engine starts on. -/
def started (s : Shared Interpreter) : Interpreter :=
  { s.host with
    shell := s.shell, output := [], frames := [], depth := 0, handling := [], given := [] }

/-- The outcome of code of the engine, from what running it came to. -/
def outcomeOf (r : Except Abort (Except ScriptError Unit) × Interpreter) :
    Outcome (Shared Interpreter) (Except ScriptError Unit) where
  answer := match r.1 with
    | .ok answer => answer
    | .error _ =>
      .error (.runtime (report true "RecursionError" "maximum recursion depth exceeded"))
  state := { host := { r.2 with output := [] }, shell := r.2.shell }
  output := r.2.output.reverse

theorem perform_eq (code : Exec (Except ScriptError Unit)) (s : Shared Interpreter) :
    Exec.perform code s = outcomeOf (code.run (started s)) := rfl

namespace Exec

section

variable {α β : Type} {i : Interpreter}

theorem run_bind (code : Exec α) (next : α → Exec β) :
    (code >>= next).run i =
      match code.run i with
      | (.ok a, i') => (next a).run i'
      | (.error why, i') => (.error why, i') := by
  have hcode : (code >>= next).run i = ExceptT.bindCont next (code.run i).1 (code.run i).2 := rfl
  rw [hcode]
  rcases code.run i with ⟨_ | _, i'⟩ <;> rfl

theorem run_tryCatch (code : Exec α) (handle : Abort → Exec α) :
    (tryCatch code handle).run i =
      match code.run i with
      | (.ok a, i') => (.ok a, i')
      | (.error why, i') => (handle why).run i' := by
  unfold ExceptT.run
  simp only [tryCatch, tryCatchThe, MonadExceptOf.tryCatch, ExceptT.tryCatch, ExceptT.mk, bind,
    StateT.bind]
  rcases code i with ⟨_ | _, i'⟩ <;> rfl

theorem run_get : (get : Exec Interpreter).run i = (.ok i, i) := rfl

theorem run_setHeap (h : Heap) : (setHeap h).run i = (.ok (), { i with heap := h }) := rfl

/-- What is reported of an exception is some text, whatever becomes of asking it for one. -/
theorem exists_reportOf (ev : Evaluator) (why : Abort) (i : Interpreter) :
    ∃ text i', (reportOf ev why).run i = (.ok text, i') := by
  cases why with
  | exhausted => exact ⟨_, i, rfl⟩
  | raised e traced =>
    obtain ⟨text, i', htext⟩ : ∃ text i',
        (tryCatch (plainText ev e) fun _ => pure "<exception str() failed>").run i =
          (.ok text, i') := by
      rw [run_tryCatch]
      rcases (plainText ev e).run i with ⟨_ | text, i'⟩
      · exact ⟨_, i', rfl⟩
      · exact ⟨text, i', rfl⟩
    refine ⟨report traced (i'.heap.classPath (i'.heap.typeOf e)) text, i', ?_⟩
    rw [reportOf, run_bind, htext]
    rfl

theorem run_reported (ev : Evaluator) (code : Exec α) :
    (reported ev code).run i =
      match code.run i with
      | (.ok a, i') => (.ok (.ok a), i')
      | (.error why, i') =>
        match (reportOf ev why).run i' with
        | (.ok text, i'') => (.ok (.error (.runtime text)), i'')
        | (.error why, i'') => (.error why, i'') := by
  rw [reported, run_tryCatch]
  have hok : ((Except.ok <$> code : Exec (Except ScriptError α)).run i) =
      match code.run i with
      | (.ok a, i') => (.ok (.ok a), i')
      | (.error why, i') => (.error why, i') := by
    rw [map_eq_pure_bind, run_bind]
    rcases code.run i with ⟨_ | _, i'⟩ <;> rfl
  rw [hok]
  rcases code.run i with ⟨why | _, i'⟩
  · dsimp only
    rw [run_bind]
    rcases (reportOf ev why).run i' with ⟨_ | _, i''⟩ <;> rfl
  · rfl

end

/-! ## What code answers -/

section

variable {α β : Type} {code : Exec α} {next : α → Exec β} {P : α → Prop} {Q : β → Prop}

/-- Whatever code answers has the property; code that does not come to its end has nothing to
answer. -/
def Answers (code : Exec α) (P : α → Prop) : Prop :=
  ∀ i a i', code.run i = (.ok a, i') → P a

theorem answers_pure {a : α} (h : P a) : Answers (pure a) P := by
  intro i a' i' hrun
  cases hrun
  exact h

theorem answers_throw (why : Abort) : Answers (throw why) P := by
  intro i a i' hrun
  cases hrun

theorem answers_bind (h : Answers code P) (hnext : ∀ a, P a → Answers (next a) Q) :
    Answers (code >>= next) Q := by
  intro i b i' hrun
  rw [run_bind] at hrun
  split at hrun
  · next a i₁ hcode => exact hnext a (h i a i₁ hcode) i₁ b i' hrun
  · cases hrun

/-- What code answers at its end does not hang on what it does before. -/
theorem answers_after (hnext : ∀ a, Answers (next a) Q) : Answers (code >>= next) Q :=
  answers_bind (P := fun _ => True) (fun _ _ _ _ => trivial) fun a _ => hnext a

theorem answers_map {f : α → β} (h : Answers code fun a => Q (f a)) : Answers (f <$> code) Q := by
  rw [map_eq_pure_bind]
  exact answers_bind h fun a ha => answers_pure ha

theorem answers_tryCatch {handle : Abort → Exec α} (h : Answers code P)
    (hhandle : ∀ why, Answers (handle why) P) : Answers (tryCatch code handle) P := by
  intro i a i' hrun
  rw [run_tryCatch] at hrun
  split at hrun
  · next a' i₁ hcode =>
    cases hrun
    exact h i a i' hcode
  · next why i₁ hcode => exact hhandle why i₁ a i' hrun

theorem answers_raiseWith (type : String) (args : List Value) : Answers (raiseWith type args) P :=
  answers_after fun _ => answers_after fun _ => answers_throw _

theorem answers_raise (type text : String) : Answers (raise type text) P :=
  answers_raiseWith type [.text text]

/-- What comes of code is what it answers, or an exception. -/
theorem answers_caught (h : Answers code P) :
    Answers (caught code) fun outcome => ∀ a, outcome = .ok a → P a := by
  refine answers_tryCatch (answers_bind h fun a ha => answers_pure ?_) fun why => ?_
  · rintro a' ⟨⟩
    exact ha
  · cases why with
    | raised e t => exact answers_pure (by rintro a ⟨⟩)
    | exhausted => exact answers_throw _

theorem answers_whileHandling {e : Value} (h : Answers code P) :
    Answers (whileHandling e code) P :=
  answers_after fun _ =>
    answers_bind (answers_tryCatch h fun _ => answers_after fun _ => answers_throw _) fun _ ha =>
      answers_after fun _ => answers_pure ha

end

end Exec

end ScriptShell.Script
