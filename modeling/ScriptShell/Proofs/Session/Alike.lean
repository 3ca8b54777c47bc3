import Mathlib.Data.List.Forall2
import ScriptShell.Proofs.Loop.Fold
import ScriptShell.Proofs.Resolution.Order
import ScriptShell.Proofs.Session.Steps

/-!
# Shells that are alike

Two dispatchers are alike under a relation of their states if engine and runner keep it: asked the
same on related states, they give the same answer and leave related states. Then everything that is
built from their requests does the same (`Alike.dispatchLine`, `Alike.run_loop`,
`Alike.configure`), and so do whole sessions (`Alike.session`, `Alike.afterSteps`). What is put out
may differ.

With one dispatcher on both sides this carries invariants from the requests to the sessions.
-/

namespace ScriptShell

variable {ε σ τ α : Type}

/-- The same answer, and states that are related. -/
structure Outcome.Agrees (R : Shared σ → Shared τ → Prop) (o : Outcome (Shared σ) α)
    (p : Outcome (Shared τ) α) : Prop where
  answer : o.answer = p.answer
  state : R o.state p.state

/-- The same answer, prompts and reads left over, and states that are related. -/
structure LoopResult.Agrees (R : Shared σ → Shared τ → Prop) (r : LoopResult σ)
    (q : LoopResult τ) : Prop where
  answer : r.answer = q.answer
  state : R r.state q.state
  prompts : r.prompts = q.prompts
  unread : r.unread = q.unread

/-- The same answer, prompts and reads left over, and states that are related. -/
structure StepResult.Agrees (R : Shared σ → Shared τ → Prop) (r : StepResult σ)
    (q : StepResult τ) : Prop where
  answer : r.answer = q.answer
  state : R r.state q.state
  prompts : r.prompts = q.prompts
  unread : r.unread = q.unread

theorem Outcome.Agrees.result {R : Shared σ → Shared τ → Prop} {o : Outcome (Shared σ) α}
    {p : Outcome (Shared τ) α} (h : o.Agrees R p) (wrap : α → StepAnswer) :
    (o.result wrap).Agrees R (p.result wrap) :=
  ⟨congrArg wrap h.answer, h.state, rfl, rfl⟩

/-- Runs a program on the host of a shell. -/
def Runner.onShared (r : Runner σ) (run : Invocation) (s : Shared σ) :
    Outcome (Shared σ) (Except LaunchError ExitStatus) :=
  let o := r.run run s.host
  { answer := o.answer, state := { s with host := o.state }, output := o.output }

/-- Two dispatchers whose engines and runners keep a relation of their states. -/
structure Alike (R : Shared σ → Shared τ → Prop) (d : Dispatcher σ) (e : Dispatcher τ) : Prop where
  home : d.home = e.home
  shell : ∀ {s t}, R s t → s.shell = t.shell
  eval : ∀ line {s t}, R s t → (d.engine.eval line s).Agrees R (e.engine.eval line t)
  call : ∀ name args {s t}, R s t → (d.engine.call name args s).Agrees R (e.engine.call name args t)
  load : ∀ path {s t}, R s t → (d.engine.load path s).Agrees R (e.engine.load path t)
  run : ∀ run {s t}, R s t → (d.runner.onShared run s).Agrees R (e.runner.onShared run t)

namespace Alike

variable {R : Shared σ → Shared τ → Prop} {d : Dispatcher σ} {e : Dispatcher τ} {s : Shared σ}
  {t : Shared τ}

/-! ## One line -/

theorem resolve (h : Alike R d e) (hR : R s t) (line : String) :
    (d.resolve line s).Agrees R (e.resolve line t) := by
  obtain ⟨hanswer, hstate⟩ := h.eval line hR
  cases hd : (d.engine.eval line s).answer with
  | ok _ =>
    have he : (e.engine.eval line t).answer = .ok () := hanswer ▸ hd
    rw [Dispatcher.resolve, Dispatcher.resolve, Engine.resolve_accepted hd,
      Engine.resolve_accepted he]
    exact ⟨rfl, hstate⟩
  | error why =>
    have he : (e.engine.eval line t).answer = .error why := hanswer ▸ hd
    rw [Dispatcher.resolve, Dispatcher.resolve, Engine.resolve_rejected hd,
      Engine.resolve_rejected he, h.home, h.shell hstate]
    exact ⟨rfl, hstate⟩

theorem runProgram (h : Alike R d e) (hR : R s t) (run : Invocation) :
    (d.runProgram run s).Agrees R (e.runProgram run t) := by
  obtain ⟨hanswer, hstate⟩ := h.run run hR
  cases hd : (d.runner.run run s.host).answer with
  | error why =>
    have he : (e.runner.run run t.host).answer = .error why := hanswer.symm.trans hd
    rw [d.runProgram_failed hd, e.runProgram_failed he]
    exact ⟨rfl, hstate⟩
  | ok status =>
    have he : (e.runner.run run t.host).answer = .ok status := hanswer.symm.trans hd
    rw [d.runProgram_ended hd, e.runProgram_ended he]
    exact ⟨rfl, hstate⟩

theorem callCommand (h : Alike R d e) (hR : R s t) (name : String) (args : List String) :
    (d.callCommand name args s).Agrees R (e.callCommand name args t) := by
  obtain ⟨hanswer, hstate⟩ := h.call name args hR
  cases hd : (d.engine.call name args s).answer with
  | error why =>
    have he : (e.engine.call name args t).answer = .error why := hanswer ▸ hd
    rw [d.callCommand_failed hd, e.callCommand_failed he]
    exact ⟨rfl, hstate⟩
  | ok _ =>
    have he : (e.engine.call name args t).answer = .ok () := hanswer ▸ hd
    rw [d.callCommand_returned hd, e.callCommand_returned he]
    exact ⟨rfl, hstate⟩

theorem execute (h : Alike R d e) (hR : R s t) (r : Resolution) :
    (d.execute r s).Agrees R (e.execute r t) := by
  cases r with
  | script => exact ⟨rfl, hR⟩
  | empty => exact ⟨rfl, hR⟩
  | exit => exact ⟨rfl, hR⟩
  | «alias» run => exact h.runProgram hR run
  | external run => exact h.runProgram hR run
  | command name args => exact h.callCommand hR name args

theorem dispatchLine (h : Alike R d e) (hR : R s t) (line : String) :
    (d.dispatchLine line s).Agrees R (e.dispatchLine line t) := by
  obtain ⟨hmeaning, hsettled⟩ := h.resolve hR line
  have hdone := h.execute hsettled (d.resolve line s).answer
  rw [d.dispatchLine_eq, e.dispatchLine_eq, ← hmeaning]
  exact ⟨hdone.answer, hdone.state⟩

/-! ## Loops -/

theorem afterLines (h : Alike R d e) (hR : R s t) (lines : List String) :
    R (d.afterLines s lines) (e.afterLines t lines) := by
  induction lines generalizing s t with
  | nil => exact hR
  | cons line rest ih => exact ih (h.dispatchLine hR line).state

theorem after (h : Alike R d e) (hR : R s t) (items : List Delivery) :
    R (d.after s items) (e.after t items) :=
  h.afterLines hR (linesOf items)

theorem stops_iff (h : Alike R d e) (hR : R s t) (item : Delivery) :
    d.Stops s item ↔ e.Stops t item := by
  unfold Dispatcher.Stops
  cases item.read with
  | line text =>
    dsimp only
    rw [(h.dispatchLine hR text).answer]
  | interrupted => exact Iff.rfl
  | endOfInput => exact Iff.rfl
  | failed why => exact Iff.rfl

theorem run_loop (h : Alike R d e) (hR : R s t) (items : List Delivery) :
    (d.run items s).Agrees R (e.run items t) := by
  induction items generalizing s t with
  | nil => exact ⟨rfl, hR, by rw [Dispatcher.run, Dispatcher.run, h.shell hR], rfl⟩
  | cons item rest ih =>
    have hnext := h.after hR [item]
    by_cases hs : d.Stops s item
    · rw [Dispatcher.run_stop hs, Dispatcher.run_stop ((h.stops_iff hR item).1 hs)]
      exact ⟨rfl, hnext, by rw [h.shell hR], rfl⟩
    · rw [Dispatcher.run_step hs, Dispatcher.run_step (mt (h.stops_iff hR item).2 hs)]
      obtain ⟨hanswer, hstate, hprompts, hunread⟩ := ih hnext
      exact ⟨hanswer, hstate, congrArg₂ List.cons (by rw [h.shell hR]) hprompts, hunread⟩

/-! ## Configurations -/

theorem loadFirst (h : Alike R d e) (hR : R s t) (paths : List String) :
    (Config.loadFirst d.engine paths s).Agrees R (Config.loadFirst e.engine paths t) := by
  induction paths generalizing s t with
  | nil => exact ⟨rfl, hR⟩
  | cons path rest ih =>
    obtain ⟨hanswer, hstate⟩ := h.load path hR
    cases hd : (d.engine.load path s).answer with
    | ok _ =>
      have he : (e.engine.load path t).answer = .ok () := hanswer ▸ hd
      simp only [Config.loadFirst, hd, he]
      exact ⟨rfl, hstate⟩
    | error why =>
      have he : (e.engine.load path t).answer = .error why := hanswer ▸ hd
      simp only [Config.loadFirst, hd, he]
      exact ⟨(ih hstate).answer, (ih hstate).state⟩

theorem configure (h : Alike R d e) (hR : R s t) (preloads : List String) (userConfig : String) :
    (Config.load d.engine preloads userConfig s).Agrees R
      (Config.load e.engine preloads userConfig t) := by
  obtain ⟨hanswer, hstate⟩ := h.load userConfig (h.loadFirst hR preloads).state
  exact ⟨congrArg (Except.mapError (ConfigError.notLoaded userConfig)) hanswer, hstate⟩

/-! ## Sessions -/

variable {perform : Perform ε σ} {perform' : Perform ε τ}

theorem step (h : Alike R d e)
    (hdirect : ∀ x {s t}, R s t → (perform x s).Agrees R (perform' x t)) (hR : R s t)
    (step : Step ε) : (d.step perform s step).Agrees R (e.step perform' t step) := by
  cases step with
  | direct x => exact (hdirect x hR).result _
  | eval line => exact (h.eval line hR).result _
  | call name args => exact (h.call name args hR).result _
  | load path => exact (h.load path hR).result _
  | configure preloads userConfig => exact (h.configure hR preloads userConfig).result _
  | resolve line => exact (h.resolve hR line).result _
  | dispatch line => exact (h.dispatchLine hR line).result _
  | loop items =>
    obtain ⟨hanswer, hstate, hprompts, hunread⟩ := h.run_loop hR items
    exact ⟨congrArg StepAnswer.looped hanswer, hstate, hprompts, hunread⟩

theorem session (h : Alike R d e)
    (hdirect : ∀ x {s t}, R s t → (perform x s).Agrees R (perform' x t)) (hR : R s t)
    (steps : List (Step ε)) :
    List.Forall₂ (StepResult.Agrees R) (d.session perform s steps)
      (e.session perform' t steps) := by
  induction steps generalizing s t with
  | nil => exact .nil
  | cons step rest ih =>
    have hstep := h.step hdirect hR step
    exact .cons hstep (ih hstep.state)

theorem afterSteps (h : Alike R d e)
    (hdirect : ∀ x {s t}, R s t → (perform x s).Agrees R (perform' x t)) (hR : R s t)
    (steps : List (Step ε)) : R (d.afterSteps perform s steps) (e.afterSteps perform' t steps) := by
  induction steps generalizing s t with
  | nil => exact hR
  | cons step rest ih => exact ih (h.step hdirect hR step).state

end Alike

end ScriptShell
