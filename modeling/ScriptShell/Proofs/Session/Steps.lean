import ScriptShell.Config.Load
import ScriptShell.Loop

/-!
# Sessions

A session does one thing with a shell after another: it asks the engine for something, loads a
configuration, settles or dispatches a line, or lets a whole loop read. `Dispatcher.session` lists
what each step came to, `Dispatcher.afterSteps` is the state that is left.
-/

namespace ScriptShell

/-- One thing done with a shell. `ε` is what may be done to its state from outside. -/
inductive Step (ε : Type)
  | direct (e : ε)
  | eval (line : String)
  | call (name : String) (args : List String)
  | load (path : String)
  | configure (preloads : List String) (userConfig : String)
  | resolve (line : String)
  | dispatch (line : String)
  | loop (items : List Delivery)

/-- The answer of a step. -/
inductive StepAnswer
  | performed (answer : Except ScriptError Unit)
  | configured (answer : Except ConfigError Unit)
  | resolved (meaning : Resolution)
  | dispatched (answer : Except DispatchError Flow)
  | looped (answer : Except String Unit)

/-- What a step came to. Only loops have prompts and leave reads over. -/
structure StepResult (σ : Type) where
  answer : StepAnswer
  state : Shared σ
  output : List Output
  prompts : List String := []
  unread : List Delivery := []

/-- The result of a step that is one action. -/
def Outcome.result {σ α : Type} (o : Outcome (Shared σ) α) (wrap : α → StepAnswer) :
    StepResult σ where
  answer := wrap o.answer
  state := o.state
  output := o.output

/-- The result of a step that is a loop. -/
def LoopResult.result {σ : Type} (r : LoopResult σ) : StepResult σ where
  answer := .looped r.answer
  state := r.state
  output := r.output
  prompts := r.prompts
  unread := r.unread

/-- How things are done to the state of a shell from outside. -/
abbrev Perform (ε σ : Type) := ε → Shared σ → Outcome (Shared σ) (Except ScriptError Unit)

namespace Dispatcher

variable {ε σ : Type} (d : Dispatcher σ) (perform : Perform ε σ)

/-- Does one step. -/
def step (s : Shared σ) : Step ε → StepResult σ
  | .direct e => (perform e s).result .performed
  | .eval line => (d.engine.eval line s).result .performed
  | .call name args => (d.engine.call name args s).result .performed
  | .load path => (d.engine.load path s).result .performed
  | .configure preloads userConfig =>
    (Config.load d.engine preloads userConfig s).result .configured
  | .resolve line => (d.resolve line s).result .resolved
  | .dispatch line => (d.dispatchLine line s).result .dispatched
  | .loop items => (d.run items s).result

/-- What steps came to, each done in the state that the one before it left. -/
def session (s : Shared σ) : List (Step ε) → List (StepResult σ)
  | [] => []
  | step :: rest => d.step perform s step :: session (d.step perform s step).state rest

/-- The state after steps. -/
def afterSteps (s : Shared σ) (steps : List (Step ε)) : Shared σ :=
  steps.foldl (fun s step => (d.step perform s step).state) s

theorem afterSteps_append (s : Shared σ) (xs ys : List (Step ε)) :
    d.afterSteps perform s (xs ++ ys) = d.afterSteps perform (d.afterSteps perform s xs) ys :=
  List.foldl_append

end Dispatcher

end ScriptShell
