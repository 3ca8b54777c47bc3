import Mathlib.Data.List.Induction
import ScriptShell.Engine.Effects
import ScriptShell.Proofs.Shell.Tables

/-!
# What effects leave behind

Of the effects of a script, those before the first failure are performed (`Effect.performed`), and
the state of the shell is what these, one after another, make of it (`Effect.performAll_shell`).
Read back after any number of performed effects, it holds what was written last: the prompt set
last, under each trigger the expansion given last, and the names that were registered
(`Effect.prompt_writes`, `get?_writes`, `mem_members_writes`).
-/

namespace ScriptShell

namespace Effect

/-- Whether the effect is a failure. -/
def isFail : Effect → Bool
  | .fail _ => true
  | _ => false

/-- The effects of a script that are performed: all before the first failure. -/
def performed (effects : List Effect) : List Effect := effects.takeWhile fun e => !e.isFail

/-- What a performed effect does to the state of the shell. -/
def write (shell : ShellState) : Effect → ShellState
  | .prompt text => { shell with prompt := text }
  | .alias trigger expansion => { shell with aliases := shell.aliases.insert trigger expansion }
  | .register name _ | .announce name => { shell with commands := shell.commands.insert name }
  | .fail _ => shell

/-- What performed effects, one after another, do to the state of the shell. -/
def writes (shell : ShellState) (effects : List Effect) : ShellState := effects.foldl write shell

/-- The prompt that an effect sets. -/
def prompt? : Effect → Option String
  | .prompt text => some text
  | _ => none

/-- The expansion that an effect gives `trigger`. -/
def expansion? (trigger : String) : Effect → Option String
  | .alias t expansion => if t = trigger then some expansion else none
  | _ => none

/-- The name that an effect registers. -/
def name? : Effect → Option String
  | .register name _ | .announce name => some name
  | _ => none

/-! ## Performing -/

theorem writes_append (shell : ShellState) (xs ys : List Effect) :
    writes shell (xs ++ ys) = writes (writes shell xs) ys :=
  List.foldl_append

/-- The effects before the first failure are performed, those behind it are not; only the failure
is answered. -/
theorem performAll_shell (effects : List Effect) (s : Shared EffectHost) :
    (performAll effects s).state.shell = writes s.shell (performed effects) := by
  induction effects generalizing s with
  | nil => rfl
  | cons e rest ih =>
    cases e with
    | prompt text => exact ih _
    | «alias» trigger expansion => exact ih _
    | announce name => exact ih _
    | register name handler => exact ih _
    | fail why => rfl

/-! ## Reading back -/

/-- Where each effect writes something or nothing, what is read is what was written last. -/
theorem read_writes {α : Type} (read : ShellState → Option α) (written : Effect → Option α)
    (h : ∀ shell e, read (write shell e) = (written e).or (read shell)) (shell : ShellState)
    (effects : List Effect) :
    read (writes shell effects) = (effects.filterMap written).getLast?.or (read shell) := by
  induction effects using List.reverseRecOn with
  | nil => rfl
  | append_singleton before e ih =>
    have hlast : read (writes shell (before ++ [e])) =
        (written e).or (read (writes shell before)) := by
      rw [writes_append]
      exact h _ e
    rw [hlast, List.filterMap_append]
    cases hw : written e with
    | none =>
      rw [List.filterMap_cons_none hw, List.filterMap_nil, List.append_nil, ← ih, Option.none_or]
    | some v =>
      rw [List.filterMap_cons_some hw, List.filterMap_nil, List.getLast?_concat]
      rfl

theorem prompt_writes (shell : ShellState) (effects : List Effect) :
    (writes shell effects).prompt = (effects.filterMap prompt?).getLast?.getD shell.prompt := by
  have hread := read_writes (fun shell => some shell.prompt) prompt?
    (fun shell e => by cases e <;> rfl) shell effects
  cases hlast : (effects.filterMap prompt?).getLast? with
  | none => simpa [hlast] using hread
  | some text => simpa [hlast] using hread

theorem get?_writes (shell : ShellState) (effects : List Effect) (trigger : String) :
    (writes shell effects).aliases.get? trigger =
      (effects.filterMap (expansion? trigger)).getLast?.or (shell.aliases.get? trigger) := by
  refine read_writes (fun shell => shell.aliases.get? trigger) (expansion? trigger)
    (fun shell e => ?_) shell effects
  cases e with
  | «alias» t expansion =>
    by_cases ht : t = trigger
    · subst ht
      simp [write, expansion?, AliasTable.get?_insert_same]
    · simp [write, expansion?, ht, AliasTable.get?_insert_other _ (Ne.symm ht)]
  | _ => rfl

theorem mem_members_writes (shell : ShellState) (effects : List Effect) (name : String) :
    name ∈ (writes shell effects).commands.members ↔
      name ∈ effects.filterMap name? ∨ name ∈ shell.commands.members := by
  induction effects generalizing shell with
  | nil => simp [writes]
  | cons e rest ih =>
    have hstep : name ∈ (write shell e).commands.members ↔
        e.name? = some name ∨ name ∈ shell.commands.members := by
      cases e with
      | register n _ => simp [write, name?, CommandTable.mem_insert, eq_comm]
      | announce n => simp [write, name?, CommandTable.mem_insert, eq_comm]
      | _ => simp [write, name?]
    have hcons : writes shell (e :: rest) = writes (write shell e) rest := rfl
    rw [hcons, ih, hstep]
    simp only [List.mem_filterMap, List.mem_cons, exists_eq_or_imp]
    exact or_left_comm.trans or_assoc.symm

theorem nodup_writes {shell : ShellState} (h : shell.commands.members.Nodup)
    (effects : List Effect) : (writes shell effects).commands.members.Nodup := by
  induction effects generalizing shell with
  | nil => exact h
  | cons e rest ih =>
    suffices hstep : (write shell e).commands.members.Nodup from ih hstep
    cases e with
    | register n _ => exact CommandTable.nodup_insert h n
    | announce n => exact CommandTable.nodup_insert h n
    | _ => exact h

end Effect

/-! ## What the engine performs -/

/-- The effects that the engine performs when it is asked for something: those of the script, the
handler or the file, if there is one. -/
def EffectHost.performs (h : EffectHost) : Request → List Effect
  | .script line =>
    if line.toList.contains '\x00' then [] else Effect.performed ((h.scripts.lookup line).getD [])
  | .call name _ => Effect.performed ((h.handlers.lookup name).getD [])
  | .load path => Effect.performed ((h.files.lookup path).getD [])
  | .run _ => []

theorem effectEngine_eval_shell (line : String) (s : Shared EffectHost) :
    (effectEngine.eval line s).state.shell =
      Effect.writes s.shell (s.host.performs (.script line)) := by
  unfold effectEngine EffectHost.performs
  dsimp only
  split
  · rfl
  · cases s.host.scripts.lookup line with
    | none => rfl
    | some effects => exact Effect.performAll_shell effects _

theorem effectEngine_call_shell (name : String) (args : List String) (s : Shared EffectHost) :
    (effectEngine.call name args s).state.shell =
      Effect.writes s.shell (s.host.performs (.call name args)) := by
  have hhost : (s.host.note (.call name args)).handlers = s.host.handlers := rfl
  unfold effectEngine EffectHost.performs
  dsimp only
  rw [hhost]
  cases s.host.handlers.lookup name with
  | none => rfl
  | some effects => exact Effect.performAll_shell effects _

theorem effectEngine_load_shell (path : String) (s : Shared EffectHost) :
    (effectEngine.load path s).state.shell =
      Effect.writes s.shell (s.host.performs (.load path)) := by
  have hhost : (s.host.note (.load path)).files = s.host.files := rfl
  unfold effectEngine EffectHost.performs
  dsimp only
  rw [hhost]
  cases s.host.files.lookup path with
  | none => rfl
  | some effects => exact Effect.performAll_shell effects _

end ScriptShell
