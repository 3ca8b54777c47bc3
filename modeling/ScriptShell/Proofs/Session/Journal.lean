import ScriptShell.Proofs.Engine.Performed
import ScriptShell.Proofs.Engine.Recorded
import ScriptShell.Proofs.Session.Alike

/-!
# The journal of a session

`Dispatcher.journaled` keeps the effects that were performed beside the host, in order: where the
engine is asked for something, those that it performs are added, and nothing is added elsewhere. It
is the same shell otherwise (`journaledSession_eq`). The main statement is `shell_eq_last_writes`:
after any session, what scripts and dispatcher share is what the journal wrote last, so nothing else
that a shell does changes it, and nothing in it goes away.
-/

namespace ScriptShell

variable {τ α : Type}

/-- A shell whose scripts are lists of effects, with something beside them that programs run on. -/
def effectShell (runner : Runner (EffectHost × τ)) (home : String) (errors : ErrorStream) :
    Dispatcher (EffectHost × τ) where
  engine := effectEngine.beside τ
  runner := runner
  home := home
  errors := errors

/-- Performs effects that are no script of the engine. -/
def Effect.direct : Perform (List Effect) (EffectHost × τ) := fun effects s =>
  let o := performAll effects s.first
  { answer := o.answer, state := ⟨(o.state.host, s.host.2), o.state.shell⟩, output := o.output }

/-- The shell, with every effect noted that its engine performs. Its runner performs none. -/
def Dispatcher.journaled (d : Dispatcher (EffectHost × τ)) :
    Dispatcher ((EffectHost × τ) × List Effect) :=
  d.noting fun host => host.1.performs

/-- Effects that are no script of the engine are noted, too. -/
def Effect.directJournaled : Perform (List Effect) ((EffectHost × τ) × List Effect) :=
  fun effects s => (Effect.direct effects s.first).withNotes (s.host.2 ++ performed effects)

/-! ## What the journal accounts for -/

/-- The state `t` with a journal beside it, which has grown from `past` by effects that made of
`shell` what `t` has. -/
structure Accounts (past : List Effect) (shell : ShellState)
    (s : Shared ((EffectHost × τ) × List Effect)) (t : Shared (EffectHost × τ)) : Prop where
  first : s.first = t
  grown : ∃ later, s.host.2 = past ++ later ∧ t.shell = Effect.writes shell later

namespace Accounts

variable {past : List Effect} {shell : ShellState} {s : Shared ((EffectHost × τ) × List Effect)}
  {t : Shared (EffectHost × τ)}

theorem shell_eq (h : Accounts past shell s t) : s.shell = t.shell := congrArg Shared.shell h.first

theorem withNotes (s : Shared (EffectHost × τ)) (past : List Effect) :
    Accounts past s.shell (s.withNotes past) s :=
  ⟨rfl, [], (List.append_nil past).symm, rfl⟩

/-- A request that performs effects, on a state with a journal. -/
theorem perform (h : Accounts past shell s t) {o : Outcome (Shared (EffectHost × τ)) α}
    {effects : List Effect} (ho : o.state.shell = Effect.writes t.shell effects) :
    (o.withNotes (s.host.2 ++ effects)).Agrees (Accounts past shell) o := by
  obtain ⟨later, hjournal, hshell⟩ := h.grown
  refine ⟨rfl, rfl, later ++ effects, ?_, ?_⟩
  · have hhost : (o.withNotes (s.host.2 ++ effects)).state.host.2 = s.host.2 ++ effects := rfl
    rw [hhost, hjournal, List.append_assoc]
  · rw [ho, hshell, Effect.writes_append]

theorem eq_withNotes (h : Accounts past shell s t) :
    ∃ later, s = t.withNotes (past ++ later) ∧ t.shell = Effect.writes shell later := by
  obtain ⟨rfl, later, hjournal, hshell⟩ := h
  refine ⟨later, ?_, hshell⟩
  rw [← hjournal]
  rfl

end Accounts

variable {past : List Effect} {shell : ShellState}

/-- The shell keeps its accounts at every request: the engine performs what is noted, and programs
change nothing. -/
theorem alike_journaled (runner : Runner (EffectHost × τ)) (home : String) (errors : ErrorStream) :
    Alike (Accounts past shell) (effectShell runner home errors).journaled
      (effectShell runner home errors) where
  home := rfl
  shell h := h.shell_eq
  eval line s t h := by
    obtain rfl := h.first
    exact h.perform (effectEngine_eval_shell line s.first.first)
  call name args s t h := by
    obtain rfl := h.first
    exact h.perform (effectEngine_call_shell name args s.first.first)
  load path s t h := by
    obtain rfl := h.first
    exact h.perform (effectEngine_load_shell path s.first.first)
  run run s t h := by
    obtain ⟨rfl, later, hjournal, hshell⟩ := h
    exact ⟨rfl, rfl, later, (List.append_nil _).trans hjournal, hshell⟩

theorem direct_agrees (effects : List Effect) {s : Shared ((EffectHost × τ) × List Effect)}
    {t : Shared (EffectHost × τ)} (h : Accounts past shell s t) :
    (Effect.directJournaled effects s).Agrees (Accounts past shell) (Effect.direct effects t) := by
  obtain rfl := h.first
  exact h.perform (Effect.performAll_shell effects s.first.first)

/-! ## Sessions -/

/-- A state that has what `journal` wrote last, in tables that were empty before it: the prompt set
last or else the first one, for each trigger the expansion given last, and the names registered. -/
structure Records (prompt : String) (journal : List Effect) (shell : ShellState) : Prop where
  prompt : shell.prompt = (journal.filterMap Effect.prompt?).getLast?.getD prompt
  expansion : ∀ trigger,
    shell.aliases.get? trigger = (journal.filterMap (Effect.expansion? trigger)).getLast?
  names : ∀ name, name ∈ shell.commands.names ↔ name ∈ journal.filterMap Effect.name?
  nodup : shell.commands.names.Nodup

theorem records_writes (prompt : String) (journal : List Effect) :
    Records prompt journal (Effect.writes { prompt } journal) where
  prompt := Effect.prompt_writes _ _
  expansion trigger := by
    have hnone : AliasTable.get? {} trigger = none := rfl
    rw [Effect.get?_writes, hnone, Option.or_none]
  names name := by
    rw [(CommandTable.names_perm _).mem_iff, Effect.mem_members_writes]
    exact or_iff_left (List.not_mem_nil)
  nodup := (CommandTable.names_perm _).nodup_iff.2 (Effect.nodup_writes List.nodup_nil _)

/-- The triggers and the names of a state are those of a later one, too. -/
structure ShellState.KeptIn (before later : ShellState) : Prop where
  triggers : ∀ trigger ∈ before.aliases.triggers, trigger ∈ later.aliases.triggers
  names : ∀ name ∈ before.commands.names, name ∈ later.commands.names

theorem keptIn_writes (shell : ShellState) (effects : List Effect) :
    shell.KeptIn (Effect.writes shell effects) where
  triggers trigger h := by
    rw [AliasTable.mem_triggers] at h ⊢
    rw [Effect.get?_writes, Option.isSome_or, h, Bool.or_true]
  names name h := by
    rw [(CommandTable.names_perm _).mem_iff] at h ⊢
    exact (Effect.mem_members_writes ..).2 (.inr h)

section

variable (runner : Runner (EffectHost × τ)) (home : String) (errors : ErrorStream)

/-- The state after a session. -/
def effectSession (s : Shared (EffectHost × τ)) (steps : List (Step (List Effect))) :
    Shared (EffectHost × τ) :=
  (effectShell runner home errors).afterSteps Effect.direct s steps

/-- The state after a session that is journaled behind `past`. -/
def journaledSession (s : Shared (EffectHost × τ)) (past : List Effect)
    (steps : List (Step (List Effect))) : Shared ((EffectHost × τ) × List Effect) :=
  (effectShell runner home errors).journaled.afterSteps Effect.directJournaled (s.withNotes past)
    steps

/-- A journaled session is the session, and the state of the shell is what the effects noted in it
made of what was there. -/
theorem journaledSession_eq (s : Shared (EffectHost × τ)) (past : List Effect)
    (steps : List (Step (List Effect))) :
    ∃ later,
      journaledSession runner home errors s past steps =
        (effectSession runner home errors s steps).withNotes (past ++ later) ∧
      (effectSession runner home errors s steps).shell = Effect.writes s.shell later :=
  ((alike_journaled runner home errors).afterSteps (fun x _ _ h => direct_agrees x h)
    (Accounts.withNotes s past) steps).eq_withNotes

/-- After any session, the state that scripts and dispatcher share records what was written last by
the effects performed in it. Afterwards it changes only by effects that are performed then, and
triggers and names stay. -/
theorem shell_eq_last_writes (host : EffectHost × τ) (prompt : String)
    (steps : List (Step (List Effect))) :
    ∃ journal,
      journaledSession runner home errors ⟨host, { prompt }⟩ [] steps =
        (effectSession runner home errors ⟨host, { prompt }⟩ steps).withNotes journal ∧
      Records prompt journal (effectSession runner home errors ⟨host, { prompt }⟩ steps).shell ∧
      ∀ more, ∃ later,
        journaledSession runner home errors ⟨host, { prompt }⟩ [] (steps ++ more) =
          (effectSession runner home errors ⟨host, { prompt }⟩ (steps ++ more)).withNotes
            (journal ++ later) ∧
        (later = [] →
          (effectSession runner home errors ⟨host, { prompt }⟩ (steps ++ more)).shell =
            (effectSession runner home errors ⟨host, { prompt }⟩ steps).shell) ∧
        (effectSession runner home errors ⟨host, { prompt }⟩ steps).shell.KeptIn
          (effectSession runner home errors ⟨host, { prompt }⟩ (steps ++ more)).shell := by
  obtain ⟨journal, hjournal, hshell⟩ :=
    journaledSession_eq runner home errors ⟨host, { prompt }⟩ [] steps
  refine ⟨journal, hjournal, ?_, fun more => ?_⟩
  · rw [hshell]
    exact records_writes prompt journal
  · generalize hstate : effectSession runner home errors ⟨host, { prompt }⟩ steps = s at *
    obtain ⟨later, hlater, hshell'⟩ := journaledSession_eq runner home errors s journal more
    have happend : effectSession runner home errors ⟨host, { prompt }⟩ (steps ++ more) =
        effectSession runner home errors s more := by
      rw [← hstate]
      exact Dispatcher.afterSteps_append ..
    have hjoin : journaledSession runner home errors ⟨host, { prompt }⟩ [] (steps ++ more) =
        journaledSession runner home errors s journal more := by
      rw [journaledSession, Dispatcher.afterSteps_append]
      exact congrArg (fun s => Dispatcher.afterSteps _ _ s more) hjournal
    rw [happend, hjoin, hshell']
    refine ⟨later, hlater, ?_, keptIn_writes _ later⟩
    rintro rfl
    rfl

/-- A script that fails half way: its alias stays, its prompt is not set, and the line is run. -/
example :
    (effectSession { run _ host := { answer := .ok ⟨0⟩, state := host } } "/home/u" .plain
      ⟨({ scripts := [("ll", [.alias "ll" "ls", .fail .notStatement, .prompt "> "])] }, ()), {}⟩
      [.dispatch "ll"]).shell = { prompt := "gil> ", aliases := ⟨[("ll", "ls")]⟩ } := rfl

end

end ScriptShell
