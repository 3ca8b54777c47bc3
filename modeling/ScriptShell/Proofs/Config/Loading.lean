import ScriptShell.Config.Load
import ScriptShell.Proofs.Engine.Recorded

/-!
# The order of loading

The preload scripts are asked for one after another, up to and with the first that loads
(`Engine.Preloads`), each in the state that those before it left, and the user's configuration is
asked for last. The main statement is `Config.load_in_order`: that is all that is asked of the
engine, and what comes of the last request is what is returned.
-/

namespace ScriptShell

variable {σ : Type}

namespace Engine

variable (engine : Engine σ)

/-- The state after files were asked for one after another, whether they loaded or not. -/
def afterLoads (s : Shared σ) (paths : List String) : Shared σ :=
  paths.foldl (fun s path => (engine.load path s).state) s

/-- The file runs to its end. -/
def Loads (s : Shared σ) (path : String) : Prop := (engine.load path s).answer = .ok ()

/-- None of the files loads, each asked for in the state that those before it left. -/
def NoneLoads (s : Shared σ) (paths : List String) : Prop :=
  ∀ before path after, paths = before ++ path :: after →
    ¬ engine.Loads (engine.afterLoads s before) path

/-- The files that are asked for when one is enough: those up to and with the first that loads, or
all if none does. -/
inductive Preloads (s : Shared σ) (paths : List String) : List String → Prop
  | first {before after : List String} {path : String} (split : paths = before ++ path :: after)
      (failed : engine.NoneLoads s before)
      (loads : engine.Loads (engine.afterLoads s before) path) :
      Preloads s paths (before ++ [path])
  | all (failed : engine.NoneLoads s paths) : Preloads s paths paths

/-- What is noted about a preload script. -/
def preloadNote (s : Shared σ) (path : String) : Event :=
  match (engine.load path s).answer with
  | .ok () => .preloadLoaded path
  | .error why => .preloadNotLoaded path why

/-- What preload scripts put out that are asked for one after another, with the notes about them. -/
def preloadOutputs (s : Shared σ) : List String → List Output
  | [] => []
  | path :: rest =>
    (engine.load path s).output ++ .event (engine.preloadNote s path) ::
      preloadOutputs (engine.load path s).state rest

variable {engine} {s : Shared σ} {path : String} {paths asked : List String}

/-! ## One file more -/

theorem noneLoads_nil : engine.NoneLoads s [] := by
  intro before path after h
  cases before <;> cases h

theorem noneLoads_cons : engine.NoneLoads s (path :: paths) ↔
    ¬ engine.Loads s path ∧ engine.NoneLoads (engine.load path s).state paths := by
  constructor
  · intro h
    refine ⟨h [] path paths rfl, fun before next after hsplit => ?_⟩
    exact h (path :: before) next after (congrArg (path :: ·) hsplit)
  · rintro ⟨hfirst, hrest⟩ before next after hsplit
    cases before with
    | nil =>
      cases hsplit
      exact hfirst
    | cons _ before =>
      cases hsplit
      exact hrest before next after rfl

theorem Preloads.later (hf : ¬ engine.Loads s path)
    (h : engine.Preloads (engine.load path s).state paths asked) :
    engine.Preloads s (path :: paths) (path :: asked) := by
  cases h with
  | first split failed loads =>
    exact .first (congrArg (path :: ·) split) (noneLoads_cons.2 ⟨hf, failed⟩) loads
  | all failed => exact .all (noneLoads_cons.2 ⟨hf, failed⟩)

end Engine

namespace Config

open Engine

variable {engine : Engine σ} {s : Shared σ} {path : String} {rest : List String}

theorem loadFirst_loads (h : engine.Loads s path) :
    loadFirst engine (path :: rest) s =
      { answer := true
        state := (engine.load path s).state
        output := (engine.load path s).output ++ [.event (engine.preloadNote s path)] } := by
  rw [Loads] at h
  rw [loadFirst, preloadNote, h]

theorem loadFirst_fails (h : ¬ engine.Loads s path) :
    loadFirst engine (path :: rest) s =
      { answer := (loadFirst engine rest (engine.load path s).state).answer
        state := (loadFirst engine rest (engine.load path s).state).state
        output := (engine.load path s).output ++ .event (engine.preloadNote s path) ::
          (loadFirst engine rest (engine.load path s).state).output } := by
  rw [Loads] at h
  rw [loadFirst, preloadNote]
  cases ha : (engine.load path s).answer with
  | ok => exact absurd ha h
  | error why => rfl

/-! ## The preload scripts -/

/-- What comes of the preload scripts when the engine is asked for these files. -/
structure Preloaded (engine : Engine σ) (s : Shared σ) (paths asked : List String) : Prop where
  order : engine.Preloads s paths asked
  answer : (loadFirst engine paths s).answer = false ↔ engine.NoneLoads s paths
  state : (loadFirst engine paths s).state = engine.afterLoads s asked
  output : (loadFirst engine paths s).output = engine.preloadOutputs s asked
  recorded : ∀ past, loadFirst engine.recorded paths (s.withNotes past) =
    (loadFirst engine paths s).withNotes (past ++ asked.map .load)

theorem preloaded_nil (engine : Engine σ) (s : Shared σ) : Preloaded engine s [] [] where
  order := .all noneLoads_nil
  answer := iff_of_true rfl noneLoads_nil
  state := rfl
  output := rfl
  recorded past := by
    rw [List.map_nil, List.append_nil]
    rfl

theorem preloaded_loads (h : engine.Loads s path) (rest : List String) :
    Preloaded engine s (path :: rest) [path] where
  order := by
    have hsplit : path :: rest = [] ++ path :: rest := rfl
    exact .first hsplit noneLoads_nil h
  answer := by
    rw [loadFirst_loads h]
    exact iff_of_false nofun fun hnone => (noneLoads_cons.1 hnone).1 h
  state := by
    rw [loadFirst_loads h]
    rfl
  output := by
    rw [loadFirst_loads h]
    rfl
  recorded past := by
    have h' : engine.recorded.Loads (s.withNotes past) path := h
    rw [loadFirst_loads h, loadFirst_loads h']
    rfl

theorem Preloaded.later {asked : List String} (h : ¬ engine.Loads s path)
    (hrest : Preloaded engine (engine.load path s).state rest asked) :
    Preloaded engine s (path :: rest) (path :: asked) where
  order := hrest.order.later h
  answer := by
    rw [loadFirst_fails h, hrest.answer, noneLoads_cons]
    exact ⟨fun hnone => ⟨h, hnone⟩, fun hnone => hnone.2⟩
  state := by
    rw [loadFirst_fails h, hrest.state]
    rfl
  output := by
    rw [loadFirst_fails h, hrest.output]
    rfl
  recorded past := by
    have h' : ¬ engine.recorded.Loads (s.withNotes past) path := h
    have hnext : (engine.recorded.load path (s.withNotes past)).state =
        (engine.load path s).state.withNotes (past ++ [.load path]) := rfl
    rw [loadFirst_fails h, loadFirst_fails h', hnext, hrest.recorded, List.append_assoc]
    rfl

theorem exists_preloaded (engine : Engine σ) (s : Shared σ) (paths : List String) :
    ∃ asked, Preloaded engine s paths asked := by
  induction paths generalizing s with
  | nil => exact ⟨[], preloaded_nil engine s⟩
  | cons path rest ih =>
    by_cases hl : engine.Loads s path
    · exact ⟨[path], preloaded_loads hl rest⟩
    · obtain ⟨asked, hrest⟩ := ih (engine.load path s).state
      exact ⟨path :: asked, hrest.later hl⟩

/-! ## The user's configuration -/

/-- What is noted if no preload script has loaded. -/
def missingNote (answer : Bool) : List Output := if answer then [] else [.event .preloadMissing]

/-- The configuration is asked for last, in the state that the preload scripts left. -/
theorem load_eq {asked : List String} {paths : List String} (h : Preloaded engine s paths asked)
    (userConfig : String) :
    load engine paths userConfig s =
      { answer := (engine.load userConfig (engine.afterLoads s asked)).answer.mapError
          (.notLoaded userConfig)
        state := (engine.load userConfig (engine.afterLoads s asked)).state
        output := engine.preloadOutputs s asked ++ missingNote (loadFirst engine paths s).answer ++
          (engine.load userConfig (engine.afterLoads s asked)).output } := by
  rw [load, ← h.state, ← h.output]
  rfl

theorem load_ok_iff {asked : List String} {paths : List String} (h : Preloaded engine s paths asked)
    (userConfig : String) :
    (load engine paths userConfig s).answer = .ok () ↔
      engine.Loads (engine.afterLoads s asked) userConfig := by
  rw [load_eq h, Engine.Loads]
  cases (engine.load userConfig (engine.afterLoads s asked)).answer with
  | ok => exact iff_of_true rfl rfl
  | error why => exact iff_of_false nofun nofun

theorem load_error_iff {asked : List String} {paths : List String}
    (h : Preloaded engine s paths asked) (userConfig : String) {e : ConfigError} :
    (load engine paths userConfig s).answer = .error e ↔
      ∃ why, (engine.load userConfig (engine.afterLoads s asked)).answer = .error why ∧
        e = .notLoaded userConfig why := by
  rw [load_eq h]
  cases (engine.load userConfig (engine.afterLoads s asked)).answer with
  | ok => exact iff_of_false nofun fun ⟨_, he, _⟩ => nomatch he
  | error why =>
    constructor
    · rintro ⟨⟩
      exact ⟨why, rfl, rfl⟩
    · rintro ⟨_, ⟨⟩, rfl⟩
      rfl

theorem load_recorded {asked : List String} {paths : List String}
    (h : Preloaded engine s paths asked) (userConfig : String) (past : List Request) :
    load engine.recorded paths userConfig (s.withNotes past) =
      (load engine paths userConfig s).withNotes
        (past ++ (asked.map .load ++ [.load userConfig])) := by
  rw [load, load, h.recorded, ← List.append_assoc]
  rfl

theorem missing_not_mem_preloadOutputs
    (hq : ∀ path s, .event .preloadMissing ∉ (engine.load path s).output) (s : Shared σ)
    (paths : List String) : .event .preloadMissing ∉ engine.preloadOutputs s paths := by
  induction paths generalizing s with
  | nil => exact List.not_mem_nil
  | cons path rest ih =>
    have hnote : Output.event .preloadMissing ≠ .event (engine.preloadNote s path) := by
      rw [preloadNote]
      split <;> exact nofun
    intro hm
    rw [preloadOutputs, List.mem_append, List.mem_cons] at hm
    obtain hm | hm | hm := hm
    · exact hq path s hm
    · exact hnote hm
    · exact ih _ hm

/-- The engine is asked for the preload scripts in their order, up to and with the first that loads,
and then for the user's configuration, which alone decides what is returned. -/
theorem load_in_order (engine : Engine σ) (preloads : List String) (userConfig : String)
    (s : Shared σ) (past : List Request) :
    ∃ asked, engine.Preloads s preloads asked ∧
      load engine.recorded preloads userConfig (s.withNotes past) =
        (load engine preloads userConfig s).withNotes
          (past ++ (asked.map .load ++ [.load userConfig])) ∧
      (load engine preloads userConfig s).state =
        (engine.load userConfig (engine.afterLoads s asked)).state ∧
      ((load engine preloads userConfig s).answer = .ok () ↔
        engine.Loads (engine.afterLoads s asked) userConfig) ∧
      (∀ e, (load engine preloads userConfig s).answer = .error e ↔
        ∃ why, (engine.load userConfig (engine.afterLoads s asked)).answer = .error why ∧
          e = .notLoaded userConfig why) ∧
      (engine.NoneLoads s preloads → (load engine preloads userConfig s).output =
        engine.preloadOutputs s asked ++ .event .preloadMissing ::
          (engine.load userConfig (engine.afterLoads s asked)).output) ∧
      (¬ engine.NoneLoads s preloads → (load engine preloads userConfig s).output =
        engine.preloadOutputs s asked ++
          (engine.load userConfig (engine.afterLoads s asked)).output) ∧
      ((∀ path s, .event .preloadMissing ∉ (engine.load path s).output) →
        (.event .preloadMissing ∈ (load engine preloads userConfig s).output ↔
          engine.NoneLoads s preloads)) := by
  obtain ⟨asked, h⟩ := exists_preloaded engine s preloads
  have heq := load_eq h userConfig
  have hnone : engine.NoneLoads s preloads → (load engine preloads userConfig s).output =
      engine.preloadOutputs s asked ++ .event .preloadMissing ::
        (engine.load userConfig (engine.afterLoads s asked)).output := by
    intro hn
    rw [heq, missingNote, h.answer.2 hn]
    simp
  have hsome : ¬ engine.NoneLoads s preloads → (load engine preloads userConfig s).output =
      engine.preloadOutputs s asked ++
        (engine.load userConfig (engine.afterLoads s asked)).output := by
    intro hn
    have hloaded : (loadFirst engine preloads s).answer = true := by simpa using mt h.answer.1 hn
    rw [heq, missingNote, hloaded]
    simp
  refine ⟨asked, h.order, load_recorded h userConfig past, by rw [heq], load_ok_iff h userConfig,
    fun e => load_error_iff h userConfig, hnone, hsome, fun hq => ⟨fun hm => ?_, fun hn => ?_⟩⟩
  · refine Classical.byContradiction fun hn => ?_
    rw [hsome hn] at hm
    rcases List.mem_append.1 hm with hm | hm
    · exact missing_not_mem_preloadOutputs hq _ _ hm
    · exact hq _ _ hm
  · rw [hnone hn]
    simp

/-- The first preload script changes the prompt before it fails; the second loads, and the third is
not asked for. -/
example :
    let files : List (String × List Effect) :=
      [("a", [.prompt "a> ", .fail .notStatement]), ("b", [.alias "ll" "ls"]), ("c", []), ("rc", [])]
    let o := load effectEngine ["a", "b", "c"] "rc" ⟨{ files }, {}⟩
    o.state.host.trace = [.load "a", .load "b", .load "rc"] ∧ o.state.shell.prompt = "a> " :=
  ⟨rfl, rfl⟩

end Config

end ScriptShell
