import Mathlib.Logic.Relation
import ScriptShell.Proofs.Line.Scan

/-!
# Lines put together

A scan can be stopped and taken up again at any place of a line (`Scan.read_append`). Behind closed
quotes, a text that begins with a space starts afresh, so texts with their quotes closed, put
together with spaces, have their arguments one after another (`scanArguments_intercalate`). Two
quotes side by side undo each other wherever they stand, between quotes too (`Scan.read_pair`).
The main statement is `arguments_compose`.
-/

namespace ScriptShell.Line

/-- The second text is the first with a pair of quotes, side by side, put in somewhere. -/
inductive GainsPair : String → String → Prop
  | between (before after : String) : GainsPair (before ++ after) (before ++ "\"\"" ++ after)

variable {home : List Char}

/-! ## Pairs of quotes -/

/-- The first quote toggles quoting and the second toggles it back. -/
theorem Scan.read_pair (s : Scan) (before after : List Char) :
    s.read home (before ++ '"' :: '"' :: after) = s.read home (before ++ after) := by
  have hpair : ∀ t : Scan, (t.step home '"').step home '"' = t := by
    intro t
    rw [step_quote, step_quote, Bool.not_not]
  rw [read_append, read_append, read_cons, read_cons, hpair]

theorem scanArguments_pair (before after : List Char) :
    scanArguments home (before ++ '"' :: '"' :: after) = scanArguments home (before ++ after) :=
  congrArg Scan.arguments (({} : Scan).read_pair before after)

theorem arguments_pair (home before after : String) :
    arguments home (before ++ "\"\"" ++ after) = arguments home (before ++ after) := by
  have htext : (before ++ "\"\"" ++ after).toList = before.toList ++ '"' :: '"' :: after.toList := by
    simp
  rw [arguments, arguments, htext, String.toList_append, scanArguments_pair]

/-- Pairs of quotes may be put in and left out one after another. -/
theorem arguments_eqvGen_gainsPair {home line other : String}
    (h : Relation.EqvGen GainsPair line other) : arguments home line = arguments home other := by
  induction h with
  | rel line other hpair =>
    obtain ⟨before, after⟩ := hpair
    exact (arguments_pair home before after).symm
  | refl line => rfl
  | symm line other _ ih => exact ih.symm
  | trans line middle other _ _ first second => exact first.trans second

/-! ## Texts with spaces between them -/

theorem scanArguments_intercalate {parts : List (List Char)}
    (h : ∀ part ∈ parts, quotes part % 2 = 0) :
    scanArguments home ([' '].intercalate parts) = parts.flatMap (scanArguments home) := by
  induction parts with
  | nil => rfl
  | cons part parts ih =>
    cases parts with
    | nil => simp
    | cons next parts =>
      have hrest := ih fun other hother => h other (List.mem_cons_of_mem part hother)
      have hpart : quotes part % 2 = 0 := h part List.mem_cons_self
      -- a space in front of a line changes nothing: it ends a word that has not begun
      have hspace : ∀ line, scanArguments home (' ' :: line) = scanArguments home line :=
        fun _ => rfl
      rw [List.intercalate_cons_cons, List.append_assoc, List.singleton_append,
        scanArguments_append hpart (apart_cons.2 rfl), hspace, hrest]
      rfl

/-- A text with its quotes closed, before one that is empty or begins with a space, adds its own
arguments in front. Pairs of quotes side by side can be put in or left out anywhere. -/
theorem arguments_compose (home : String) :
    (∀ a b : String, quotes a.toList % 2 = 0 → Apart b.toList →
      arguments home (a ++ b) = arguments home a ++ arguments home b) ∧
    (∀ a b : String, arguments home (a ++ "\"\"" ++ b) = arguments home (a ++ b)) ∧
    (∀ parts : List String, (∀ part ∈ parts, quotes part.toList % 2 = 0) →
      arguments home (" ".intercalate parts) = parts.flatMap (arguments home)) ∧
    ∀ line other : String, Relation.EqvGen GainsPair line other →
      arguments home line = arguments home other := by
  refine ⟨fun a b ha hb => ?_, arguments_pair home, fun parts h => ?_,
    fun line other h => arguments_eqvGen_gainsPair h⟩
  · rw [arguments, String.toList_append, scanArguments_append ha hb, List.map_append]
    rfl
  · have hparts : ∀ part ∈ parts.map String.toList, quotes part % 2 = 0 := by
      intro part hpart
      obtain ⟨text, htext, rfl⟩ := List.mem_map.1 hpart
      exact h text htext
    have htext : (" ".intercalate parts).toList = [' '].intercalate (parts.map String.toList) :=
      String.toList_intercalate
    rw [arguments, htext, scanArguments_intercalate hparts, List.flatMap_map, List.map_flatMap]
    rfl

end ScriptShell.Line
