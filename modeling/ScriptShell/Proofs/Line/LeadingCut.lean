import ScriptShell.Proofs.Line.LeadingArgument

/-!
# Where the leading word ends

`CutsInto line spaces word rest` says over texts, and without a scan, how a line is cut on either
side of its leading word. The cut is made by a search from one character to the next
(`spaceFrom`), so it stands between two characters however many bytes they have
(`spaceFrom_splits`). The main statement is `afterLeadingWord_eq_only_rest`: a line is cut in
exactly one way, and what follows the leading word is the rest.
-/

namespace ScriptShell.Line

/-- A line is cut on either side of its leading word: behind all its leading spaces, and at the
first space that an even number of the word's quotes precedes, or at the end of the line. -/
structure CutsInto (line spaces word rest : String) : Prop where
  parts : line = spaces ++ word ++ rest
  spaces_all : spaces.toList = line.toList.takeWhile (· == ' ')
  inside : ∀ before after, word.toList = before ++ ' ' :: after → quotes before % 2 = 1
  starts : word.toList.head? ≠ some ' '
  ends : rest = "" ∨ rest.toList.head? = some ' ' ∧ quotes word.toList % 2 = 0

/-- The first space outside quotes, from a position of a text on, or the end of the text. -/
def spaceFrom {text : String} (p : text.Pos) (quoted : Bool) : text.Pos :=
  if h : p = text.endPos then p
  else if p.get h = '"' then spaceFrom (p.next h) (!quoted)
  else if p.get h = ' ' && !quoted then p
  else spaceFrom (p.next h) quoted
termination_by p

/-! ## The cut by position -/

/-- A position in front of a character reads it. -/
theorem get_of_splits {text before after : String} {c : Char} {p : text.Pos}
    (hp : p.Splits before (String.singleton c ++ after)) :
    p.get hp.ne_endPos_of_singleton = c := by
  have hread := hp.eq_right (p.splits_next_right hp.ne_endPos_of_singleton)
  have hchars := congrArg String.toList hread
  simp only [String.toList_append, String.toList_singleton, List.singleton_append,
    List.cons.injEq] at hchars
  exact hchars.1.symm

/-- The search passes what stands before the first space outside quotes. -/
theorem spaceFrom_splits {text before : String} {after : List Char} {p : text.Pos} {quoted : Bool}
    (hp : p.Splits before (String.ofList after)) :
    (spaceFrom p quoted).Splits (before ++ String.ofList (upToUnquotedSpace quoted after))
      (String.ofList (fromUnquotedSpace quoted after)) := by
  induction after generalizing p before quoted with
  | nil =>
    have hend : p = text.endPos := hp.eq_endPos_iff.2 rfl
    rw [spaceFrom, dif_pos hend, upToUnquotedSpace, fromUnquotedSpace]
    simpa using hp
  | cons c after ih =>
    rw [String.ofList_cons] at hp
    have hne : p ≠ text.endPos := hp.ne_endPos_of_singleton
    have hget : p.get hne = c := get_of_splits hp
    have hpassed : ∀ quoted', (spaceFrom (p.next hne) quoted').Splits
        (before ++ String.ofList (c :: upToUnquotedSpace quoted' after))
        (String.ofList (fromUnquotedSpace quoted' after)) := by
      intro quoted'
      rw [String.ofList_cons, ← String.append_assoc]
      exact ih hp.next
    rw [spaceFrom, dif_neg hne, hget, upToUnquotedSpace, fromUnquotedSpace]
    by_cases hc : c = '"'
    · rw [if_pos hc, if_pos hc, if_pos hc]
      exact hpassed _
    rw [if_neg hc, if_neg hc, if_neg hc]
    split
    · simpa [String.ofList_cons] using hp
    · exact hpassed _

/-- From the start of a text the search stops in front of its first space outside quotes. -/
theorem spaceFrom_startPos (text : List Char) :
    (spaceFrom (String.ofList text).startPos false).Splits
      (String.ofList (upToUnquotedSpace false text))
      (String.ofList (fromUnquotedSpace false text)) := by
  have hsearch : (spaceFrom (String.ofList text).startPos false).Splits
      ("" ++ String.ofList (upToUnquotedSpace false text))
      (String.ofList (fromUnquotedSpace false text)) :=
    spaceFrom_splits (String.splits_startPos _)
  rwa [String.empty_append] at hsearch

/-- Two texts that make up a line meet at a position of it. -/
theorem exists_splits {line before after : String} (h : line = before ++ after) :
    ∃ cut : line.Pos, cut.Splits before after := by
  have hvalid : before.rawEndPos.IsValid line :=
    String.Pos.Raw.isValid_iff_exists_append.2 ⟨before, after, h, rfl⟩
  exact ⟨⟨before.rawEndPos, hvalid⟩, h, rfl⟩

/-! ## One way to cut -/

theorem cutsInto_iff_leading {line spaces word rest : String} :
    CutsInto line spaces word rest ↔
      Leading line.toList spaces.toList word.toList rest.toList := by
  constructor
  · intro h
    have hline : line.toList = spaces.toList ++ (word.toList ++ rest.toList) := by
      rw [h.parts, String.toList_append, String.toList_append, List.append_assoc]
    have htext : word.toList ++ rest.toList = line.toList.dropWhile (· == ' ') := by
      have hwhole := List.takeWhile_append_dropWhile (p := (· == ' ')) (l := line.toList)
      rw [← h.spaces_all] at hwhole
      exact List.append_cancel_left (hline.symm.trans hwhole.symm)
    refine ⟨hline, ?_, ?_, h.inside, h.ends.imp_left String.toList_eq_nil_iff.2⟩
    · rw [h.spaces_all]
      exact eq_space_of_mem_takeWhile _
    · rw [htext]
      exact head?_dropWhile_ne_space _
  · intro h
    refine ⟨?_, (leading_iff.1 h).1, h.inside, ?_, h.ends.imp_left String.toList_eq_nil_iff.1⟩
    · rw [← String.toList_inj, h.parts, String.toList_append, String.toList_append,
        List.append_assoc]
    · intro hs
      refine h.starts ?_
      rw [List.head?_append, hs, Option.some_or]

theorem cutsInto_iff {line spaces word rest : String} :
    CutsInto line spaces word rest ↔
      spaces = String.ofList (line.toList.takeWhile (· == ' ')) ∧
      word = String.ofList (leadingWord line.toList) ∧ rest = afterLeadingWord line := by
  rw [cutsInto_iff_leading, leading_iff, afterLeadingWord]
  simp only [← String.toList_inj, String.toList_ofList]

/-- A line is cut in exactly one way into all its leading spaces, its leading word and a rest that
is empty or begins with a space. What follows the leading word is that rest. -/
theorem afterLeadingWord_eq_only_rest (line : String) :
    ∃ spaces word rest : String,
      (∀ spaces' word' rest', CutsInto line spaces' word' rest' ↔
        spaces' = spaces ∧ word' = word ∧ rest' = rest) ∧
      afterLeadingWord line = rest ∧
      (∃ cut : line.Pos, cut.Splits (spaces ++ word) rest) ∧
      (∃ text, line = spaces ++ text ∧ (spaceFrom text.startPos false).Splits word rest) ∧
      (rest = "" ∨ rest.toList.head? = some ' ') ∧
      ∀ expansion, replaceLeadingWord line expansion = expansion ++ rest := by
  have hcut : CutsInto line (String.ofList (line.toList.takeWhile (· == ' ')))
      (String.ofList (leadingWord line.toList)) (afterLeadingWord line) :=
    cutsInto_iff.2 ⟨rfl, rfl, rfl⟩
  have htext : line = String.ofList (line.toList.takeWhile (· == ' ')) ++
      String.ofList (line.toList.dropWhile (· == ' ')) := by
    rw [← String.ofList_append, List.takeWhile_append_dropWhile, String.ofList_toList]
  exact ⟨_, _, _, fun _ _ _ => cutsInto_iff, rfl, exists_splits hcut.parts,
    ⟨_, htext, spaceFrom_startPos _⟩, hcut.ends.imp_right And.left, fun _ => rfl⟩

example : afterLeadingWord "  é\"a b\"~ c" = " c" := by decide +kernel

end ScriptShell.Line
