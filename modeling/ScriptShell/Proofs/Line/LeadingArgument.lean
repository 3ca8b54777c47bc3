import ScriptShell.Proofs.Line.LeadingWord

/-!
# What the leading word leaves

`Leading line spaces word rest` says without a scan how a line falls into its leading spaces, its
leading word and what follows; it falls so in one way only (`leading_iff`). Of which words nothing
is left is `render_marked_eq_nil_iff`. The main statement is `arguments_beside_leadingWord`: the
arguments of a line are what its leading word leaves, if anything, and the arguments of what
follows.
-/

namespace ScriptShell.Line

/-- The leading word of a line stands between its leading spaces and the first space that an even
number of the word's own quotes precedes, or the end of the line. -/
structure Leading (line spaces word rest : List Char) : Prop where
  parts : line = spaces ++ (word ++ rest)
  blank : ∀ c ∈ spaces, c = ' '
  starts : (word ++ rest).head? ≠ some ' '
  inside : ∀ before after, word = before ++ ' ' :: after → quotes before % 2 = 1
  ends : rest = [] ∨ rest.head? = some ' ' ∧ quotes word % 2 = 0

/-! ## One way to fall apart -/

/-- A text without a break, up to a space outside quotes, is what stands before that space. -/
theorem upToUnquotedSpace_unbroken {quoted : Bool} {word rest : List Char}
    (hw : ∀ m ∈ marksFrom (!quoted) word, m.isBreak = false)
    (hr : rest = [] ∨ rest.head? = some ' ' ∧
      (quoted ^^ decide (quotes word % 2 = 1)) = false) :
    upToUnquotedSpace quoted (word ++ rest) = word := by
  induction word generalizing quoted with
  | nil =>
    rcases hr with rfl | ⟨hs, hq⟩
    · rfl
    · cases rest with
      | nil => cases hs
      | cons c rest =>
        obtain rfl : c = ' ' := by simpa using hs
        have hq' : quoted = false := by simpa using hq
        rw [hq']
        rfl
  | cons c word ih =>
    rw [marksFrom] at hw
    have hfirst : Mark.isBreak ⟨c, !quoted⟩ = false := hw _ List.mem_cons_self
    have hrest := fun m hm => hw m (List.mem_cons_of_mem _ hm)
    rw [List.cons_append, upToUnquotedSpace]
    by_cases hc : c = '"'
    · rw [if_pos hc] at hrest ⊢
      rw [ih hrest (hr.imp_right fun h => ⟨h.1, ?_⟩)]
      have hx := xor_quotes_cons quoted c word
      rw [if_pos hc] at hx
      rw [← hx]
      exact h.2
    · rw [if_neg hc] at hrest ⊢
      have hs : ¬ (decide (c = ' ') && !quoted) = true := by
        simpa [Mark.isBreak] using hfirst
      rw [if_neg hs, ih hrest (hr.imp_right fun h => ⟨h.1, ?_⟩)]
      rw [← quotes_cons_other hc]
      exact h.2

theorem eq_space_of_mem_takeWhile (line : List Char) : ∀ c ∈ line.takeWhile (· == ' '), c = ' ' := by
  intro c hc
  simpa using List.all_eq_true.1 List.all_takeWhile c hc

/-- Behind all its leading spaces a line does not go on with a space. -/
theorem head?_dropWhile_ne_space (line : List Char) :
    (line.dropWhile (· == ' ')).head? ≠ some ' ' := by
  intro hs
  have hhead := List.head?_dropWhile_not (· == ' ') line
  rw [hs] at hhead
  simp at hhead

theorem leading_leadingWord (line : List Char) :
    Leading line (line.takeWhile (· == ' ')) (leadingWord line) (restAfterWord line) where
  parts := (leading_decomposition line).symm
  blank := eq_space_of_mem_takeWhile line
  starts := by
    rw [leadingWord, restAfterWord, upToUnquotedSpace_append]
    exact head?_dropWhile_ne_space line
  inside := (unbroken_iff _).1 (unbroken_leadingWord line)
  ends := by
    by_cases hr : restAfterWord line = []
    · exact .inl hr
    · obtain ⟨c, rest, hcons⟩ := List.exists_cons_of_ne_nil hr
      have hapart : Apart (restAfterWord line) := apart_fromUnquotedSpace _ _
      have hq := quotes_upToUnquotedSpace hr
      rw [hcons] at hapart ⊢
      refine .inr ⟨by rw [apart_cons.1 hapart]; rfl, ?_⟩
      simpa [leadingWord] using hq

/-- A line falls into leading spaces, leading word and rest in one way. -/
theorem leading_iff {line spaces word rest : List Char} :
    Leading line spaces word rest ↔ spaces = line.takeWhile (· == ' ') ∧
      word = leadingWord line ∧ rest = restAfterWord line := by
  constructor
  · intro h
    have hblank : ∀ c ∈ spaces, (c == ' ') = true := fun c hc => beq_iff_eq.2 (h.blank c hc)
    have hstop : (word ++ rest).takeWhile (· == ' ') = [] ∧
        (word ++ rest).dropWhile (· == ' ') = word ++ rest := by
      cases htext : word ++ rest with
      | nil => exact ⟨rfl, rfl⟩
      | cons c text =>
        have hc : c ≠ ' ' := fun he => h.starts (by rw [htext, he]; rfl)
        exact ⟨List.takeWhile_cons_of_neg (by simpa using hc),
          List.dropWhile_cons_of_neg (by simpa using hc)⟩
    have hword : leadingWord line = word := by
      rw [leadingWord, h.parts, List.dropWhile_append_of_pos hblank, hstop.2]
      refine upToUnquotedSpace_unbroken ?_ (h.ends.imp_right fun he => ⟨he.1, by simp [he.2]⟩)
      have hin := (unbroken_iff word).2 h.inside
      rwa [marked_eq] at hin
    have hspaces : spaces = line.takeWhile (· == ' ') := by
      rw [h.parts, List.takeWhile_append_of_pos hblank, hstop.1, List.append_nil]
    have hall := leading_decomposition line
    rw [hword, ← hspaces] at hall
    refine ⟨hspaces, hword.symm, ?_⟩
    exact (List.append_cancel_left (List.append_cancel_left (hall.trans h.parts))).symm
  · rintro ⟨rfl, rfl, rfl⟩
    exact leading_leadingWord line

/-! ## What a word leaves -/

/-- Nothing is left of a word just when it consists of quotes and, if the home directory is empty,
of tildes outside them. -/
theorem render_marked_eq_nil_iff (home word : List Char) :
    render home (marked word) = [] ↔
      if home = [] then ∀ m ∈ marked word, m.isQuote = true ∨ m.isHome = true
      else ∀ c ∈ word, c = '"' := by
  by_cases hhome : home = []
  · rw [if_pos hhome, hhome, render, List.flatMap_eq_nil_iff]
    refine forall₂_congr fun m _ => ?_
    unfold Mark.leaves
    split
    · simp [*]
    · split <;> simp [*]
  · rw [if_neg hhome, render, List.flatMap_eq_nil_iff]
    have hchars : word = (marked word).map Mark.char := by
      rw [marked_eq, map_char_marksFrom]
    constructor
    · intro h c hc
      rw [hchars] at hc
      obtain ⟨m, hm, rfl⟩ := List.mem_map.1 hc
      simpa [Mark.isQuote] using (leaves_eq_nil_iff hhome m).1 (h m hm)
    · intro h m hm
      refine (leaves_eq_nil_iff hhome m).2 ?_
      have hc : m.char ∈ word := by
        rw [hchars]
        exact List.mem_map_of_mem hm
      simp [Mark.isQuote, h _ hc]

/-- What follows the leading word of a line has all arguments of the line but the first, which is
what is left of that word, and all of them if nothing is left of it. -/
theorem arguments_beside_leadingWord (home line : String) :
    (∀ word, (∃ spaces rest, Leading line.toList spaces word rest) ↔
      word = leadingWord line.toList) ∧
    (leadingRendered home line ≠ "" →
      arguments home line = leadingRendered home line :: arguments home (afterLeadingWord line)) ∧
    (leadingRendered home line = "" →
      arguments home (afterLeadingWord line) = arguments home line) ∧
    (home ≠ "" → (leadingRendered home line = "" ↔ ∀ c ∈ leadingWord line.toList, c = '"')) ∧
    (home = "" → (leadingRendered home line = "" ↔
      ∀ m ∈ marked (leadingWord line.toList), m.isQuote = true ∨ m.isHome = true)) ∧
    ∀ expansion : String, quotes expansion.toList % 2 = 0 →
      arguments home (replaceLeadingWord line expansion) =
        arguments home expansion ++ arguments home (afterLeadingWord line) := by
  have hempty : leadingRendered home line = "" ↔
      render home.toList (marked (leadingWord line.toList)) = [] :=
    rendered_eq_empty_iff home _
  refine ⟨fun word => ⟨?_, ?_⟩, fun h => ?_, fun h => ?_, fun hhome => ?_, fun hhome => ?_,
    fun expansion heven => arguments_replaceLeadingWord heven⟩
  · rintro ⟨spaces, rest, h⟩
    exact (leading_iff.1 h).2.1
  · rintro rfl
    exact ⟨_, _, leading_leadingWord line.toList⟩
  · exact arguments_leading_some h
  · exact (arguments_leading_none h).symm
  · have hne : home.toList ≠ [] := fun h => hhome (String.toList_eq_nil_iff.1 h)
    rw [hempty, render_marked_eq_nil_iff, if_neg hne]
  · have hnil : home.toList = [] := String.toList_eq_nil_iff.2 hhome
    rw [hempty, render_marked_eq_nil_iff, if_pos hnil]

/-- A tilde behind an empty pair of quotes: it is an argument or none, as there is a home directory
or not. -/
theorem arguments_beside_lone_tilde :
    leadingRendered "" "  \"\"~ ll b" = "" ∧
    arguments "" (afterLeadingWord "  \"\"~ ll b") = arguments "" "  \"\"~ ll b" ∧
    leadingRendered "/home/u" "  \"\"~ ll b" ≠ "" ∧
    arguments "/home/u" "  \"\"~ ll b" = leadingRendered "/home/u" "  \"\"~ ll b" ::
      arguments "/home/u" (afterLeadingWord "  \"\"~ ll b") ∧
    quotes "ls \"-l a\"".toList % 2 = 0 ∧
    arguments "/home/u" (replaceLeadingWord "  \"\"~ ll b" "ls \"-l a\"") =
      arguments "/home/u" "ls \"-l a\"" ++
        arguments "/home/u" (afterLeadingWord "  \"\"~ ll b") := by
  have hgone : leadingRendered "" "  \"\"~ ll b" = "" := by decide +kernel
  have hleft : leadingRendered "/home/u" "  \"\"~ ll b" ≠ "" := by decide +kernel
  have heven : quotes "ls \"-l a\"".toList % 2 = 0 := by decide +kernel
  obtain ⟨-, -, hnone, -⟩ := arguments_beside_leadingWord "" "  \"\"~ ll b"
  obtain ⟨-, hsome, -, -, -, hexpansion⟩ := arguments_beside_leadingWord "/home/u" "  \"\"~ ll b"
  exact ⟨hgone, hnone hgone, hleft, hsome hleft, heven, hexpansion _ heven⟩

end ScriptShell.Line
