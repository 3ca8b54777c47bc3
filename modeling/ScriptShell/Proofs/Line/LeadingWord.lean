import ScriptShell.Line.LeadingWord
import ScriptShell.Proofs.Line.Grammar

/-!
# The leading word and the first argument

A line falls into its leading spaces, its leading word and the rest (`leading_decomposition`). The
leading word is a piece by itself (`unbroken_leadingWord`), so the arguments of the line are what is
rendered of it, if anything, and those of the rest (`arguments_leading`). Nothing is rendered of it
when it `leavesNothing`; the first argument of such a line stands in the rest.
-/

namespace ScriptShell.Line

/-- The part of a text before its first space outside quotes; `quoted` says whether the text starts
between quotes. -/
def upToUnquotedSpace (quoted : Bool) : List Char → List Char
  | [] => []
  | c :: rest =>
    if c = '"' then c :: upToUnquotedSpace (!quoted) rest
    else if c = ' ' && !quoted then []
    else c :: upToUnquotedSpace quoted rest

/-- The leading word of a line, as it is written: an alias takes its place. -/
def leadingWord (line : List Char) : List Char :=
  upToUnquotedSpace false (line.dropWhile (· == ' '))

/-- Nothing is left of a word: it consists of quotes and, if the home directory is empty, of tildes
outside quotes. -/
def leavesNothing (home : List Char) (quoted : Bool) : List Char → Bool
  | [] => true
  | c :: rest =>
    if c = '"' then leavesNothing home (!quoted) rest
    else c = '~' && !quoted && home.isEmpty && leavesNothing home quoted rest

/-! ## Three parts of a line -/

theorem upToUnquotedSpace_append (quoted : Bool) (text : List Char) :
    upToUnquotedSpace quoted text ++ fromUnquotedSpace quoted text = text := by
  induction text generalizing quoted with
  | nil => rfl
  | cons c text ih =>
    unfold upToUnquotedSpace fromUnquotedSpace
    by_cases hc : c = '"'
    · rw [if_pos hc, if_pos hc, List.cons_append, ih]
    · rw [if_neg hc, if_neg hc]
      split
      · rfl
      · rw [List.cons_append, ih]

theorem leading_decomposition (line : List Char) :
    line.takeWhile (· == ' ') ++ (leadingWord line ++ restAfterWord line) = line := by
  rw [leadingWord, restAfterWord, upToUnquotedSpace_append, List.takeWhile_append_dropWhile]

/-- The rest is empty or begins with the space that ends the word. -/
theorem apart_fromUnquotedSpace (quoted : Bool) (text : List Char) :
    Apart (fromUnquotedSpace quoted text) := by
  induction text generalizing quoted with
  | nil => exact apart_nil
  | cons c text ih =>
    unfold fromUnquotedSpace
    split
    · exact ih _
    · split
      · rename_i h
        simp only [Bool.and_eq_true, decide_eq_true_eq] at h
        exact apart_cons.2 h.1
      · exact ih _

/-- The space that ends the word stands outside quotes. -/
theorem quotes_upToUnquotedSpace {quoted : Bool} {text : List Char}
    (h : fromUnquotedSpace quoted text ≠ []) :
    (quoted ^^ decide (quotes (upToUnquotedSpace quoted text) % 2 = 1)) = false := by
  induction text generalizing quoted with
  | nil => exact absurd rfl h
  | cons c text ih =>
    unfold fromUnquotedSpace at h
    unfold upToUnquotedSpace
    by_cases hc : c = '"'
    · rw [if_pos hc] at h ⊢
      have := ih h
      subst hc
      rw [quotes_cons_quote]
      rcases Nat.mod_two_eq_zero_or_one (quotes (upToUnquotedSpace (!quoted) text)) with hm | hm <;>
        simp_all [Nat.add_mod]
    · rw [if_neg hc] at h ⊢
      split at h
      · rename_i hs
        simp only [Bool.and_eq_true, Bool.not_eq_true'] at hs
        simp [hs]
      · rename_i hs
        rw [if_neg hs, quotes_cons_other hc]
        exact ih h

/-! ## The leading word as a piece -/

theorem unbroken_upToUnquotedSpace (quoted : Bool) (text : List Char) :
    ∀ m ∈ marksFrom (!quoted) (upToUnquotedSpace quoted text), m.isBreak = false := by
  induction text generalizing quoted with
  | nil =>
    intro m hm
    cases hm
  | cons c text ih =>
    unfold upToUnquotedSpace
    by_cases hc : c = '"'
    · rw [if_pos hc, marksFrom, if_pos hc]
      intro m hm
      rcases List.mem_cons.1 hm with rfl | hm
      · simp [Mark.isBreak, hc]
      · exact ih (!quoted) m hm
    rw [if_neg hc]
    split
    · intro m hm
      cases hm
    · next hs =>
      rw [marksFrom, if_neg hc]
      intro m hm
      rcases List.mem_cons.1 hm with rfl | hm
      · simpa [Mark.isBreak] using hs
      · exact ih quoted m hm

theorem unbroken_leadingWord (line : List Char) :
    ∀ m ∈ marked (leadingWord line), m.isBreak = false := by
  rw [marked_eq]
  exact unbroken_upToUnquotedSpace false _

variable {home : List Char}

/-- Spaces before the first word leave a scan as it was. -/
theorem Scan.read_dropWhile (text : List Char) :
    ({} : Scan).read home (text.dropWhile (· == ' ')) = ({} : Scan).read home text := by
  induction text with
  | nil => rfl
  | cons c text ih =>
    by_cases hc : c = ' '
    · subst hc
      rw [List.dropWhile_cons_of_pos (by simp), ih]
      rfl
    · rw [List.dropWhile_cons_of_neg (by simpa using hc)]

/-- The arguments of a line are those of its leading word and those of the rest. -/
theorem scanArguments_eq_leading (line : List Char) :
    scanArguments home line =
      scanArguments home (leadingWord line) ++ scanArguments home (restAfterWord line) := by
  have hsplit : ({} : Scan).read home line =
      (({} : Scan).read home (leadingWord line)).read home (restAfterWord line) := by
    rw [← Scan.read_append, leadingWord, restAfterWord, upToUnquotedSpace_append,
      Scan.read_dropWhile]
  have hs : scanArguments home line = (({} : Scan).read home line).arguments := rfl
  rw [hs, hsplit]
  by_cases hr : restAfterWord line = []
  · rw [hr]
    simp [scanArguments, Scan.read, Scan.arguments, Scan.endWord]
  · refine Scan.arguments_read ?_ (apart_fromUnquotedSpace _ _)
    rw [Scan.quoted_read]
    exact quotes_upToUnquotedSpace hr

/-- A word leaves nothing just when nothing is rendered of it. -/
theorem leavesNothing_iff (quoted : Bool) (word : List Char) :
    leavesNothing home quoted word = true ↔ render home (marksFrom (!quoted) word) = [] := by
  induction word generalizing quoted with
  | nil => exact iff_of_true rfl rfl
  | cons c word ih =>
    rw [leavesNothing, marksFrom, render_cons, List.append_eq_nil_iff]
    by_cases hc : c = '"'
    · rw [if_pos hc, if_pos hc, ih, hc]
      exact (and_iff_right rfl).symm
    rw [if_neg hc, if_neg hc, Bool.and_eq_true, ih]
    refine and_congr_left' ?_
    by_cases ht : c = '~'
    · cases quoted <;> simp [Mark.leaves, Mark.isQuote, Mark.isHome, ht]
    · simp [Mark.leaves, Mark.isQuote, Mark.isHome, hc, ht]

/-! ## Putting an expansion in its place -/

/-- Nothing is left of the leading word of a line. -/
def leadingWordVanishes (home line : String) : Bool :=
  leavesNothing home.toList false (leadingWord line.toList)

/-- What is left of the leading word of a line. -/
def leadingRendered (home line : String) : String :=
  rendered home (marked (leadingWord line.toList))

theorem leadingWordVanishes_iff (home line : String) :
    leadingWordVanishes home line = true ↔ leadingRendered home line = "" := by
  rw [leadingWordVanishes, leavesNothing_iff, leadingRendered, rendered_eq_empty_iff, marked_eq]
  rfl

/-- The arguments of a line: what is left of its leading word, if anything, and those of the
rest. -/
theorem arguments_leading (home line : String) :
    arguments home line = [leadingRendered home line].filter (· ≠ "") ++
      arguments home (afterLeadingWord line) := by
  have hword := map_filter_render home [marked (leadingWord line.toList)]
  rw [List.map_singleton, List.map_singleton] at hword
  rw [arguments, arguments, scanArguments_eq_leading,
    scanArguments_unbroken (unbroken_leadingWord line.toList), List.map_append, hword,
    afterLeadingWord, String.toList_ofList]
  rfl

theorem arguments_leading_some {home line : String} (h : leadingRendered home line ≠ "") :
    arguments home line = leadingRendered home line :: arguments home (afterLeadingWord line) := by
  have hkept : [leadingRendered home line].filter (· ≠ "") = [leadingRendered home line] := by
    simp [h]
  rw [arguments_leading, hkept, List.singleton_append]

theorem arguments_leading_none {home line : String} (h : leadingRendered home line = "") :
    arguments home line = arguments home (afterLeadingWord line) := by
  have hdropped : [leadingRendered home line].filter (· ≠ "") = [] := by simp [h]
  rw [arguments_leading, hdropped, List.nil_append]

/-- What follows the leading word holds all arguments but the first, and the first too if nothing
is left of the leading word. -/
theorem arguments_afterLeadingWord {home line first : String} {others : List String}
    (h : arguments home line = first :: others) :
    arguments home (afterLeadingWord line) =
      if leadingWordVanishes home line then first :: others else others := by
  by_cases hv : leadingWordVanishes home line = true
  · rw [if_pos hv, ← arguments_leading_none ((leadingWordVanishes_iff home line).1 hv), h]
  · rw [arguments_leading_some fun he => hv ((leadingWordVanishes_iff home line).2 he)] at h
    rw [if_neg hv]
    exact (List.cons.inj h).2

/-- An expansion whose quotes are closed keeps its own arguments in front of the rest. -/
theorem arguments_replaceLeadingWord {home line expansion : String}
    (heven : quotes expansion.toList % 2 = 0) :
    arguments home (replaceLeadingWord line expansion) =
      arguments home expansion ++ arguments home (afterLeadingWord line) := by
  have hapart : Apart (afterLeadingWord line).toList := by
    rw [afterLeadingWord, String.toList_ofList]
    exact apart_fromUnquotedSpace _ _
  unfold arguments replaceLeadingWord
  rw [String.toList_append, scanArguments_append heven hapart, List.map_append]

end ScriptShell.Line
