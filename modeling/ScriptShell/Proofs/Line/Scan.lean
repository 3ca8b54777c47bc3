import ScriptShell.Line.Arguments

/-!
# Reading a line in pieces

`Scan.read` continues a scan over a further text. The arguments that are already complete never
influence what follows (`Scan.read_after`), and whether the scan stands between quotes depends on
the number of quotes alone (`Scan.quoted_read`). So a line may be cut at a space outside quotes:
`scanArguments_append`, the arguments of the whole are those of the two pieces.
-/

namespace ScriptShell.Line

/-- The number of double quotes in a text. -/
def quotes (text : List Char) : Nat := text.count '"'

/-- The text is empty or begins with a space, so what stands before it cannot run into it. -/
def Apart (text : List Char) : Prop := ∀ c ∈ text.head?, c = ' '

@[simp] theorem quotes_nil : quotes [] = 0 := rfl

@[simp] theorem quotes_cons_quote (text : List Char) : quotes ('"' :: text) = quotes text + 1 := by
  simp [quotes]

theorem quotes_cons_other {c : Char} (hc : c ≠ '"') (text : List Char) :
    quotes (c :: text) = quotes text := by
  simp [quotes, hc]

theorem apart_nil : Apart [] := by simp [Apart]

theorem apart_cons {c : Char} {text : List Char} : Apart (c :: text) ↔ c = ' ' := by
  simp [Apart]

namespace Scan

/-- Reads a text on from a scan. -/
def read (home : List Char) (s : Scan) (text : List Char) : Scan := text.foldl (step home) s

/-- The scan with further arguments complete before all of its own. -/
def after (done : List (List Char)) (s : Scan) : Scan := { s with finished := s.finished ++ done }

variable {home : List Char} {s : Scan}

@[simp] theorem read_nil : s.read home [] = s := rfl

@[simp] theorem read_cons {c : Char} {text : List Char} :
    s.read home (c :: text) = (s.step home c).read home text := rfl

theorem read_append {a b : List Char} : s.read home (a ++ b) = (s.read home a).read home b :=
  List.foldl_append

/-! ## One character -/

theorem step_quote : s.step home '"' = { s with quoted := !s.quoted } := rfl

theorem step_inside {c : Char} (hc : c ≠ '"') (h : s.quoted = true) :
    s.step home c = { s with word := c :: s.word } := by
  simp [step, hc, h]

theorem step_tilde (h : s.quoted = false) :
    s.step home '~' = { s with word := home.reverse ++ s.word } := by
  simp [step, h]

theorem step_space (h : s.quoted = false) : s.step home ' ' = s.endWord := by
  simp [step, h]

theorem step_plain {c : Char} (hc : c ≠ '"') (ht : c ≠ '~') (hs : c ≠ ' ') :
    s.step home c = { s with word := c :: s.word } := by
  simp [step, hc, ht, hs]

theorem endWord_of_nil (h : s.word = []) : s.endWord = s := by
  obtain ⟨finished, word, quoted⟩ := s
  cases h
  rfl

theorem endWord_of_ne_nil (h : s.word ≠ []) :
    s.endWord = { s with finished := s.word.reverse :: s.finished, word := [] } := by
  obtain ⟨finished, word, quoted⟩ := s
  cases word with
  | nil => exact absurd rfl h
  | cons c word => rfl

theorem endWord_word : s.endWord.word = [] := by
  by_cases h : s.word = []
  · rw [endWord_of_nil h, h]
  · rw [endWord_of_ne_nil h]

theorem endWord_quoted : s.endWord.quoted = s.quoted := by
  by_cases h : s.word = []
  · rw [endWord_of_nil h]
  · rw [endWord_of_ne_nil h]

/-! ## Quoting -/

theorem step_quoted {c : Char} (hc : c ≠ '"') : (s.step home c).quoted = s.quoted := by
  by_cases h : s.quoted = true
  · rw [step_inside hc h]
  · have h' : s.quoted = false := by simpa using h
    by_cases ht : c = '~'
    · rw [ht, step_tilde h']
    · by_cases hs : c = ' '
      · rw [hs, step_space h', endWord_quoted]
      · rw [step_plain hc ht hs]

/-- Every quote toggles, and nothing else does. -/
theorem quoted_read (text : List Char) :
    (s.read home text).quoted = (s.quoted ^^ decide (quotes text % 2 = 1)) := by
  induction text generalizing s with
  | nil => simp
  | cons c text ih =>
    rw [read_cons, ih]
    by_cases hc : c = '"'
    · rw [hc, step_quote, quotes_cons_quote]
      rcases Nat.mod_two_eq_zero_or_one (quotes text) with h | h
      · simp [h, Nat.add_mod]
      · simp [h, Nat.add_mod]
    · rw [step_quoted hc, quotes_cons_other hc]

theorem quoted_read_of_even {text : List Char} (h : quotes text % 2 = 0) :
    (s.read home text).quoted = s.quoted := by
  simp [quoted_read, h]

/-- Between quotes, a text without quotes is taken as it stands. -/
theorem read_inside {text : List Char} (h : '"' ∉ text) (hq : s.quoted = true) :
    s.read home text = { s with word := text.reverse ++ s.word } := by
  induction text generalizing s with
  | nil => rfl
  | cons c text ih =>
    have hc : c ≠ '"' := fun he => h (he ▸ List.mem_cons_self)
    have hrest : ({ s with word := c :: s.word } : Scan).read home text =
        { s with word := text.reverse ++ c :: s.word } := ih (List.not_mem_of_not_mem_cons h) hq
    rw [read_cons, step_inside hc hq, hrest]
    simp

/-! ## What is complete has no influence -/

theorem endWord_after (done : List (List Char)) : (s.after done).endWord = s.endWord.after done := by
  obtain ⟨finished, word, quoted⟩ := s
  cases word <;> rfl

theorem step_after (done : List (List Char)) (c : Char) :
    (s.after done).step home c = (s.step home c).after done := by
  by_cases hc : c = '"'
  · subst hc; rfl
  by_cases h : s.quoted = true
  · rw [step_inside hc h, step_inside hc (by simpa [after] using h)]; rfl
  have h' : s.quoted = false := by simpa using h
  by_cases ht : c = '~'
  · rw [ht, step_tilde h', step_tilde (by simpa [after] using h')]; rfl
  by_cases hs : c = ' '
  · rw [hs, step_space h', step_space (by simpa [after] using h'), endWord_after]
  · rw [step_plain hc ht hs, step_plain hc ht hs]; rfl

theorem read_after (done : List (List Char)) (text : List Char) :
    (s.after done).read home text = (s.read home text).after done := by
  induction text generalizing s with
  | nil => rfl
  | cons c text ih => rw [read_cons, step_after, ih, read_cons]

theorem arguments_after (done : List (List Char)) :
    (s.after done).arguments = done.reverse ++ s.arguments := by
  unfold arguments
  rw [endWord_after]
  simp [after]

/-- A scan that stands between two words starts afresh. -/
theorem eq_after_of_word_nil (h : s.word = []) (hq : s.quoted = false) :
    s = ({} : Scan).after s.finished := by
  obtain ⟨finished, word, quoted⟩ := s
  cases h
  cases hq
  rfl

/-! ## Cutting at a space -/

/-- Outside quotes, a text that begins with a space contributes just its own arguments. -/
theorem arguments_read {text : List Char} (hq : s.quoted = false) (h : Apart text) :
    (s.read home text).arguments = s.arguments ++ scanArguments home text := by
  cases text with
  | nil => simp [scanArguments, arguments, endWord]
  | cons c text =>
    obtain rfl := apart_cons.1 h
    have hs : s.endWord = ({} : Scan).after s.endWord.finished :=
      eq_after_of_word_nil endWord_word (by rw [endWord_quoted, hq])
    have hnew : scanArguments home (' ' :: text) = (({} : Scan).read home text).arguments := rfl
    rw [read_cons, step_space hq, hs, read_after, arguments_after, hnew]
    rfl

end Scan

/-- A line cut at a space outside quotes has the arguments of both pieces. -/
theorem scanArguments_append {home a b : List Char} (ha : quotes a % 2 = 0) (hb : Apart b) :
    scanArguments home (a ++ b) = scanArguments home a ++ scanArguments home b := by
  have hq : (({} : Scan).read home a).quoted = false := Scan.quoted_read_of_even ha
  have hread : scanArguments home (a ++ b) = ((({} : Scan).read home a).read home b).arguments := by
    rw [← Scan.read_append]
    rfl
  rw [hread, Scan.arguments_read hq hb]
  rfl

end ScriptShell.Line
