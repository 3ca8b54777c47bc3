import ScriptShell.Proofs.Line.Scan

/-!
# The grammar of a line

What the arguments of a line are, said without a scan: a character is unquoted if an even number of
double quotes precedes it (`marked`); the unquoted spaces cut the line into pieces (`pieces`); each
piece is rendered by itself (`render`). The main statement is `arguments_eq_rendered_pieces`: the
arguments are the pieces, rendered, less those of which nothing is left.
-/

namespace ScriptShell.Line

/-- A character of a line, with whether it stands outside quotes. -/
structure Mark where
  char : Char
  unquoted : Bool
deriving Repr, DecidableEq

namespace Mark

/-- An unquoted space stands between two pieces and belongs to neither. -/
def isBreak (m : Mark) : Bool := m.char = ' ' && m.unquoted

def isQuote (m : Mark) : Bool := m.char = '"'

/-- An unquoted tilde, for which the home directory stands in. -/
def isHome (m : Mark) : Bool := m.char = '~' && m.unquoted

/-- What a character leaves in its argument. -/
def leaves (home : List Char) (m : Mark) : List Char :=
  if m.isQuote then [] else if m.isHome then home else [m.char]

end Mark

/-- The characters of a line. One is unquoted if an even number of double quotes precedes it in the
whole line. -/
def marked (line : List Char) : List Mark :=
  line.mapIdx fun i c => ⟨c, quotes (line.take i) % 2 = 0⟩

/-- The pieces of a line between its unquoted spaces. -/
def pieces (line : List Char) : List (List Mark) := (marked line).splitOnP Mark.isBreak

/-- What is left of a piece, with `home` as it stands for every unquoted tilde. -/
def render (home : List Char) (piece : List Mark) : List Char := piece.flatMap (Mark.leaves home)

/-- The pieces that are not made of double quotes alone. -/
def solidPieces (line : List Char) : List (List Mark) :=
  (pieces line).filter fun piece => piece.any fun m => !m.isQuote

/-! ## Marking from either side of a quote -/

/-- The marks of a text that is read from inside or outside quotes. -/
def marksFrom (unquoted : Bool) : List Char → List Mark
  | [] => []
  | c :: rest => ⟨c, unquoted⟩ :: marksFrom (if c = '"' then !unquoted else unquoted) rest

/-- A quote toggles, whether it is counted before or after the rest. -/
theorem xor_quotes_cons (unquoted : Bool) (c : Char) (text : List Char) :
    (unquoted ^^ decide (quotes (c :: text) % 2 = 1)) =
      ((if c = '"' then !unquoted else unquoted) ^^ decide (quotes text % 2 = 1)) := by
  by_cases hc : c = '"'
  · rw [if_pos hc, hc, quotes_cons_quote]
    rcases Nat.mod_two_eq_zero_or_one (quotes text) with h | h
    · simp [h, Nat.add_mod]
    · simp [h, Nat.add_mod]
  · rw [if_neg hc, quotes_cons_other hc]

theorem marksFrom_eq (unquoted : Bool) (text : List Char) :
    marksFrom unquoted text =
      text.mapIdx fun i c => ⟨c, unquoted ^^ decide (quotes (text.take i) % 2 = 1)⟩ := by
  induction text generalizing unquoted with
  | nil => rfl
  | cons c text ih =>
    rw [marksFrom, ih, List.mapIdx_cons]
    congr 1
    · simp
    congr 1
    funext i b
    exact congrArg (Mark.mk b) (xor_quotes_cons unquoted c (text.take i)).symm

theorem marked_eq (line : List Char) : marked line = marksFrom true line := by
  rw [marked, marksFrom_eq]
  congr 1
  funext i c
  rcases Nat.mod_two_eq_zero_or_one (quotes (line.take i)) with h | h <;> simp [h]

/-- Between quotes every character of a text without quotes stays quoted. -/
theorem marksFrom_inside {text : List Char} (h : '"' ∉ text) :
    marksFrom false text = text.map (⟨·, false⟩) := by
  induction text with
  | nil => rfl
  | cons c text ih =>
    have hc : c ≠ '"' := fun he => h (he ▸ List.mem_cons_self)
    rw [marksFrom, if_neg hc, ih fun hm => h (List.mem_cons_of_mem c hm), List.map_cons]

theorem marksFrom_append (unquoted : Bool) (a b : List Char) :
    marksFrom unquoted (a ++ b) =
      marksFrom unquoted a ++ marksFrom (unquoted ^^ decide (quotes a % 2 = 1)) b := by
  induction a generalizing unquoted with
  | nil => simp [marksFrom]
  | cons c a ih =>
    rw [List.cons_append, marksFrom, ih, marksFrom, List.cons_append]
    rw [xor_quotes_cons]

theorem map_char_marksFrom (unquoted : Bool) (text : List Char) :
    (marksFrom unquoted text).map Mark.char = text := by
  induction text generalizing unquoted with
  | nil => rfl
  | cons c text ih => rw [marksFrom, List.map_cons, ih]

/-- A line falls apart where its marks do, and a mark tells the quotes before it. -/
theorem marked_eq_append_cons {line : List Char} {l r : List Mark} {m : Mark}
    (h : marked line = l ++ m :: r) :
    line = l.map Mark.char ++ m.char :: r.map Mark.char ∧
      m.unquoted = decide (quotes (l.map Mark.char) % 2 = 0) := by
  have hline : line = l.map Mark.char ++ m.char :: r.map Mark.char := by
    rw [← map_char_marksFrom true line, ← marked_eq, h, List.map_append, List.map_cons]
  refine ⟨hline, ?_⟩
  rw [marked_eq, hline, marksFrom_append, marksFrom] at h
  have hlen : (marksFrom true (l.map Mark.char)).length = l.length := by
    rw [← List.length_map (f := Mark.char), map_char_marksFrom, List.length_map]
  obtain ⟨-, hm⟩ := List.append_inj h hlen
  rw [← (List.cons.inj hm).1]
  rcases Nat.mod_two_eq_zero_or_one (quotes (l.map Mark.char)) with he | ho
  · simp [he]
  · simp [ho]

theorem mem_marked_iff {line : List Char} {m : Mark} :
    m ∈ marked line ↔ ∃ before after, line = before ++ m.char :: after ∧
      m.unquoted = decide (quotes before % 2 = 0) := by
  constructor
  · intro hm
    obtain ⟨l, r, hsplit⟩ := List.append_of_mem hm
    obtain ⟨hline, hu⟩ := marked_eq_append_cons hsplit
    exact ⟨l.map Mark.char, r.map Mark.char, hline, hu⟩
  · rintro ⟨before, after, hline, hu⟩
    rw [marked_eq, hline, marksFrom_append, marksFrom]
    refine List.mem_append_right _ (List.mem_cons.2 (.inl ?_))
    obtain ⟨c, unquoted⟩ := m
    dsimp only at hu
    rcases Nat.mod_two_eq_zero_or_one (quotes before) with he | ho
    · simp [hu, he]
    · simp [hu, ho]

/-- No mark is a break just when an odd number of quotes precedes every space. -/
theorem unbroken_iff (text : List Char) :
    (∀ m ∈ marked text, m.isBreak = false) ↔
      ∀ before after, text = before ++ ' ' :: after → quotes before % 2 = 1 := by
  constructor
  · intro h before after ht
    rcases Nat.mod_two_eq_zero_or_one (quotes before) with he | ho
    · have hm : (⟨' ', true⟩ : Mark) ∈ marked text :=
        mem_marked_iff.2 ⟨before, after, ht, by simp [he]⟩
      cases h _ hm
    · exact ho
  · intro h m hm
    obtain ⟨before, after, ht, hu⟩ := mem_marked_iff.1 hm
    by_cases hs : m.char = ' '
    · rw [hs] at ht
      simp [Mark.isBreak, hu, h before after ht]
    · simp [Mark.isBreak, hs]

/-! ## Rendering -/

variable {home : List Char}

theorem render_cons (m : Mark) (piece : List Mark) :
    render home (m :: piece) = m.leaves home ++ render home piece := rfl

theorem render_append (a b : List Mark) :
    render home (a ++ b) = render home a ++ render home b := List.flatMap_append

/-- Between quotes only quotes are dropped, so a text without any is kept as it is. -/
theorem render_inside {text : List Char} (h : '"' ∉ text) :
    render home (text.map (⟨·, false⟩)) = text := by
  induction text with
  | nil => rfl
  | cons c text ih =>
    have hc : c ≠ '"' := fun he => h (he ▸ List.mem_cons_self)
    rw [List.map_cons, render_cons, ih fun hm => h (List.mem_cons_of_mem c hm)]
    simp [Mark.leaves, Mark.isQuote, Mark.isHome, hc]

theorem leaves_eq_nil_iff (hhome : home ≠ []) (m : Mark) :
    m.leaves home = [] ↔ m.isQuote = true := by
  unfold Mark.leaves
  split
  · simp [*]
  · split <;> simp [*]

/-- With a home directory that is not empty, only quotes leave nothing. -/
theorem render_ne_nil_iff (hhome : home ≠ []) (piece : List Mark) :
    render home piece ≠ [] ↔ (piece.any fun m => !m.isQuote) = true := by
  simp [render, List.flatMap_eq_nil_iff, leaves_eq_nil_iff hhome]

/-- Without an unquoted tilde the home directory does not matter. -/
theorem render_congr {other : List Char} {piece : List Mark} (h : ∀ m ∈ piece, m.isHome = false) :
    render home piece = render other piece := by
  have hleaves : ∀ m ∈ piece, m.leaves home = m.leaves other := by
    intro m hm
    simp [Mark.leaves, h m hm]
  simp only [render, List.flatMap_def, List.map_congr_left hleaves]

/-- A quote in a rendered piece comes from the home directory. -/
theorem quote_mem_render {piece : List Mark} (h : '"' ∈ render home piece) :
    '"' ∈ home ∧ ∃ m ∈ piece, m.isHome = true := by
  obtain ⟨m, hm, hleaves⟩ := List.mem_flatMap.1 h
  unfold Mark.leaves at hleaves
  split at hleaves
  · cases hleaves
  · next hquote =>
    split at hleaves
    · next hhome => exact ⟨hleaves, m, hm, hhome⟩
    · rw [List.mem_singleton] at hleaves
      exact absurd (by simp [Mark.isQuote, ← hleaves]) hquote

/-! ## The scan renders the pieces -/

/-- The pieces of a text of which `word` has been read before it, rendered; empty ones are
dropped. -/
def renderedFrom (home word : List Char) (marks : List Mark) : List (List Char) :=
  (((marks.splitOnP Mark.isBreak).map (render home)).modifyHead (word ++ ·)).filter (· ≠ [])

theorem renderedFrom_nil (word : List Char) :
    renderedFrom home word [] = [word].filter (· ≠ []) := by
  simp [renderedFrom, render]

theorem renderedFrom_break {m : Mark} (h : m.isBreak = true) (word : List Char)
    (marks : List Mark) :
    renderedFrom home word (m :: marks) = [word].filter (· ≠ []) ++ renderedFrom home [] marks := by
  have hid : ∀ l : List (List Char), l.modifyHead (([] : List Char) ++ ·) = l := by
    rintro (_ | ⟨_, _⟩) <;> rfl
  rw [renderedFrom, List.splitOnP_cons_eq_if_modifyHead, if_pos h, List.map_cons,
    List.modifyHead_cons, renderedFrom, hid, ← List.filter_append]
  simp [render]

theorem renderedFrom_other {m : Mark} (h : m.isBreak = false) (word : List Char)
    (marks : List Mark) :
    renderedFrom home word (m :: marks) = renderedFrom home (word ++ m.leaves home) marks := by
  obtain ⟨first, others, hs⟩ := List.exists_cons_of_ne_nil
    (List.splitOnP_ne_nil Mark.isBreak marks)
  have hm : ¬ m.isBreak = true := by simp [h]
  rw [renderedFrom, List.splitOnP_cons_eq_if_modifyHead, if_neg hm, renderedFrom, hs]
  simp [render_cons]

theorem renderedFrom_ne_nil {word : List Char} (h : word ≠ []) (marks : List Mark) :
    renderedFrom home word marks ≠ [] := by
  obtain ⟨first, others, hs⟩ := List.exists_cons_of_ne_nil
    (List.splitOnP_ne_nil Mark.isBreak marks)
  rw [renderedFrom, hs]
  simp [h]

namespace Scan

theorem arguments_eq_filter (s : Scan) :
    s.arguments = s.finished.reverse ++ [s.word.reverse].filter (· ≠ []) := by
  by_cases h : s.word = []
  · rw [arguments, endWord_of_nil h, h]
    simp
  · rw [arguments, endWord_of_ne_nil h]
    simp [h]

theorem endWord_finished (s : Scan) :
    s.endWord.finished.reverse = s.finished.reverse ++ [s.word.reverse].filter (· ≠ []) :=
  s.arguments_eq_filter

/-- What a scan has finished comes first; the word that it is in runs on into the first piece. -/
theorem arguments_read_marks (s : Scan) (text : List Char) :
    (s.read home text).arguments =
      s.finished.reverse ++ renderedFrom home s.word.reverse (marksFrom (!s.quoted) text) := by
  -- one case for each kind of character; a break is the only one that moves the word
  induction text generalizing s with
  | nil => rw [read_nil, marksFrom, renderedFrom_nil, arguments_eq_filter]
  | cons c text ih =>
    rw [read_cons, ih, marksFrom]
    by_cases hc : c = '"'
    · rw [if_pos hc, hc, step_quote, renderedFrom_other rfl]
      simp [Mark.leaves, Mark.isQuote]
    have hq : (s.step home c).quoted = s.quoted := step_quoted hc
    rw [if_neg hc, hq]
    by_cases h : s.quoted = true
    · have hb : Mark.isBreak ⟨c, !s.quoted⟩ = false := by simp [Mark.isBreak, h]
      rw [step_inside hc h, renderedFrom_other hb]
      simp [Mark.leaves, Mark.isQuote, Mark.isHome, hc, h]
    have h' : s.quoted = false := by simpa using h
    by_cases hs : c = ' '
    · have hb : Mark.isBreak ⟨c, !s.quoted⟩ = true := by simp [Mark.isBreak, h', hs]
      rw [hs, step_space h', ← hs, renderedFrom_break hb, endWord_word, endWord_finished,
        List.append_assoc]
      rfl
    have hb : Mark.isBreak ⟨c, !s.quoted⟩ = false := by simp [Mark.isBreak, hs]
    rw [renderedFrom_other hb]
    by_cases ht : c = '~'
    · rw [ht, step_tilde h']
      simp [Mark.leaves, Mark.isQuote, Mark.isHome, h']
    · rw [step_plain hc ht hs]
      simp [Mark.leaves, Mark.isQuote, Mark.isHome, hc, ht]

end Scan

/-- The scan finds the pieces of a line. -/
theorem scanArguments_eq_pieces (home line : List Char) :
    scanArguments home line = ((pieces line).map (render home)).filter (· ≠ []) := by
  have hscan : scanArguments home line = (({} : Scan).read home line).arguments := rfl
  rw [hscan, Scan.arguments_read_marks, pieces, marked_eq]
  obtain ⟨first, others, hs⟩ := List.exists_cons_of_ne_nil
    (List.splitOnP_ne_nil Mark.isBreak (marksFrom true line))
  simp [renderedFrom, hs]

/-- A text without a break is a piece by itself. -/
theorem scanArguments_unbroken {text : List Char} (h : ∀ m ∈ marked text, m.isBreak = false) :
    scanArguments home text = [render home (marked text)].filter (· ≠ []) := by
  rw [scanArguments_eq_pieces, pieces, List.splitOnP_eq_singleton h]
  rfl

/-- A character that stands for itself stands in an argument. -/
theorem scanArguments_ne_nil {text : List Char} {c : Char} (hq : c ≠ '"') (ht : c ≠ '~')
    (hs : c ≠ ' ') (h : c ∈ text) : scanArguments home text ≠ [] := by
  obtain ⟨before, after, rfl⟩ := List.append_of_mem h
  have hread : scanArguments home (before ++ c :: after) =
      (((({} : Scan).read home before).step home c).read home after).arguments := by
    rw [← Scan.read_cons, ← Scan.read_append]
    rfl
  rw [hread, Scan.step_plain hq ht hs, Scan.arguments_read_marks]
  intro he
  obtain ⟨-, hnone⟩ := List.append_eq_nil_iff.1 he
  exact renderedFrom_ne_nil (by simp) _ hnone

/-- With a home directory that is not empty, which pieces become arguments does not depend on it. -/
theorem scanArguments_eq_solid (hhome : home ≠ []) (line : List Char) :
    scanArguments home line = (solidPieces line).map (render home) := by
  rw [scanArguments_eq_pieces, List.filter_map, solidPieces]
  congr 1
  refine List.filter_congr fun piece _ => ?_
  rw [Bool.eq_iff_iff, ← render_ne_nil_iff hhome]
  simp

/-! ## Open quotes -/

/-- Text without a break runs on in the last piece. -/
theorem splitOnP_append_unbroken {α : Type} {p : α → Bool} (xs : List α) {ys : List α}
    (h : ∀ y ∈ ys, p y = false) :
    ∃ done last, xs.splitOnP p = done ++ [last] ∧ (xs ++ ys).splitOnP p = done ++ [last ++ ys] := by
  induction xs with
  | nil => exact ⟨[], [], rfl, by simp [List.splitOnP_eq_singleton h]⟩
  | cons x xs ih =>
    obtain ⟨done, last, hx, hxy⟩ := ih
    rw [List.cons_append, List.splitOnP_cons_eq_if_modifyHead, List.splitOnP_cons_eq_if_modifyHead,
      hx, hxy]
    split
    · exact ⟨[] :: done, last, rfl, rfl⟩
    · cases done with
      | nil => exact ⟨[], x :: last, rfl, rfl⟩
      | cons first done => exact ⟨(x :: first) :: done, last, rfl, rfl⟩

/-- A quote that is not closed takes all that follows into the piece it stands in. -/
theorem pieces_open_quote {a b : List Char} (ha : quotes a % 2 = 0) (hb : '"' ∉ b) :
    ∃ done last, pieces a = done ++ [last] ∧
      pieces (a ++ '"' :: b) = done ++ [last ++ ⟨'"', true⟩ :: b.map (⟨·, false⟩)] := by
  have hmarks : marked (a ++ '"' :: b) = marked a ++ ⟨'"', true⟩ :: b.map (⟨·, false⟩) := by
    rw [marked_eq, marked_eq, marksFrom_append, marksFrom]
    simp [ha, marksFrom_inside hb]
  rw [pieces, pieces, hmarks]
  refine splitOnP_append_unbroken _ fun m hm => ?_
  rcases List.mem_cons.1 hm with rfl | hm
  · rfl
  · obtain ⟨c, -, rfl⟩ := List.mem_map.1 hm
    simp [Mark.isBreak]

/-! ## Arguments -/

/-- The argument that a piece becomes, if anything is left of it. -/
def rendered (home : String) (piece : List Mark) : String :=
  String.ofList (render home.toList piece)

theorem rendered_eq_empty_iff (home : String) (piece : List Mark) :
    rendered home piece = "" ↔ render home.toList piece = [] := by
  rw [rendered, ← String.toList_inj, String.toList_ofList, String.toList_empty]

theorem rendered_ne_empty_iff (home : String) (piece : List Mark) :
    rendered home piece ≠ "" ↔ render home.toList piece ≠ [] :=
  not_congr (rendered_eq_empty_iff home piece)

/-- Rendering over characters, with what is empty dropped, is rendering over strings. -/
theorem map_filter_render (home : String) (l : List (List Mark)) :
    ((l.map (render home.toList)).filter (· ≠ [])).map String.ofList =
      (l.map (rendered home)).filter (· ≠ "") := by
  rw [List.filter_map, List.filter_map, List.map_map]
  have hkept : ∀ piece ∈ l, ((· ≠ ([] : List Char)) : List Char → Bool) (render home.toList piece) =
      ((· ≠ "") : String → Bool) (rendered home piece) := by
    intro piece _
    rw [Bool.eq_iff_iff, decide_eq_true_iff, decide_eq_true_iff, rendered_ne_empty_iff]
  exact congrArg (List.map (rendered home)) (List.filter_congr hkept)

theorem arguments_eq_solid {home : String} (hhome : home ≠ "") (line : String) :
    arguments home line = (solidPieces line.toList).map (rendered home) := by
  have hne : home.toList ≠ [] := fun h => hhome (String.toList_eq_nil_iff.1 h)
  rw [arguments, scanArguments_eq_solid hne, List.map_map]
  rfl

/-- The arguments of a line are its pieces between unquoted spaces, each rendered by itself, less
those that come out empty. With another home directory they differ only where an unquoted tilde
stands. -/
theorem arguments_eq_rendered_pieces (home line : String) :
    arguments home line = ((pieces line.toList).map (rendered home)).filter (· ≠ "") ∧
    "" ∉ arguments home line ∧
    (∀ before inside : String, line = before ++ "\"" ++ inside →
      quotes before.toList % 2 = 0 → '"' ∉ inside.toList →
      ∃ done last, pieces before.toList = done ++ [last] ∧
        arguments home line =
          (done.map (rendered home) ++ [rendered home last ++ inside]).filter (· ≠ "")) ∧
    (home ≠ "" → ∀ other, other ≠ "" →
      (arguments home line).length = (arguments other line).length ∧
      arguments home line = (solidPieces line.toList).map (rendered home) ∧
      arguments other line = (solidPieces line.toList).map (rendered other) ∧
      ∀ piece ∈ solidPieces line.toList, (∀ m ∈ piece, m.isHome = false) →
        rendered home piece = rendered other piece) := by
  have hpieces : ∀ text : String, arguments home text =
      ((pieces text.toList).map (rendered home)).filter (· ≠ "") := by
    intro text
    rw [arguments, scanArguments_eq_pieces, map_filter_render]
  refine ⟨hpieces line, ?_, ?_, ?_⟩
  · rw [hpieces]
    simp [List.mem_filter]
  · rintro before inside rfl ha hb
    obtain ⟨done, last, hbefore, hline⟩ := pieces_open_quote ha hb
    have htext : (before ++ "\"" ++ inside).toList = before.toList ++ '"' :: inside.toList := by
      simp
    have hlast : rendered home (last ++ ⟨'"', true⟩ :: inside.toList.map (⟨·, false⟩)) =
        rendered home last ++ inside := by
      rw [rendered, render_append, render_cons, render_inside hb, String.ofList_append]
      simp [rendered, Mark.leaves, Mark.isQuote]
    refine ⟨done, last, hbefore, ?_⟩
    rw [hpieces, htext, hline, List.map_append, List.map_cons, List.map_nil, hlast]
  · intro hhome other hother
    refine ⟨?_, arguments_eq_solid hhome line, arguments_eq_solid hother line, fun piece _ h => ?_⟩
    · rw [arguments_eq_solid hhome, arguments_eq_solid hother, List.length_map, List.length_map]
    · rw [rendered, render_congr h, rendered]

end ScriptShell.Line
