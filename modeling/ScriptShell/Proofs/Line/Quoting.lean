import ScriptShell.Proofs.Line.Grammar

/-!
# Writing arguments down

`Spells home text word`: read outside quotes, `text` puts `word` into the argument that is being
read. Texts that spell their words, with spaces between them, are a line with these arguments
(`scanArguments_spaced`). A text between double quotes spells itself (`spells_enclosed`), so
arguments without quotes can be written down (`arguments_enquoted`). The main statement is
`arguments_quotable`: these are all there are if the home directory has no quote.
-/

namespace ScriptShell.Line

/-- Outside quotes, reading `text` adds `word` to the word being read and does nothing else. -/
def Spells (home text word : List Char) : Prop :=
  ∀ s : Scan, s.quoted = false → s.read home text = { s with word := word.reverse ++ s.word }

/-- The line has these words in order, with one space or more between two. -/
inductive Spaced : List (List Char) → List Char → Prop
  | nothing : Spaced [] []
  | last (word : List Char) : Spaced [word] word
  | more (word : List Char) (gap : Nat) {next : List Char} {words : List (List Char)}
    {line : List Char} : Spaced (next :: words) line →
    Spaced (word :: next :: words) (word ++ (List.replicate (gap + 1) ' ' ++ line))

theorem spaced_intercalate (words : List (List Char)) : Spaced words ([' '].intercalate words) := by
  induction words with
  | nil => exact .nothing
  | cons word words ih =>
    cases words with
    | nil =>
      rw [List.intercalate_singleton]
      exact .last word
    | cons next words =>
      rw [List.intercalate_cons_cons, List.append_assoc]
      exact .more word 0 ih

/-! ## Spelling -/

section

variable {home a b v w : List Char}

theorem spells_nil : Spells home [] [] := fun _ _ => rfl

theorem Spells.append (ha : Spells home a v) (hb : Spells home b w) :
    Spells home (a ++ b) (v ++ w) := by
  intro s hs
  have hrest := hb { s with word := v.reverse ++ s.word } hs
  rw [Scan.read_append, ha s hs, hrest]
  simp

theorem spells_char {c : Char} (hc : c ≠ '"') (ht : c ≠ '~') (hs : c ≠ ' ') :
    Spells home [c] [c] := by
  intro s _
  rw [Scan.read_cons, Scan.step_plain hc ht hs]
  rfl

theorem spells_tilde : Spells home ['~'] home := by
  intro s hs
  rw [Scan.read_cons, Scan.step_tilde hs]
  rfl

/-- A text without quotes, between two of them, spells itself. -/
theorem spells_enclosed (h : '"' ∉ a) : Spells home ('"' :: a ++ ['"']) a := by
  intro s hs
  rw [List.cons_append, Scan.read_cons, Scan.step_quote, Scan.read_append,
    Scan.read_inside h (by simp [hs]), Scan.read_cons, Scan.step_quote]
  simp

/-- A text that spells a word has its quotes closed. -/
theorem Spells.even (h : Spells home a w) : quotes a % 2 = 0 := by
  have hq : (({} : Scan).read home a).quoted = false := by rw [h {} rfl]
  rw [Scan.quoted_read] at hq
  simpa using hq

end

/-! ## Texts with spaces between them -/

variable {home : List Char}

theorem scanArguments_spaces (n : Nat) (line : List Char) :
    scanArguments home (List.replicate n ' ' ++ line) = scanArguments home line := by
  induction n with
  | zero => rfl
  | succ n ih => exact ih

theorem scanArguments_spells {text word : List Char} (h : Spells home text word)
    (hne : word ≠ []) : scanArguments home text = [word] := by
  have hread : ({} : Scan).read home text = { word := word.reverse } := by
    simpa using h {} rfl
  have hs : scanArguments home text = (({} : Scan).read home text).arguments := rfl
  rw [hs, hread, Scan.arguments_eq_filter]
  simp [hne]

/-- A line of texts that spell their words has these words as arguments. -/
theorem scanArguments_spaced {α : Type} {text word : α → List Char} {items : List α}
    {line : List Char} (h : ∀ x ∈ items, Spells home (text x) (word x) ∧ word x ≠ [])
    (hline : Spaced (items.map text) line) : scanArguments home line = items.map word := by
  induction items generalizing line with
  | nil =>
    cases hline
    rfl
  | cons x items ih =>
    obtain ⟨hx, hne⟩ := h x List.mem_cons_self
    have hfirst : scanArguments home (text x) = [word x] := scanArguments_spells hx hne
    cases items with
    | nil =>
      cases hline
      exact hfirst
    | cons y items =>
      cases hline with
      | @more _ gap _ _ rest hrest =>
        have hall := ih (fun z hz => h z (List.mem_cons_of_mem x hz)) hrest
        have hapart : Apart (List.replicate (gap + 1) ' ' ++ rest) := apart_cons.2 rfl
        calc scanArguments home (text x ++ (List.replicate (gap + 1) ' ' ++ rest))
            = scanArguments home (text x) ++
                scanArguments home (List.replicate (gap + 1) ' ' ++ rest) :=
              scanArguments_append hx.even hapart
          _ = [word x] ++ scanArguments home rest := by rw [hfirst, scanArguments_spaces]
          _ = (x :: y :: items).map word := by rw [hall]; rfl

/-! ## Quoted arguments -/

/-- An argument between double quotes. -/
def enquote (arg : String) : String := "\"" ++ arg ++ "\""

/-- An argument that can be written down between double quotes. -/
structure Quotable (arg : String) : Prop where
  notEmpty : arg ≠ ""
  noQuote : '"' ∉ arg.toList

/-- The line has the arguments in order, each between double quotes. -/
def Writes (args : List String) (line : String) : Prop :=
  Spaced (args.map fun arg => (enquote arg).toList) line.toList

theorem writes_intercalate (args : List String) :
    Writes args (" ".intercalate (args.map enquote)) := by
  unfold Writes
  rw [String.toList_intercalate, List.map_map]
  exact spaced_intercalate _

/-- What is written down between double quotes is read back, whatever the home directory is. -/
theorem arguments_enquoted {home line : String} {args : List String}
    (h : ∀ arg ∈ args, Quotable arg) (hline : Writes args line) : arguments home line = args := by
  have hspells : ∀ arg ∈ args,
      Spells home.toList (enquote arg).toList arg.toList ∧ arg.toList ≠ [] := by
    intro arg harg
    obtain ⟨hne, hq⟩ := h arg harg
    refine ⟨?_, fun he => hne (String.toList_eq_nil_iff.1 he)⟩
    have htext : (enquote arg).toList = '"' :: arg.toList ++ ['"'] := by
      simp [enquote, String.toList_append]
    rw [htext]
    exact spells_enclosed hq
  rw [arguments, scanArguments_spaced hspells hline, List.map_map]
  have hid : String.ofList ∘ String.toList = id := funext fun _ => String.ofList_toList
  rw [hid, List.map_id]

/-- No argument has a quote that the home directory does not have. -/
theorem quotable_of_mem_arguments {home line arg : String} (hhome : '"' ∉ home.toList)
    (harg : arg ∈ arguments home line) : Quotable arg := by
  unfold arguments at harg
  obtain ⟨chars, hchars, rfl⟩ := List.mem_map.1 harg
  rw [scanArguments_eq_pieces] at hchars
  obtain ⟨hmem, hne⟩ := List.mem_filter.1 hchars
  obtain ⟨piece, -, rfl⟩ := List.mem_map.1 hmem
  refine ⟨?_, ?_⟩
  · exact (rendered_ne_empty_iff home piece).2 (by simpa using hne)
  · rw [String.toList_ofList]
    exact fun hq => hhome (quote_mem_render hq).1

/-- Arguments that are not empty and have no quote can be written down, each between double quotes.
If the home directory has no quote, these are all the arguments there are. -/
theorem arguments_quotable (home : String) :
    (∀ args line, (∀ arg ∈ args, Quotable arg) → Writes args line → arguments home line = args) ∧
    ('"' ∉ home.toList →
      (∀ line, ∀ arg ∈ arguments home line, Quotable arg) ∧
      (∀ args, (∃ line, arguments home line = args) ↔ ∀ arg ∈ args, Quotable arg) ∧
      ∀ line again, Writes (arguments home line) again →
        arguments home again = arguments home line) := by
  refine ⟨fun args line h hline => arguments_enquoted h hline, fun hhome => ?_⟩
  have hall : ∀ line, ∀ arg ∈ arguments home line, Quotable arg :=
    fun line arg harg => quotable_of_mem_arguments hhome harg
  refine ⟨hall, fun args => ⟨?_, fun h => ?_⟩, fun line again hagain => ?_⟩
  · rintro ⟨line, rfl⟩
    exact hall line
  · exact ⟨_, arguments_enquoted h (writes_intercalate args)⟩
  · exact arguments_enquoted (hall line) hagain

/-- A space and a tilde come back as they are, and so does what a home directory left behind. -/
theorem arguments_quotable_space_and_tilde :
    (∀ arg ∈ ["a b", "~"], Quotable arg) ∧ Writes ["a b", "~"] "\"a b\"   \"~\"" ∧
    arguments "/home/u" "\"a b\"   \"~\"" = ["a b", "~"] ∧
    '"' ∉ "/home/u".toList ∧
    Writes (arguments "/home/u" "~ \"~") "\"/home/u\" \"~\"" ∧
    arguments "/home/u" "\"/home/u\" \"~\"" = arguments "/home/u" "~ \"~" := by
  have hargs : ∀ arg ∈ ["a b", "~"], Quotable arg := by
    intro arg harg
    simp only [List.mem_cons, List.not_mem_nil, or_false] at harg
    rcases harg with rfl | rfl
    · exact ⟨by decide, by decide⟩
    · exact ⟨by decide, by decide⟩
  have hline : Writes ["a b", "~"] "\"a b\"   \"~\"" :=
    .more ['"', 'a', ' ', 'b', '"'] 2 (.last ['"', '~', '"'])
  have hhome : '"' ∉ "/home/u".toList := by decide
  have hread : arguments "/home/u" "~ \"~" = ["/home/u", "~"] := by decide +kernel
  have hagain : Writes (arguments "/home/u" "~ \"~") "\"/home/u\" \"~\"" := by
    rw [hread]
    exact .more ['"', '/', 'h', 'o', 'm', 'e', '/', 'u', '"'] 0 (.last ['"', '~', '"'])
  obtain ⟨hback, himage⟩ := arguments_quotable "/home/u"
  obtain ⟨-, -, hagain'⟩ := himage hhome
  exact ⟨hargs, hline, hback _ _ hargs hline, hhome, hagain, hagain' _ _ hagain⟩

end ScriptShell.Line
