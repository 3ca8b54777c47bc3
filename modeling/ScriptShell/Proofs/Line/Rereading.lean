import ScriptShell.Proofs.Line.Quoting

/-!
# Reading arguments again

The arguments of a line without quotes, joined by single spaces, are a line themselves. `Rereads`
says that this line has the same arguments, whatever the first line was. Its own text is all that
can spoil it: the home directory stands in the arguments as it is and is read a second time. The
main statement, `rereads_iff`, says for which home directories arguments are read again unchanged.

That they are if the home directory spells itself (`scanRereads_of_spells`) is kept by every
character that is read (`Settled`). That it has to is read off two lines, `~ a` and `a~a`.
-/

namespace ScriptShell.Line

/-- Every line without quotes has the same arguments as these arguments joined by single spaces. -/
def Rereads (home : String) : Prop :=
  ∀ line : String, '"' ∉ line.toList →
    arguments home (" ".intercalate (arguments home line)) = arguments home line

/-- No character that means something in a line. -/
structure Ordinary (text : List Char) : Prop where
  noSpace : ' ' ∉ text
  noQuote : '"' ∉ text
  noTilde : '~' ∉ text

/-- A tilde, with an even number of quotes before it and an even number after it. -/
def LoneTilde (text : List Char) : Prop :=
  ∃ before after, before % 2 = 0 ∧ after % 2 = 0 ∧
    text = List.replicate before '"' ++ '~' :: List.replicate after '"'

/-! ## Texts that spell themselves -/

section

variable {home text : List Char}

theorem Ordinary.spells (h : Ordinary text) : Spells home text text := by
  induction text with
  | nil => exact spells_nil
  | cons c text ih =>
    obtain ⟨hs, hq, ht⟩ := h
    have hc : Spells home [c] [c] :=
      spells_char (fun he => hq (he ▸ List.mem_cons_self)) (fun he => ht (he ▸ List.mem_cons_self))
        fun he => hs (he ▸ List.mem_cons_self)
    exact hc.append (ih ⟨List.not_mem_of_not_mem_cons hs, List.not_mem_of_not_mem_cons hq,
      List.not_mem_of_not_mem_cons ht⟩)

/-- Pairs of quotes leave nothing. -/
theorem spells_quotes {n : Nat} (h : n % 2 = 0) : Spells home (List.replicate n '"') [] := by
  obtain ⟨k, rfl⟩ : ∃ k, n = 2 * k := ⟨n / 2, by omega⟩
  clear h
  induction k with
  | zero => exact spells_nil
  | succ k ih => exact (spells_enclosed List.not_mem_nil).append ih

theorem LoneTilde.spells (h : LoneTilde home) : Spells home home home := by
  obtain ⟨before, after, hb, ha, htext⟩ := h
  have hspells : Spells home (List.replicate before '"' ++ (['~'] ++ List.replicate after '"'))
      ([] ++ (home ++ [])) := (spells_quotes hb).append (spells_tilde.append (spells_quotes ha))
  rw [List.nil_append, List.append_nil, List.singleton_append, ← htext] at hspells
  exact hspells

end

/-! ## Reading again what spells itself -/

variable {home : List Char}

/-- All that has been read so far spells itself. -/
structure Settled (home : List Char) (s : Scan) : Prop where
  outside : s.quoted = false
  finished : ∀ word ∈ s.finished, Spells home word word ∧ word ≠ []
  word : Spells home s.word.reverse s.word.reverse

namespace Settled

variable {s : Scan}

theorem endWord (h : Settled home s) : Settled home s.endWord := by
  by_cases hw : s.word = []
  · rw [Scan.endWord_of_nil hw]
    exact h
  · rw [Scan.endWord_of_ne_nil hw]
    refine ⟨h.outside, fun word hm => ?_, spells_nil⟩
    rcases List.mem_cons.1 hm with rfl | hm
    · exact ⟨h.word, fun he => hw (List.reverse_eq_nil_iff.1 he)⟩
    · exact h.finished word hm

/-- One character: a quote apart, what it adds spells itself if the home directory does. -/
theorem step (hhome : Spells home home home) (h : Settled home s) {c : Char} (hc : c ≠ '"') :
    Settled home (s.step home c) := by
  by_cases ht : c = '~'
  · rw [ht, Scan.step_tilde h.outside]
    refine ⟨h.outside, h.finished, ?_⟩
    rw [List.reverse_append, List.reverse_reverse]
    exact h.word.append hhome
  by_cases hs : c = ' '
  · rw [hs, Scan.step_space h.outside]
    exact h.endWord
  · rw [Scan.step_plain hc ht hs]
    refine ⟨h.outside, h.finished, ?_⟩
    rw [List.reverse_cons]
    exact h.word.append (spells_char hc ht hs)

theorem read (hhome : Spells home home home) (h : Settled home s) {line : List Char}
    (hline : '"' ∉ line) : Settled home (s.read home line) := by
  induction line generalizing s with
  | nil => exact h
  | cons c line ih =>
    have hc : c ≠ '"' := fun he => hline (he ▸ List.mem_cons_self)
    exact ih (h.step hhome hc) (List.not_mem_of_not_mem_cons hline)

theorem arguments (h : Settled home s) :
    ∀ word ∈ s.arguments, Spells home word word ∧ word ≠ [] := by
  intro word hm
  exact h.endWord.finished word (List.mem_reverse.1 hm)

end Settled

/-- The arguments of a line without quotes are read again unchanged. -/
def ScanRereads (home : List Char) : Prop :=
  ∀ line, '"' ∉ line →
    scanArguments home ([' '].intercalate (scanArguments home line)) = scanArguments home line

theorem scanRereads_of_spells (hhome : Spells home home home) : ScanRereads home := by
  intro line hline
  have hstart : Settled home {} := ⟨rfl, nofun, spells_nil⟩
  have hwords := (hstart.read hhome hline).arguments
  have hspaced : Spaced ((scanArguments home line).map id)
      ([' '].intercalate (scanArguments home line)) := by
    rw [List.map_id]
    exact spaced_intercalate _
  have hread : scanArguments home ([' '].intercalate (scanArguments home line)) =
      (scanArguments home line).map id := scanArguments_spaced hwords hspaced
  rwa [List.map_id] at hread

/-! ## What the home directory has to be -/

/-- A word that begins before the home directory and ends behind it. -/
def framed (home : List Char) : List Char := 'a' :: (home ++ ['a'])

/-- A letter that stands for itself, to put beside the home directory. -/
theorem spells_letter : Spells home ['a'] ['a'] :=
  spells_char (by decide) (by decide) (by decide)

theorem scanArguments_letter {text : List Char} (h : 'a' ∈ text) : scanArguments home text ≠ [] :=
  scanArguments_ne_nil (by decide) (by decide) (by decide) h

/-- The line `a~a` has the framed home directory as its one argument. -/
theorem ScanRereads.framed (h : ScanRereads home) :
    scanArguments home (framed home) = [framed home] := by
  have honce : scanArguments home ['a', '~', 'a'] = [Line.framed home] :=
    scanArguments_spells ((spells_letter.append spells_tilde).append spells_letter)
      (List.cons_ne_nil _ _)
  have htwice := h ['a', '~', 'a'] (by decide)
  rwa [honce, List.intercalate_singleton] at htwice

/-- No space of the home directory is a break: it would leave an argument on either side. -/
theorem unbroken_of_framed (h : scanArguments home (framed home) = [framed home]) :
    ∀ m ∈ marked home, m.isBreak = false := by
  refine (unbroken_iff home).2 fun before after hspace => ?_
  rcases Nat.mod_two_eq_zero_or_one (quotes before) with he | ho
  · have hcut : framed home = 'a' :: before ++ ' ' :: (after ++ ['a']) := by
      rw [framed, hspace]
      simp
    have heven : quotes ('a' :: before) % 2 = 0 := by
      rw [quotes_cons_other (by decide)]
      exact he
    have hlen : (scanArguments home (framed home)).length = 1 := by rw [h]; rfl
    rw [hcut, scanArguments_append heven (apart_cons.2 rfl), List.length_append] at hlen
    have hleft : scanArguments home ('a' :: before) ≠ [] :=
      scanArguments_letter List.mem_cons_self
    have hright : scanArguments home (' ' :: (after ++ ['a'])) ≠ [] :=
      scanArguments_letter (by simp)
    have hl := List.length_pos_iff.2 hleft
    have hr := List.length_pos_iff.2 hright
    omega
  · exact ho

theorem marked_framed (home : List Char) : ∃ u, marked (framed home) =
    ⟨'a', true⟩ :: (marked home ++ [⟨'a', u⟩]) := by
  refine ⟨true ^^ decide (quotes home % 2 = 1), ?_⟩
  rw [framed, marked_eq, marksFrom, if_neg (by decide), marksFrom_append, marked_eq]
  rfl

/-- Nothing is added to the home directory or lost of it when it is rendered. -/
theorem render_of_framed (h : scanArguments home (framed home) = [framed home]) :
    render home (marked home) = home := by
  obtain ⟨u, hmarks⟩ := marked_framed home
  have hunbroken : ∀ m ∈ marked (framed home), m.isBreak = false := by
    rw [hmarks]
    intro m hm
    rcases List.mem_cons.1 hm with rfl | hm
    · rfl
    rcases List.mem_append.1 hm with hm | hm
    · exact unbroken_of_framed h m hm
    · rw [List.mem_singleton.1 hm]
      rfl
  have hrendered : render home (marked (framed home)) =
      'a' :: (render home (marked home) ++ ['a']) := by
    rw [hmarks, render_cons, render_append]
    rfl
  rw [scanArguments_unbroken hunbroken, hrendered, List.filter_cons_of_pos (by simp)] at h
  exact List.append_cancel_right (List.cons.inj (List.cons.inj h).1).2

/-- A word behind the home directory shows that its quotes are closed. -/
theorem ScanRereads.even (h : ScanRereads home) (hne : home ≠ []) : quotes home % 2 = 0 := by
  have honce : scanArguments home ['~', ' ', 'a'] = [home, ['a']] := by
    have hwords : ∀ x ∈ [(['~'], home), (['a'], ['a'])], Spells home x.1 x.2 ∧ x.2 ≠ [] := by
      simp [hne, spells_letter, spells_tilde]
    exact scanArguments_spaced hwords (.more ['~'] 0 (.last ['a']))
  have htwice := h ['~', ' ', 'a'] (by decide)
  rw [honce] at htwice
  rcases Nat.mod_two_eq_zero_or_one (quotes home) with he | ho
  · exact he
  · -- an open quote takes the space into the last argument
    have hquoted : (({} : Scan).read home home).quoted = true := by
      rw [Scan.quoted_read]
      simp [ho]
    have hline : [' '].intercalate [home, ['a']] = home ++ [' ', 'a'] := by
      rw [List.intercalate_cons_cons, List.intercalate_singleton, List.append_assoc]
      rfl
    have hread : scanArguments home (home ++ [' ', 'a']) =
        ((({} : Scan).read home home).read home [' ', 'a']).arguments := by
      rw [← Scan.read_append]
      rfl
    rw [hline, hread, Scan.read_inside (by decide) hquoted, Scan.arguments_eq_filter] at htwice
    have hlast : (({} : Scan).read home home).word.reverse ++ [' ', 'a'] = ['a'] := by
      simpa using congrArg List.getLast? htwice
    have hlen := congrArg List.length hlast
    simp at hlen

theorem quotes_replicate (n : Nat) : quotes (List.replicate n '"') = n := by simp [quotes]

/-- With a home directory that is not empty, what leaves nothing consists of quotes. -/
theorem quotes_of_render_nil (hne : home ≠ []) {piece : List Mark}
    (h : render home piece = []) : piece.map Mark.char = List.replicate piece.length '"' := by
  rw [render, List.flatMap_eq_nil_iff] at h
  refine List.eq_replicate_iff.2 ⟨List.length_map _, fun c hc => ?_⟩
  obtain ⟨m, hm, rfl⟩ := List.mem_map.1 hc
  simpa [Mark.isQuote] using (leaves_eq_nil_iff hne m).1 (h m hm)

/-- A home directory that is rendered as itself with a tilde outside quotes is a lone tilde: that
tilde is the whole of it, so that nothing is left of what stands beside it. -/
theorem loneTilde_of_home (hrender : render home (marked home) = home)
    (heven : quotes home % 2 = 0) {m : Mark} (hm : m ∈ marked home) (hhome : m.isHome = true) :
    LoneTilde home := by
  obtain ⟨l, r, hsplit⟩ := List.append_of_mem hm
  obtain ⟨htext, hu⟩ := marked_eq_append_cons hsplit
  obtain ⟨hchar, hout⟩ : m.char = '~' ∧ m.unquoted = true := by
    simpa [Mark.isHome] using hhome
  have hne : home ≠ [] := by
    rw [htext]
    simp
  have hleaves : m.leaves home = home := by
    simp [Mark.leaves, Mark.isQuote, hchar, hhome]
  rw [hsplit, render_append, render_cons, hleaves] at hrender
  have hlen := congrArg List.length hrender
  simp only [List.length_append] at hlen
  have hnil : render home l = [] ∧ render home r = [] :=
    ⟨List.length_eq_zero_iff.1 (by omega), List.length_eq_zero_iff.1 (by omega)⟩
  have hl := quotes_of_render_nil hne hnil.1
  have hr := quotes_of_render_nil hne hnil.2
  have hbefore : l.length % 2 = 0 := by
    rw [hout, hl, quotes_replicate] at hu
    simpa using hu.symm
  rw [hl, hr, hchar] at htext
  have hsum : quotes home = l.length + r.length := by
    rw [htext, quotes, List.count_append, List.count_cons_of_ne (by decide)]
    simp
  exact ⟨l.length, r.length, hbefore, by omega, htext⟩

/-- A home directory that is rendered as itself in one piece, without a tilde outside quotes, has no
quote, so that no character of it stands inside quotes. -/
theorem ordinary_of_no_home (hunbroken : ∀ m ∈ marked home, m.isBreak = false)
    (hrender : render home (marked home) = home) (hnone : ∀ m ∈ marked home, m.isHome = false) :
    Ordinary home := by
  have hquote : '"' ∉ home := by
    intro hq
    rw [← hrender] at hq
    obtain ⟨-, m, hm, hhome⟩ := quote_mem_render hq
    rw [hnone m hm] at hhome
    cases hhome
  have hmark : ∀ c ∈ home, (⟨c, true⟩ : Mark) ∈ marked home := by
    intro c hc
    obtain ⟨before, after, htext⟩ := List.append_of_mem hc
    have hnot : '"' ∉ before := fun hb => hquote (by rw [htext]; exact List.mem_append_left _ hb)
    refine mem_marked_iff.2 ⟨before, after, htext, ?_⟩
    simp [quotes, List.count_eq_zero.2 hnot]
  refine ⟨fun hs => ?_, hquote, fun ht => ?_⟩
  · cases hunbroken _ (hmark ' ' hs)
  · cases hnone _ (hmark '~' ht)

theorem scanRereads_iff (home : List Char) : ScanRereads home ↔ Ordinary home ∨ LoneTilde home := by
  constructor
  · intro h
    by_cases hne : home = []
    · rw [hne]
      exact .inl ⟨List.not_mem_nil, List.not_mem_nil, List.not_mem_nil⟩
    have hrender := render_of_framed h.framed
    by_cases hm : ∃ m ∈ marked home, m.isHome = true
    · obtain ⟨m, hm, hhome⟩ := hm
      exact .inr (loneTilde_of_home hrender (h.even hne) hm hhome)
    · have hnone : ∀ m ∈ marked home, m.isHome = false := fun m hmem =>
        Bool.eq_false_iff.2 fun hhome => hm ⟨m, hmem, hhome⟩
      exact .inl (ordinary_of_no_home (unbroken_of_framed h.framed) hrender hnone)
  · rintro (h | h)
    · exact scanRereads_of_spells h.spells
    · exact scanRereads_of_spells h.spells

/-! ## Over strings -/

theorem rereads_iff_scanRereads (home : String) : Rereads home ↔ ScanRereads home.toList := by
  have hjoined : ∀ line : String,
      arguments home (" ".intercalate (arguments home line)) =
        (scanArguments home.toList ([' '].intercalate
          (scanArguments home.toList line.toList))).map String.ofList := by
    intro line
    have hid : String.toList ∘ String.ofList = id := funext fun _ => String.toList_ofList
    rw [arguments, String.toList_intercalate, arguments, List.map_map, hid, List.map_id]
    rfl
  have hinj : ∀ {l l' : List (List Char)}, l.map String.ofList = l'.map String.ofList ↔ l = l' :=
    fun {l l'} => List.map_inj_right fun _ _ => String.ofList_injective
  constructor
  · intro h line hline
    have hread := h (String.ofList line) (by rwa [String.toList_ofList])
    rw [hjoined, arguments, String.toList_ofList] at hread
    exact hinj.1 hread
  · intro h line hline
    rw [hjoined, h line.toList hline]
    rfl

/-- The arguments of lines without quotes are read again unchanged just if the home directory has no
space, no quote and no tilde, or is a single tilde between even numbers of quotes. -/
theorem rereads_iff (home : String) :
    (Rereads home ↔
      (' ' ∉ home.toList ∧ '"' ∉ home.toList ∧ '~' ∉ home.toList) ∨
        ∃ before after, before % 2 = 0 ∧ after % 2 = 0 ∧
          home.toList = List.replicate before '"' ++ '~' :: List.replicate after '"') ∧
    Rereads "" ∧
    (' ' ∈ home.toList → ¬ Rereads home) := by
  have hiff : ∀ home : String, Rereads home ↔ Ordinary home.toList ∨ LoneTilde home.toList :=
    fun home => (rereads_iff_scanRereads home).trans (scanRereads_iff home.toList)
  refine ⟨(hiff home).trans (or_congr_left ⟨fun h => ⟨h.noSpace, h.noQuote, h.noTilde⟩,
    fun h => ⟨h.1, h.2.1, h.2.2⟩⟩), ?_, fun hs h => ?_⟩
  · exact (hiff "").2 (.inl ⟨List.not_mem_nil, List.not_mem_nil, List.not_mem_nil⟩)
  · rcases (hiff home).1 h with ho | ⟨before, after, -, -, htext⟩
    · exact ho.noSpace hs
    · rw [htext] at hs
      simp [List.mem_replicate] at hs

end ScriptShell.Line
