import ScriptShell.Posix.Path

/-!
# Names, steps and texts of paths

The names of a path are what stands between its slashes, and its steps are its names but for dots
(`Path.withoutDots_steps`). A path of `Path.upward` has the first names and steps of the path
(`Path.begins_of_mem_upward`), it ends with one of them, and the path behind it has all of its names
but that one and dots (`Path.Ascends`).
-/

namespace ScriptShell.Path

variable {path name text : String} {l : List String} {piece : List Char}
  {before front after rest : List (List Char)}

/-! ## Dots -/

/-- The names but the dots, which stand for nothing. -/
def withoutDots (names : List String) : List String := names.filter (· != ".")

theorem withoutDots_append (xs ys : List String) :
    withoutDots (xs ++ ys) = withoutDots xs ++ withoutDots ys :=
  List.filter_append xs ys

theorem withoutDots_cons (h : name ≠ ".") (names : List String) :
    withoutDots (name :: names) = name :: withoutDots names :=
  List.filter_cons_of_pos (bne_iff_ne.2 h)

/-- The next name that is no dot, with the dots before it. -/
theorem withoutDots_eq_cons {xs : List String} (h : withoutDots xs = name :: l) :
    ∃ dots rest, xs = dots ++ name :: rest ∧ withoutDots dots = [] ∧ withoutDots rest = l ∧
      name ≠ "." := by
  obtain ⟨dots, rest, rfl, hd, hn, hr⟩ := List.filter_eq_cons_iff.1 h
  exact ⟨dots, rest, rfl, List.filter_eq_nil_iff.2 hd, hr, bne_iff_ne.1 hn⟩

theorem withoutDots_withoutDots (xs : List String) :
    withoutDots (withoutDots xs) = withoutDots xs := by
  simp [withoutDots]

/-! ## Pieces and names -/

theorem not_mem_of_mem_splitOn {sep : Char} :
    ∀ {chars piece : List Char}, piece ∈ chars.splitOn sep → sep ∉ piece
  | [], piece, h => by
    rw [List.splitOn_nil, List.mem_singleton] at h
    rw [h]
    exact List.not_mem_nil
  | c :: chars, piece, h => by
    rw [List.splitOn_cons_eq_if_modifyHead] at h
    obtain ⟨first, others, hs⟩ := List.exists_cons_of_ne_nil (List.splitOn_ne_nil sep chars)
    have ih : ∀ piece ∈ first :: others, sep ∉ piece := fun piece hp =>
      not_mem_of_mem_splitOn (hs ▸ hp)
    rw [hs] at h
    by_cases hc : c = sep
    · rw [if_pos (beq_iff_eq.2 hc)] at h
      rcases List.mem_cons.1 h with rfl | h
      · exact List.not_mem_nil
      · exact ih piece h
    · rw [if_neg (by simpa using hc), List.modifyHead_cons] at h
      rcases List.mem_cons.1 h with rfl | h
      · intro hm
        rcases List.mem_cons.1 hm with rfl | hm
        · exact hc rfl
        · exact ih first List.mem_cons_self hm
      · exact ih piece (List.mem_cons_of_mem _ h)

theorem ofPieces_pieces (path : String) : ofPieces (pieces path) = path := by
  rw [ofPieces, pieces, List.intercalate_splitOn, String.ofList_toList]

/-- The text of the first pieces of a path has these pieces. -/
theorem pieces_ofPieces (h : pieces path = front ++ rest) (hne : front ≠ []) :
    pieces (ofPieces front) = front := by
  rw [pieces, ofPieces, String.toList_ofList]
  refine List.splitOn_intercalate '/' (fun piece hp => ?_) hne
  have hmem : piece ∈ pieces path := by
    rw [h]
    exact List.mem_append_left _ hp
  exact not_mem_of_mem_splitOn hmem

/-- The names among some pieces. -/
def namesOf (pieces : List (List Char)) : List String :=
  pieces.filterMap fun name => if name.isEmpty then none else some (String.ofList name)

theorem names_eq (path : String) : names path = namesOf (pieces path) := rfl

theorem namesOf_append (xs ys : List (List Char)) :
    namesOf (xs ++ ys) = namesOf xs ++ namesOf ys :=
  List.filterMap_append

theorem namesOf_cons (h : piece ≠ []) (rest : List (List Char)) :
    namesOf (piece :: rest) = String.ofList piece :: namesOf rest :=
  List.filterMap_cons_some (by simp [h])

theorem namesOf_cons_empty (rest : List (List Char)) : namesOf ([] :: rest) = namesOf rest :=
  List.filterMap_cons_none rfl

/-! ## Steps -/

theorem isStep_iff : isStep before piece = true ↔ piece ≠ [] ∧ (piece = ['.'] → before = []) := by
  by_cases hdot : piece = ['.']
  · simp [isStep, hdot]
  · simp [isStep, hdot]

/-- Behind others, the steps among some pieces are the names but the dots. -/
theorem steps_stretchesFrom (h : before ≠ []) (rest : List (List Char)) :
    (stretchesFrom before rest).map (·.1) = withoutDots (namesOf rest) := by
  induction rest generalizing before with
  | nil => rfl
  | cons piece rest ih =>
    have hne : before ++ [piece] ≠ [] := by simp
    rw [stretchesFrom]
    by_cases hempty : piece = []
    · subst hempty
      rw [if_neg (by simp [isStep]), namesOf_cons_empty, ih hne]
    rw [namesOf_cons hempty]
    by_cases hdot : piece = ['.']
    · subst hdot
      rw [if_neg (by simp [isStep, h]), ih hne]
      rfl
    · have hname : String.ofList piece ≠ "." := by
        intro he
        rw [String.ext_iff, String.toList_ofList] at he
        exact hdot he
      rw [if_pos (isStep_iff.2 ⟨hempty, fun he => absurd he hdot⟩), withoutDots_cons hname,
        List.map_cons, ih hne]

theorem isAbsolute_of_pieces {first : List Char} (h : pieces path = first :: rest) :
    isAbsolute path = true ↔ first = [] ∧ rest ≠ [] := by
  have hpath : path.toList = ['/'].intercalate (first :: rest) := by
    rw [← h, pieces, List.intercalate_splitOn]
  have hfirst : '/' ∉ first := not_mem_of_mem_splitOn (h ▸ List.mem_cons_self)
  rw [isAbsolute, hpath, beq_iff_eq]
  cases first with
  | cons c cs =>
    refine iff_of_false (fun hc => hfirst ?_) (fun hc => by cases hc.1)
    cases rest with
    | nil => simp_all
    | cons second rest => simp_all [List.intercalate_cons_cons]
  | nil =>
    cases rest with
    | nil => simp
    | cons second rest => simp [List.intercalate_cons_cons]

/-- The steps of a path are those among its pieces. -/
theorem steps_eq (path : String) : steps path = (stretchesFrom [] (pieces path)).map (·.1) := by
  obtain ⟨first, rest, h⟩ := List.exists_cons_of_ne_nil (List.splitOn_ne_nil '/' path.toList)
  have h : pieces path = first :: rest := h
  have hrest := steps_stretchesFrom (List.cons_ne_nil first []) rest
  have habsolute := isAbsolute_of_pieces h
  rw [steps, names_eq, h, stretchesFrom, List.nil_append]
  by_cases hempty : first = []
  · subst hempty
    rw [if_neg (by simp [isStep]), hrest, namesOf_cons_empty]
    cases hnames : namesOf rest with
    | nil => rfl
    | cons name names =>
      have hroot : isAbsolute path = true := by
        refine habsolute.2 ⟨rfl, ?_⟩
        rintro rfl
        cases hnames
      dsimp only
      rw [hroot, Bool.and_true]
      by_cases hdot : name = "."
      · subst hdot
        rfl
      · rw [if_neg (by simpa using hdot)]
        exact (withoutDots_cons hdot names).symm
  · have hroot : isAbsolute path = false := by
      rw [← Bool.not_eq_true, habsolute]
      exact fun hc => hempty hc.1
    rw [if_pos (isStep_iff.2 ⟨hempty, fun _ => rfl⟩), namesOf_cons hempty, List.map_cons, hrest]
    dsimp only
    rw [hroot, Bool.and_false, if_neg Bool.false_ne_true]
    rfl

/-- The steps of a path are its names, but for dots. -/
theorem withoutDots_steps (path : String) : withoutDots (steps path) = withoutDots (names path) := by
  rw [steps]
  split
  · next hn => rw [hn]
  · next first rest hn =>
    rw [hn]
    split
    · next hd =>
      obtain ⟨rfl, -⟩ : first = "." ∧ isAbsolute path = true := by simpa using hd
      exact withoutDots_withoutDots rest
    · exact (withoutDots_append [first] _).trans
        ((congrArg _ (withoutDots_withoutDots rest)).trans (withoutDots_append [first] _).symm)

/-! ## The texts up to the steps -/

theorem stretchesFrom_append (before xs ys : List (List Char)) :
    stretchesFrom before (xs ++ ys) = stretchesFrom before xs ++ stretchesFrom (before ++ xs) ys := by
  induction xs generalizing before with
  | nil => simp [stretchesFrom]
  | cons piece xs ih =>
    have hcat : before ++ [piece] ++ xs = before ++ piece :: xs := by simp
    rw [List.cons_append, stretchesFrom, stretchesFrom, ih, hcat]
    split
    · rfl
    · rfl

/-- Where one of the steps stands among the pieces. -/
theorem stretchesFrom_split {xs ys : List (String × String)} {step : String × String}
    (h : stretchesFrom before rest = xs ++ step :: ys) :
    ∃ front piece after, rest = front ++ piece :: after ∧ isStep (before ++ front) piece = true ∧
      step = (String.ofList piece, ofPieces (before ++ front ++ [piece])) ∧
      stretchesFrom before front = xs ∧ stretchesFrom (before ++ front ++ [piece]) after = ys := by
  induction rest generalizing before xs with
  | nil => cases xs <;> cases h
  | cons piece rest ih =>
    have hcat : ∀ front, before ++ piece :: front = before ++ [piece] ++ front := by simp
    rw [stretchesFrom] at h
    by_cases hstep : isStep before piece = true
    · rw [if_pos hstep] at h
      cases xs with
      | nil =>
        obtain ⟨rfl, rfl⟩ := List.cons.inj h
        exact ⟨[], piece, rest, rfl, by simpa using hstep, by simp, rfl, by simp⟩
      | cons first xs =>
        obtain ⟨rfl, hrest⟩ := List.cons.inj h
        obtain ⟨front, last, after, rfl, hlast, htext, hfront, hafter⟩ := ih hrest
        refine ⟨piece :: front, last, after, rfl, ?_, ?_, ?_, ?_⟩
        · rwa [hcat]
        · rwa [hcat]
        · rw [stretchesFrom, if_pos hstep, hfront]
        · rwa [hcat]
    · rw [if_neg hstep] at h
      obtain ⟨front, last, after, rfl, hlast, htext, hfront, hafter⟩ := ih h
      refine ⟨piece :: front, last, after, rfl, ?_, ?_, ?_, ?_⟩
      · rwa [hcat]
      · rwa [hcat]
      · rw [stretchesFrom, if_neg hstep, hfront]
      · rwa [hcat]

/-- A path whose last piece is a step. -/
structure EndsIn (text : String) (front : List (List Char)) (piece : List Char) : Prop where
  pieces : pieces text = front ++ [piece]
  isStep : isStep front piece = true

theorem endsIn_ofPieces (h : pieces path = front ++ piece :: after)
    (hstep : isStep front piece = true) : EndsIn (ofPieces (front ++ [piece])) front piece where
  pieces := pieces_ofPieces (h.trans (List.append_cons ..)) (by simp)
  isStep := hstep

namespace EndsIn

variable (h : EndsIn text front piece)
include h

theorem names_eq : names text = namesOf front ++ [String.ofList piece] := by
  rw [Path.names_eq, h.pieces, namesOf_append, namesOf_cons (isStep_iff.1 h.isStep).1]
  rfl

theorem text_eq : text = ofPieces (front ++ [piece]) := by
  rw [← h.pieces, ofPieces_pieces]

theorem ne_empty : text ≠ "" := by
  rintro rfl
  have hnone : names "" = [] := rfl
  have hnames := h.names_eq
  rw [hnone] at hnames
  simp at hnames

theorem endsInSlash : endsInSlash text = false := by
  obtain ⟨cs, c, hc⟩ := (List.eq_nil_or_concat piece).resolve_left (isStep_iff.1 h.isStep).1
  have hslash : '/' ∉ piece := by
    have hmem : piece ∈ Path.pieces text := by rw [h.pieces]; simp
    exact not_mem_of_mem_splitOn hmem
  have htext : ∃ start, text.toList = start ++ piece := by
    rw [h.text_eq, ofPieces, String.toList_ofList]
    clear hc h
    induction front with
    | nil => exact ⟨[], by simp⟩
    | cons first front ih =>
      obtain ⟨start, hs⟩ := ih
      refine ⟨first ++ ['/'] ++ start, ?_⟩
      rw [List.cons_append, List.intercalate_cons_of_ne_nil (by simp), hs, ← List.append_assoc]
  obtain ⟨start, htext⟩ := htext
  rw [Path.endsInSlash, htext, hc]
  simp only [List.concat_eq_append, ← List.append_assoc, List.getLast?_concat]
  rw [hc] at hslash
  simpa using fun he => hslash (by simp [he])

end EndsIn

/-- What the text of some pieces begins with. -/
theorem ofPieces_append {xs : List (List Char)} (hne : xs ≠ []) (ys : List (List Char)) :
    ∃ more, ofPieces (xs ++ ys) = ofPieces xs ++ more := by
  suffices h : ∃ more, ['/'].intercalate (xs ++ ys) = ['/'].intercalate xs ++ more by
    obtain ⟨more, h⟩ := h
    exact ⟨String.ofList more, by rw [ofPieces, h, String.ofList_append]; rfl⟩
  induction xs with
  | nil => exact absurd rfl hne
  | cons x xs ih =>
    cases xs with
    | nil =>
      cases ys with
      | nil => exact ⟨[], by simp⟩
      | cons y ys => exact ⟨'/' :: ['/'].intercalate (y :: ys), by simp [List.intercalate_cons_cons]⟩
    | cons x' xs =>
      obtain ⟨more, ih⟩ := ih (List.cons_ne_nil _ _)
      refine ⟨more, ?_⟩
      rw [List.cons_append, List.cons_append, List.intercalate_cons_cons, List.intercalate_cons_cons,
        List.append_assoc (x ++ ['/']), ← ih, List.cons_append]

theorem isAbsolute_append (h : path ≠ "") (more : String) :
    isAbsolute (path ++ more) = isAbsolute path := by
  have hne : path.toList ≠ [] := fun he => h (String.toList_eq_nil_iff.1 he)
  obtain ⟨c, cs, hc⟩ := List.exists_cons_of_ne_nil hne
  rw [isAbsolute, isAbsolute, String.toList_append, hc]
  rfl

/-! ## What leads up to a path -/

/-- `text` is a path up to the end of one of its steps. -/
structure Begins (path text : String) : Prop where
  starts : ∃ more, path = text ++ more
  names : ∃ later, names path = names text ++ later
  steps : ∃ later, steps path = steps text ++ later
  absolute : isAbsolute text = isAbsolute path

theorem EndsIn.begins (h : EndsIn text front piece)
    (hpath : Path.pieces path = front ++ piece :: after) : Begins path text := by
  rw [List.append_cons, ← h.pieces] at hpath
  have hmore : ∃ more, path = text ++ more := by
    obtain ⟨more, htext⟩ := ofPieces_append (List.splitOn_ne_nil '/' text.toList) after
    refine ⟨more, ?_⟩
    rw [← ofPieces_pieces path, hpath, Path.pieces, htext, ← Path.pieces, ofPieces_pieces]
  refine ⟨hmore, ⟨namesOf after, ?_⟩, ⟨(stretchesFrom (Path.pieces text) after).map (·.1), ?_⟩, ?_⟩
  · rw [Path.names_eq, hpath, namesOf_append, ← Path.names_eq]
  · rw [steps_eq, steps_eq, hpath, stretchesFrom_append, List.map_append, List.nil_append]
  · obtain ⟨more, rfl⟩ := hmore
    exact (isAbsolute_append h.ne_empty more).symm

theorem begins_of_mem_upward (h : text ∈ upward path) : Begins path text := by
  obtain ⟨⟨step, _⟩, hmem, rfl⟩ := List.mem_map.1 (List.mem_reverse.1 h)
  obtain ⟨xs, ys, hsplit⟩ := List.append_of_mem hmem
  obtain ⟨front, piece, after, hpieces, hstep, heq, -, -⟩ := stretchesFrom_split hsplit
  cases heq
  exact (endsIn_ofPieces hpieces hstep).begins hpieces

/-- The first of the paths that lead up to a path ends with its last step, and the others are what
leads up to the pieces before that. -/
theorem upward_cons {above : List String} (h : upward path = text :: above) :
    ∃ front piece after, pieces path = front ++ piece :: after ∧ EndsIn text front piece ∧
      above = textsUpTo front ∧ stretchesFrom (front ++ [piece]) after = [] := by
  have hstretches : (stretchesFrom [] (pieces path)).map (·.2) = above.reverse ++ [text] := by
    rw [← List.reverse_cons, ← h, upward, textsUpTo, List.reverse_reverse]
  obtain ⟨xs, ys, hsplit, hxs, hys⟩ := List.map_eq_append_iff.1 hstretches
  obtain ⟨⟨step, _⟩, hstep, rfl⟩ := List.map_eq_singleton_iff.1 hys
  rw [hstep] at hsplit
  obtain ⟨front, piece, after, hpieces, hlast, heq, hfront, hafter⟩ := stretchesFrom_split hsplit
  cases heq
  refine ⟨front, piece, after, hpieces, endsIn_ofPieces hpieces hlast, ?_, hafter⟩
  rw [textsUpTo, hfront, hxs, List.reverse_reverse]

theorem EndsIn.upward (h : EndsIn text front piece) : upward text = text :: textsUpTo front := by
  rw [Path.upward, textsUpTo, h.pieces, stretchesFrom_append, stretchesFrom, List.nil_append,
    if_pos h.isStep, ← h.text_eq]
  simp [stretchesFrom, textsUpTo]

/-- A path that ends with its last step: `above` is what leads up to it, and the first of that has all
names of the path but the last one and dots. -/
structure Ascends (text : String) (above : List String) : Prop where
  endsInSlash : endsInSlash text = false
  names : ∃ front last, names text = front ++ [last]
  upward : upward text = text :: above
  higher : ∃ p, Path.upward p = above
  next : ∀ a rest, above = a :: rest → Begins text a ∧ a ≠ "" ∧
    ∃ dots last, Path.names text = Path.names a ++ dots ++ [last] ∧ withoutDots dots = []

theorem EndsIn.ascends (h : EndsIn text front piece) : Ascends text (textsUpTo front) where
  endsInSlash := h.endsInSlash
  names := ⟨_, _, h.names_eq⟩
  upward := h.upward
  higher := by
    by_cases hne : front = []
    · subst hne
      exact ⟨"", rfl⟩
    · exact ⟨ofPieces front, by rw [Path.upward, pieces_ofPieces h.pieces hne]⟩
  next a rest ha := by
    have hne : front ≠ [] := by
      rintro rfl
      cases ha
    have hfront : Path.pieces (ofPieces front) = front := pieces_ofPieces h.pieces hne
    have hupward : Path.upward (ofPieces front) = a :: rest := by rw [Path.upward, hfront, ha]
    obtain ⟨front', piece', after, hpieces, hends, -, hafter⟩ := upward_cons hupward
    rw [hfront] at hpieces
    subst hpieces
    have hpath : Path.pieces text = front' ++ piece' :: (after ++ [piece]) := by
      rw [h.pieces, List.append_assoc, List.cons_append]
    refine ⟨hends.begins hpath, hends.ne_empty, namesOf after, String.ofList piece, ?_, ?_⟩
    · rw [h.names_eq, hends.names_eq, namesOf_append, namesOf_cons (isStep_iff.1 hends.isStep).1,
        List.append_cons (namesOf front')]
    · rw [← steps_stretchesFrom (by simp : front' ++ [piece'] ≠ []), hafter, List.map_nil]

theorem ascends {above : List String} (h : upward path = text :: above) : Ascends text above := by
  obtain ⟨front, piece, after, -, hends, rfl, -⟩ := upward_cons h
  exact hends.ascends

/-! ## The path above -/

theorem EndsIn.steps_eq (h : EndsIn text front piece) :
    steps text = (stretchesFrom [] front).map (·.1) ++ [String.ofList piece] := by
  rw [Path.steps_eq, h.pieces, stretchesFrom_append, stretchesFrom, List.nil_append,
    if_pos h.isStep, List.map_append]
  rfl

/-- Behind its last step a path has no step. -/
theorem steps_of_upward_cons {above : List String} (h : upward path = text :: above) :
    steps path = steps text := by
  obtain ⟨front, piece, after, hpieces, hends, -, hafter⟩ := upward_cons h
  rw [hends.steps_eq, steps_eq, hpieces, stretchesFrom_append, stretchesFrom, List.nil_append,
    if_pos hends.isStep, hafter, List.map_append]
  rfl

/-- The path above a path has its steps but the last, and what leads up to it is what leads up to the
path but for the path itself. -/
theorem parent?_eq_some {parent : String} (h : parent? path = some parent) :
    ∃ text last, upward path = text :: upward parent ∧ steps path = steps parent ++ [last] := by
  rw [parent?] at h
  split at h
  · cases h
  · next text hupward =>
    obtain ⟨front, piece, after, -, hends, hfront, -⟩ := upward_cons hupward
    have hnone : stretchesFrom [] front = [] := by simpa [textsUpTo] using hfront.symm
    have hsteps : steps path = [String.ofList piece] := by
      rw [steps_of_upward_cons hupward, hends.steps_eq, hnone]
      rfl
    refine ⟨text, String.ofList piece, ?_, ?_⟩
    · rw [hupward, ← Option.some.inj h]
      split <;> rfl
    · rw [hsteps, ← Option.some.inj h]
      split <;> rfl
  · next text above rest hupward =>
    cases h
    obtain ⟨front, piece, after, -, hends, hfront, -⟩ := upward_cons hupward
    have hne : front ≠ [] := by
      rintro rfl
      cases hfront
    have hpieces : pieces (ofPieces front) = front := pieces_ofPieces hends.pieces hne
    have hhigher : upward (ofPieces front) = parent :: rest := by rw [upward, hpieces, hfront]
    refine ⟨text, String.ofList piece, ?_, ?_⟩
    · rw [hupward, (ascends hhigher).upward]
    · rw [steps_of_upward_cons hupward, hends.steps_eq, ← steps_of_upward_cons hhigher, steps_eq,
        hpieces]

end ScriptShell.Path
