import Mathlib.Data.List.Basic
import ScriptShell.Proofs.Program.Search

/-!
# The search path

A search path is its entries with colons between them (`Entries`). The first entry that is not empty
and has the program decides (`FirstMatch`), so what comes before it without having the program
counts for nothing, and two search paths joined are searched one after the other
(`find_first_match`). What is found can be named by its path from then on: the path has a slash, and
is found whatever the search path is (`find_found`).
-/

namespace ScriptShell.Program

open ScriptShell.Path

/-- The texts without colons that are the search path if colons are put between them. -/
structure Entries (searchPath : String) (dirs : List String) : Prop where
  joined : ":".intercalate dirs = searchPath
  notNone : dirs ≠ []
  noColon : ∀ dir ∈ dirs, ':' ∉ dir.toList

/-- The directory has a name, and below it the program's name leads to a program. -/
structure Offers (d : Disk) (program dir : String) : Prop where
  named : dir ≠ ""
  leads : LeadsToProgram d (join dir program)

/-- What comes of a search in some directories: the first that has the program decides. -/
inductive FirstMatch (d : Disk) (program : String) (dirs : List String) :
    Except LaunchError String → Prop
  | found {before after : List String} {dir : String} (split : dirs = before ++ dir :: after)
      (passed : ∀ other ∈ before, ¬ Offers d program other) (offers : Offers d program dir) :
      FirstMatch d program dirs (.ok (join dir program))
  | nowhere (passed : ∀ dir ∈ dirs, ¬ Offers d program dir) :
      FirstMatch d program dirs (.error (.notFound program))

variable {d : Disk} {searchPath : Option String} {program path dir : String}
  {dirs xs ys : List String}

/-! ## Entries -/

/-- The texts between the colons of a search path. -/
def entries (searchPath : String) : List String :=
  (searchPath.toList.splitOn ':').map String.ofList

theorem entries_intercalate (hn : dirs ≠ []) (hc : ∀ dir ∈ dirs, ':' ∉ dir.toList) :
    entries (":".intercalate dirs) = dirs := by
  have hpieces : ∀ piece ∈ dirs.map String.toList, ':' ∉ piece := by
    intro piece hp
    obtain ⟨dir, hd, rfl⟩ := List.mem_map.1 hp
    exact hc dir hd
  have htext : (":".intercalate dirs).toList = [':'].intercalate (dirs.map String.toList) :=
    String.toList_intercalate
  rw [entries, htext, List.splitOn_intercalate ':' hpieces (by simpa using hn), List.map_map]
  simp [Function.comp_def]

theorem entries_entries (searchPath : String) : Entries searchPath (entries searchPath) where
  joined := by
    apply String.toList_injective
    rw [String.toList_intercalate, entries, List.map_map]
    simp [Function.comp_def, List.intercalate_splitOn]
  notNone := by simp [entries]
  noColon := by
    intro dir hd
    obtain ⟨piece, hp, rfl⟩ := List.mem_map.1 hd
    simpa using not_mem_of_mem_splitOn hp

theorem Entries.eq (h : Entries path dirs) : dirs = entries path := by
  rw [← h.joined, entries_intercalate h.notNone h.noColon]

theorem entries_append (p q : String) : entries (p ++ ":" ++ q) = entries p ++ entries q := by
  have htext : (p ++ ":" ++ q).toList = p.toList ++ ':' :: q.toList := by simp
  rw [entries, htext, List.splitOn_append_cons_self, List.map_append]
  rfl

/-! ## Searching some directories -/

/-- Whether the directory has a name and has the program. -/
def offers (d : Disk) (program dir : String) : Bool :=
  !dir.isEmpty && isCandidate d (join dir program)

theorem offers_iff : offers d program dir = true ↔ Offers d program dir := by
  have hname : dir.isEmpty = false ↔ dir ≠ "" := by simp
  rw [offers, Bool.and_eq_true, Bool.not_eq_true', hname, isCandidate_iff]
  exact ⟨fun ⟨hn, hl⟩ => ⟨hn, hl⟩, fun ⟨hn, hl⟩ => ⟨hn, hl⟩⟩

theorem not_offers_iff : offers d program dir = false ↔ ¬ Offers d program dir := by
  rw [← offers_iff, Bool.not_eq_true]

/-- The path of the program in the first of the directories that has it. -/
def findIn (d : Disk) (program : String) (dirs : List String) : Except LaunchError String :=
  match dirs.find? (offers d program) with
  | some dir => .ok (join dir program)
  | none => .error (.notFound program)

/-- The directories that are searched, empty entries among them. -/
def searched : Option String → List String
  | none => defaultDirectories
  | some searchPath => entries searchPath

theorem searchDirectories_eq (searchPath : Option String) :
    searchDirectories searchPath = (searched searchPath).filter fun dir => !dir.isEmpty := by
  cases searchPath with
  | none => rfl
  | some path =>
    rw [searchDirectories, searched, entries]
    induction path.toList.splitOn ':' with
    | nil => rfl
    | cons piece pieces ih =>
      by_cases he : piece = []
      · simpa [he] using ih
      · simpa [he] using ih

theorem find_eq_findIn (d : Disk) (searchPath : Option String) (hp : isPath program = false) :
    find d searchPath program = findIn d program (searched searchPath) := by
  have hcandidates : candidates searchPath program =
      ((searched searchPath).filter fun dir => !dir.isEmpty).map (join · program) := by
    rw [candidates, hp, searchDirectories_eq]
    rfl
  have hfirst : ((searched searchPath).filter fun dir => !dir.isEmpty).find?
      (isCandidate d ∘ (join · program)) = (searched searchPath).find? (offers d program) := by
    have hboth : ∀ dir, decide ((!dir.isEmpty) = true ∧
        (isCandidate d ∘ (join · program)) dir = true) = offers d program dir := by
      intro dir
      rw [offers, Bool.decide_and, Bool.decide_eq_true, Bool.decide_eq_true]
      rfl
    rw [List.find?_filter, funext hboth]
  rw [find_name hp, hcandidates, List.find?_map, hfirst, findIn]
  cases (searched searchPath).find? (offers d program) with
  | none => rfl
  | some dir => rfl

theorem firstMatch_findIn (d : Disk) (program : String) (dirs : List String) :
    FirstMatch d program dirs (findIn d program dirs) := by
  rw [findIn]
  cases hf : dirs.find? (offers d program) with
  | none =>
    refine .nowhere fun dir hd => not_offers_iff.1 ?_
    simpa using List.find?_eq_none.1 hf dir hd
  | some dir =>
    obtain ⟨ho, before, after, hsplit, hpassed⟩ := List.find?_eq_some_iff_append.1 hf
    refine .found hsplit (fun other hother => not_offers_iff.1 ?_) (offers_iff.1 ho)
    simpa using hpassed other hother

/-- Directories searched after others matter only if those have nothing. -/
theorem findIn_append (d : Disk) (program : String) (xs ys : List String) :
    findIn d program (xs ++ ys) = (findIn d program xs).orElseLazy fun () => findIn d program ys := by
  rw [findIn, findIn, List.find?_append]
  cases xs.find? (offers d program) with
  | none => rfl
  | some dir => rfl

/-- A directory that does not have the program counts for nothing. -/
theorem findIn_skip (h : ¬ Offers d program dir) :
    findIn d program (xs ++ dir :: ys) = findIn d program (xs ++ ys) := by
  rw [findIn, findIn, List.find?_append, List.find?_append,
    List.find?_cons_of_neg (by simpa using not_offers_iff.2 h)]

/-! ## The first entry that has the program -/

theorem isPath_iff : isPath program = true ↔ '/' ∈ program.toList := by
  rw [isPath, List.contains_iff_mem]

theorem not_isPath_iff : isPath program = false ↔ '/' ∉ program.toList := by
  rw [← isPath_iff, Bool.not_eq_true]

theorem join_name (hp : '/' ∉ program.toList) (hn : dir ≠ "") :
    join dir program = if endsInSlash dir then dir ++ program else dir ++ "/" ++ program := by
  have hrelative : isAbsolute program = false := by
    rw [isAbsolute]
    cases hl : program.toList with
    | nil => rfl
    | cons c cs =>
      have hc : c ≠ '/' := by
        rintro rfl
        exact hp (hl ▸ List.mem_cons_self)
      simpa using hc
  rw [join, hrelative, if_neg Bool.false_ne_true]
  cases hs : endsInSlash dir with
  | true => simp
  | false => simp [hn]

/-- How a name is searched for: below one directory after another. -/
structure SearchedInOrder (d : Disk) (program : String) : Prop where
  first : ∀ searchPath, ∃ dirs, Entries searchPath dirs ∧
    (∀ other, Entries searchPath other → other = dirs) ∧
    FirstMatch d program dirs (find d (some searchPath) program)
  /-- without a search path -/
  byDefault : FirstMatch d program defaultDirectories (find d none program)
  joined : ∀ dir, dir ≠ "" → join dir program =
    if endsInSlash dir then dir ++ program else dir ++ "/" ++ program
  /-- of two search paths with a colon between them the second counts only if the first has nothing -/
  found : ∀ p q path, find d (some p) program = .ok path →
    find d (some (p ++ ":" ++ q)) program = .ok path
  unfound : ∀ p q why, find d (some p) program = .error why →
    find d (some (p ++ ":" ++ q)) program = find d (some q) program
  /-- an entry that is empty or does not lead to the program may be put in or left out anywhere -/
  skipped : ∀ before after dir, (∀ entry ∈ before ++ dir :: after, ':' ∉ entry.toList) →
    ¬ Offers d program dir →
    find d (some (":".intercalate (before ++ dir :: after))) program =
      find d (some (":".intercalate (before ++ after))) program

theorem searchedInOrder (d : Disk) (hp : '/' ∉ program.toList) : SearchedInOrder d program := by
  have hfind := fun searchPath => find_eq_findIn d searchPath (not_isPath_iff.2 hp)
  exact {
    first := fun searchPath => by
      refine ⟨entries searchPath, entries_entries searchPath, fun other h => h.eq, ?_⟩
      rw [hfind]
      exact firstMatch_findIn ..
    byDefault := by
      rw [hfind]
      exact firstMatch_findIn ..
    joined := fun dir hn => join_name hp hn
    found := fun p q path h => by
      rw [hfind, searched] at h ⊢
      rw [entries_append, findIn_append, h]
      rfl
    unfound := fun p q why h => by
      rw [hfind, searched] at h
      rw [hfind, hfind, searched, searched, entries_append, findIn_append, h]
      rfl
    skipped := fun before after dir hc hskip => by
      have hwith : entries (":".intercalate (before ++ dir :: after)) = before ++ dir :: after :=
        entries_intercalate (by simp) hc
      rw [hfind, hfind, searched, searched, hwith, findIn_skip hskip]
      obtain hnone | hsome := eq_or_ne (before ++ after) []
      · -- nothing is left: the empty search path has one entry, the empty one
        rw [hnone]
        rfl
      · rw [entries_intercalate hsome]
        intro entry he
        refine hc entry ?_
        simp only [List.mem_append, List.mem_cons] at he ⊢
        tauto }

/-- What is found hangs on the search path just for a name. -/
structure FindsFirst (d : Disk) (program : String) : Prop where
  name : '/' ∉ program.toList → SearchedInOrder d program
  path : '/' ∈ program.toList → ∀ searchPath other : Option String,
    find d searchPath program = find d other program

/-- A name is found below the first entry of the search path that is not empty and leads to a program
there, or is not found; a path does not depend on the search path. -/
theorem find_first_match (d : Disk) (program : String) : FindsFirst d program where
  name hp := searchedInOrder d hp
  path hp searchPath other := by
    rw [find_path (isPath_iff.2 hp), find_path (isPath_iff.2 hp)]

/-! ## The path that is found -/

theorem mem_toList_join {c : Char} (h : c ∈ program.toList) : c ∈ (join dir program).toList := by
  rw [join]
  split
  · exact h
  · split <;> simp [h]

theorem slash_mem_join (hp : '/' ∉ program.toList) (hn : dir ≠ "") :
    '/' ∈ (join dir program).toList := by
  rw [join_name hp hn]
  split
  · next hs =>
    have hlast : dir.toList.getLast? = some '/' := beq_iff_eq.1 hs
    rw [String.toList_append]
    exact List.mem_append_left _ (List.mem_of_getLast? hlast)
  · simp

/-- What is found is a path, below which nothing is searched, and can be executed. -/
theorem find_ok_path (h : find d searchPath program = .ok path) :
    '/' ∈ path.toList ∧ d.isExecutable path = true := by
  cases hp : isPath program with
  | true =>
    rw [find_path hp] at h
    split at h
    · next hx =>
      cases h
      exact ⟨isPath_iff.1 hp, hx⟩
    · split at h <;> cases h
  | false =>
    have hmatch := firstMatch_findIn d program (searched searchPath)
    rw [← find_eq_findIn d searchPath hp, h] at hmatch
    cases hmatch with
    | found split passed offers =>
      have hcandidate := isCandidate_iff.2 offers.leads
      rw [isCandidate, Bool.and_eq_true] at hcandidate
      exact ⟨slash_mem_join (not_isPath_iff.1 hp) offers.named, hcandidate.2⟩

theorem find_ok_noNul (h : find d searchPath program = .ok path) :
    holdsNul program = false ∧ holdsNul path = false := by
  obtain ⟨-, hx⟩ := find_ok_path h
  obtain ⟨n, hn, -⟩ := Disk.isExecutable_iff.1 hx
  obtain ⟨place, hl⟩ := Disk.node_eq_ok.1 hn
  have hpath : '\x00' ∉ path.toList := (Disk.checkPath_eq_ok.1 (Disk.locate_eq_ok.1 hl).1).1
  have hprogram : '\x00' ∉ program.toList := by
    intro hnul
    refine hpath ?_
    -- the name is the path, or its end
    obtain ⟨hmem, -⟩ := find_ok h
    rw [candidates] at hmem
    split at hmem
    · rwa [List.mem_singleton.1 hmem]
    · obtain ⟨dir, -, rfl⟩ := List.mem_map.1 hmem
      exact mem_toList_join hnul
  exact ⟨by simpa [holdsNul] using hprogram, by simpa [holdsNul] using hpath⟩

theorem plan_found (h : find d searchPath program = .ok path) {args : List String}
    (ha : ∀ arg ∈ args, holdsNul arg = false) :
    plan d searchPath ⟨program, args⟩ = .ok ⟨path, program :: args⟩ := by
  have hargv : (program :: args).any holdsNul = false := by
    rw [List.any_cons, (find_ok_noNul h).1, Bool.false_or]
    simpa using ha
  rw [plan, h]
  simp [Invocation.argv, hargv, bind, Except.bind]

/-- What is found can be named by its path: that has a slash, is found whatever the search path is,
and what is executed then is the same. -/
theorem find_found (h : find d searchPath program = .ok path) :
    '/' ∈ path.toList ∧ ∀ other, find d other path = .ok path ∧
      ∀ args, (∀ arg ∈ args, holdsNul arg = false) →
        plan d searchPath ⟨program, args⟩ = .ok ⟨path, program :: args⟩ ∧
        plan d other ⟨path, args⟩ = .ok ⟨path, path :: args⟩ := by
  obtain ⟨hslash, hx⟩ := find_ok_path h
  have hagain : ∀ other, find d other path = .ok path := by
    intro other
    rw [find_path (isPath_iff.2 hslash), if_pos hx]
  exact ⟨hslash, fun other => ⟨hagain other, fun args ha =>
    ⟨plan_found h ha, plan_found (hagain other) ha⟩⟩⟩

/-! ## A program behind an empty entry -/

/-- A directory with one program in it. -/
def oneProgram : Disk where
  tree := (({} : FileTree).insert ["bin"] (.directory newDirectoryMode)).insert ["bin", "tool"]
    (.file 0o755 "".toUTF8)

theorem oneProgram_offers : Offers oneProgram "tool" "bin/" where
  named := by decide
  leads := by
    refine ⟨["bin", "tool"], 0o755, "".toUTF8, Disk.locate_eq_ok.2 ⟨rfl, ?_⟩, by decide⟩
    have hnames : FileTree.walkNames (join "bin/" "tool") = ["bin", "tool"] := rfl
    have hstart : oneProgram.start (join "bin/" "tool") = [] := rfl
    rw [hnames, hstart, FileTree.walk_directory ⟨by decide, by decide, by decide⟩ rfl,
      FileTree.walk_file ⟨by decide, by decide, by decide⟩ rfl]
    rfl

/-- The program behind an empty entry of the search path is found, and then by its path without a
search path. -/
theorem find_found_behind_empty : find oneProgram (some ":bin/") "tool" = .ok "bin/tool" ∧
    find oneProgram none "bin/tool" = .ok "bin/tool" ∧
    plan oneProgram none ⟨"bin/tool", ["-v"]⟩ = .ok ⟨"bin/tool", ["bin/tool", "-v"]⟩ := by
  have hfind : find oneProgram (some ":bin/") "tool" = .ok "bin/tool" := by
    have hentries : searched (some ":bin/") = ["", "bin/"] := by decide
    have hempty : offers oneProgram "tool" "" = false := rfl
    rw [find_eq_findIn oneProgram _ rfl, hentries, findIn, List.find?_cons_of_neg (by simp [hempty]),
      List.find?_cons_of_pos (offers_iff.2 oneProgram_offers)]
    rfl
  obtain ⟨-, hagain⟩ := find_found hfind
  obtain ⟨hnone, hplans⟩ := hagain none
  exact ⟨hfind, hnone, (hplans ["-v"] (by decide)).2⟩

end ScriptShell.Program
