import ScriptShell.Proofs.Script.Heap
import ScriptShell.Script.Setup

/-!
# The search path for modules

Directories are put on a search path one after another, each tested against the path as those before
it left it. `Adds path directories added` says without that loop what they add: the directories that
were not on the path, in the order in which the list first names them. It holds of just one list
(`extendSearchPath_eq_append_iff`). The main statement is `extendSearchPath_adds`: the path stays as
it was, with that list behind it, and scripts find it under `path` in the module `sys`.
-/

namespace ScriptShell.Script

/-- What a list of directories adds to a search path: those that are not on it, in the order in
which the list first names them. -/
structure Adds (path directories added : List String) : Prop where
  mem_iff : ∀ d, d ∈ added ↔ d ∈ directories ∧ d ∉ path
  ordered : added.Pairwise fun a b => directories.idxOf a < directories.idxOf b

variable {path seen directories added before after : List String} {d : String}

namespace Adds

theorem nodup (h : Adds path directories added) : added.Nodup :=
  h.ordered.imp fun hlt he => Nat.ne_of_lt hlt (congrArg directories.idxOf he)

/-- There is one order for what is added. -/
theorem unique {other : List String} (h : Adds path directories added)
    (h' : Adds path directories other) : added = other := by
  have hperm : added.Perm other :=
    (List.perm_ext_iff_of_nodup h.nodup h'.nodup).2 fun d => by rw [h.mem_iff, h'.mem_iff]
  refine List.Perm.eq_of_pairwise ?_ h.ordered h'.ordered hperm
  intro a b _ _ hab hba
  exact absurd hba (Nat.lt_asymm hab)

theorem nil : Adds path [] [] := ⟨by simp, List.Pairwise.nil⟩

theorem mem_path_append_iff (h : Adds path directories added) :
    d ∈ path ++ added ↔ d ∈ path ∨ d ∈ directories := by
  rw [List.mem_append, h.mem_iff]
  by_cases hd : d ∈ path <;> simp [hd]

/-! ## One directory more -/

/-- The first places in a list stay when it grows at its end. -/
theorem ordered_longer (h : Adds path seen added) (d : String) :
    added.Pairwise fun a b => (seen ++ [d]).idxOf a < (seen ++ [d]).idxOf b := by
  refine h.ordered.imp_of_mem fun {a b} ha hb hlt => ?_
  rwa [List.idxOf_append, List.idxOf_append, if_pos ((h.mem_iff a).1 ha).1,
    if_pos ((h.mem_iff b).1 hb).1]

/-- A directory that is on the path by now adds nothing. -/
theorem onPath (h : Adds path seen added) (hd : d ∈ path ++ added) :
    Adds path (seen ++ [d]) added := by
  refine ⟨fun e => ?_, h.ordered_longer d⟩
  have hseen := h.mem_path_append_iff.1 hd
  rw [h.mem_iff, List.mem_append, List.mem_singleton]
  constructor
  · exact fun he => ⟨.inl he.1, he.2⟩
  · rintro ⟨he | rfl, hpath⟩
    · exact ⟨he, hpath⟩
    · exact ⟨hseen.resolve_left hpath, hpath⟩

/-- A directory that is not on the path yet is named for the first time, so it comes last. -/
theorem notOnPath (h : Adds path seen added) (hd : d ∉ path ++ added) :
    Adds path (seen ++ [d]) (added ++ [d]) := by
  have hnew : d ∉ path ∧ d ∉ seen := not_or.1 fun hs => hd (h.mem_path_append_iff.2 hs)
  refine ⟨fun e => ?_, List.pairwise_append.2 ⟨h.ordered_longer d, List.pairwise_singleton _ _, ?_⟩⟩
  · rw [List.mem_append, List.mem_append, h.mem_iff, List.mem_singleton]
    constructor
    · rintro (he | rfl)
      · exact ⟨.inl he.1, he.2⟩
      · exact ⟨.inr rfl, hnew.1⟩
    · rintro ⟨he | he, hpath⟩
      · exact .inl ⟨he, hpath⟩
      · exact .inr he
  · intro a ha b hb
    obtain rfl := List.mem_singleton.1 hb
    have hseen : a ∈ seen := ((h.mem_iff a).1 ha).1
    calc (seen ++ [b]).idxOf a
        = seen.idxOf a := by rw [List.idxOf_append, if_pos hseen]
      _ < seen.length := List.idxOf_lt_length_of_mem hseen
      _ ≤ (seen ++ [b]).idxOf b := by
        rw [List.idxOf_append, if_neg hnew.2]
        exact Nat.le_add_left _ _

end Adds

/-! ## All directories -/

theorem extendSearchPath_cons (path : List String) (d : String) (directories : List String) :
    extendSearchPath path (d :: directories) =
      extendSearchPath (if d ∈ path then path else path ++ [d]) directories := by
  simp [extendSearchPath]

theorem extendSearchPath_append (path before after : List String) :
    extendSearchPath path (before ++ after) = extendSearchPath (extendSearchPath path before) after :=
  List.foldl_append

/-- What has been added goes on to be what the directories seen so far add. -/
theorem Adds.extend (h : Adds path seen added) (directories : List String) :
    ∃ added', extendSearchPath (path ++ added) directories = path ++ added' ∧
      Adds path (seen ++ directories) added' := by
  induction directories generalizing seen added with
  | nil => exact ⟨added, rfl, by rwa [List.append_nil]⟩
  | cons d directories ih =>
    rw [extendSearchPath_cons, List.append_cons seen d directories]
    by_cases hd : d ∈ path ++ added
    · rw [if_pos hd]
      exact ih (h.onPath hd)
    · rw [if_neg hd, List.append_assoc]
      exact ih (h.notOnPath hd)

theorem exists_adds (path directories : List String) :
    ∃ added, extendSearchPath path directories = path ++ added ∧ Adds path directories added := by
  have hstart : Adds path [] [] := .nil
  have hrun := hstart.extend directories
  rwa [List.append_nil, List.nil_append] at hrun

theorem extendSearchPath_eq_append_iff :
    extendSearchPath path directories = path ++ added ↔ Adds path directories added := by
  obtain ⟨found, hpath, hfound⟩ := exists_adds path directories
  rw [hpath, List.append_cancel_left_eq]
  exact ⟨fun h => h ▸ hfound, hfound.unique⟩

theorem mem_extendSearchPath :
    d ∈ extendSearchPath path directories ↔ d ∈ path ∨ d ∈ directories := by
  obtain ⟨added, hpath, hadds⟩ := exists_adds path directories
  rw [hpath, hadds.mem_path_append_iff]

/-- Directories that are all on the path leave it as it is. -/
theorem extendSearchPath_of_subset (h : ∀ d ∈ directories, d ∈ path) :
    extendSearchPath path directories = path := by
  have hnone : Adds path directories [] :=
    ⟨fun d => iff_of_false List.not_mem_nil fun hd => hd.2 (h d hd.1), List.Pairwise.nil⟩
  rw [extendSearchPath_eq_append_iff.2 hnone, List.append_nil]

/-- A directory that is on the path, or that the list has named before, adds nothing. -/
theorem extendSearchPath_repeated (h : d ∈ path ∨ d ∈ before) :
    extendSearchPath path (before ++ d :: after) = extendSearchPath path (before ++ after) := by
  rw [extendSearchPath_append, extendSearchPath_append, extendSearchPath_cons,
    if_pos (mem_extendSearchPath.2 h)]

/-! ## What scripts find -/

namespace Heap

/-- A list with these items stands under `path` in a dictionary. -/
structure HasPath (h : Heap) (system path : Ref) (items : List Value) : Prop where
  found : h.lookup? system "path" = some (.object path)
  isList : h.get? path = some (.list items)

variable {h : Heap} {system path r : Ref} {items : List Value}

theorem HasPath.alloc (hp : h.HasPath system path items) (o : Object) :
    (h.alloc o).2.HasPath system path items := by
  refine ⟨?_, get?_alloc_old hp.isList⟩
  rw [← hp.found, lookup?, entries?_alloc_old (isDict_of_lookup? hp.found), lookup?]

theorem HasPath.allocModule (hp : h.HasPath system path items) (name : String)
    (entries : List (String × Value)) :
    (h.allocModule name entries).2.2.HasPath system path items :=
  (hp.alloc _).alloc _

theorem HasPath.set (hp : h.HasPath system path items) (hs : r ≠ system) (hl : r ≠ path)
    (o : Object) : (h.set r o).HasPath system path items := by
  refine ⟨?_, by rw [get?_set_other hl, hp.isList]⟩
  rw [← hp.found, lookup?, entries?_set_other hs, lookup?]

/-- A new module whose first entry is a list. -/
theorem hasPath_allocModule (hl : h.get? path = some (.list items)) (name : String)
    (rest : List (String × Value)) :
    (h.allocModule name (("path", .object path) :: rest)).2.2.HasPath
      (h.allocModule name (("path", .object path) :: rest)).2.1 path items := by
  have hname : (Value.text "path" == Value.text "__name__") = false := by decide
  have hcontents : (h.alloc (.dict (textEntries
      (("__name__", .text name) :: ("path", .object path) :: rest)))).2.HasPath
      h.objects.size path items := by
    refine ⟨?_, get?_alloc_old hl⟩
    rw [lookup?, entries?_of_get? (get?_alloc_new h _), Option.getD_some, textEntries,
      List.map_cons, List.map_cons, List.lookup_cons, hname]
    simp
  exact hcontents.alloc _

theorem allocSystem_hasPath (h : Heap) (directories : List String) :
    (h.allocSystem directories).2.2.2.HasPath (h.allocSystem directories).2.1 h.objects.size
      (directories.map .text) := by
  refine hasPath_allocModule ?_ _ _
  exact get?_alloc_old (get?_alloc_old (get?_alloc_old (get?_alloc_old (get?_alloc_new h _))))

/-- The table of modules is neither the module's dictionary nor the list. -/
theorem allocSystem_modules_ne (h : Heap) (directories : List String) :
    (h.allocSystem directories).2.2.1 ≠ (h.allocSystem directories).2.1 ∧
      (h.allocSystem directories).2.2.1 ≠ h.objects.size := by
  have hmodules : (h.allocSystem directories).2.2.1 = h.objects.size + 4 := by
    simp [allocSystem, alloc]
  have hsystem : (h.allocSystem directories).2.1 = h.objects.size + 5 := by
    simp [allocSystem, alloc, allocModule]
  rw [hmodules, hsystem]
  simp

end Heap

theorem start_hasPath (shell : ShellState) (machine : Program.Machine) (libraries : List String) :
    ∃ path, (Interpreter.start shell machine libraries).heap.HasPath
      (Interpreter.start shell machine libraries).system path
      ((extendSearchPath systemSearchPath libraries).map .text) := by
  -- the modules made after `sys` are new objects, and the table of modules is filled
  unfold Interpreter.start
  obtain ⟨hsystem, hpath⟩ := Heap.allocSystem_modules_ne _ _
  exact ⟨_, (((Heap.allocSystem_hasPath _ _).allocModule _ _).allocModule _ _).set hsystem hpath _⟩

/-- Directories put on a search path leave it as it was, with those behind it that were not on it,
each once and in the order in which they were first named. -/
theorem extendSearchPath_adds (path directories : List String) :
    (∃ added, extendSearchPath path directories = path ++ added ∧ added.Nodup ∧
      (∀ d, d ∈ added ↔ d ∈ directories ∧ d ∉ path) ∧
      added.Pairwise fun a b => directories.idxOf a < directories.idxOf b) ∧
    (∀ before d after, directories = before ++ d :: after → d ∈ path ∨ d ∈ before →
      extendSearchPath path directories = extendSearchPath path (before ++ after)) ∧
    extendSearchPath (extendSearchPath path directories) directories =
      extendSearchPath path directories ∧
    ∀ shell machine, ∃ r, (Interpreter.start shell machine directories).heap.HasPath
      (Interpreter.start shell machine directories).system r
      ((extendSearchPath systemSearchPath directories).map .text) := by
  obtain ⟨added, hpath, hadds⟩ := exists_adds path directories
  refine ⟨⟨added, hpath, hadds.nodup, hadds.mem_iff, hadds.ordered⟩, ?_, ?_,
    fun shell machine => start_hasPath shell machine directories⟩
  · rintro before d after rfl hd
    exact extendSearchPath_repeated hd
  · exact extendSearchPath_of_subset fun d hd => mem_extendSearchPath.2 (.inr hd)

/-- A directory of the system, and one that is named twice. -/
theorem extendSearchPath_adds_once :
    (["lib", "/srv/lib", "lib"] : List String) = ["lib", "/srv/lib"] ++ "lib" :: [] ∧
      ("lib" ∈ (["/usr/lib"] : List String) ∨ "lib" ∈ (["lib", "/srv/lib"] : List String)) ∧
      extendSearchPath ["/usr/lib"] ["lib", "/srv/lib", "lib"] =
        extendSearchPath ["/usr/lib"] (["lib", "/srv/lib"] ++ []) ∧
      extendSearchPath ["/usr/lib"] ["lib", "/srv/lib", "lib"] = ["/usr/lib", "lib", "/srv/lib"] := by
  have hlist : (["lib", "/srv/lib", "lib"] : List String) = ["lib", "/srv/lib"] ++ "lib" :: [] := rfl
  have hnamed : "lib" ∈ (["/usr/lib"] : List String) ∨ "lib" ∈ (["lib", "/srv/lib"] : List String) :=
    .inr List.mem_cons_self
  obtain ⟨-, hrepeated, -⟩ := extendSearchPath_adds ["/usr/lib"] ["lib", "/srv/lib", "lib"]
  exact ⟨hlist, hnamed, hrepeated _ _ _ hlist hnamed, by decide⟩

end ScriptShell.Script
