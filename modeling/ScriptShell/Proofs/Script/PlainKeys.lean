import ScriptShell.Proofs.Script.Handlers
import ScriptShell.Proofs.Script.Running
import ScriptShell.Script.Evaluation

/-!
# Dictionaries whose keys are plain

A key of a class of the script's own may compare itself with a text by code, so that looking the text
up runs code and may fail. `Heap.PlainKeys` says that a dictionary has no such key. There looking up
and storing do just that (`Evaluator.AsksPlainly`, which the evaluator of the shell has by
`asksPlainly_above`), so what is asked of the table of handlers is what stands on the heap
(`Exec.run_findHandler`, `Exec.run_storeHandler`).
-/

namespace ScriptShell.Script

/-- No key of the dictionary compares itself with others by a method of its class. -/
def Heap.PlainKeys (h : Heap) (r : Ref) : Prop :=
  ∀ e ∈ (h.entries? r).getD [], h.special? e.1 "__eq__" = none

/-- The keys are plain in all dictionaries that lead to the handlers. -/
structure Heap.PlainLevels (h : Heap) (globals : Ref) : Prop where
  ofGlobals : h.PlainKeys globals
  ofOuter : ∀ outer ∈ h.outer? globals, h.PlainKeys outer
  ofTable : ∀ table ∈ h.table? globals, h.PlainKeys table

instance (h : Heap) (r : Ref) : Decidable (h.PlainKeys r) :=
  inferInstanceAs (Decidable (∀ e ∈ (h.entries? r).getD [], h.special? e.1 "__eq__" = none))

instance (h : Heap) (globals : Ref) : Decidable (h.PlainLevels globals) :=
  decidable_of_iff (h.PlainKeys globals ∧ (∀ outer ∈ h.outer? globals, h.PlainKeys outer) ∧
      ∀ table ∈ h.table? globals, h.PlainKeys table)
    ⟨fun ⟨hg, ho, ht⟩ => ⟨hg, ho, ht⟩, fun ⟨hg, ho, ht⟩ => ⟨hg, ho, ht⟩⟩

/-- Dictionaries with plain keys are asked as one expects: a text is looked up, or stored, and
nothing else is done. -/
structure Evaluator.AsksPlainly (ev : Evaluator) : Prop where
  lookup : ∀ (i : Interpreter) (r : Ref) (name : String), i.heap.PlainKeys r →
    (ev.lookup r name).run i = (.ok (i.heap.lookup? r name), i)
  store : ∀ (i : Interpreter) (r : Ref) (name : String) (v : Value), i.heap.PlainKeys r →
    (ev.store r name v).run i = (.ok (), { i with heap := i.heap.put r name v })

/-! ## The evaluator of the shell -/

namespace Exec

variable {ev : Evaluator} {i : Interpreter} {name : String}

theorem run_isUnder {key : Value} (hkey : i.heap.special? key "__eq__" = none) :
    (isUnder ev name key).run i = (.ok (key == .text name), i) := by
  have hheap : (heap : Exec Heap).run i = (.ok i.heap, i) := rfl
  rw [isUnder, run_bind, hheap]
  dsimp only
  rw [hkey]
  rfl

theorem run_entryUnder {entries : List (Value × Value)}
    (h : ∀ e ∈ entries, i.heap.special? e.1 "__eq__" = none) :
    (entryUnder ev name entries).run i = (.ok (entries.find? fun e => e.1 == .text name), i) := by
  induction entries with
  | nil => rfl
  | cons e rest ih =>
    obtain ⟨he, hrest⟩ := List.forall_mem_cons.1 h
    rw [entryUnder, run_bind, run_isUnder he, List.find?_cons]
    dsimp only
    cases e.1 == .text name with
    | true => rfl
    | false => exact ih hrest

theorem find?_key_eq_lookup (entries : List (Value × Value)) (key : Value) :
    (entries.find? fun e => e.1 == key).map (·.2) = entries.lookup key := by
  induction entries with
  | nil => rfl
  | cons e rest ih =>
    rw [List.find?_cons, List.lookup_cons, BEq.comm]
    cases key == e.1 with
    | true => rfl
    | false => exact ih

end Exec

theorem asksPlainly_above (ev : Evaluator) : ev.above.AsksPlainly where
  lookup i r name hplain := by
    have hheap : (Exec.heap : Exec Heap).run i = (.ok i.heap, i) := rfl
    have habove : ev.above.lookup r name = Exec.lookupText ev r name := rfl
    rw [habove, Exec.lookupText, Exec.run_bind, hheap]
    dsimp only
    rw [Exec.run_bind, Exec.run_entryUnder hplain]
    dsimp only
    rw [Exec.find?_key_eq_lookup]
    rfl
  store i r name v hplain := by
    have hheap : (Exec.heap : Exec Heap).run i = (.ok i.heap, i) := rfl
    have habove : ev.above.store r name v = Exec.storeText ev r name v := rfl
    rw [habove, Exec.storeText, Exec.run_bind, hheap]
    dsimp only
    rw [Exec.run_bind, Exec.run_entryUnder hplain]
    dsimp only
    rw [Exec.run_bind, hheap]
    dsimp only
    -- the key that the text is found under is the text
    have hkey : (((((i.heap.entries? r).getD []).find? fun e => e.1 == .text name).map
        (·.1)).getD (.text name)) = .text name := by
      cases hfind : ((i.heap.entries? r).getD []).find? fun e => e.1 == .text name with
      | none => rfl
      | some e => simpa using List.find?_some hfind
    rw [hkey]
    rfl

/-- The parts that the evaluator of the shell leaves to another are left to this one. -/
def partsEvaluator : Evaluator := Evaluator.ofDepth (Evaluator.standardDepth - 1)

theorem standard_eq_above : Evaluator.standard = partsEvaluator.above := by
  have hdepth : Evaluator.standardDepth = Evaluator.standardDepth - 1 + 1 := rfl
  rw [Evaluator.standard, hdepth, Evaluator.ofDepth]
  rfl

theorem asksPlainly_standard : Evaluator.standard.AsksPlainly :=
  standard_eq_above ▸ asksPlainly_above partsEvaluator

/-! ## Keys stay plain -/

namespace Heap

variable {h h' : Heap} {globals parent r : Ref} {key : String}

/-- A new dictionary is the object of no value that had another. -/
theorem object?_alloc_dict (h : Heap) (v : Value) :
    (h.alloc (.dict [])).2.object? v = h.object? v ∨
      h.object? v = none ∧ (h.alloc (.dict [])).2.object? v = some (.dict []) := by
  cases v with
  | object r =>
    by_cases hr : r = h.objects.size
    · subst hr
      exact .inr ⟨Array.getElem?_size, get?_alloc_new h _⟩
    · exact .inl (get?_alloc_other hr _)
  | _ => exact .inl rfl

theorem classAttribute?_alloc_dict (h : Heap) (depth : Nat) (c : Value) (name : String) :
    (h.alloc (.dict [])).2.classAttribute? depth c name = h.classAttribute? depth c name := by
  induction depth generalizing c with
  | zero => rfl
  | succ depth ih =>
    rcases object?_alloc_dict h c with hsame | ⟨hold, hnew⟩
    · rw [classAttribute?, classAttribute?, hsame]
      split
      · rw [lookup?_alloc, funext ih]
      · rfl
    · rw [classAttribute?, classAttribute?, hold, hnew]

theorem special?_alloc_dict (h : Heap) (v : Value) (name : String) :
    (h.alloc (.dict [])).2.special? v name = h.special? v name := by
  rcases object?_alloc_dict h v with hsame | ⟨hold, hnew⟩
  · rw [special?, special?, hsame]
    split
    · exact classAttribute?_alloc_dict ..
    · exact classAttribute?_alloc_dict ..
    · rfl
  · rw [special?, special?, hold, hnew]

theorem plainKeys_alloc (hp : h.PlainKeys r) : (h.alloc (.dict [])).2.PlainKeys r := by
  intro e he
  rw [special?_alloc_dict]
  refine hp e ?_
  by_cases hr : r = h.objects.size
  · rw [hr, entries?_of_get? (get?_alloc_new h _)] at he
    cases he
  · rwa [entries?, get?_alloc_other hr] at he

theorem plainKeys_of_empty (he : h.entries? r = some []) : h.PlainKeys r := by
  intro e hmem
  rw [he] at hmem
  cases hmem

/-- The dictionary of a level has plain keys if it had before; a new one has no keys. -/
theorem Restored.plainKeys (hr : Restored h parent key r h')
    (hp : ∀ d, h.sub? parent key = some d → h.PlainKeys d) : h'.PlainKeys r := by
  cases hs : h.sub? parent key with
  | some d =>
    obtain ⟨rfl, rfl⟩ := hr.found d hs
    exact hp r hs
  | none => exact plainKeys_of_empty (hr.fresh hs).2

/-- The table that is asked for has plain keys, too. -/
theorem plainKeys_handlers (hg : h.IsDict globals) (hp : h.PlainLevels globals) :
    (h.handlers globals).2.PlainKeys (h.handlers globals).1 := by
  obtain ⟨outer, hl⟩ := handlers_levels hg
  cases ht : h.table? globals with
  | some t =>
    obtain ⟨htable, -, hheap⟩ := hl.found t ht
    rw [htable, hheap]
    exact hp.ofTable t ht
  | none => exact plainKeys_of_empty (hl.fresh ht).2.2

end Heap

/-! ## Asking for the table -/

namespace Exec

variable {ev : Evaluator} {i : Interpreter} {parent : Ref}

theorem run_subDict (hev : ev.AsksPlainly) (hp : i.heap.PlainKeys parent) (key : String) :
    (subDict ev parent key).run i =
      (.ok (i.heap.subDict parent key).1, { i with heap := (i.heap.subDict parent key).2 }) := by
  have hheap : (heap : Exec Heap).run i = (.ok i.heap, i) := rfl
  rw [subDict, run_bind, hev.lookup _ _ key hp]
  dsimp only
  rw [run_bind, hheap, Heap.subDict]
  dsimp only
  cases (i.heap.lookup? parent key).bind i.heap.dict? with
  | some r => rfl
  | none =>
    dsimp only
    rw [freshDict, run_bind, hheap]
    dsimp only
    rw [run_bind, run_setHeap]
    dsimp only
    rw [run_bind, hev.store { i with heap := (i.heap.alloc (.dict [])).2 } _ key _
      (Heap.plainKeys_alloc hp)]
    rfl

/-- Where all keys are plain, asking for the table makes missing levels anew on the heap. -/
theorem run_handlers (hev : ev.AsksPlainly) (hg : i.heap.IsDict i.globals)
    (hp : i.heap.PlainLevels i.globals) :
    (handlers ev).run i =
      (.ok (i.heap.handlers i.globals).1, { i with heap := (i.heap.handlers i.globals).2 }) := by
  have houter : (i.heap.subDict i.globals handlersName).2.PlainKeys
      (i.heap.subDict i.globals handlersName).1 :=
    (Heap.subDict_restored hg handlersName).plainKeys hp.ofOuter
  rw [handlers, run_bind, run_get]
  dsimp only
  rw [run_bind, run_subDict hev hp.ofGlobals]
  exact run_subDict (i := { i with heap := (i.heap.subDict i.globals handlersName).2 }) hev houter
    handlersKey

theorem run_storeHandler (hev : ev.AsksPlainly) (hg : i.heap.IsDict i.globals)
    (hp : i.heap.PlainLevels i.globals) (name : String) (handler : Value) :
    (storeHandler ev name handler).run i =
      (.ok (), { i with heap := i.heap.storeHandler i.globals name handler }) := by
  rw [storeHandler, run_bind, run_handlers hev hg hp]
  exact hev.store { i with heap := (i.heap.handlers i.globals).2 } _ name handler
    (Heap.plainKeys_handlers hg hp)

/-- Where all keys are plain, the handler that is found is the one stored. -/
theorem run_findHandler (hev : ev.AsksPlainly) (hg : i.heap.IsDict i.globals)
    (hp : i.heap.PlainLevels i.globals) (name : String) :
    (findHandler ev name).run i =
      (.ok (i.heap.stored? i.globals name),
        { i with heap := (i.heap.handlers i.globals).2 }) := by
  have hlookup := hev.lookup { i with heap := (i.heap.handlers i.globals).2 } _ name
    (Heap.plainKeys_handlers hg hp)
  dsimp only at hlookup
  rw [Heap.lookup?_handlers hg name] at hlookup
  rw [findHandler, run_bind, run_handlers hev hg hp]
  exact hlookup

end Exec

end ScriptShell.Script
