import ScriptShell.Proofs.Script.Heap
import ScriptShell.Script.Handlers

/-!
# What is stored in the table of handlers

`Heap.stored?` reads the handler of a command off the namespace, through both levels, and makes
nothing. Making the missing levels anew changes nothing that is stored (`stored?_handlers`), so what
is found there is just what is stored (`lookup?_handlers`); and storing a handler changes just that
one (`storeHandler_stores`), unless its name is the key of a level in a dictionary that is the table
too (`Heap.Overwrites`).
-/

namespace ScriptShell.Script.Heap

/-- The dictionary under a text in another. -/
def sub? (h : Heap) (parent : Ref) (key : String) : Option Ref :=
  (h.lookup? parent key).bind h.dict?

/-- The dictionary that the name in the namespace leads to. -/
def outer? (h : Heap) (globals : Ref) : Option Ref := h.sub? globals handlersName

/-- The table of handlers, if both levels lead to it. -/
def table? (h : Heap) (globals : Ref) : Option Ref :=
  (h.outer? globals).bind fun outer => h.sub? outer handlersKey

/-- What both levels lead to under the name of a command. -/
def stored? (h : Heap) (globals : Ref) (name : String) : Option Value :=
  (h.table? globals).bind fun table => h.lookup? table name

/-- The heap with the handler of a command stored. -/
def storeHandler (h : Heap) (globals : Ref) (name : String) (handler : Value) : Heap :=
  (h.handlers globals).2.put (h.handlers globals).1 name handler

/-- Something stored under this name would take the place of a level: the table is the namespace, or
the dictionary of the first level, and the name is the key of the next level in it. -/
def Overwrites (h : Heap) (globals : Ref) (name : String) : Prop :=
  (h.table? globals = some globals ∧ name = handlersName) ∨
    ((h.table? globals).isSome ∧ h.table? globals = h.outer? globals ∧ name = handlersKey)

/-- What storing a handler does to what is stored, and to what stands beside it. -/
structure Stores (h h' : Heap) (globals : Ref) (name : String) (handler : Value) : Prop where
  /-- the handler is found through both levels -/
  stored : h'.stored? globals name = some handler
  /-- and so is every other that was stored, and no new one -/
  others : ∀ other, other ≠ name → h'.stored? globals other = h.stored? globals other
  /-- a level that was a dictionary is the same dictionary still -/
  outer : ∀ d, h.outer? globals = some d → h'.outer? globals = some d
  table : ∀ t, h.table? globals = some t → h'.table? globals = some t

variable {h h' : Heap} {globals parent r d : Ref} {key name : String} {v : Value}

theorem dict?_eq_some : h.dict? v = some r ↔ v = .object r ∧ h.IsDict r := by
  cases v with
  | object r' =>
    simp only [dict?, IsDict]
    split
    · rename_i hd
      constructor
      · rintro ⟨⟩
        exact ⟨rfl, hd⟩
      · rintro ⟨⟨⟩, -⟩
        rfl
    · rename_i hd
      constructor
      · rintro ⟨⟩
      · rintro ⟨⟨⟩, hd'⟩
        exact absurd hd' hd
  | _ => simp [dict?]

theorem sub?_eq_some :
    h.sub? parent key = some r ↔ h.lookup? parent key = some (.object r) ∧ h.IsDict r := by
  unfold sub?
  rw [Option.bind_eq_some_iff]
  constructor
  · rintro ⟨v, hv, hd⟩
    obtain ⟨rfl, hr⟩ := dict?_eq_some.1 hd
    exact ⟨hv, hr⟩
  · rintro ⟨hv, hr⟩
    exact ⟨_, hv, dict?_eq_some.2 ⟨rfl, hr⟩⟩

theorem table?_eq_some {table : Ref} :
    h.table? globals = some table ↔
      ∃ outer, h.outer? globals = some outer ∧ h.sub? outer handlersKey = some table :=
  Option.bind_eq_some_iff

theorem stored?_of_table? {table : Ref} (ht : h.table? globals = some table) (name : String) :
    h.stored? globals name = h.lookup? table name := by
  rw [stored?, ht, Option.bind_some]

theorem stored?_of_no_table (ht : h.table? globals = none) (name : String) :
    h.stored? globals name = none := by
  rw [stored?, ht, Option.bind_none]

/-! ## One level -/

/-- Asking for a level: it is there afterwards, it is a new empty dictionary if it was not there
before, and under all other keys nothing has changed. -/
structure Restored (h : Heap) (parent : Ref) (key : String) (r : Ref) (h' : Heap) : Prop where
  leads : h'.sub? parent key = some r
  found : ∀ d, h.sub? parent key = some d → r = d ∧ h' = h
  fresh : h.sub? parent key = none → ¬ h.IsDict r ∧ h'.entries? r = some []
  frame : ∀ d k, d ≠ parent ∨ k ≠ key → h'.lookup? d k = h.lookup? d k
  dict : ∀ d, h.IsDict d → h'.IsDict d

theorem subDict_restored (hp : h.IsDict parent) (key : String) :
    Restored h parent key (h.subDict parent key).1 (h.subDict parent key).2 := by
  cases hs : h.sub? parent key with
  | some d =>
    have heq : h.subDict parent key = (d, h) := by
      rw [subDict, show (h.lookup? parent key).bind h.dict? = some d from hs]
    rw [heq]
    refine ⟨hs, fun d' hd' => ?_, fun hno => ?_, fun _ _ _ => rfl, fun _ hd => hd⟩
    · rw [hs] at hd'
      exact ⟨Option.some.inj hd', rfl⟩
    · rw [hs] at hno
      cases hno
  | none =>
    have heq : h.subDict parent key = (h.objects.size,
        (h.alloc (.dict [])).2.put parent key (.object h.objects.size)) := by
      rw [subDict, show (h.lookup? parent key).bind h.dict? = none from hs]
      rfl
    have hframe : ∀ d k, d ≠ parent ∨ k ≠ key →
        ((h.alloc (.dict [])).2.put parent key (.object h.objects.size)).lookup? d k =
          h.lookup? d k := by
      intro d k hne
      rw [lookup?_put_other hne, lookup?_alloc]
    rw [heq]
    refine ⟨sub?_eq_some.2 ⟨?_, ?_⟩, fun d' hd' => ?_, fun _ => ⟨not_isDict_size h, ?_⟩,
      hframe, fun d hd => isDict_put (isDict_alloc hd)⟩
    · exact lookup?_put_same (isDict_alloc hp)
    · exact isDict_put (isDict_alloc_new h [])
    · rw [hs] at hd'
      cases hd'
    · -- its place was vacant, so it is not the parent
      rw [put, entries?_set_other (Nat.ne_of_lt hp.lt), entries?_of_get? (get?_alloc_new h _)]

/-! ## Both levels -/

/-- Asking for the table: both levels are asked for, one after the other. -/
theorem handlers_restored (hg : h.IsDict globals) :
    ∃ outer middle,
      Restored h globals handlersName outer middle ∧
      Restored middle outer handlersKey (h.handlers globals).1 (h.handlers globals).2 := by
  have hfirst := subDict_restored hg handlersName
  exact ⟨_, _, hfirst, subDict_restored (sub?_eq_some.1 hfirst.leads).2 handlersKey⟩

theorem handlersName_ne_handlersKey : handlersName ≠ handlersKey := by decide

theorem sub?_of_frame {r : Ref} (hs : h.sub? parent key = some r)
    (hl : h'.lookup? parent key = h.lookup? parent key) (hd : ∀ d, h.IsDict d → h'.IsDict d) :
    h'.sub? parent key = some r := by
  obtain ⟨hv, hr⟩ := sub?_eq_some.1 hs
  exact sub?_eq_some.2 ⟨hl.trans hv, hd r hr⟩

/-- How the levels stand after the table was asked for. `outer` and the table are those there were,
or new ones: then nothing stands in them yet, and the table is no dictionary of before. -/
structure Levels (h : Heap) (globals outer table : Ref) (h' : Heap) : Prop where
  first : h'.outer? globals = some outer
  second : h'.sub? outer handlersKey = some table
  /-- if there was a table, nothing was done -/
  found : ∀ t, h.table? globals = some t → table = t ∧ h.outer? globals = some outer ∧ h' = h
  /-- if there was none, the table is a new one -/
  fresh : h.table? globals = none →
    table ≠ globals ∧ table ≠ outer ∧ h'.entries? table = some []
  outerFound : ∀ d, h.outer? globals = some d → outer = d
  frame : ∀ d k, (h.outer? globals = none → d ≠ globals ∨ k ≠ handlersName) →
    (d ≠ outer ∨ k ≠ handlersKey) → h'.lookup? d k = h.lookup? d k
  dict : ∀ d, h.IsDict d → h'.IsDict d

theorem handlers_levels (hg : h.IsDict globals) :
    ∃ outer, Levels h globals outer (h.handlers globals).1 (h.handlers globals).2 := by
  obtain ⟨outer, middle, h1, h2⟩ := handlers_restored hg
  have hleads : (h.handlers globals).2.outer? globals = some outer :=
    sub?_of_frame h1.leads (h2.frame _ _ (.inr handlersName_ne_handlersKey)) h2.dict
  refine ⟨outer, hleads, h2.leads, fun t ht => ?_, fun hno => ?_, fun d hd => (h1.found d hd).1,
    fun d k hg' ho => ?_, fun d hd => h2.dict d (h1.dict d hd)⟩
  · obtain ⟨outer', ho, hs⟩ := table?_eq_some.1 ht
    obtain ⟨rfl, rfl⟩ := h1.found outer' ho
    obtain ⟨htable, hheap⟩ := h2.found t hs
    exact ⟨htable, ho, hheap⟩
  · -- the second level is missing, whether or not the first one was
    have hmiss : middle.sub? outer handlersKey = none := by
      cases ho : h.outer? globals with
      | some d =>
        obtain ⟨rfl, rfl⟩ := h1.found d ho
        rwa [table?, ho] at hno
      | none => rw [sub?, lookup?_of_empty (h1.fresh ho).2, Option.bind_none]
    obtain ⟨hnew, hempty⟩ := h2.fresh hmiss
    refine ⟨fun he => hnew ?_, fun he => hnew ?_, hempty⟩
    · rw [he]
      exact h1.dict globals hg
    · rw [he]
      exact (sub?_eq_some.1 h1.leads).2
  · rw [h2.frame d k ho]
    cases houter : h.outer? globals with
    | some d' => rw [(h1.found d' houter).2]
    | none => exact h1.frame d k (hg' houter)

theorem Levels.table?_eq {outer table : Ref} (hl : Levels h globals outer table h') :
    h'.table? globals = some table :=
  table?_eq_some.2 ⟨outer, hl.first, hl.second⟩

/-- Making missing levels anew changes nothing that is stored. -/
theorem stored?_handlers (hg : h.IsDict globals) (name : String) :
    (h.handlers globals).2.stored? globals name = h.stored? globals name := by
  obtain ⟨outer, hl⟩ := handlers_levels hg
  cases ht : h.table? globals with
  | some t => rw [(hl.found t ht).2.2]
  | none => rw [stored?_of_no_table ht, stored?_of_table? hl.table?_eq, lookup?_of_empty (hl.fresh ht).2.2]

/-- What is found in the table is what is stored. -/
theorem lookup?_handlers (hg : h.IsDict globals) (name : String) :
    (h.handlers globals).2.lookup? (h.handlers globals).1 name = h.stored? globals name := by
  obtain ⟨outer, hl⟩ := handlers_levels hg
  rw [← stored?_handlers hg, stored?_of_table? hl.table?_eq]

/-! ## Storing a handler -/

theorem isDict_storeHandler (hg : h.IsDict globals) (name : String) (handler : Value) :
    (h.storeHandler globals name handler).IsDict globals := by
  obtain ⟨outer, hl⟩ := handlers_levels hg
  rw [storeHandler]
  exact isDict_put (hl.dict globals hg)

/-- Storing a handler stores it, and changes nothing else that is stored. -/
theorem storeHandler_stores (hg : h.IsDict globals) (handler : Value)
    (hsafe : ¬ h.Overwrites globals name) :
    Stores h (h.storeHandler globals name handler) globals name handler := by
  obtain ⟨outer, hl⟩ := handlers_levels hg
  rw [storeHandler]
  generalize (h.handlers globals).1 = table, (h.handlers globals).2 = restored at hl ⊢
  -- what is put into the table is no level
  have hfirst : table ≠ globals ∨ name ≠ handlersName := by
    cases ht : h.table? globals with
    | some t =>
      obtain ⟨rfl, -, -⟩ := hl.found t ht
      refine Classical.not_and_iff_not_or_not.1 fun ⟨he, hn⟩ => hsafe (.inl ⟨?_, hn⟩)
      rw [ht, he]
    | none => exact .inl (hl.fresh ht).1
  have hsecond : table ≠ outer ∨ name ≠ handlersKey := by
    cases ht : h.table? globals with
    | some t =>
      obtain ⟨rfl, ho, -⟩ := hl.found t ht
      refine Classical.not_and_iff_not_or_not.1 fun ⟨he, hn⟩ => hsafe (.inr ⟨?_, ?_, hn⟩)
      · rw [ht]
        rfl
      · rw [ht, ho, he]
    | none => exact .inl (hl.fresh ht).2.1
  have houter : (restored.put table name handler).outer? globals = some outer :=
    sub?_of_frame hl.first (lookup?_put_other (hfirst.imp Ne.symm Ne.symm)) fun _ => isDict_put
  have htable : (restored.put table name handler).table? globals = some table :=
    table?_eq_some.2 ⟨outer, houter, sub?_of_frame hl.second
      (lookup?_put_other (hsecond.imp Ne.symm Ne.symm)) fun _ => isDict_put⟩
  refine ⟨?_, fun other hne => ?_, fun d hd => ?_, fun t ht => ?_⟩
  · rw [stored?_of_table? htable, lookup?_put_same (sub?_eq_some.1 hl.second).2]
  · rw [stored?_of_table? htable, lookup?_put_other (.inr hne)]
    cases ht : h.table? globals with
    | some t =>
      obtain ⟨rfl, -, rfl⟩ := hl.found t ht
      rw [stored?_of_table? ht]
    | none => rw [stored?_of_no_table ht, lookup?_of_empty (hl.fresh ht).2.2]
  · rw [houter, hl.outerFound d hd]
  · rw [htable, (hl.found t ht).1]

/-- Where only the second level was broken, the other keys of the first one are kept. -/
theorem lookup?_storeHandler_beside (hg : h.IsDict globals) (handler : Value)
    (ho : h.outer? globals = some d) (ht : h.table? globals = none) {k : String}
    (hk : k ≠ handlersKey) :
    (h.storeHandler globals name handler).lookup? d k = h.lookup? d k := by
  obtain ⟨outer, hl⟩ := handlers_levels hg
  obtain rfl := hl.outerFound d ho
  rw [storeHandler, lookup?_put_other (.inl (hl.fresh ht).2.1.symm)]
  refine hl.frame outer k (fun hno => ?_) (.inr hk)
  rw [ho] at hno
  cases hno

end ScriptShell.Script.Heap
