import ScriptShell.Script.Value

/-!
# Dictionaries on the heap

What a place of the heap holds after an object was put there, put elsewhere, or added; and from it
what is found under a text in a dictionary (`lookup?_put_same`, `lookup?_put_other`,
`lookup?_alloc`). Proofs about what scripts see use these and never look at the heap's array.
-/

namespace ScriptShell.Script.Heap

/-- A dictionary stands at this place. -/
def IsDict (h : Heap) (r : Ref) : Prop := (h.entries? r).isSome

variable {h : Heap} {r other : Ref} {key : String} {v : Value}

/-! ## Places -/

theorem get?_set_same (hr : r < h.objects.size) (o : Object) : (h.set r o).get? r = some o := by
  simp [get?, set, hr]

theorem get?_set_other (hne : r ≠ other) (o : Object) : (h.set r o).get? other = h.get? other := by
  simp [get?, set, hne]

/-- Nothing is put where there is nothing yet. -/
theorem set_outside (hr : ¬ r < h.objects.size) (o : Object) : h.set r o = h := by
  simp [set, Array.setIfInBounds, hr]

theorem get?_alloc_new (h : Heap) (o : Object) : (h.alloc o).2.get? h.objects.size = some o := by
  simp [get?, alloc]

theorem get?_alloc_other (hne : r ≠ h.objects.size) (o : Object) :
    (h.alloc o).2.get? r = h.get? r := by
  simp [get?, alloc, Array.getElem?_push, hne]

theorem lt_size_of_get? {o : Object} (hr : h.get? r = some o) : r < h.objects.size := by
  rw [get?] at hr
  exact (Array.getElem?_eq_some_iff.1 hr).1

/-- An object that is added stands where none stood, and nothing else changes. -/
theorem get?_alloc_old {o new : Object} (hr : h.get? r = some o) :
    (h.alloc new).2.get? r = some o := by
  rw [get?_alloc_other (Nat.ne_of_lt (lt_size_of_get? hr)), hr]

theorem isDict_iff : h.IsDict r ↔ ∃ entries, h.get? r = some (.dict entries) := by
  unfold IsDict entries?
  split
  · rename_i entries hr
    exact ⟨fun _ => ⟨entries, hr⟩, fun _ => rfl⟩
  · rename_i hno
    constructor
    · intro hs
      cases hs
    · rintro ⟨entries, hr⟩
      exact absurd hr (hno entries)

theorem entries?_of_get? {entries : List (Value × Value)} (hr : h.get? r = some (.dict entries)) :
    h.entries? r = some entries := by
  simp [entries?, hr]

theorem not_isDict_size (h : Heap) : ¬ h.IsDict h.objects.size := by
  intro hd
  obtain ⟨entries, hr⟩ := isDict_iff.1 hd
  exact absurd (lt_size_of_get? hr) (Nat.lt_irrefl _)

theorem IsDict.lt (hd : h.IsDict r) : r < h.objects.size := by
  obtain ⟨entries, hr⟩ := isDict_iff.1 hd
  exact lt_size_of_get? hr

theorem entries?_set_other (hne : r ≠ other) (o : Object) :
    (h.set r o).entries? other = h.entries? other := by
  rw [entries?, get?_set_other hne, entries?]

theorem entries?_alloc_old (hd : h.IsDict r) (o : Object) :
    (h.alloc o).2.entries? r = h.entries? r := by
  rw [entries?, get?_alloc_other (Nat.ne_of_lt hd.lt), entries?]

/-- Nothing is found but in a dictionary. -/
theorem isDict_of_lookup? (hf : h.lookup? r key = some v) : h.IsDict r := by
  rw [IsDict, Option.isSome_iff_ne_none]
  intro hnone
  rw [lookup?, hnone] at hf
  cases hf

theorem lookup?_of_empty (he : h.entries? r = some []) (key : String) : h.lookup? r key = none := by
  rw [lookup?, he]
  rfl

/-! ## Entries -/

/-- Replacing the values under one key. -/
theorem lookup_replaced (l : List (Value × Value)) (k k' v : Value) :
    (l.map fun e => if e.1 == k then (e.1, v) else e).lookup k' =
      if k' = k then (l.lookup k).map fun _ => v else l.lookup k' := by
  induction l with
  | nil => simp
  | cons e l ih =>
    obtain ⟨a, b⟩ := e
    rw [List.map_cons]
    by_cases ha : a = k
    · rw [if_pos (by simpa using ha), List.lookup_cons, List.lookup_cons, List.lookup_cons, ih, ha]
      by_cases hk : k' = k
      · simp [hk]
      · have hbeq : (k' == k) = false := by simpa using hk
        simp [hk, hbeq]
    · have hka : (k == a) = false := by simpa using fun he => ha he.symm
      rw [if_neg (by simpa using ha), List.lookup_cons, List.lookup_cons, List.lookup_cons, ih, hka]
      by_cases hk : k' = k
      · simp [hk, hka]
      · simp [hk]

theorem lookup_eq_none_iff_any (l : List (Value × Value)) (k : Value) :
    l.lookup k = none ↔ l.any (fun e => e.1 == k) = false := by
  rw [List.lookup_eq_none_iff, List.any_eq_false]
  refine forall_congr' fun e => forall_congr' fun _ => ?_
  rw [bne_iff_ne, beq_iff_eq]
  exact ⟨fun h he => h he.symm, fun h he => h he.symm⟩

/-- An entry that is put under a key is found under it, and all others are found as before. -/
theorem lookup_putEntry (l : List (Value × Value)) (k k' v : Value) :
    (putEntry (· == ·) l k v).lookup k' = if k' = k then some v else l.lookup k' := by
  unfold putEntry
  by_cases hany : l.any (fun e => e.1 == k) = true
  · have hfound : l.lookup k ≠ none := by
      rw [Ne, lookup_eq_none_iff_any, hany]
      decide
    obtain ⟨old, hold⟩ := Option.ne_none_iff_exists'.1 hfound
    rw [if_pos hany, lookup_replaced, hold, Option.map_some]
  · have hnone : l.lookup k = none := (lookup_eq_none_iff_any l k).2 (Bool.eq_false_iff.2 hany)
    rw [if_neg hany, List.lookup_append, List.lookup_cons, List.lookup_nil]
    by_cases hk : k' = k
    · simp [hk, hnone]
    · have hbeq : (k' == k) = false := by simpa using hk
      simp [hk, hbeq]

/-! ## Putting into a dictionary -/

theorem isDict_put (hd : h.IsDict other) : (h.put r key v).IsDict other := by
  by_cases hr : r = other
  · rw [isDict_iff, put, hr, get?_set_same hd.lt]
    exact ⟨_, rfl⟩
  · rw [isDict_iff] at hd ⊢
    rwa [put, get?_set_other hr]

theorem lookup?_put_same (hd : h.IsDict r) : (h.put r key v).lookup? r key = some v := by
  rw [lookup?, put, entries?_of_get? (get?_set_same hd.lt _), Option.getD_some, lookup_putEntry,
    if_pos rfl]

/-- Only what is under the one key of the one dictionary changes. -/
theorem lookup?_put_other {k : String} (hne : other ≠ r ∨ k ≠ key) :
    (h.put r key v).lookup? other k = h.lookup? other k := by
  by_cases hin : r < h.objects.size
  · by_cases hr : r = other
    · have hk : Value.text k ≠ Value.text key := by
        rcases hne with hne | hne
        · exact absurd hr.symm hne
        · simpa using hne
      rw [lookup?, put, ← hr, entries?_of_get? (get?_set_same hin _), Option.getD_some,
        lookup_putEntry, if_neg hk, lookup?]
    · rw [lookup?, put, entries?_set_other hr, lookup?]
  · rw [put, set_outside hin]

/-! ## Adding a dictionary -/

theorem isDict_alloc_new (h : Heap) (entries : List (Value × Value)) :
    (h.alloc (.dict entries)).2.IsDict h.objects.size :=
  isDict_iff.2 ⟨entries, get?_alloc_new h _⟩

theorem isDict_alloc {o : Object} (hd : h.IsDict r) : (h.alloc o).2.IsDict r := by
  obtain ⟨entries, hr⟩ := isDict_iff.1 hd
  exact isDict_iff.2 ⟨entries, get?_alloc_old hr⟩

/-- An empty dictionary holds nothing, as its place did before. -/
theorem lookup?_alloc (h : Heap) (r : Ref) (key : String) :
    (h.alloc (.dict [])).2.lookup? r key = h.lookup? r key := by
  by_cases hr : r = h.objects.size
  · have hnone : h.entries? h.objects.size = none :=
      Option.not_isSome_iff_eq_none.1 (not_isDict_size h)
    rw [lookup?, hr, entries?_of_get? (get?_alloc_new h _), lookup?, hnone]
    rfl
  · rw [lookup?, entries?, get?_alloc_other hr, lookup?, entries?]

end ScriptShell.Script.Heap
