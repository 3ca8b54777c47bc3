import ScriptShell.Posix.FileTree

/-!
# Trees that only grow

`FileTree.Keeps t t'`: what stood in `t` stands in `t'`. `FileTree.Grown t t'` says more: what is
new in `t'` are directories. `FileTree.KeepsWays t t'` says less: directories and links stand where
they stood. In a well-formed tree (`FileTree.WellFormed`) every node stands in a
directory, so there is nothing below a place where nothing stands.
-/

namespace ScriptShell.FileTree

variable {t t' t'' : FileTree} {place other : Location} {n : Node}

/-! ## Looking up -/

theorem node?_root (t : FileTree) : t.node? [] = some (.directory newDirectoryMode) := rfl

theorem node?_eq_lookup (t : FileTree) (h : place ≠ []) :
    t.node? place = t.entries.lookup place := by
  cases place with
  | nil => exact absurd rfl h
  | cons => rfl

theorem lookup_filter_ne (entries : List (Location × Node)) (h : other ≠ place) :
    (entries.filter fun e => e.1 != place).lookup other = entries.lookup other := by
  induction entries with
  | nil => rfl
  | cons e entries ih =>
    by_cases he : e.1 = place
    · have hne : (other == e.1) = false := beq_eq_false_iff_ne.2 (he ▸ h)
      rw [List.filter_cons_of_neg (by simp [he]), ih, List.lookup_cons, hne]
    · rw [List.filter_cons_of_pos (by simp [he]), List.lookup_cons, List.lookup_cons, ih]

theorem node?_insert_self (t : FileTree) (n : Node) (h : place ≠ []) :
    (t.insert place n).node? place = some n := by
  rw [node?_eq_lookup _ h, insert]
  exact List.lookup_cons_self

theorem node?_insert_other (t : FileTree) (n : Node) (h : other ≠ place) :
    (t.insert place n).node? other = t.node? other := by
  cases other with
  | nil => rfl
  | cons name rest =>
    rw [node?_eq_lookup _ (List.cons_ne_nil _ _), node?_eq_lookup _ (List.cons_ne_nil _ _), insert,
      List.lookup_cons, beq_eq_false_iff_ne.2 h]
    exact lookup_filter_ne t.entries h

theorem ne_root_of_vacant (h : t.node? place = none) : place ≠ [] := by
  rintro rfl
  cases h

/-! ## Keeping and growing -/

/-- What stands in `t` stands in `t'`, at the same place. -/
def Keeps (t t' : FileTree) : Prop :=
  ∀ place n, t.node? place = some n → t'.node? place = some n

/-- `t'` keeps what stands in `t`, and what is new in it are directories. -/
structure Grown (t t' : FileTree) : Prop where
  keeps : t.Keeps t'
  fresh : ∀ place n, t'.node? place = some n → t.node? place = none → ∃ m, n = .directory m

theorem Grown.refl (t : FileTree) : Grown t t :=
  ⟨fun _ _ h => h, fun _ _ h hn => by rw [h] at hn; cases hn⟩

theorem Grown.trans (h : Grown t t') (h' : Grown t' t'') : Grown t t'' where
  keeps place n hn := h'.keeps place n (h.keeps place n hn)
  fresh place n hn hv := by
    cases ht : t'.node? place with
    | none => exact h'.fresh place n hn ht
    | some m =>
      obtain rfl : m = n := Option.some.inj ((h'.keeps place m ht).symm.trans hn)
      exact h.fresh place m ht hv

/-- A node put where nothing stood changes nothing else. -/
theorem keeps_insert_vacant (h : t.node? place = none) (n : Node) : t.Keeps (t.insert place n) := by
  intro other m hm
  have hne : other ≠ place := by
    rintro rfl
    rw [h] at hm
    cases hm
  rw [node?_insert_other t n hne, hm]

theorem grown_insert_directory (h : t.node? place = none) (m : Nat) :
    Grown t (t.insert place (.directory m)) where
  keeps := keeps_insert_vacant h _
  fresh other n hn hv := by
    by_cases he : other = place
    · subst he
      rw [node?_insert_self t _ (ne_root_of_vacant hv)] at hn
      exact ⟨m, (Option.some.inj hn).symm⟩
    · rw [node?_insert_other t _ he, hv] at hn
      cases hn

/-- What is not a directory in the grown tree stood there before. -/
theorem Grown.old (h : Grown t t') (hn : t'.node? place = some n) (hd : ∀ m, n ≠ .directory m) :
    t.node? place = some n := by
  cases ht : t.node? place with
  | none =>
    obtain ⟨m, rfl⟩ := h.fresh place n hn ht
    exact absurd rfl (hd m)
  | some n' => exact (h.keeps place n' ht).symm.trans hn

/-- Directories and links, which are what a walk passes through, are kept. -/
def KeepsWays (t t' : FileTree) : Prop :=
  ∀ place n, t.node? place = some n → n.isFile = false → t'.node? place = some n

/-- A node put where nothing stood, or a file, keeps the ways. -/
theorem keepsWays_insert
    (h : t.node? place = none ∨ ∃ m c, t.node? place = some (.file m c)) (n : Node) :
    t.KeepsWays (t.insert place n) := by
  intro other k hk hf
  have hne : other ≠ place := by
    rintro rfl
    obtain hv | ⟨m, c, hc⟩ := h
    · rw [hv] at hk
      cases hk
    · rw [hc] at hk
      cases hk
      cases hf
  rw [node?_insert_other t n hne, hk]

/-! ## Well-formed trees -/

/-- Every node stands in a directory. -/
def WellFormed (t : FileTree) : Prop :=
  ∀ place name n, t.node? (place ++ [name]) = some n → ∃ m, t.node? place = some (.directory m)

theorem wellFormed_empty : WellFormed {} := by
  intro place name n h
  rw [node?_eq_lookup _ (by simp)] at h
  cases h

theorem WellFormed.insert (h : t.WellFormed) {m : Nat} {name : String}
    (hd : t.node? place = some (.directory m)) (hv : t.node? (place ++ [name]) = none) (n : Node) :
    (t.insert (place ++ [name]) n).WellFormed := by
  intro above last k hk
  have hkeep := keeps_insert_vacant hv n
  by_cases he : above ++ [last] = place ++ [name]
  · obtain rfl := List.append_inj_left' he rfl
    exact ⟨m, hkeep _ _ hd⟩
  · rw [node?_insert_other t n he] at hk
    obtain ⟨m', hm'⟩ := h above last k hk
    exact ⟨m', hkeep _ _ hm'⟩

/-- Nothing stands below a place where nothing stands. -/
theorem WellFormed.vacant_below (h : t.WellFormed) :
    ∀ (names : List String) {place : Location}, t.node? place = none → t.node? (place ++ names) = none
  | [], place, hv => by rwa [List.append_nil]
  | name :: names, place, hv => by
    have hv' : t.node? (place ++ [name]) = none := by
      cases hn : t.node? (place ++ [name]) with
      | none => rfl
      | some n =>
        obtain ⟨m, hm⟩ := h place name n hn
        rw [hv] at hm
        cases hm
    rw [List.append_cons]
    exact h.vacant_below names hv'

end ScriptShell.FileTree
