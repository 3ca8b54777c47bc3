import ScriptShell.Posix.Walk
import ScriptShell.Proofs.Posix.PathText
import ScriptShell.Proofs.Posix.Tree

/-!
# Walking a path, step by step

One equation for each kind of name (`walk_dot`, `walk_up`, `walk_vacant`, …) and one induction over
a walk (`walk_induction`). `FileTree.Leads t links p names links' q`: in `t`, following `names` from
`p` passes through directories and links only and comes to `q`; of the `links` links that may be
followed, `links'` are left. A walk that gets past some names was led by them (`walk_leads`), and
what leads still leads in a grown tree (`Leads.grown`). A walk with room for a file finds the file
that is put there (`walk_filled`).
-/

namespace ScriptShell.FileTree

open ScriptShell.Path

variable {t t' : FileTree} {follow : Bool} {links links' : Nat} {p q : Location} {name : String}
  {names rest : List String}

/-! ## One name -/

/-- A name that stands for an entry of a directory. -/
structure Plain (name : String) : Prop where
  notDot : name ≠ "."
  notUp : name ≠ ".."
  fits : ¬ nameLimit < name.utf8ByteSize

theorem plain_cases (name : String) :
    name = "." ∨ name = ".." ∨
      (name ≠ "." ∧ name ≠ ".." ∧ nameLimit < name.utf8ByteSize) ∨ Plain name := by
  by_cases hd : name = "."
  · exact .inl hd
  · by_cases hu : name = ".."
    · exact .inr (.inl hu)
    · by_cases hl : nameLimit < name.utf8ByteSize
      · exact .inr (.inr (.inl ⟨hd, hu, hl⟩))
      · exact .inr (.inr (.inr ⟨hd, hu, hl⟩))

/-- Where a link with this target, met in the directory `p`, is followed from. -/
def linkStart (p : Location) (target : String) : Location :=
  if Path.isAbsolute target then [] else p

theorem walk_nil : t.walk follow links p [] =
    .ok (.found p ((t.node? p).getD (.directory newDirectoryMode))) := by
  rw [walk]

theorem walk_dot : t.walk follow links p ("." :: rest) = t.walk follow links p rest := by
  rw [walk, if_pos rfl]

theorem walk_up : t.walk follow links p (".." :: rest) = t.walk follow links p.dropLast rest := by
  rw [walk, if_neg (by decide), if_pos rfl]

theorem walk_tooLong (hd : name ≠ ".") (hu : name ≠ "..") (hl : nameLimit < name.utf8ByteSize) :
    t.walk follow links p (name :: rest) = .error .nameTooLong := by
  rw [walk, if_neg hd, if_neg hu, if_pos hl]

theorem walk_vacant (hp : Plain name) (hn : t.node? (p ++ [name]) = none) :
    t.walk follow links p (name :: rest) =
      if rest = [] then .ok (.vacant p name) else .error .noEntry := by
  rw [walk, if_neg hp.notDot, if_neg hp.notUp, if_neg hp.fits, hn]

theorem walk_directory {m : Nat} (hp : Plain name)
    (hn : t.node? (p ++ [name]) = some (.directory m)) :
    t.walk follow links p (name :: rest) = t.walk follow links (p ++ [name]) rest := by
  rw [walk, if_neg hp.notDot, if_neg hp.notUp, if_neg hp.fits, hn]
  dsimp only
  split
  · next hr => rw [hr, walk_nil, hn]; rfl
  · rfl

theorem walk_file {m : Nat} {c : ByteArray} (hp : Plain name)
    (hn : t.node? (p ++ [name]) = some (.file m c)) :
    t.walk follow links p (name :: rest) =
      if rest = [] then .ok (.found (p ++ [name]) (.file m c)) else .error .notDirectory := by
  rw [walk, if_neg hp.notDot, if_neg hp.notUp, if_neg hp.fits, hn]

theorem walk_link_last {target : String} (hp : Plain name)
    (hn : t.node? (p ++ [name]) = some (.link target)) :
    t.walk false links p [name] = .ok (.found (p ++ [name]) (.link target)) := by
  rw [walk, if_neg hp.notDot, if_neg hp.notUp, if_neg hp.fits, hn]
  exact if_pos ⟨rfl, rfl⟩

theorem walk_link_exhausted {target : String} (hp : Plain name)
    (hn : t.node? (p ++ [name]) = some (.link target)) (hr : rest ≠ [] ∨ follow = true) :
    t.walk follow 0 p (name :: rest) = .error .tooManyLinks := by
  rw [walk, if_neg hp.notDot, if_neg hp.notUp, if_neg hp.fits, hn]
  exact if_neg fun h => hr.elim (absurd h.1) fun hf => by rw [h.2] at hf; cases hf

theorem walk_link {target : String} (hp : Plain name)
    (hn : t.node? (p ++ [name]) = some (.link target)) (hr : rest ≠ [] ∨ follow = true) :
    t.walk follow (links + 1) p (name :: rest) =
      t.walk follow links (linkStart p target) (walkNames target ++ rest) := by
  rw [walk, if_neg hp.notDot, if_neg hp.notUp, if_neg hp.fits, hn]
  exact if_neg fun h => hr.elim (absurd h.1) fun hf => by rw [h.2] at hf; cases hf

/-- The induction over a walk: one case for each kind of name. A link is followed while there are
links left to follow. -/
@[elab_as_elim]
theorem walk_induction (t : FileTree) {motive : Nat → Location → List String → Prop}
    (nil : ∀ links p, motive links p [])
    (dot : ∀ links p rest, motive links p rest → motive links p ("." :: rest))
    (up : ∀ links p rest, motive links p.dropLast rest → motive links p (".." :: rest))
    (tooLong : ∀ links p name rest, name ≠ "." → name ≠ ".." → nameLimit < name.utf8ByteSize →
      motive links p (name :: rest))
    (vacant : ∀ links p name rest, Plain name → t.node? (p ++ [name]) = none →
      motive links p (name :: rest))
    (directory : ∀ links p name rest m, Plain name → t.node? (p ++ [name]) = some (.directory m) →
      motive links (p ++ [name]) rest → motive links p (name :: rest))
    (file : ∀ links p name rest m c, Plain name → t.node? (p ++ [name]) = some (.file m c) →
      motive links p (name :: rest))
    (exhausted : ∀ p name rest target, Plain name → t.node? (p ++ [name]) = some (.link target) →
      motive 0 p (name :: rest))
    (link : ∀ links p name rest target, Plain name → t.node? (p ++ [name]) = some (.link target) →
      motive links (linkStart p target) (walkNames target ++ rest) →
      motive (links + 1) p (name :: rest))
    (links : Nat) (p : Location) (todo : List String) : motive links p todo := by
  induction links, p, todo using walk.induct t true with
  | case1 links p => exact nil links p
  | case2 links p rest ih => exact dot links p rest ih
  | case3 links p rest _ ih => exact up links p rest ih
  | case4 links p name rest hd hu hl => exact tooLong links p name rest hd hu hl
  | case5 links p name hd hu hl hn => exact vacant links p name [] ⟨hd, hu, hl⟩ hn
  | case6 links p name rest hd hu hl hn => exact vacant links p name rest ⟨hd, hu, hl⟩ hn
  | case7 links p name hd hu hl m hn => exact directory links p name [] m ⟨hd, hu, hl⟩ hn (nil _ _)
  | case8 links p name rest hd hu hl m hn _ ih =>
    exact directory links p name rest m ⟨hd, hu, hl⟩ hn ih
  | case9 links p name hd hu hl m c hn => exact file links p name [] m c ⟨hd, hu, hl⟩ hn
  | case10 links p name rest hd hu hl m c hn => exact file links p name rest m c ⟨hd, hu, hl⟩ hn
  | case11 links p name rest hd hu hl target hn hf => cases hf.2
  | case12 p name rest hd hu hl target hn => exact exhausted p name rest target ⟨hd, hu, hl⟩ hn
  | case13 p name rest hd hu hl target hn _ links ih =>
    exact link links p name rest target ⟨hd, hu, hl⟩ hn ih

/-! ## Being led to a directory -/

/-- Following `names` from `p` passes through directories and links, and comes to `q` with `links'`
of the `links` links left. -/
inductive Leads (t : FileTree) : Nat → Location → List String → Nat → Location → Prop
  | here (links : Nat) (p : Location) : Leads t links p [] links p
  | dot {links links' : Nat} {p q : Location} {rest : List String} :
    Leads t links p rest links' q → Leads t links p ("." :: rest) links' q
  | up {links links' : Nat} {p q : Location} {rest : List String} :
    Leads t links p.dropLast rest links' q → Leads t links p (".." :: rest) links' q
  | directory {links links' m : Nat} {p q : Location} {name : String} {rest : List String} :
    Plain name → t.node? (p ++ [name]) = some (.directory m) →
    Leads t links (p ++ [name]) rest links' q → Leads t links p (name :: rest) links' q
  | link {links links' : Nat} {p q : Location} {name target : String} {rest : List String} :
    Plain name → t.node? (p ++ [name]) = some (.link target) →
    Leads t links (linkStart p target) (walkNames target ++ rest) links' q →
    Leads t (links + 1) p (name :: rest) links' q

/-- A walk goes on from where the names lead. -/
theorem Leads.walk (h : Leads t links p names links' q) (hr : rest ≠ [] ∨ follow = true) :
    t.walk follow links p (names ++ rest) = t.walk follow links' q rest := by
  have hr' : ∀ {names : List String}, names ++ rest ≠ [] ∨ follow = true := fun {names} =>
    hr.imp_left fun h he => h (List.append_eq_nil_iff.1 he).2
  induction h with
  | here => rfl
  | dot _ ih => rw [List.cons_append, walk_dot, ih]
  | up _ ih => rw [List.cons_append, walk_up, ih]
  | directory hp hn _ ih => rw [List.cons_append, walk_directory hp hn, ih]
  | link hp hn _ ih =>
    rw [List.cons_append, walk_link hp hn hr', ← ih, List.append_assoc]

/-- A walk along names that lead to a directory finds it. -/
theorem Leads.walk_end {m : Nat} (h : Leads t links p names links' q)
    (hq : t.node? q = some (.directory m)) :
    t.walk true links p names = .ok (.found q (.directory m)) := by
  have hwalk : t.walk true links p (names ++ []) = t.walk true links' q [] := h.walk (.inr rfl)
  rw [List.append_nil, walk_nil, hq] at hwalk
  exact hwalk

theorem Leads.trans {links'' : Nat} {r : Location} (h : Leads t links p names links' q)
    (h' : Leads t links' q rest links'' r) : Leads t links p (names ++ rest) links'' r := by
  induction h with
  | here => exact h'
  | dot _ ih => exact .dot (ih h')
  | up _ ih => exact .up (ih h')
  | directory hp hn _ ih => exact .directory hp hn (ih h')
  | link hp hn _ ih =>
    have hrest := ih h'
    rw [List.append_assoc] at hrest
    exact .link hp hn hrest

/-- What leads, leads in a grown tree too. -/
theorem Leads.grown (h : Leads t links p names links' q) (hg : Grown t t') :
    Leads t' links p names links' q := by
  induction h with
  | here => exact .here _ _
  | dot _ ih => exact .dot ih
  | up _ ih => exact .up ih
  | directory hp hn _ ih => exact .directory hp (hg.keeps _ _ hn) ih
  | link hp hn _ ih => exact .link hp (hg.keeps _ _ hn) ih

/-- In a well-formed tree, going up from a directory comes to a directory. -/
theorem WellFormed.above (h : t.WellFormed) (hp : ∃ m, t.node? p = some (.directory m)) :
    ∃ m, t.node? p.dropLast = some (.directory m) := by
  obtain ⟨m, hm⟩ := hp
  obtain rfl | ⟨above, last, rfl⟩ := p.eq_nil_or_concat
  · exact ⟨m, hm⟩
  · rw [List.concat_eq_append] at hm ⊢
    rw [List.dropLast_concat]
    exact h above last _ hm

/-- A link met in a directory is followed from a directory. -/
theorem directory_linkStart (hp : ∃ m, t.node? p = some (.directory m)) (target : String) :
    ∃ m, t.node? (linkStart p target) = some (.directory m) := by
  rw [linkStart]
  split
  · exact ⟨newDirectoryMode, node?_root t⟩
  · exact hp

/-- In a well-formed tree, a path that starts in a directory leads to a directory. -/
theorem Leads.to_directory (h : Leads t links p names links' q) (hw : t.WellFormed)
    (hp : ∃ m, t.node? p = some (.directory m)) : ∃ m, t.node? q = some (.directory m) := by
  induction h with
  | here => exact hp
  | dot _ ih => exact ih hp
  | up _ ih => exact ih (hw.above hp)
  | directory _ hn _ ih => exact ih ⟨_, hn⟩
  | link _ _ _ ih => exact ih (directory_linkStart hp _)

/-- A walk that gets past some names was led by them. -/
theorem walk_leads {place : Place} (h : t.walk follow links p (names ++ rest) = .ok place)
    (hr : rest ≠ []) : ∃ links' q, Leads t links p names links' q := by
  generalize hn : names ++ rest = todo at h
  have hmore : ∀ names, names ++ rest ≠ [] := fun _ he => hr (List.append_eq_nil_iff.1 he).2
  induction links, p, todo using walk_induction t generalizing names with
  | nil => exact absurd hn (hmore names)
  | dot links p todo ih =>
    obtain ⟨rfl, -⟩ | ⟨names, rfl, rfl⟩ := List.append_eq_cons_iff.1 hn
    · exact ⟨links, p, .here _ _⟩
    · rw [walk_dot] at h
      obtain ⟨links', q, hl⟩ := ih rfl h
      exact ⟨links', q, .dot hl⟩
  | up links p todo ih =>
    obtain ⟨rfl, -⟩ | ⟨names, rfl, rfl⟩ := List.append_eq_cons_iff.1 hn
    · exact ⟨links, p, .here _ _⟩
    · rw [walk_up] at h
      obtain ⟨links', q, hl⟩ := ih rfl h
      exact ⟨links', q, .up hl⟩
  | tooLong links p name todo hd hu hl =>
    rw [walk_tooLong hd hu hl] at h
    cases h
  | vacant links p name todo hp hv =>
    obtain ⟨rfl, -⟩ | ⟨names, rfl, rfl⟩ := List.append_eq_cons_iff.1 hn
    · exact ⟨links, p, .here _ _⟩
    · rw [walk_vacant hp hv, if_neg (hmore names)] at h
      cases h
  | directory links p name todo m hp hd ih =>
    obtain ⟨rfl, -⟩ | ⟨names, rfl, rfl⟩ := List.append_eq_cons_iff.1 hn
    · exact ⟨links, p, .here _ _⟩
    · rw [walk_directory hp hd] at h
      obtain ⟨links', q, hl⟩ := ih rfl h
      exact ⟨links', q, .directory hp hd hl⟩
  | file links p name todo m c hp hf =>
    obtain ⟨rfl, -⟩ | ⟨names, rfl, rfl⟩ := List.append_eq_cons_iff.1 hn
    · exact ⟨links, p, .here _ _⟩
    · rw [walk_file hp hf, if_neg (hmore names)] at h
      cases h
  | exhausted p name todo target hp hl =>
    obtain ⟨rfl, -⟩ | ⟨names, rfl, rfl⟩ := List.append_eq_cons_iff.1 hn
    · exact ⟨0, p, .here _ _⟩
    · rw [walk_link_exhausted hp hl (.inl (hmore names))] at h
      cases h
  | link links p name todo target hp hl ih =>
    obtain ⟨rfl, -⟩ | ⟨names, rfl, rfl⟩ := List.append_eq_cons_iff.1 hn
    · exact ⟨links + 1, p, .here _ _⟩
    · rw [walk_link hp hl (.inl (hmore names))] at h
      obtain ⟨links', q, hq⟩ := ih (List.append_assoc _ _ _) h
      exact ⟨links', q, .link hp hl hq⟩

/-! ## Dots -/

theorem Leads.dots (h : Leads t links p rest links' q) :
    ∀ {dots : List String}, withoutDots dots = [] → Leads t links p (dots ++ rest) links' q
  | [], _ => h
  | name :: dots, hd => by
    by_cases hn : name = "."
    · subst hn
      exact .dot (h.dots hd)
    · rw [withoutDots_cons hn] at hd
      cases hd

/-- Dots may be put in and left out: they do not change where names lead. -/
theorem Leads.redot (h : Leads t links p names links' q) {names' : List String}
    (he : withoutDots names' = withoutDots names) : Leads t links p names' links' q := by
  induction h generalizing names' with
  | here links p =>
    rw [← List.append_nil names']
    exact (Leads.here links p).dots he
  | dot _ ih => exact ih he
  | up _ ih =>
    obtain ⟨dots, rest, rfl, hd, hr, -⟩ := withoutDots_eq_cons he
    exact (Leads.up (ih hr)).dots hd
  | directory hp hn _ ih =>
    rw [withoutDots_cons hp.notDot] at he
    obtain ⟨dots, rest, rfl, hd, hr, -⟩ := withoutDots_eq_cons he
    exact (Leads.directory hp hn (ih hr)).dots hd
  | link hp hn _ ih =>
    rw [withoutDots_cons hp.notDot] at he
    obtain ⟨dots, rest, rfl, hd, hr, -⟩ := withoutDots_eq_cons he
    refine (Leads.link hp hn (ih ?_)).dots hd
    rw [withoutDots_append, withoutDots_append, hr]

/-! ## What a walk ends at -/

/-- A place is as it says: what is found stands there (a directory need not: the walk may end where
it started), and what is free is free. -/
def Holds (t : FileTree) : Place → Prop
  | .found q n => t.node? q = some n ∨ ∃ m, n = .directory m
  | .vacant q name => t.node? (q ++ [name]) = none

theorem walk_holds {place : Place} (h : t.walk follow links p names = .ok place) :
    t.Holds place := by
  induction links, p, names using walk_induction t with
  | nil links p =>
    rw [walk_nil] at h
    cases h
    cases hn : t.node? p with
    | none => exact .inr ⟨_, rfl⟩
    | some n => exact .inl hn
  | dot links p rest ih => exact ih (walk_dot.symm.trans h)
  | up links p rest ih => exact ih (walk_up.symm.trans h)
  | tooLong links p name rest hd hu hl =>
    rw [walk_tooLong hd hu hl] at h
    cases h
  | vacant links p name rest hp hv =>
    rw [walk_vacant hp hv] at h
    split at h <;> cases h
    exact hv
  | directory links p name rest m hp hd ih => exact ih ((walk_directory hp hd).symm.trans h)
  | file links p name rest m c hp hf =>
    rw [walk_file hp hf] at h
    split at h <;> cases h
    exact .inl hf
  | exhausted p name rest target hp hl =>
    by_cases hr : rest ≠ [] ∨ follow = true
    · rw [walk_link_exhausted hp hl hr] at h
      cases h
    · obtain ⟨rfl, rfl⟩ : rest = [] ∧ follow = false := by simpa using hr
      rw [walk_link_last hp hl] at h
      cases h
      exact .inl hl
  | link links p name rest target hp hl ih =>
    by_cases hr : rest ≠ [] ∨ follow = true
    · exact ih ((walk_link hp hl hr).symm.trans h)
    · obtain ⟨rfl, rfl⟩ : rest = [] ∧ follow = false := by simpa using hr
      rw [walk_link_last hp hl] at h
      cases h
      exact .inl hl

/-- What is found and is no directory stands there. -/
theorem walk_found {n : Node} (h : t.walk follow links p names = .ok (.found q n))
    (hd : ∀ m, n ≠ .directory m) : t.node? q = some n :=
  (walk_holds h).resolve_right fun ⟨m, hm⟩ => hd m hm

/-- In a well-formed tree, a walk that follows links does not end at one. -/
theorem walk_follows {n : Node} (ht : t.WellFormed) (hp : ∃ m, t.node? p = some (.directory m))
    (h : t.walk true links p names = .ok (.found q n)) : ∀ target, n ≠ .link target := by
  induction links, p, names using walk_induction t with
  | nil links p =>
    obtain ⟨m, hm⟩ := hp
    rw [walk_nil, hm] at h
    cases h
    exact nofun
  | dot links p rest ih => exact ih hp (walk_dot.symm.trans h)
  | up links p rest ih => exact ih (ht.above hp) (walk_up.symm.trans h)
  | tooLong links p name rest hd hu hl =>
    rw [walk_tooLong hd hu hl] at h
    cases h
  | vacant links p name rest hpl hv =>
    rw [walk_vacant hpl hv] at h
    split at h <;> cases h
  | directory links p name rest m hpl hd ih =>
    exact ih ⟨m, hd⟩ ((walk_directory hpl hd).symm.trans h)
  | file links p name rest m c hpl hf =>
    rw [walk_file hpl hf] at h
    split at h <;> cases h
    exact nofun
  | exhausted p name rest target hpl hl =>
    rw [walk_link_exhausted hpl hl (.inr rfl)] at h
    cases h
  | link links p name rest target hpl hl ih =>
    exact ih (directory_linkStart hp target) ((walk_link hpl hl (.inr rfl)).symm.trans h)

/-- Without links to follow, only the last name itself can be free. -/
theorem walk_last_vacant {last : String} (h : t.walk false links p [last] = .ok (.vacant q name)) :
    q = p ∧ name = last ∧ Plain name := by
  obtain rfl | rfl | ⟨hd, hu, hl⟩ | hp := plain_cases last
  · rw [walk_dot, walk_nil] at h
    cases h
  · rw [walk_up, walk_nil] at h
    cases h
  · rw [walk_tooLong hd hu hl] at h
    cases h
  · cases hn : t.node? (p ++ [last]) with
    | none =>
      rw [walk_vacant hp hn] at h
      cases h
      exact ⟨rfl, rfl, hp⟩
    | some n =>
      cases n with
      | file m c => rw [walk_file hp hn] at h; cases h
      | directory m => rw [walk_directory hp hn, walk_nil] at h; cases h
      | link target => rw [walk_link_last hp hn] at h; cases h

/-- A walk that ends at a free name, its last one, was led to the directory above. -/
theorem walk_vacant_leads (h : t.walk false links p names = .ok (.vacant q name)) :
    ∃ above links', names = above ++ [name] ∧ Leads t links p above links' q ∧ Plain name ∧
      t.node? (q ++ [name]) = none := by
  obtain rfl | ⟨above, last, rfl⟩ := names.eq_nil_or_concat
  · rw [walk_nil] at h
    cases h
  · rw [List.concat_eq_append] at h ⊢
    obtain ⟨links', q', hl⟩ := walk_leads h (List.cons_ne_nil _ _)
    rw [hl.walk (.inl (List.cons_ne_nil _ _))] at h
    obtain ⟨rfl, rfl, hp⟩ := walk_last_vacant h
    exact ⟨above, links', rfl, hl, hp, walk_holds h⟩

/-- In a well-formed tree, a walk that ends in a dot finds a directory. -/
theorem walk_last_dot {place : Place} (ht : t.WellFormed)
    (hp : ∃ m, t.node? p = some (.directory m))
    (h : t.walk follow links p (names ++ ["."]) = .ok place) :
    ∃ q m, place = .found q (.directory m) := by
  obtain ⟨links', q, hl⟩ := walk_leads h (List.cons_ne_nil _ _)
  obtain ⟨m, hm⟩ := hl.to_directory ht hp
  rw [hl.walk (.inl (List.cons_ne_nil _ _)), walk_dot, walk_nil, hm] at h
  cases h
  exact ⟨q, m, rfl⟩

/-- Where only directories are, a walk that does not go up finds only directories. -/
theorem walk_below {n : Node} (hf : ∀ names n, t.node? (p ++ names) = some n → ∃ m, n = .directory m)
    (hu : ".." ∉ names) (h : t.walk follow links p names = .ok (.found q n)) :
    ∃ m, n = .directory m := by
  induction links, p, names using walk_induction t with
  | nil links p =>
    rw [walk_nil] at h
    cases h
    obtain hn | ⟨n, hn⟩ := Option.eq_none_or_eq_some (t.node? q)
    · exact ⟨newDirectoryMode, by rw [hn]; rfl⟩
    · rw [hn]
      exact hf [] n (by rwa [List.append_nil])
  | dot links p rest ih =>
    exact ih hf (List.not_mem_of_not_mem_cons hu) (walk_dot.symm.trans h)
  | up links p rest ih => exact absurd List.mem_cons_self hu
  | tooLong links p name rest hd hup hl =>
    rw [walk_tooLong hd hup hl] at h
    cases h
  | vacant links p name rest hp hv =>
    rw [walk_vacant hp hv] at h
    split at h <;> cases h
  | directory links p name rest m hp hd ih =>
    have hf' : ∀ names n, t.node? (p ++ [name] ++ names) = some n → ∃ m, n = .directory m := by
      intro names n hn
      rw [List.append_assoc] at hn
      exact hf _ n hn
    exact ih hf' (List.not_mem_of_not_mem_cons hu) ((walk_directory hp hd).symm.trans h)
  | file links p name rest m c hp hn =>
    obtain ⟨m', hm⟩ := hf [name] _ hn
    cases hm
  | exhausted p name rest target hp hn =>
    obtain ⟨m', hm⟩ := hf [name] _ hn
    cases hm
  | link links p name rest target hp hn ih =>
    obtain ⟨m', hm⟩ := hf [name] _ hn
    cases hm

/-! ## Walking again -/

/-- What is found is found, or a link in its place, if a link at the end is not followed. -/
theorem walk_unfollowed {n : Node} (h : t.walk true links p names = .ok (.found q n)) :
    ∃ q' n', t.walk false links p names = .ok (.found q' n') := by
  induction links, p, names using walk_induction t with
  | nil links p => exact ⟨_, _, walk_nil⟩
  | dot links p rest ih =>
    rw [walk_dot] at h ⊢
    exact ih h
  | up links p rest ih =>
    rw [walk_up] at h ⊢
    exact ih h
  | tooLong links p name rest hd hu hl =>
    rw [walk_tooLong hd hu hl] at h
    cases h
  | vacant links p name rest hp hv =>
    rw [walk_vacant hp hv] at h
    split at h <;> cases h
  | directory links p name rest m hp hd ih =>
    rw [walk_directory hp hd] at h ⊢
    exact ih h
  | file links p name rest m c hp hf =>
    rw [walk_file hp hf] at h ⊢
    split at h
    · next hr => exact ⟨_, _, if_pos hr⟩
    · cases h
  | exhausted p name rest target hp hl =>
    rw [walk_link_exhausted hp hl (.inr rfl)] at h
    cases h
  | link links p name rest target hp hl ih =>
    by_cases hr : rest = []
    · subst hr
      exact ⟨_, _, walk_link_last hp hl⟩
    · rw [walk_link hp hl (.inr rfl)] at h
      rw [walk_link hp hl (.inl hr)]
      exact ih h

/-- A walk that ends so leaves room for a file at this location: a file is there, or a name is
free. -/
inductive Takes : Place → Location → Prop
  | file (place : Location) (mode : Nat) (content : ByteArray) :
    Takes (.found place (.file mode content)) place
  | free (q : Location) (name : String) : Takes (.vacant q name) (q ++ [name])

/-- Once a file stands where a walk had room for one, the walk finds it, if the ways are kept. -/
theorem walk_filled {end_ : Place} {place : Location} {m : Nat} {c : ByteArray}
    (hk : t.KeepsWays t') (h : t.walk follow links p names = .ok end_) (he : Takes end_ place)
    (hn : t'.node? place = some (.file m c)) :
    t'.walk follow links p names = .ok (.found place (.file m c)) := by
  induction links, p, names using walk_induction t with
  | nil links p =>
    rw [walk_nil] at h ⊢
    cases hp : t.node? p with
    | none =>
      rw [hp] at h
      cases h
      cases he
    | some n =>
      rw [hp] at h
      cases h
      cases he
      rw [hn]
      rfl
  | dot links p rest ih =>
    rw [walk_dot] at h ⊢
    exact ih h
  | up links p rest ih =>
    rw [walk_up] at h ⊢
    exact ih h
  | tooLong links p name rest hd hu hl =>
    rw [walk_tooLong hd hu hl] at h
    cases h
  | vacant links p name rest hp hv =>
    rw [walk_vacant hp hv] at h
    split at h <;> cases h
    next hr =>
    cases he
    rw [walk_file hp hn, if_pos hr]
  | directory links p name rest m hp hd ih =>
    rw [walk_directory hp hd] at h
    rw [walk_directory hp (hk _ _ hd rfl)]
    exact ih h
  | file links p name rest m c hp hf =>
    rw [walk_file hp hf] at h
    split at h <;> cases h
    next hr =>
    cases he
    rw [walk_file hp hn, if_pos hr]
  | exhausted p name rest target hp hl =>
    by_cases hr : rest ≠ [] ∨ follow = true
    · rw [walk_link_exhausted hp hl hr] at h
      cases h
    · obtain ⟨rfl, rfl⟩ : rest = [] ∧ follow = false := by simpa using hr
      rw [walk_link_last hp hl] at h
      cases h
      cases he
  | link links p name rest target hp hl ih =>
    by_cases hr : rest ≠ [] ∨ follow = true
    · rw [walk_link hp hl hr] at h
      rw [walk_link hp (hk _ _ hl rfl) hr]
      exact ih h
    · obtain ⟨rfl, rfl⟩ : rest = [] ∧ follow = false := by simpa using hr
      rw [walk_link_last hp hl] at h
      cases h
      cases he

end ScriptShell.FileTree
