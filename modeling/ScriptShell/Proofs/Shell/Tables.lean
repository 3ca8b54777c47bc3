import ScriptShell.ShellState

/-!
# The tables of the shell

What is found in the tables of aliases and commands after an entry was added. Of two entries under
one trigger the last one counts; a name is listed once however often it is added.
-/

namespace ScriptShell

namespace AliasTable

theorem get?_insert_same (t : AliasTable) (trigger expansion : String) :
    (t.insert trigger expansion).get? trigger = some expansion := by
  simp [insert, get?]

theorem get?_insert_other (t : AliasTable) {trigger other : String} (hne : other ≠ trigger)
    (expansion : String) : (t.insert trigger expansion).get? other = t.get? other := by
  have hbeq : (other == trigger) = false := by simpa using hne
  rw [insert, get?, List.lookup_cons, hbeq, get?]
  dsimp only
  induction t.entries with
  | nil => rfl
  | cons e l ih =>
    obtain ⟨a, b⟩ := e
    by_cases ha : a = trigger
    · rw [List.filter_cons_of_neg (by simpa using ha), ih, List.lookup_cons, ha, hbeq]
    · rw [List.filter_cons_of_pos (by simpa using ha), List.lookup_cons, List.lookup_cons, ih]

/-- The listing has the triggers that have an expansion. -/
theorem mem_triggers {t : AliasTable} {trigger : String} :
    trigger ∈ t.triggers ↔ (t.get? trigger).isSome := by
  have hsorted : trigger ∈ t.triggers ↔ trigger ∈ t.entries.map (·.1) :=
    (List.mergeSort_perm _ _).mem_iff
  rw [hsorted, get?, List.lookup_isSome_iff, List.mem_map]
  refine exists_congr fun e => and_congr_right fun _ => ?_
  rw [beq_iff_eq, eq_comm]

end AliasTable

namespace CommandTable

theorem mem_insert {t : CommandTable} {n name : String} :
    n ∈ (t.insert name).members ↔ n = name ∨ n ∈ t.members := by
  unfold insert
  split
  · rename_i hin
    constructor
    · exact .inr
    · rintro (rfl | hn)
      · exact hin
      · exact hn
  · exact List.mem_cons

theorem nodup_insert {t : CommandTable} (h : t.members.Nodup) (name : String) :
    (t.insert name).members.Nodup := by
  unfold insert
  split
  · exact h
  · rename_i hnew
    exact List.nodup_cons.2 ⟨hnew, h⟩

/-- The listing has the names and each as often as the table. -/
theorem names_perm (t : CommandTable) : t.names.Perm t.members := List.mergeSort_perm _ _

end CommandTable

end ScriptShell
