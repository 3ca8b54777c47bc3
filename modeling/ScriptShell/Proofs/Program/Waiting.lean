import Mathlib.Data.List.Basic
import ScriptShell.Program.Wait

/-!
# What waiting comes to

An answer of the system leaves it open what became of the child (`Undecided`), or decides it
(`Decides`). Waiting uses up the answers to the first that decides, and no more; the main statement
is `waitForChild_first_decision`. The answers that a system delivers fit into a byte, so no exit
code is mistaken for another, and a child that was killed is never taken for one that did well.
-/

namespace ScriptShell

namespace WaitAnswer

/-- The child is still there, or nothing was learned of it. -/
inductive Undecided : WaitAnswer → Prop
  | alive : Undecided .alive
  | interrupted : Undecided (.failed .interrupted)

/-- The answer ends the waiting for a child that runs `program`, with this result. -/
inductive Decides (program : String) : WaitAnswer → Except LaunchError ExitStatus → Prop
  | exited (code : Nat) : Decides program (.exited code) (.ok ⟨UInt8.ofNat code⟩)
  | signaled (signal : Nat) : Decides program (.signaled signal) (.ok ⟨UInt8.ofNat (128 + signal)⟩)
  | failed {why : Errno} (other : why ≠ .interrupted) :
      Decides program (.failed why) (.error (.waitFailed program why))

/-- The answers that a system gives: exit codes are bytes, signals have numbers from 1 to 31. -/
inductive Delivered : WaitAnswer → Prop
  | exited {code : Nat} (byte : code ≤ 255) : Delivered (.exited code)
  | signaled {signal : Nat} (first : 1 ≤ signal) (last : signal ≤ 31) : Delivered (.signaled signal)
  | alive : Delivered .alive
  | failed (why : Errno) : Delivered (.failed why)

variable {program : String} {a : WaitAnswer} {result : Except LaunchError ExitStatus}

/-! ## One answer -/

theorem verdict?_eq_none_iff : a.verdict? program = none ↔ a.Undecided := by
  constructor
  · intro h
    cases a with
    | exited code => cases h
    | signaled signal => cases h
    | alive => exact .alive
    | failed why =>
      rw [verdict?] at h
      split at h
      · next he =>
        rw [he]
        exact .interrupted
      · cases h
  · rintro (_ | _)
    · rfl
    · rfl

theorem verdict?_eq_some_iff : a.verdict? program = some result ↔ a.Decides program result := by
  constructor
  · intro h
    cases a with
    | exited code =>
      cases h
      exact .exited code
    | signaled signal =>
      have hsum : 128 + UInt8.ofNat signal = UInt8.ofNat (128 + signal) := by
        rw [UInt8.ofNat_add]
        rfl
      rw [verdict?, hsum] at h
      cases h
      exact .signaled signal
    | alive => cases h
    | failed why =>
      rw [verdict?] at h
      split at h
      · cases h
      · next hne =>
        cases h
        exact .failed hne
  · rintro (code | signal | hne)
    · rfl
    · rw [verdict?, UInt8.ofNat_add]
      rfl
    · rw [verdict?, if_neg hne]

/-- The byte that a delivered exit code becomes is the code. -/
theorem exited_toNat {code : Nat} (h : code ≤ 255) : (UInt8.ofNat code).toNat = code :=
  UInt8.toNat_ofNat_of_lt' (by simpa [UInt8.size] using Nat.lt_succ_of_le h)

/-- The byte that a delivered signal becomes is 128 and its number. -/
theorem signaled_toNat {signal : Nat} (h : signal ≤ 31) :
    (UInt8.ofNat (128 + signal)).toNat = 128 + signal := exited_toNat (by omega)

/-- Of what a system delivers, only the exit code nothing is taken for success. -/
theorem Decides.isSuccess_iff {status : ExitStatus} (h : a.Decides program (.ok status))
    (hd : a.Delivered) : status.isSuccess = true ↔ a = .exited 0 := by
  have hzero : status.isSuccess = true ↔ status.code.toNat = 0 := by
    rw [ExitStatus.isSuccess, beq_iff_eq, ← UInt8.toNat_inj]
    rfl
  rw [hzero]
  cases h with
  | exited code =>
    cases hd with
    | exited hbyte => rw [exited_toNat hbyte, exited.injEq]
  | signaled signal =>
    cases hd with
    | signaled hfirst hlast =>
      rw [signaled_toNat hlast]
      constructor
      · omega
      · rintro ⟨⟩

end WaitAnswer

open WaitAnswer

variable {program : String}

/-! ## All answers -/

theorem waitForChild_undecided {idle : List WaitAnswer} (h : ∀ a ∈ idle, a.Undecided)
    (rest : List WaitAnswer) :
    waitForChild program (idle ++ rest) = waitForChild program rest := by
  induction idle with
  | nil => rfl
  | cons a idle ih =>
    have ha : a.verdict? program = none := verdict?_eq_none_iff.2 (h a List.mem_cons_self)
    rw [List.cons_append, waitForChild, ha]
    exact ih fun b hb => h b (List.mem_cons_of_mem a hb)

theorem waitForChild_decided {a : WaitAnswer} {result : Except LaunchError ExitStatus}
    (h : a.Decides program result) (rest : List WaitAnswer) :
    waitForChild program (a :: rest) = some (result, rest) := by
  rw [waitForChild, verdict?_eq_some_iff.2 h]

/-- Either an answer decides and all before it leave it open, or none decides. -/
theorem exists_first_decision (program : String) (answers : List WaitAnswer) :
    (∃ idle a result rest, answers = idle ++ a :: rest ∧ (∀ b ∈ idle, b.Undecided) ∧
      a.Decides program result) ∨ ∀ a ∈ answers, a.Undecided := by
  induction answers with
  | nil =>
    right
    intro a ha
    cases ha
  | cons a answers ih =>
    cases hv : a.verdict? program with
    | some result =>
      refine .inl ⟨[], a, result, answers, rfl, ?_, verdict?_eq_some_iff.1 hv⟩
      intro b hb
      cases hb
    | none =>
      have ha : a.Undecided := verdict?_eq_none_iff.1 hv
      rcases ih with ⟨idle, b, result, rest, hsplit, hidle, hb⟩ | hall
      · exact .inl ⟨a :: idle, b, result, rest, by rw [hsplit]; rfl,
          List.forall_mem_cons.2 ⟨ha, hidle⟩, hb⟩
      · exact .inr (List.forall_mem_cons.2 ⟨ha, hall⟩)

/-- The waiting ends with the first answer that decides. -/
theorem waitForChild_eq_some_iff {answers rest : List WaitAnswer}
    {result : Except LaunchError ExitStatus} :
    waitForChild program answers = some (result, rest) ↔
      ∃ idle a, answers = idle ++ a :: rest ∧ (∀ b ∈ idle, b.Undecided) ∧
        a.Decides program result := by
  constructor
  · intro h
    rcases exists_first_decision program answers with
      ⟨idle, a, result', rest', rfl, hidle, ha⟩ | hall
    · rw [waitForChild_undecided hidle, waitForChild_decided ha] at h
      cases h
      exact ⟨idle, a, rfl, hidle, ha⟩
    · rw [← List.append_nil answers, waitForChild_undecided hall] at h
      cases h
  · rintro ⟨idle, a, rfl, hidle, ha⟩
    rw [waitForChild_undecided hidle, waitForChild_decided ha]

theorem waitForChild_eq_none_iff {answers : List WaitAnswer} :
    waitForChild program answers = none ↔ ∀ a ∈ answers, a.Undecided := by
  constructor
  · intro h
    rcases exists_first_decision program answers with
      ⟨idle, a, result, rest, rfl, hidle, ha⟩ | hall
    · rw [waitForChild_undecided hidle, waitForChild_decided ha] at h
      cases h
    · exact hall
  · intro h
    rw [← List.append_nil answers, waitForChild_undecided h]
    rfl

/-- How waiting for a child goes. -/
structure WaitsForDecision (program : String) : Prop where
  /-- it uses up the answers to the first that decides -/
  ends : ∀ answers result rest, waitForChild program answers = some (result, rest) ↔
    ∃ idle a, answers = idle ++ a :: rest ∧ (∀ b ∈ idle, b.Undecided) ∧ a.Decides program result
  /-- and goes on as long as none does -/
  goesOn : ∀ answers, waitForChild program answers = none ↔ ∀ a ∈ answers, a.Undecided
  undecided : ∀ a : WaitAnswer, a.Undecided ↔ ¬ ∃ result, a.Decides program result
  exited : ∀ idle : List WaitAnswer, (∀ b ∈ idle, b.Undecided) → ∀ rest, ∀ code ≤ 255, ∃ status,
    waitForChild program (idle ++ .exited code :: rest) = some (.ok status, rest) ∧
      status.code.toNat = code
  signaled : ∀ idle : List WaitAnswer, (∀ b ∈ idle, b.Undecided) → ∀ rest signal, 1 ≤ signal →
    signal ≤ 31 → ∃ status,
      waitForChild program (idle ++ .signaled signal :: rest) = some (.ok status, rest) ∧
        status.code.toNat = 128 + signal
  failed : ∀ idle : List WaitAnswer, (∀ b ∈ idle, b.Undecided) → ∀ rest why, why ≠ .interrupted →
    waitForChild program (idle ++ .failed why :: rest) =
      some (.error (.waitFailed program why), rest)
  success : ∀ answers status rest, (∀ a ∈ answers, a.Delivered) →
    waitForChild program answers = some (.ok status, rest) →
    (status.isSuccess = true ↔
      ∃ idle, answers = idle ++ .exited 0 :: rest ∧ ∀ b ∈ idle, b.Undecided)

/-- Waiting ends with the first answer that decides. What a system delivers comes through whole, and
the result is success just if the child exited with code 0. -/
theorem waitForChild_first_decision (program : String) : WaitsForDecision program where
  ends answers result rest := waitForChild_eq_some_iff
  goesOn answers := waitForChild_eq_none_iff
  undecided a := by
    have hnone : a.verdict? program = none ↔ a.Undecided := verdict?_eq_none_iff
    rw [← hnone, Option.eq_none_iff_forall_not_mem, not_exists]
    exact forall_congr' fun result => not_congr verdict?_eq_some_iff
  exited idle hidle rest code hcode := by
    refine ⟨⟨UInt8.ofNat code⟩, ?_, exited_toNat hcode⟩
    rw [waitForChild_undecided hidle, waitForChild_decided (.exited code)]
  signaled idle hidle rest signal _ hlast := by
    refine ⟨⟨UInt8.ofNat (128 + signal)⟩, ?_, signaled_toNat hlast⟩
    rw [waitForChild_undecided hidle, waitForChild_decided (.signaled signal)]
  failed idle hidle rest why hne := by
    rw [waitForChild_undecided hidle, waitForChild_decided (.failed hne)]
  success answers status rest hdelivered h := by
    obtain ⟨idle, a, hsplit, hidle, ha⟩ := waitForChild_eq_some_iff.1 h
    have hsuccess := ha.isSuccess_iff (hdelivered a (by simp [hsplit]))
    constructor
    · intro hs
      exact ⟨idle, by rw [hsplit, hsuccess.1 hs], hidle⟩
    · rintro ⟨idle', hsplit', hidle'⟩
      -- what is left over is the same, so the answer that decided is too
      have hsame : (idle ++ [a]) ++ rest = (idle' ++ [.exited 0]) ++ rest := by
        simpa using hsplit.symm.trans hsplit'
      obtain ⟨-, hlast⟩ := List.append_inj' (List.append_cancel_right hsame) rfl
      exact hsuccess.2 (List.singleton_inj.1 hlast)

end ScriptShell
