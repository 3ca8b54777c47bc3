import ScriptShell.Proofs.Script.PlainKeys

/-!
# How statements go on

A statement may leave the loop or the function that it stands in, or go on with a loop
(`Flow`). Code that compiles has such statements only where there is a loop or a function to leave:
anything else is a flaw among the events of its scope. So a statement without a flaw goes on as its
place allows (`Exec.runStatement_allows`), by one case for each statement and by induction on how
deep an evaluator goes (`blocksKeep_ofDepth`), and every statement of a module that compiles goes on
with the next one (`Exec.runStatement_goesOn`). The main statement is `Exec.runEach_eq_block`: to run
such statements one after another is to run them as one block.
-/

namespace ScriptShell.Script

/-! ## Code that keeps the rules -/

/-- No rule is broken. -/
def Clean (events : List ScopeEvent) : Prop := ∀ e ∈ events, e.isFlaw = false

theorem clean_append {a b : List ScopeEvent} : Clean (a ++ b) ↔ Clean a ∧ Clean b :=
  List.forall_mem_append

theorem clean_flatMap {α : Type} {f : α → List ScopeEvent} {l : List α} :
    Clean (l.flatMap f) ↔ ∀ a ∈ l, Clean (f a) := by
  simp only [Clean, List.mem_flatMap]
  constructor
  · intro h a ha e he
    exact h e ⟨a, ha, he⟩
  · rintro h e ⟨a, ha, he⟩
    exact h a ha e he

theorem not_clean_flaw : ¬ Clean [.flaw] := by
  intro h
  cases h .flaw (List.mem_singleton_self _)

/-- How a statement may go on where it stands: loops are left and gone on with inside of loops, and
functions are left inside of functions. -/
def Allows (s : Standing) : Flow → Prop
  | .next => True
  | .break | .continue => s.inLoop = true
  | .return _ => s.isFunction = true

/-- Blocks in which no rule is broken go on as they may. The rules are told of code nested at most
so deep. -/
def BlocksKeep (ev : Evaluator) (fuel : Nat) : Prop :=
  ∀ s env (body : List Stmt), (∀ st ∈ body, Clean (stmtEvents fuel s st)) →
    Exec.Answers (ev.block env body) (Allows s)

namespace Exec

variable {ev : Evaluator} {env : Env} {fuel : Nat} {s : Standing}

/-! ## Loops -/

/-- How a loop was left is how the code around it goes on. -/
def LeftAs (s : Standing) (left : Option Flow) : Prop := ∀ flow, left = some flow → Allows s flow

theorem leftAs_none : LeftAs s none := by
  rintro flow ⟨⟩

theorem leftAs_next : LeftAs s (some .next) := by
  rintro flow ⟨⟩
  trivial

theorem leftAs_return {v : Value} (h : Allows { s with inLoop := true } (.return v)) :
    LeftAs s (some (.return v)) := by
  rintro flow ⟨⟩
  exact h

theorem loopWhile_leftAs {test : Exec Bool} {body : Exec Flow} (n : Nat)
    (h : Answers body (Allows { s with inLoop := true })) :
    Answers (loopWhile test body n) (LeftAs s) := by
  induction n with
  | zero => exact answers_throw _
  | succ n ih =>
    refine answers_after fun holds => ?_
    split
    · refine answers_bind h fun flow hflow => ?_
      cases flow with
      | next => exact ih
      | «continue» => exact ih
      | «break» => exact answers_pure leftAs_next
      | «return» v => exact answers_pure (leftAs_return hflow)
    · exact answers_pure leftAs_none

theorem loopFor_leftAs {body : Value → Exec Flow} (n : Nat)
    (h : ∀ v, Answers (body v) (Allows { s with inLoop := true })) (p : Progress) :
    Answers (loopFor body n p) (LeftAs s) := by
  induction n generalizing p with
  | zero => exact answers_throw _
  | succ n ih =>
    refine answers_after fun item => ?_
    cases item with
    | none => exact answers_pure leftAs_none
    | some item =>
      refine answers_bind (h item.1) fun flow hflow => ?_
      cases flow with
      | next => exact ih item.2
      | «continue» => exact ih item.2
      | «break» => exact answers_pure leftAs_next
      | «return» v => exact answers_pure (leftAs_return hflow)

/-- A loop that was not left goes on with the block behind it. -/
theorem answers_left {loop : Exec (Option Flow)} {rest : Exec Flow}
    (hloop : Answers loop (LeftAs s)) (hrest : Answers rest (Allows s)) :
    Answers (loop >>= fun left => match left with
      | some flow => pure flow
      | none => rest) (Allows s) := by
  refine answers_bind hloop fun left hleft => ?_
  cases left with
  | none => exact hrest
  | some flow => exact answers_pure (hleft flow rfl)

/-! ## Guarded blocks -/

theorem andFinally_allows {code final : Exec Flow} (hcode : Answers code (Allows s))
    (hfinal : Answers final (Allows s)) : Answers (andFinally code final) (Allows s) := by
  refine answers_bind (answers_caught hcode) fun outcome houtcome => ?_
  extract_lets goOn
  -- how the last part goes on counts, unless it goes on to what comes next
  have hgoOn : ∀ ended, Allows s ended → Answers (goOn ended) (Allows s) := by
    intro ended hended
    cases ended with
    | next =>
      rcases outcome with e | flow
      · exact answers_throw _
      · exact answers_pure (houtcome flow rfl)
    | «break» => exact answers_pure hended
    | «continue» => exact answers_pure hended
    | «return» v => exact answers_pure hended
  split
  · exact answers_bind (answers_whileHandling hfinal) hgoOn
  · exact answers_bind hfinal hgoOn

theorem handleWith_allows (hev : BlocksKeep ev fuel) (e : Value) (traced : Bool)
    {handlers : List Handler}
    (h : ∀ type name body, Handler.mk type name body ∈ handlers →
      ∀ st ∈ body, Clean (stmtEvents fuel s st)) :
    Answers (handleWith ev env e traced handlers) (Allows s) := by
  induction handlers with
  | nil => exact answers_throw _
  | cons handler handlers ih =>
    obtain ⟨type, name, body⟩ := handler
    have hbody : Answers (ev.block env body) (Allows s) :=
      hev s env body (h type name body List.mem_cons_self)
    refine answers_after fun handled => ?_
    split
    · refine answers_whileHandling ?_
      cases name with
      | none => exact hbody
      | some n =>
        refine answers_after fun _ => andFinally_allows hbody ?_
        exact answers_after fun _ => answers_after fun _ => answers_pure trivial
    · exact ih fun type name body hmem => h type name body (List.mem_cons_of_mem _ hmem)

theorem tryStatement_allows (hev : BlocksKeep ev fuel) {body no final : List Stmt}
    {handlers : List Handler} (hbody : ∀ st ∈ body, Clean (stmtEvents fuel s st))
    (hhandlers : ∀ type name body, Handler.mk type name body ∈ handlers →
      ∀ st ∈ body, Clean (stmtEvents fuel s st))
    (hno : ∀ st ∈ no, Clean (stmtEvents fuel s st))
    (hfinal : ∀ st ∈ final, Clean (stmtEvents fuel s st)) :
    Answers (tryStatement ev env body handlers no final) (Allows s) := by
  unfold tryStatement
  extract_lets guarded
  have hguarded : Answers guarded (Allows s) := by
    refine answers_bind (answers_caught (hev s env body hbody)) fun outcome houtcome => ?_
    cases outcome with
    | error e => exact handleWith_allows hev e.1 e.2 hhandlers
    | ok flow =>
      have hflow := houtcome flow rfl
      cases flow with
      | next => exact hev s env no hno
      | «break» => exact answers_pure hflow
      | «continue» => exact answers_pure hflow
      | «return» v => exact answers_pure hflow
  split
  · exact hguarded
  · exact andFinally_allows hguarded (hev s env final hfinal)

theorem withStatement_allows {body : Exec Flow} (hbody : Answers body (Allows s))
    (items : List (Expr × Option Expr)) : Answers (withStatement ev env body items) (Allows s) := by
  induction items with
  | nil => exact hbody
  | cons item items ih =>
    obtain ⟨e, target⟩ := item
    refine answers_after fun v => answers_after fun h => ?_
    split
    · exact answers_raise _ _
    · exact answers_raise _ _
    · refine answers_after fun entered => ?_
      refine answers_bind (answers_caught (P := Allows s) ?_) fun outcome houtcome => ?_
      · cases target with
        | none => exact ih
        | some t => exact answers_after fun _ => ih
      · cases outcome with
        | ok flow => exact answers_after fun _ => answers_pure (houtcome flow rfl)
        | error e =>
          refine answers_after fun h => answers_after fun answer => answers_after fun ignored => ?_
          split
          · exact answers_pure trivial
          · exact answers_throw _

/-! ## Cases -/

/-- The body that is chosen is the body of a case. -/
theorem chosenCase_mem (v : Value) (cases : List Case) :
    Answers (chosenCase ev env v cases) fun chosen => ∀ body, chosen = some body →
      ∃ pattern condition, Case.mk pattern condition body ∈ cases := by
  induction cases with
  | nil => exact answers_pure (by rintro body ⟨⟩)
  | cons first rest ih =>
    obtain ⟨pattern, condition, body⟩ := first
    have hrest : Answers (chosenCase ev env v rest) fun chosen => ∀ body', chosen = some body' →
        ∃ pattern' condition', Case.mk pattern' condition' body' ∈
          Case.mk pattern condition body :: rest := by
      intro i chosen i' hrun body' hbody'
      obtain ⟨pattern', condition', hmem⟩ := ih i chosen i' hrun body' hbody'
      exact ⟨pattern', condition', List.mem_cons_of_mem _ hmem⟩
    refine answers_after fun bound => ?_
    cases bound with
    | none => exact hrest
    | some bound =>
      have hchosen : ∀ holds : Bool, Answers
          (if holds then pure (some body) else chosenCase ev env v rest) fun chosen =>
            ∀ body', chosen = some body' → ∃ pattern' condition',
              Case.mk pattern' condition' body' ∈ Case.mk pattern condition body :: rest := by
        intro holds
        split
        · refine answers_pure ?_
          rintro body' ⟨⟩
          exact ⟨pattern, condition, List.mem_cons_self⟩
        · exact hrest
      refine answers_after fun _ => ?_
      cases condition with
      | none => exact answers_after fun _ => hchosen _
      | some e => exact answers_after fun _ => answers_after fun _ => hchosen _

/-! ## All statements -/

/-- A statement that raises answers nothing. -/
theorem raiseStatement_answers {P : Flow → Prop} (exception cause : Option Expr) :
    Answers (raiseStatement ev env exception cause) P := by
  cases exception with
  | none =>
    refine answers_after fun i => ?_
    split
    · exact answers_throw _
    · exact answers_raise _ _
  | some e =>
    refine answers_after fun v => ?_
    extract_lets raiseFrom
    have hraise : ∀ c, Answers (raiseFrom c) P := by
      intro c
      refine answers_after fun x => ?_
      split
      · exact answers_throw _
      · exact answers_after fun _ => answers_after fun _ => answers_throw _
    cases cause with
    | none => exact answers_after fun c => hraise c
    | some c => exact answers_after fun c => hraise c

/-- A statement in which no rule is broken goes on as it may where it stands. -/
theorem runStatement_allows (hev : BlocksKeep ev fuel) {st : Stmt}
    (h : Clean (stmtEvents (fuel + 1) s st)) : Answers (runStatement ev env st) (Allows s) := by
  cases st with
  | expr e => exact answers_after fun _ => answers_pure trivial
  | assign targets e => exact answers_after fun _ => answers_after fun _ => answers_pure trivial
  | augment target op e => exact answers_after fun _ => answers_pure trivial
  | annotate target hint value =>
    cases value with
    | none => exact answers_after fun _ => answers_after fun _ => answers_pure trivial
    | some e =>
      exact answers_after fun _ => answers_after fun _ => answers_after fun _ => answers_pure trivial
  | delete targets => exact answers_after fun _ => answers_pure trivial
  | pass => exact answers_pure trivial
  | global names => exact answers_pure trivial
  | «nonlocal» names => exact answers_pure trivial
  | «break» =>
    cases hloop : s.inLoop with
    | true => exact answers_pure hloop
    | false =>
      simp only [stmtEvents, hloop, if_neg Bool.false_ne_true] at h
      exact absurd h not_clean_flaw
  | «continue» =>
    cases hloop : s.inLoop with
    | true => exact answers_pure hloop
    | false =>
      simp only [stmtEvents, hloop, if_neg Bool.false_ne_true] at h
      exact absurd h not_clean_flaw
  | «return» value =>
    cases hfunction : s.isFunction with
    | true =>
      cases value with
      | none => exact answers_pure hfunction
      | some e => exact answers_map fun _ _ _ _ => hfunction
    | false =>
      simp only [stmtEvents, hfunction, if_neg Bool.false_ne_true, clean_append] at h
      exact absurd h.1.1 not_clean_flaw
  | raise exception cause => exact raiseStatement_answers exception cause
  | assert test message =>
    refine answers_after fun v => answers_after fun holds => ?_
    split
    · exact answers_pure trivial
    · cases message with
      | none => exact answers_raiseWith _ _
      | some e => exact answers_after fun _ => answers_raiseWith _ _
  | «import» names => exact answers_after fun _ => answers_pure trivial
  | importFrom level module names => exact answers_after fun _ => answers_pure trivial
  | «if» test yes no =>
    simp only [stmtEvents, clean_append, clean_flatMap] at h
    obtain ⟨⟨-, hyes⟩, hno⟩ := h
    refine answers_after fun v => answers_after fun holds => ?_
    split
    · exact hev s env yes hyes
    · exact hev s env no hno
  | «while» test body no =>
    simp only [stmtEvents, clean_append, clean_flatMap] at h
    obtain ⟨⟨-, hbody⟩, hno⟩ := h
    exact answers_left (loopWhile_leftAs loopLimit (hev _ env body hbody)) (hev s env no hno)
  | «for» isAsync target iterable body no =>
    simp only [stmtEvents, clean_append, clean_flatMap] at h
    obtain ⟨⟨-, hbody⟩, hno⟩ := h
    refine answers_after fun v => answers_after fun start => ?_
    refine answers_left (loopFor_leftAs loopLimit (fun v => ?_) start) (hev s env no hno)
    exact answers_after fun _ => hev _ env body hbody
  | «try» body handlers no final =>
    simp only [stmtEvents, clean_append, clean_flatMap] at h
    obtain ⟨⟨⟨⟨-, hbody⟩, hhandlers⟩, hno⟩, hfinal⟩ := h
    refine tryStatement_allows hev hbody ?_ hno hfinal
    intro type name body' hmem
    exact clean_flatMap.1 (clean_append.1 (hhandlers _ hmem)).2
  | «with» isAsync items body =>
    simp only [stmtEvents, clean_append, clean_flatMap] at h
    exact withStatement_allows (hev s env body h.2) items
  | «match» subject cases =>
    simp only [stmtEvents, clean_append, clean_flatMap] at h
    refine answers_after fun v => answers_bind (chosenCase_mem v cases) fun chosen hchosen => ?_
    cases chosen with
    | none => exact answers_pure trivial
    | some body =>
      obtain ⟨pattern, condition, hmem⟩ := hchosen body rfl
      exact hev s env body (clean_flatMap.1 (clean_append.1 (h.2 _ hmem)).2)
  | function isAsync decorators name params returns body =>
    exact answers_after fun _ => answers_after fun _ => answers_after fun _ =>
      answers_after fun _ => answers_pure trivial
  | «class» decorators name args body => exact answers_after fun _ => answers_pure trivial

/-! ## Blocks of all depths -/

theorem runAll_allows {run : Stmt → Exec Flow} {body : List Stmt}
    (h : ∀ st ∈ body, Answers (run st) (Allows s)) : Answers (runAll run body) (Allows s) := by
  induction body with
  | nil => exact answers_pure trivial
  | cons st body ih =>
    refine answers_bind (h st List.mem_cons_self) fun flow hflow => ?_
    cases flow with
    | next => exact ih fun st hst => h st (List.mem_cons_of_mem _ hst)
    | «break» => exact answers_pure hflow
    | «continue» => exact answers_pure hflow
    | «return» v => exact answers_pure hflow

end Exec

theorem BlocksKeep.above {ev : Evaluator} {fuel : Nat} (hev : BlocksKeep ev fuel) :
    BlocksKeep ev.above (fuel + 1) :=
  fun _ _ _ h => Exec.runAll_allows fun st hst => Exec.runStatement_allows hev (h st hst)

/-- An evaluator keeps the rules as far as they are told: what is nested deeper than it goes does
not come to its end. -/
theorem blocksKeep_ofDepth {depth fuel : Nat} (h : depth ≤ fuel) :
    BlocksKeep (Evaluator.ofDepth depth) fuel := by
  induction depth generalizing fuel with
  | zero => exact fun _ _ _ _ => Exec.answers_throw _
  | succ depth ih =>
    obtain ⟨fuel, rfl⟩ : ∃ n, fuel = n + 1 := ⟨fuel - 1, by omega⟩
    exact (ih (Nat.le_of_succ_le_succ h)).above

/-! ## Whole modules -/

/-- What stands before the rest of a module are imports. -/
theorem futureImports_split (body : List Stmt) :
    ∃ before, body = before ++ (futureImports body).2 ∧
      ∀ st ∈ before, ∃ level module names, st = .importFrom level module names := by
  fun_induction futureImports body with
  | case1 level names rest more others hrest ih =>
    obtain ⟨before, hsplit, hbefore⟩ := ih
    rw [hrest] at hsplit
    refine ⟨.importFrom level ["__future__"] names :: before, congrArg _ hsplit, ?_⟩
    exact List.forall_mem_cons.2 ⟨⟨_, _, _, rfl⟩, hbefore⟩
  | case2 body h => exact ⟨[], rfl, fun st hst => nomatch hst⟩

theorem clean_of_keepsRules {fuel : Nat} {around : List (List String)} {kind : ScopeKind}
    {events : List ScopeEvent} (h : keepsRules (fuel + 1) around kind events = true) :
    Clean events := by
  unfold keepsRules at h
  simp only [Bool.and_eq_true] at h
  obtain ⟨⟨⟨⟨⟨⟨⟨hflaw, -⟩, -⟩, -⟩, -⟩, -⟩, -⟩, -⟩ := h
  intro e he
  rw [Bool.not_eq_true', List.any_eq_false] at hflaw
  simpa using hflaw e he

/-- Code that compiles begins with a text and imports, if with anything, behind which no rule is
broken. -/
theorem compiles_split {body : List Stmt} (h : compiles body = true) :
    ∃ before rest, body = before ++ rest ∧
      (∀ st ∈ before, (∃ e, st = .expr e) ∨
        ∃ level module names, st = .importFrom level module names) ∧
      Clean (blockEvents .module rest) := by
  have hclean : ∀ rest, keepsRules nestingLimit [] .module (blockEvents .module rest) = true →
      Clean (blockEvents .module rest) := by
    have hlimit : nestingLimit = 999999 + 1 := rfl
    rw [hlimit]
    exact fun rest hkeeps => clean_of_keepsRules hkeeps
  unfold compiles at h
  split at h
  next future rest hsplit =>
  have hrest := hclean rest (Bool.and_eq_true_iff.1 h).2
  split at hsplit
  · next text rest' =>
    obtain ⟨before, hbefore, himports⟩ := futureImports_split rest'
    rw [hsplit] at hbefore
    refine ⟨.expr (.literal (.text text)) :: before, rest, congrArg _ hbefore, ?_, hrest⟩
    exact List.forall_mem_cons.2 ⟨.inl ⟨_, rfl⟩, fun st hst => .inr (himports st hst)⟩
  · obtain ⟨before, hbefore, himports⟩ := futureImports_split body
    rw [hsplit] at hbefore
    exact ⟨before, rest, hbefore, fun st hst => .inr (himports st hst), hrest⟩

namespace Exec

/-- Every statement of code that compiles goes on with the next. -/
theorem runStatement_goesOn {body : List Stmt} (hc : compiles body = true) {depth : Nat}
    (hdepth : depth < nestingLimit) (env : Env) {st : Stmt} (hst : st ∈ body) :
    Answers (runStatement (Evaluator.ofDepth depth) env st) (· = .next) := by
  obtain ⟨before, rest, hsplit, hbefore, hclean⟩ := compiles_split hc
  rw [hsplit, List.mem_append] at hst
  rcases hst with hst | hst
  · rcases hbefore st hst with ⟨e, rfl⟩ | ⟨level, module, names, rfl⟩
    · exact answers_after fun _ => answers_pure rfl
    · exact answers_after fun _ => answers_pure rfl
  · have hmodule : ∀ flow, Allows {} flow → flow = .next := by
      intro flow hflow
      cases flow with
      | next => rfl
      | «break» => cases hflow
      | «continue» => cases hflow
      | «return» v => cases hflow
    obtain ⟨fuel, hfuel⟩ : ∃ n, nestingLimit = n + 1 := ⟨999999, rfl⟩
    have hkeep : BlocksKeep (Evaluator.ofDepth depth) fuel :=
      blocksKeep_ofDepth (by omega)
    have hflaw := clean_flatMap.1 hclean st hst
    rw [hfuel] at hflaw
    exact fun i flow i' hrun => hmodule flow (runStatement_allows hkeep hflaw i flow i' hrun)

theorem run_runAll_cons (run : Stmt → Exec Flow) (st : Stmt) (rest : List Stmt) (i : Interpreter) :
    (runAll run (st :: rest)).run i =
      match (run st).run i with
      | (.ok .next, i') => (runAll run rest).run i'
      | other => other := by
  rw [runAll, run_bind]
  rcases (run st).run i with ⟨_ | _ | _ | _ | _, i'⟩ <;> rfl

/-- Statements that all go on with the next may be run one after another or as one block. -/
theorem runEach_above {ev : Evaluator} {env : Env} {code : List Stmt}
    (h : ∀ st ∈ code, Answers (runStatement ev env st) (· = .next)) (i : Interpreter) :
    (runEach ev.above env code).run i =
      match (ev.above.block env code).run i with
      | (.ok _, i') => (.ok (), i')
      | (.error why, i') => (.error why, i') := by
  have hblock : ∀ code, ev.above.block env code = runAll (runStatement ev env) code :=
    fun _ => rfl
  induction code generalizing i with
  | nil => rfl
  | cons st rest ih =>
    obtain ⟨hfirst, hrest⟩ := List.forall_mem_cons.1 h
    rw [runEach, run_bind, hblock, hblock, run_runAll_cons, run_runAll_cons]
    rcases hst : (runStatement ev env st).run i with ⟨why | flow, i₁⟩
    · rfl
    · obtain rfl : flow = .next := hfirst i flow i₁ hst
      exact ih hrest i₁

/-- The statements of code that compiles do not leave it, so the shell runs it as one block. -/
theorem runEach_eq_block {code : List Stmt} (hc : compiles code = true) (env : Env)
    (i : Interpreter) :
    (runEach Evaluator.standard env code).run i =
      match (Evaluator.standard.block env code).run i with
      | (.ok _, i') => (.ok (), i')
      | (.error why, i') => (.error why, i') := by
  have hdepth : Evaluator.standardDepth - 1 < nestingLimit := by decide
  rw [standard_eq_above]
  exact runEach_above (fun st hst => runStatement_goesOn hc hdepth env hst) i

end Exec

end ScriptShell.Script
