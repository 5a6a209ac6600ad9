import InrSettle.System.Dispatch

/-!
# Transitions of the settlement row

The columns the machine owns, over whole runs: how a settlement becomes SETTLED, what a
change of status does to its version, what the customer is shown, and where an
exception was entered from.
-/

namespace InrSettle

open Transaction CaseTables Run

/-! ### Row moves -/

/-- T20 was applied on an evaluation of the evidence that found nothing missing, recorded in the
same transaction. -/
def SettledOn (op : SettlementOp) (input : ApplyTransitionInput) (c c' : Case) : Prop :=
  ∃ asked evidence, op = .evaluateAndSettle asked ∧ input = asked.transition ∧
    (evaluateFinality evidence).final = true ∧
    c'.evaluations = c.evaluations ++ [asked.row (evaluateFinality evidence)]

/-- What one operation can do to the settlement row. -/
inductive RowMove (op : SettlementOp) (c c' : Case) : Prop where
  | still : c'.settlement = c.settlement → RowMove op c c'
  | created {input : CreateInput} : c.settlement = none → c'.settlement = some input.row →
    settlementChecks input.row = true → RowMove op c c'
  | taken {input : ApplyTransitionInput} {old new : SettlementRow} {t : Transition} :
    c.settlement = some old → c'.settlement = some new → Takes input t old new →
    (input.trigger = .reconciledMatched → SettledOn op input c c') → RowMove op c c'

section Projection

variable {digest : AuthorizedInstruction → String} {read : Reads} {s s' : Store}
  {op : SettlementOp}

/-- A moved settlement, by any trigger but the one that settles. -/
theorem rowMove_of_moved {input : ApplyTransitionInput} {c₁ c₂ c' : Case}
    (moved : Moved input c₁ c₂) (settlement : c₁.settlement = s.case.settlement)
    (row : c'.settlement = c₂.settlement) (other : input.trigger ≠ .reconciledMatched) :
    RowMove op s.case c' := by
  obtain ⟨old, new, t, found, takes, rfl⟩ := moved
  rw [settlement] at found
  exact .taken found row takes fun is => (other is).elim

theorem rowMove_of_turn {input : ApplyTransitionInput} {c₁ c' : Case} (turn : Turn input c₁ c')
    (settlement : c₁.settlement = s.case.settlement) (other : input.trigger ≠ .reconciledMatched) :
    RowMove op s.case c' := by
  rcases turn with rfl | moved
  · exact .still settlement
  · exact rowMove_of_moved moved settlement rfl other

theorem Asks.trigger_ne {input : ApplyTransitionInput} {trigger : Trigger}
    {patch : List ColumnWrite} {code : Option ExceptionCode} (asks : Asks input trigger patch code)
    (other : trigger ≠ .reconciledMatched) : input.trigger ≠ .reconciledMatched := by
  rw [asks.trigger]
  exact other

theorem plainList_other : ∀ trigger ∈ plainList, trigger ≠ .reconciledMatched := by decide

theorem Resolution.trigger_other (resolution : Resolution) :
    resolution.trigger ≠ .reconciledMatched := by
  cases resolution <;> decide

theorem ExceptionTrigger.other (trigger : ExceptionTrigger) :
    trigger.trigger ≠ .reconciledMatched := by
  cases trigger <;> decide

theorem drawdownTransition_other (input : ResolveDrawdownInput) (target : DrawdownStatus) :
    (drawdownTransition input target).trigger ≠ .reconciledMatched := by
  cases target <;> simp [drawdownTransition]

theorem outcomeTransition_other (input : PayoutOutcomeInput) (a : PayoutAttemptRow) :
    (outcomeTransition input a).trigger ≠ .reconciledMatched := by
  rw [outcomeTransition_trigger]
  split <;> decide

theorem StoreMove.row (moved : StoreMove digest read s op s') : RowMove op s.case s'.case := by
  cases moved with
  | noted audits => exact .still rfl
  | created absent checks => exact .created absent rfl checks
  | plain answers patch moved =>
    exact rowMove_of_moved moved rfl rfl (plainList_other _ (mem_plainList _ answers))
  | authorized found asks actor moved =>
    exact rowMove_of_moved moved rfl rfl (asks.trigger_ne (by decide))
  | dispatched found before version none numbered asks moved fresh =>
    exact rowMove_of_moved moved rfl rfl (asks.trigger_ne (by decide))
  | openedException found asks answers moved ids single =>
    exact rowMove_of_moved moved rfl rfl (asks.trigger_ne (ExceptionTrigger.other _))
  | resolvedException found asks stated before moved =>
    exact rowMove_of_moved moved rfl rfl (asks.trigger_ne (Resolution.trigger_other _))
  | submitted allowed => exact .still rfl
  | outcome reports latest trusted permits allowed result =>
    rcases result with rfl | ⟨-, -, moved⟩
    · exact .still rfl
    · exact rowMove_of_moved moved rfl rfl (outcomeTransition_other _ _)
  | swept latest waiting elapsed allowed asks turn =>
    exact rowMove_of_turn turn rfl (asks.trigger_ne (by decide))
  | retried latest rejected numbered fresh => exact .still rfl
  | reserved pending allowed asks turn =>
    exact rowMove_of_turn turn rfl (asks.trigger_ne (by decide))
  | reservationFailed pending refused asks moved =>
    exact rowMove_of_moved moved rfl rfl (asks.trigger_ne (by decide))
  | drawn active asks moved ids single =>
    exact rowMove_of_moved moved rfl rfl (asks.trigger_ne (by decide))
  | drawdownResolved latest evaluated followed result =>
    rcases result with rfl | ⟨-, moved⟩
    · exact .still rfl
    · exact rowMove_of_moved moved rfl rfl (drawdownTransition_other _ _)
  | compensated done => exact .still rfl
  | released done => exact .still rfl
  | operatorResolved found isOpen before gave result =>
    rcases result with rfl | ⟨compensation, c, audits, -, moved, rfl⟩
    · exact .still rfl
    · exact rowMove_of_moved moved rfl rfl (Resolution.trigger_other _)
  | reconciliationBegun none present checks turn =>
    exact rowMove_of_turn turn rfl (by simp [BeginInput.transition])
  | observationMatched found pending matched => exact .still rfl
  | observationDiffered found pending differed turn =>
    exact rowMove_of_turn turn rfl (by simp [ObservationInput.transition])
  | reconciliationSwept found pending elapsed turn =>
    exact rowMove_of_turn turn rfl (by simp [ReconciliationSweepInput.transition])
  | reconciliationResolved found evaluated => exact .still rfl
  | evaluated => exact .still rfl
  | @settled asked evidence c gathered final moved =>
    obtain ⟨old, new, t, found, takes, rfl⟩ := moved
    exact .taken found rfl takes fun _ => ⟨asked, _, rfl, rfl, final, rfl⟩
  | returned opens => exact .still (openReturn_about opens).settlement
  | eventReturned latest trusted is applied opens =>
    have about := openReturn_about opens
    rcases applied with ⟨-, -, rfl⟩ | ⟨-, rfl⟩
    · exact .still about.settlement
    · exact .still about.settlement
  | returnEscalated found source => exact .still rfl
  | returnCapped found source => exact .still rfl
  | returnCounted counts => exact .still rfl
  | returnConfirmed counts drawn asked => exact .still rfl
  | returnRejected found source => exact .still rfl
  | returnRepaid found source requested paid => exact .still rfl

end Projection

/-! ### Becoming SETTLED -/

/-- The eight conditions of finality, in the order they are evaluated. -/
def finalityConditions : List FinalityCondition := [.f1, .f2, .f3, .f4, .f5, .f6, .x1, .x2]

/-- The operation settled the settlement: T20, on an evaluation it recorded, in which each of the
eight conditions is met. -/
def SettledByT20 (op : SettlementOp) (c c' : Case) : Prop :=
  ∃ asked t old new evaluation, op = .evaluateAndSettle asked ∧ t.id = .t20 ∧
    c.settlement = some old ∧ c'.settlement = some new ∧ Takes asked.transition t old new ∧
    c'.evaluations = c.evaluations ++ [evaluation] ∧ evaluation.id = asked.evaluationId ∧
    evaluation.final = true ∧ evaluation.conditions.map (·.condition) = finalityConditions ∧
    ∀ verdict ∈ evaluation.conditions, verdict.met = true

theorem evaluateFinality_conditions (evidence : FinalityEvidence) :
    (evaluateFinality evidence).conditions.map (·.condition) = finalityConditions := by
  simp only [evaluateFinality, List.map_cons, List.map_nil, finalityConditions, List.cons.injEq,
    and_true]
  refine ⟨?_, ?_, ?_, ?_, ?_, ?_, ?_, ?_⟩
  all_goals
    simp only [f1, f2, f3, f4, f5, f6, x1, x2]
    repeat' split
    all_goals rfl

theorem evaluateFinality_met {evidence : FinalityEvidence}
    (final : (evaluateFinality evidence).final = true) :
    ∀ verdict ∈ (evaluateFinality evidence).conditions, verdict.met = true := by
  have met := evaluateFinality_final.mp final
  simpa [evaluateFinality] using met

/-- Only T20 leads to SETTLED, and an exception is never entered from there. -/
theorem leadsTo_settled {trigger : Trigger} {enteredFrom : Option SettlementStatus}
    (resumes : enteredFrom ≠ some .settled)
    (settled : trigger.leadsTo enteredFrom = some .settled) : trigger = .reconciledMatched := by
  cases trigger <;> first | rfl | exact (resumes settled).elim | cases settled

theorem reconciledMatched_t20 {t : Transition} (row : Trigger.reconciledMatched.row = some t) :
    t.id = .t20 := by
  obtain rfl := Option.some.inj row
  rfl

/-! ### The columns of the row -/

/-- What holds of a settlement row in every state. -/
structure ColumnsKept (c : Case) : Prop where
  projected : ∀ row, c.settlement = some row →
    row.customerStatus = customerStatusColumn row.status row.openExceptionCode
  checked : ∀ row, c.settlement = some row → settlementChecks row = true

/-- The status the settlement is in, where there is one. -/
def Case.status (c : Case) : Option SettlementStatus := c.settlement.map (·.status)

section Preserved

variable {op : SettlementOp} {c c' : Case} {input : ApplyTransitionInput} {t : Transition}
  {old new : SettlementRow}

theorem Takes.checked (takes : Takes input t old new) (before : settlementChecks old = true) :
    settlementChecks new = true := by
  by_cases writes : (t.leadsTo old.exceptionEnteredFrom).isSome ∨ input.patch ≠ []
  · obtain ⟨version, rfl⟩ := takes.moved
    exact (takes.written writes).2
  · obtain ⟨noTarget, noPatch⟩ := not_or.mp writes
    have stays : t.leadsTo old.exceptionEnteredFrom = none := by simpa using noTarget
    obtain ⟨version, rfl⟩ := takes.moved
    rw [stays, not_not.mp noPatch]
    exact before

theorem origin_of_checked {row : SettlementRow} (checked : settlementChecks row = true)
    {origin : SettlementStatus} (recorded : row.exceptionEnteredFrom = some origin) :
    origin ∈ exceptionOrigins := by
  simp only [settlementChecks, recorded, Option.all_some, Bool.and_eq_true,
    decide_eq_true_eq] at checked
  exact checked.2

/-- A settlement in EXCEPTION after a transition came from elsewhere and records where, or was
there and records what it did. -/
theorem Takes.inException (takes : Takes input t old new) (before : settlementChecks old = true)
    (entered : new.status = .exception) :
    old.status ≠ .exception ∧ new.exceptionEnteredFrom = some old.status ∨
      old.status = .exception ∧ new.exceptionEnteredFrom = old.exceptionEnteredFrom := by
  rw [takes.enteredFrom]
  rw [takes.status] at entered
  cases resolution : input.trigger.isResolution with
  | true =>
    obtain ⟨sources, ⟨-, leads⟩ | fail | cancel⟩ :=
      resolution_leadsTo resolution old.exceptionEnteredFrom
    · have source := takes.source
      rw [sources, List.mem_singleton] at source
      refine .inr ⟨source, if_neg fun is => ?_⟩
      -- A recorded origin is one of those the check lists, and EXCEPTION is none of them.
      exact absurd (origin_of_checked before (leads.symm.trans is)) (by decide)
    · rw [fail] at entered
      cases entered
    · rw [cancel] at entered
      cases entered
  | false =>
    have elsewhere : old.status ≠ .exception := fun is =>
      exception_not_source _ resolution (is ▸ takes.source)
    cases leads : input.trigger.leadsTo old.exceptionEnteredFrom with
    | none =>
      rw [leads] at entered
      exact (elsewhere entered).elim
    | some target =>
      rw [leads] at entered
      have is : target = .exception := entered
      exact .inl ⟨elsewhere, by rw [is, if_pos rfl]⟩

theorem RowMove.columnsKept (moved : RowMove op c c') (held : ColumnsKept c) : ColumnsKept c' := by
  obtain ⟨projected, checked⟩ := held
  cases moved with
  | still settlement =>
    rw [← settlement] at projected checked
    exact ⟨projected, checked⟩
  | created _ made checks =>
    refine ⟨fun row found => ?_, fun row found => ?_⟩
    · obtain rfl := Option.some.inj (made.symm.trans found)
      rfl
    · obtain rfl := Option.some.inj (made.symm.trans found)
      exact checks
  | taken found made takes _ =>
    refine ⟨fun row is => ?_, fun row is => ?_⟩
    · obtain rfl := Option.some.inj (made.symm.trans is)
      exact takes.projected (projected _ found)
    · obtain rfl := Option.some.inj (made.symm.trans is)
      exact takes.checked (checked _ found)

/-- A settlement that moves into SETTLED was settled by T20. -/
theorem RowMove.settles (moved : RowMove op c c') (held : ColumnsKept c)
    (before : c.status ≠ some .settled) (after : c'.status = some .settled) :
    SettledByT20 op c c' := by
  cases moved with
  | still settlement => exact (before (by rwa [Case.status, ← settlement])).elim
  | created _ made _ =>
    rw [Case.status, made] at after
    cases after
  | @taken input old new t found made takes settles =>
    have status : new.status = .settled := by simpa [Case.status, made] using after
    have elsewhere : old.status ≠ .settled := by simpa [Case.status, found] using before
    rw [takes.status] at status
    have leads : input.trigger.leadsTo old.exceptionEnteredFrom = some .settled := by
      cases leads : input.trigger.leadsTo old.exceptionEnteredFrom with
      | none => rw [leads] at status; exact (elsewhere status).elim
      | some target => rw [leads] at status; exact congrArg some status
    have resumes : old.exceptionEnteredFrom ≠ some .settled := fun is =>
      absurd (origin_of_checked (held.checked _ found) is) (by decide)
    have is := leadsTo_settled resumes leads
    obtain ⟨asked, evidence, rfl, rfl, final, recorded⟩ := settles is
    have t20 := takes.row
    rw [is] at t20
    exact ⟨asked, t, old, new, _, rfl, reconciledMatched_t20 t20, found, made, takes, recorded,
      rfl, final, evaluateFinality_conditions evidence, evaluateFinality_met final⟩

end Preserved

/-! ### Over runs -/

section Runs

variable (digest : AuthorizedInstruction → String)

/-- A step leaves a settlement's row alone, or it is an operation on that settlement. -/
theorem step_row (w : World) (op : WorldOp) (settlementId : String) :
    ((w.step digest op).now.cases settlementId).settlement =
        (w.now.cases settlementId).settlement ∨
      ∃ asOf own, op = .settlement asOf own ∧ own.subject = settlementId ∧
        RowMove own (w.now.cases settlementId) ((w.step digest op).now.cases settlementId) := by
  cases op with
  | funding op => exact .inl rfl
  | settlement asOf own =>
    by_cases subject : settlementId = own.subject
    · subst subject
      rw [step_case_subject]
      exact .inr ⟨asOf, own, rfl, rfl, (settlementStep_move (s := w.now.store own.subject) own).row⟩
    · exact .inl (by rw [step_case_of_ne subject])

theorem step_columnsKept (settlementId : String) (w : World) (op : WorldOp)
    (held : ColumnsKept (w.now.cases settlementId)) :
    ColumnsKept ((w.step digest op).now.cases settlementId) := by
  rcases step_row digest w op settlementId with same | ⟨_, _, -, -, moved⟩
  · exact ⟨fun row found => held.projected row (same ▸ found),
      fun row found => held.checked row (same ▸ found)⟩
  · exact moved.columnsKept held

theorem columnsKept_none {c : Case} (none : c.settlement = none) : ColumnsKept c := by
  refine ⟨fun _ found => ?_, fun _ found => ?_⟩ <;> rw [none] at found <;> cases found

theorem columnsKept_run (ops : List WorldOp) (settlementId : String) :
    ColumnsKept (caseAfter digest ops settlementId) :=
  run_invariant (I := fun w : World => ColumnsKept (w.now.cases settlementId))
    (step_columnsKept digest settlementId) (columnsKept_none rfl) ops

/-- The step settles the settlement only by T20. -/
def SettlesByT20 (settlementId : String) (w : World) (op : WorldOp) : Prop :=
  (w.now.cases settlementId).status ≠ some .settled →
  ((w.step digest op).now.cases settlementId).status = some .settled →
  ∃ asOf own, op = .settlement asOf own ∧ own.subject = settlementId ∧
    SettledByT20 own (w.now.cases settlementId) ((w.step digest op).now.cases settlementId)

/-- The step moves the settlement's version by one where it changes the status, and not
otherwise. -/
def CountsVersion (settlementId : String) (w : World) (op : WorldOp) : Prop :=
  ∀ old new, (w.now.cases settlementId).settlement = some old →
    ((w.step digest op).now.cases settlementId).settlement = some new →
    new.version = if new.status = old.status then old.version else old.version + 1

theorem step_countsVersion (w : World) (op : WorldOp) (settlementId : String) :
    CountsVersion digest settlementId w op := by
  intro old new found made
  rcases step_row digest w op settlementId with same | ⟨_, _, -, -, moved⟩
  · obtain rfl := Option.some.inj (found.symm.trans (same.symm.trans made))
    rw [if_pos rfl]
  · cases moved with
    | still same =>
      obtain rfl := Option.some.inj (found.symm.trans (same.symm.trans made))
      rw [if_pos rfl]
    | created absent _ _ =>
      rw [absent] at found
      cases found
    | taken before after takes _ =>
      obtain rfl := Option.some.inj (before.symm.trans found)
      obtain rfl := Option.some.inj (after.symm.trans made)
      exact takes.version

/-- The settlement entered EXCEPTION from a status it held in the run, and has recorded it
since. -/
def EnteredFrom (ops : List WorldOp) (settlementId : String) : Prop :=
  ∃ n origin, n < ops.length ∧ origin ≠ .exception ∧
    (caseAfter digest (ops.take n) settlementId).status = some origin ∧
    ∀ m, n < m → m ≤ ops.length →
      ∃ row, (caseAfter digest (ops.take m) settlementId).settlement = some row ∧
        row.status = .exception ∧ row.exceptionEnteredFrom = some origin

variable {digest}

theorem caseAfter_append (ops : List WorldOp) (op : WorldOp) (settlementId : String) :
    caseAfter digest (ops ++ [op]) settlementId =
      ((run (World.step digest) World.empty ops).step digest op).now.cases settlementId := by
  rw [caseAfter, run_append]
  rfl

/-- Entering it. -/
theorem enteredFrom_of_entered {ops : List WorldOp} {op : WorldOp} {settlementId : String}
    {origin : SettlementStatus} {row : SettlementRow}
    (before : (caseAfter digest ops settlementId).status = some origin)
    (other : origin ≠ .exception)
    (made : (caseAfter digest (ops ++ [op]) settlementId).settlement = some row)
    (is : row.status = .exception) (recorded : row.exceptionEnteredFrom = some origin) :
    EnteredFrom digest (ops ++ [op]) settlementId := by
  refine ⟨ops.length, origin, by simp, other, by simpa using before, fun m after within => ?_⟩
  rw [List.take_of_length_le (by simp; omega)]
  exact ⟨row, made, is, recorded⟩

/-- Staying in it: the history up to here carries over. -/
theorem EnteredFrom.stays {ops : List WorldOp} {op : WorldOp} {settlementId : String}
    {old row : SettlementRow} (held : EnteredFrom digest ops settlementId)
    (found : (caseAfter digest ops settlementId).settlement = some old)
    (made : (caseAfter digest (ops ++ [op]) settlementId).settlement = some row)
    (is : row.status = .exception) (kept : row.exceptionEnteredFrom = old.exceptionEnteredFrom) :
    EnteredFrom digest (ops ++ [op]) settlementId := by
  obtain ⟨n, origin, earlier, other, before, since⟩ := held
  refine ⟨n, origin, by simp; omega, other, ?_, fun m after within => ?_⟩
  · rwa [List.take_append_of_le_length earlier.le]
  · rcases Nat.lt_or_ge ops.length m with beyond | inside
    · obtain ⟨last, lastIs, -, recorded⟩ := since ops.length earlier le_rfl
      rw [List.take_length, found] at lastIs
      obtain rfl := Option.some.inj lastIs
      rw [List.take_of_length_le (by simp; omega)]
      exact ⟨row, made, is, kept.trans recorded⟩
    · rw [List.take_append_of_le_length inside]
      exact since m after inside

theorem enteredFrom_run (ops : List WorldOp) (settlementId : String)
    (entered : (caseAfter digest ops settlementId).status = some .exception) :
    EnteredFrom digest ops settlementId := by
  induction ops using List.reverseRecOn with
  | nil => cases entered
  | append_singleton ops op ih =>
    have kept := columnsKept_run digest ops settlementId
    have step := step_row digest (run (World.step digest) World.empty ops) op settlementId
    rw [← caseAfter_append] at step
    obtain ⟨row, made, is⟩ := Option.map_eq_some_iff.mp entered
    rcases step with same | ⟨_, _, -, -, moved⟩
    · have found := same.symm.trans made
      exact (ih (Option.map_eq_some_iff.mpr ⟨row, found, is⟩)).stays found made is rfl
    · cases moved with
      | still same =>
        have found := same.symm.trans made
        exact (ih (Option.map_eq_some_iff.mpr ⟨row, found, is⟩)).stays found made is rfl
      | created _ after _ =>
        obtain rfl := Option.some.inj (after.symm.trans made)
        cases is
      | @taken _ old _ _ found after takes _ =>
        obtain rfl := Option.some.inj (after.symm.trans made)
        rcases takes.inException (kept.checked old found) is with ⟨other, recorded⟩ | ⟨was, same⟩
        · exact enteredFrom_of_entered (Option.map_eq_some_iff.mpr ⟨old, found, rfl⟩) other made is
            recorded
        · exact (ih (Option.map_eq_some_iff.mpr ⟨old, found, was⟩)).stays found made is same

/-! ### The caller's patch -/

/-- What a caller's patch does to the columns the machine owns: it is refused if it writes one,
and what the transition writes to them is the same as with no patch. -/
structure PatchOwnsNone (input : ApplyTransitionInput) (c : Case) (r : TransitionOutcome)
    (c' : Case) : Prop where
  refused : input.patch.filterMap ColumnWrite.machineOwned ≠ [] →
    r = .error (.protectedField (input.patch.filterMap ColumnWrite.machineOwned)) ∧ c' = c
  written : ∀ old new, c.settlement = some old → c'.settlement = some new →
    new.owned = old.owned ∨ ∃ t ∈ transitions, t.trigger = input.trigger ∧ new.owned =
      (stampSettlement old (moveRow (t.leadsTo old.exceptionEnteredFrom) [] input.exceptionCode
        old)).owned

theorem applyTransition_patch {input : ApplyTransitionInput} {c c' : Case} {r : TransitionOutcome}
    (h : Commits (applyTransition input) c r c') : PatchOwnsNone input c r c' := by
  refine ⟨fun trespassing => ?_, fun old new found made => ?_⟩
  · unfold applyTransition at h
    simp only [if_pos trespassing] at h
    exact commits_pure.mp h
  · rcases applyTransition_spec h with ⟨_, -, rfl⟩ | ⟨old', new', t, found', takes, -, rfl⟩
    · exact .inl (by rw [Option.some.inj (found.symm.trans made)])
    · obtain rfl := Option.some.inj (found.symm.trans found')
      obtain rfl := Option.some.inj made
      exact .inr ⟨t, takes.inTable, takes.answers, takes.owned⟩

/-! ### All of it -/

variable (digest)

/-- What holds of a settlement's row over a run, and of every transition of one. -/
structure RowKept (ops : List WorldOp) (settlementId : String) : Prop where
  settles : Along (World.step digest) (SettlesByT20 digest settlementId) World.empty ops
  versions : Along (World.step digest) (CountsVersion digest settlementId) World.empty ops
  projected : ∀ row, (caseAfter digest ops settlementId).settlement = some row →
    row.customerStatus = customerStatusColumn row.status row.openExceptionCode
  entered : (caseAfter digest ops settlementId).status = some .exception →
    EnteredFrom digest ops settlementId
  patches : ∀ (input : ApplyTransitionInput) (c c' : Case) (r : TransitionOutcome),
    Commits (applyTransition input) c r c' → PatchOwnsNone input c r c'

/-- After every run, of any operations on any settlements in any order. -/
theorem settlement_row_kept (ops : List WorldOp) (settlementId : String) :
    RowKept digest ops settlementId := by
  refine ⟨?_, ?_, (columnsKept_run digest ops settlementId).projected,
    enteredFrom_run ops settlementId, fun _ _ _ _ => applyTransition_patch⟩
  · refine along_of_invariant (I := fun w : World => ColumnsKept (w.now.cases settlementId))
      (step_columnsKept digest settlementId) ?_ (columnsKept_none rfl) ops
    intro w op held before after
    rcases step_row digest w op settlementId with same | ⟨asOf, own, is, subject, moved⟩
    · exact (before (by rwa [Case.status, ← same])).elim
    · exact ⟨asOf, own, is, subject, moved.settles held before after⟩
  · exact (Along.trivial World.empty ops).mono fun w op _ => step_countsVersion digest w op _

end Runs

end InrSettle
