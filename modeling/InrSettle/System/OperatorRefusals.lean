import Mathlib
import InrSettle.System.DrawdownRefusals
import InrSettle.System.Reservations
import InrSettle.System.ReturnRefusals

/-!
# A refused resolution of an exception

What a settlement holds of its facility is given back before the settlement is asked to leave
EXCEPTION. An exception is open only in EXCEPTION, so the settlement is there to be asked, and
nothing is refused once something has been given back.
-/

namespace InrSettle

open Transaction CaseTables FundingTables Run

/-! ### Where an exception is open -/

/-- No exception is open, or one is and the settlement is in EXCEPTION. -/
def OpenInException (c : Case) : Prop :=
  openExceptions c = [] ∨ c.isIn .exception = true ∧ ∃ e, openExceptions c = [e]

theorem OpenInException.elsewhere {c : Case} (held : OpenInException c) {row : SettlementRow}
    (found : c.settlement = some row) (other : row.status ≠ .exception) :
    openExceptions c = [] := by
  rcases held with none | ⟨inException, -⟩
  · exact none
  · simp [Case.isIn, found, other] at inException

theorem ExceptionMove.openInException {read : Reads} {s : Store} {op : SettlementOp} {c' : Case}
    (moved : ExceptionMove read s op c') (held : OpenInException s.case) : OpenInException c' := by
  have unopened {input : ApplyTransitionInput} {old new : SettlementRow} {t : Transition}
      (found : s.case.settlement = some old) (takes : Takes input t old new)
      (notResolution : input.trigger.isResolution = false) : openExceptions s.case = [] :=
    held.elsewhere found fun is =>
      exception_not_source _ notResolution (is ▸ takes.source)
  cases moved with
  | still settlement exceptions =>
    unfold OpenInException at held ⊢
    rwa [Case.isIn, settlement, openExceptions, exceptions, ← Case.isIn, ← openExceptions]
  | created absent made draft exceptions =>
    left
    rw [openExceptions, exceptions]
    rcases held with none | ⟨inException, -⟩
    · exact none
    · simp [Case.isIn, absent] at inException
  | moved found made takes ordinary exceptions =>
    left
    rw [openExceptions, exceptions]
    exact unopened found takes (ordinary_leadsTo ordinary none).1
  | @opened asked seen old new input t e is read found made takes asks answers origin isOpen
      exceptions =>
    obtain ⟨notResolution, leads⟩ := asked.trigger.opens old.exceptionEnteredFrom
    right
    refine ⟨?_, e, ?_⟩
    · have status : new.status = .exception := by
        rw [takes.status, asks.trigger, leads]
        rfl
      simp [Case.isIn, made, status]
    · rw [openExceptions, exceptions, List.filter_append, ← openExceptions,
        unopened found takes (asks.trigger ▸ notResolution)]
      simp [isOpen]
  | @resolved input old new t which now resolvedBy reason found made takes resolution picks
      exceptions =>
    left
    rw [openExceptions, exceptions]
    refine openExceptions_resolved fun q isOpen => ?_
    rcases held with none | ⟨-, e, only⟩
    · rw [none] at isOpen
      cases isOpen
    · rw [only, List.mem_singleton] at isOpen
      exact picks q (by rw [openExceptionFor_eq, only, isOpen, List.head?_cons])
  | unrecorded found made takes notResolution exceptions _ =>
    left
    rw [openExceptions, exceptions]
    exact unopened found takes notResolution

theorem openInException_run (digest : AuthorizedInstruction → String) (ops : List WorldOp)
    (settlementId : String) : OpenInException (caseAfter digest ops settlementId) :=
  caseInvariant (P := fun _ => OpenInException)
    (fun _ _ _ _ _ held moved => moved.exceptions.openInException held) (fun _ => .inl rfl)
    (Along.trivial World.empty ops) settlementId

/-! ### Giving back -/

theorem compensateCancellation_refused {input : CompensateInput} {s s' : Store}
    {refusal : FundingRefusal} (h : Commits (compensateCancellation input) s (.error refusal) s') :
    s' = s := by
  simp only [compensateCancellation, commits_get_bind] at h
  split at h
  · exact (commits_pure.mp h).2
  split at h
  · exact (commits_pure.mp h).2
  split at h
  · obtain ⟨answer, s₁, ran, h⟩ := commits_bind.mp h
    obtain ⟨l, released, rfl⟩ := commits_onLiquidity.mp ran
    rcases releaseReservation_refused released with ⟨-, _, rfl⟩ | ⟨-, ⟨_, rfl⟩, rfl⟩
    · cases (commits_pure.mp h).1
    · exact (commits_pure.mp h).2
  · obtain ⟨answer, s₁, ran, h⟩ := commits_bind.mp h
    obtain ⟨l, requested, rfl⟩ := commits_onLiquidity.mp ran
    rcases requestRepayment_refused requested with ⟨-, _, rfl⟩ | ⟨-, ⟨_, rfl⟩, rfl⟩
    · cases (commits_pure.mp h).1
    · exact (commits_pure.mp h).2
  · cases (commits_pure.mp h).1
  · cases (commits_pure.mp h).1

theorem giveBack_refused {ctx : OperatorContext} {input : OperatorResolveInput} {s s' : Store}
    {refusal : FundingRefusal} (h : Commits (input.giveBack ctx) s (.error refusal) s') :
    s' = s := by
  unfold OperatorResolveInput.giveBack at h
  split at h
  · cases (commits_pure.mp h).1
  · exact compensateCancellation_refused h

/-! ### The transition asked for -/

/-- A reason an operator may act for says something. -/
theorem isStated_of_validateReason {reason : String} (valid : validateReason reason = none) :
    isStated reason = true := by
  by_contra blank
  have spaces : ∀ c ∈ reason.toList, isSpace c = true := by
    simpa [isStated] using blank
  have trimmed : trim reason = [] := by
    rw [trim, List.dropWhile_eq_nil_iff.mpr spaces]
    rfl
  simp [validateReason, trimmed, utf16Length] at valid

/-- The rows that end a settlement in EXCEPTION. -/
theorem resolution_row {resolution : Resolution} (ends : resolution ≠ .resume) :
    ∃ t, resolution.trigger.row = some t ∧ t.id ≠ .t22 ∧ t.source = [.exception] ∧
      t.guards = [.resolutionAttributed,
        if resolution = .fail then .noValueDelivered else .beforePointOfNoReturn] ∧
      t.permittedCompanions = [.reservationReleased, .repaymentRequested] := by
  cases resolution with
  | resume => exact (ends rfl).elim
  | fail => exact ⟨_, rfl, by decide, rfl, rfl, rfl⟩
  | cancel => exact ⟨_, rfl, by decide, rfl, rfl, rfl⟩

/-- Failing and cancelling are asked for with every guard answered, before the point of no
return. -/
theorem operatorTransition_answers {ctx : OperatorContext} {input : OperatorResolveInput}
    {settlement : SettlementRow} (code : ExceptionCode) (compensation : Compensation)
    (named : 0 < ctx.principal.id.length) (stated : isStated ctx.reason = true)
    (before : settlement.pointOfNoReturnAt = none) (ends : input.resolution ≠ .resume) :
    ∃ t, ({ input.transition ctx settlement code compensation with
        expectedVersion := none } : ApplyTransitionInput).Answers t ∧ t.source = [.exception] := by
  obtain ⟨t, row, notResume, source, guards, companions⟩ := resolution_row ends
  refine ⟨t, ⟨row, notResume, rfl, rfl, ?_, ?_⟩, source⟩
  · rw [guards]
    cases resolution : input.resolution with
    | resume => exact (ends resolution).elim
    | fail =>
      simp [OperatorResolveInput.transition, resolution, named, stated, before, List.lookup]
      rfl
    | cancel =>
      simp [OperatorResolveInput.transition, resolution, named, stated, before, List.lookup]
      rfl
  · rw [companions]
    cases compensation <;> simp [OperatorResolveInput.transition, ends, Compensation.companion]

/-- A settlement that is in EXCEPTION before its point of no return, locked at the version the
transition expects, is failed or cancelled. -/
theorem operatorTransition_ok {ctx : OperatorContext} {input : OperatorResolveInput}
    {settlement : SettlementRow} {code : ExceptionCode} {compensation : Compensation} {c c' : Case}
    {r : TransitionOutcome} (named : 0 < ctx.principal.id.length)
    (stated : isStated ctx.reason = true) (before : settlement.pointOfNoReturnAt = none)
    (ends : input.resolution ≠ .resume) (found : c.settlement = some settlement)
    (inException : c.isIn .exception = true)
    (h : Commits (applyTransition (input.transition ctx settlement code compensation)) c r c') :
    ∃ done, r = .ok done := by
  obtain ⟨t, answers, source⟩ :=
    operatorTransition_answers code compensation named stated before ends
  have current : (input.transition ctx settlement code compensation).isStale c = false := by
    simp [ApplyTransitionInput.isStale, found, OperatorResolveInput.transition]
  have status := answers.commits ((applyTransition_current current).mp h)
  rw [source, isIn_source, inException] at status
  rcases status with ⟨-, done, -⟩ | ⟨elsewhere, -⟩
  · exact done
  · cases elsewhere

/-- Once something has been given back, the resolution is not refused. -/
theorem resolveExceptionAsOperator_refused {ctx : OperatorContext} {input : OperatorResolveInput}
    {s s' : Store} {refusal : OperatorRefusal} (held : OpenInException s.case)
    (named : 0 < ctx.principal.id.length)
    (h : Commits (resolveExceptionAsOperator ctx input) s (.error refusal) s') : s' = s := by
  simp only [resolveExceptionAsOperator, requireCapability, bind_assoc, commits_require_bind,
    commits_get_bind] at h
  obtain ⟨-, valid, h⟩ := h
  split at h
  · exact (commits_pure.mp h).2
  rename_i settlement found
  split at h
  · exact (commits_pure.mp h).2
  rename_i open' isOpen
  split at h
  · exact (commits_pure.mp h).2
  rename_i undelivered
  split at h
  · exact (commits_pure.mp h).2
  rename_i uncrossed
  obtain ⟨given, s₁, gave, h⟩ := commits_bind.mp h
  cases given with
  | error why =>
    obtain ⟨-, rfl⟩ := commits_pure.mp h
    exact giveBack_refused gave
  | ok compensation =>
    obtain ⟨outcome, s₂, ran, h⟩ := commits_bind.mp h
    obtain ⟨c, applied, rfl⟩ := commits_onCase.mp ran
    rw [giveBack_case gave] at applied
    cases outcome with
    | ok done =>
      obtain ⟨_, _, -, h⟩ := commits_bind.mp h
      obtain ⟨_, _, -, h⟩ := commits_bind.mp h
      cases (commits_pure.mp h).1
    | error failure =>
      obtain ⟨-, rfl⟩ := commits_pure.mp h
      by_cases ends : input.resolution = .resume
      · -- Nothing is given back on the way to where the exception was entered from.
        simp only [OperatorResolveInput.giveBack, ends, if_true] at gave
        obtain ⟨-, rfl⟩ := commits_pure.mp gave
        rcases applyTransition_moved applied with ⟨-, rfl⟩ | ⟨⟨done, is⟩, -⟩
        · rfl
        · cases is
      · have before : settlement.pointOfNoReturnAt = none := by
          cases resolution : input.resolution with
          | resume => exact (ends resolution).elim
          | fail => simpa [resolution] using undelivered
          | cancel => simpa [resolution] using uncrossed
        have inException : s.case.isIn .exception = true := by
          rcases held with none | ⟨inException, -⟩
          · rw [openExceptionFor_eq, none] at isOpen
            cases isOpen
          · exact inException
        obtain ⟨done, is⟩ := operatorTransition_ok named (isStated_of_validateReason valid) before
          ends found inException applied
        cases is

/-- In every state a run reaches, a resolution refused to an operator leaves every row as it
was. -/
theorem resolveExceptionAsOperator_atomic (digest : AuthorizedInstruction → String)
    (ops : List WorldOp) (settlementId : String) (ctx : OperatorContext)
    (input : OperatorResolveInput) (named : 0 < ctx.principal.id.length) :
    RefusalKeeps id (resolveExceptionAsOperator ctx input)
      ((run (World.step digest) World.empty ops).now.store settlementId) :=
  fun _ _ refused =>
    resolveExceptionAsOperator_refused (openInException_run digest ops settlementId) named refused

/-- The lender did fund the drawdown it had not answered for, and what is drawn is being repaid: the
operator cannot fail the settlement, and nothing of the attempt to is kept. -/
def repaidMeanwhile : List WorldOp := authorizing ++ capacity ++ [
  drawing, unanswered, resolving .confirmed 6,
  .funding (.requestRepayment {
    facilityId := "facility", amount := rupees 1000, source := .scheduled, actor := worker
    repaymentId := "p1", now := 7 })]

def failingInput : OperatorResolveInput := ⟨"s", .fail, "p2", "t3", 8⟩

def operatorOnDuty : OperatorContext :=
  ⟨⟨.user, "operator"⟩, [.exceptionResolve], "exception.resolve", "the lender does not answer"⟩

theorem resolution_refused_clean :
    answer (resolveExceptionAsOperator operatorOnDuty failingInput) (reached repaidMeanwhile) =
        some (.error (.compensationFailed (.repayment (.exceedsOutstanding 1000 0 1000)))) ∧
      RefusalKeeps id (resolveExceptionAsOperator operatorOnDuty failingInput)
        (reached repaidMeanwhile) :=
  ⟨by decide +kernel,
    resolveExceptionAsOperator_atomic (fun _ => "hash") repaidMeanwhile "s" operatorOnDuty failingInput
      (by decide +kernel)⟩

end InrSettle
