import InrSettle.Library.Machine

/-!
# The settlement machine

Statuses, events, guards and the table T01–T30. The table is the only place the
machine is defined; `evaluateTransition` reads it and decides what a settlement
may do next.
-/

namespace InrSettle

inductive SettlementStatus where
  | draft | preflighting | actionRequired | ready | quoted | authorized
  | liquidityReserving | liquidityReserved | drawdownRequested | drawdownConfirmed
  | payoutSubmitted | payoutConfirmed | reconciling | exception
  | settled | failed | cancelled
  deriving DecidableEq, Repr

namespace SettlementStatus

def wire : SettlementStatus → String
  | draft => "DRAFT" | preflighting => "PREFLIGHTING" | actionRequired => "ACTION_REQUIRED"
  | ready => "READY" | quoted => "QUOTED" | authorized => "AUTHORIZED"
  | liquidityReserving => "LIQUIDITY_RESERVING" | liquidityReserved => "LIQUIDITY_RESERVED"
  | drawdownRequested => "DRAWDOWN_REQUESTED" | drawdownConfirmed => "DRAWDOWN_CONFIRMED"
  | payoutSubmitted => "PAYOUT_SUBMITTED" | payoutConfirmed => "PAYOUT_CONFIRMED"
  | reconciling => "RECONCILING" | exception => "EXCEPTION"
  | settled => "SETTLED" | failed => "FAILED" | cancelled => "CANCELLED"

/-- `TERMINAL_STATUSES`: no outgoing transitions, and no field writes of any kind. -/
def isTerminal : SettlementStatus → Bool
  | settled | failed | cancelled => true
  | _ => false

end SettlementStatus

inductive CustomerStatus where
  | ready | settling | settled | actionRequired | cancelled
  deriving DecidableEq, Repr

/-- The canonical event of each status-changing transition. -/
inductive SettlementStatusEvent where
  | created | preflightStarted | ready | actionRequired | quoted | authorized
  | liquidityReservationStarted | liquidityReserved | drawdownRequested | drawdownConfirmed
  | payoutSubmitted | payoutConfirmed | reconciliationStarted | settled
  | exceptionOpened | exceptionResolved | failed | cancelled
  deriving DecidableEq, Repr

inductive CompanionEvent where
  | preflightCompleted | cancellationRequested | replacementCreated
  | quoteLocked | quoteConsumed | quoteExpired | quoteVoided
  | reservationCreated | reservationReleased | reservationExpired
  | drawdownConfirmed | repaymentRequested
  | reconciled | receiptAvailable
  deriving DecidableEq, Repr

inductive TransitionId where
  | t01 | t02 | t03 | t04 | t05 | t06 | t07 | t08 | t09 | t10
  | t11 | t12 | t13 | t14 | t15 | t16 | t17 | t18 | t19 | t20
  | t21 | t22 | t23 | t24 | t25 | t26 | t27 | t28 | t29 | t30
  deriving DecidableEq, Repr

def TransitionId.wire : TransitionId → String
  | t01 => "T01" | t02 => "T02" | t03 => "T03" | t04 => "T04" | t05 => "T05"
  | t06 => "T06" | t07 => "T07" | t08 => "T08" | t09 => "T09" | t10 => "T10"
  | t11 => "T11" | t12 => "T12" | t13 => "T13" | t14 => "T14" | t15 => "T15"
  | t16 => "T16" | t17 => "T17" | t18 => "T18" | t19 => "T19" | t20 => "T20"
  | t21 => "T21" | t22 => "T22" | t23 => "T23" | t24 => "T24" | t25 => "T25"
  | t26 => "T26" | t27 => "T27" | t28 => "T28" | t29 => "T29" | t30 => "T30"

inductive Trigger where
  | create | runPreflight | preflightPassed | preflightBlocked | requirementResolved
  | attachQuote | quoteExpired | authorize | beginReservation | reservationSucceeded
  | reservationFailed | requestDrawdown | drawdownConfirmed | drawdownFailed | dispatchPayout
  | payoutCredited | payoutRejected | payoutTimeout | beginReconciliation | reconciledMatched
  | reconciledMismatch | resolveResume | resolveFail | resolveCancel | cancel
  | requestCancellation | cancellationHonoured | reservationExpired | drawdownTimeout
  | reconciliationStalled
  deriving DecidableEq, Repr

def Trigger.wire : Trigger → String
  | create => "create" | runPreflight => "run_preflight" | preflightPassed => "preflight_passed"
  | preflightBlocked => "preflight_blocked" | requirementResolved => "requirement_resolved"
  | attachQuote => "attach_quote" | quoteExpired => "quote_expired" | authorize => "authorize"
  | beginReservation => "begin_reservation" | reservationSucceeded => "reservation_succeeded"
  | reservationFailed => "reservation_failed" | requestDrawdown => "request_drawdown"
  | drawdownConfirmed => "drawdown_confirmed" | drawdownFailed => "drawdown_failed"
  | dispatchPayout => "dispatch_payout" | payoutCredited => "payout_credited"
  | payoutRejected => "payout_rejected" | payoutTimeout => "payout_timeout"
  | beginReconciliation => "begin_reconciliation" | reconciledMatched => "reconciled_matched"
  | reconciledMismatch => "reconciled_mismatch" | resolveResume => "resolve_resume"
  | resolveFail => "resolve_fail" | resolveCancel => "resolve_cancel" | cancel => "cancel"
  | requestCancellation => "request_cancellation"
  | cancellationHonoured => "cancellation_honoured"
  | reservationExpired => "reservation_expired" | drawdownTimeout => "drawdown_timeout"
  | reconciliationStalled => "reconciliation_stalled"

/-- Questions the application answers from state it holds under the row lock. -/
inductive Guard where
  | workspaceActive | environmentValid | beneficiaryAmountPurposePresent
  | noBlockingRequirements | hasBlockingRequirements | requirementChanged
  | quoteAttachable | quoteExpiredByServerClock | quoteValidForAuthorization
  | beneficiaryVerified | destinationVersionVerified | actorMayAuthorize
  | preflightStillPassing | activeLiquidityFacility | noCancellationPending | facilityActive
  | sufficientAvailability | activeReservationExists | providerEventVerified | railSelected
  | beforePointOfNoReturn | utrPresentAndWellFormed | trustedProviderEvent | railSlaElapsed
  | finalityConditionsMet | nonZeroDelta | resolutionAttributed | noValueDelivered
  | actorMayCancel | cancellationPending | atCheckpoint | reservationTtlReached
  | drawdownSlaElapsed | reconciliationSlaElapsed
  deriving DecidableEq, Repr

structure Transition where
  id : TransitionId
  /-- Empty for T01, which creates. -/
  source : List SettlementStatus
  trigger : Trigger
  /-- `none` for T26, an annotation, and for T22, whose destination is data. -/
  target : Option SettlementStatus
  guards : List Guard
  statusEvent : Option SettlementStatusEvent
  companionEvents : List CompanionEvent := []
  companionChoice : List CompanionEvent := []
  deriving DecidableEq, Repr

def Transition.permittedCompanions (t : Transition) : List CompanionEvent :=
  t.companionEvents ++ t.companionChoice

open SettlementStatus in
/-- The normative table, in the order of the frozen document. -/
def transitions : List Transition := [
  { id := .t01, source := [], trigger := .create, target := some draft,
    guards := [.workspaceActive, .environmentValid], statusEvent := some .created },
  { id := .t02, source := [draft], trigger := .runPreflight, target := some preflighting,
    guards := [.beneficiaryAmountPurposePresent], statusEvent := some .preflightStarted },
  { id := .t03, source := [preflighting], trigger := .preflightPassed, target := some ready,
    guards := [.noBlockingRequirements], statusEvent := some .ready,
    companionEvents := [.preflightCompleted] },
  { id := .t04, source := [preflighting], trigger := .preflightBlocked,
    target := some actionRequired, guards := [.hasBlockingRequirements],
    statusEvent := some .actionRequired, companionEvents := [.preflightCompleted] },
  { id := .t05, source := [actionRequired], trigger := .requirementResolved,
    target := some preflighting, guards := [.requirementChanged],
    statusEvent := some .preflightStarted },
  { id := .t06, source := [ready], trigger := .attachQuote, target := some quoted,
    guards := [.quoteAttachable], statusEvent := some .quoted,
    companionEvents := [.quoteLocked] },
  { id := .t07, source := [quoted], trigger := .quoteExpired, target := some ready,
    guards := [.quoteExpiredByServerClock], statusEvent := some .ready,
    companionEvents := [.quoteExpired] },
  { id := .t08, source := [quoted], trigger := .authorize, target := some authorized,
    guards := [.quoteValidForAuthorization, .beneficiaryVerified, .destinationVersionVerified,
      .actorMayAuthorize, .preflightStillPassing, .activeLiquidityFacility],
    statusEvent := some .authorized, companionEvents := [.quoteConsumed] },
  { id := .t09, source := [authorized], trigger := .beginReservation,
    target := some liquidityReserving, guards := [.facilityActive, .noCancellationPending],
    statusEvent := some .liquidityReservationStarted },
  { id := .t10, source := [liquidityReserving], trigger := .reservationSucceeded,
    target := some liquidityReserved, guards := [.sufficientAvailability],
    statusEvent := some .liquidityReserved, companionEvents := [.reservationCreated] },
  { id := .t11, source := [liquidityReserving], trigger := .reservationFailed,
    target := some exception, guards := [], statusEvent := some .exceptionOpened },
  { id := .t12, source := [liquidityReserved], trigger := .requestDrawdown,
    target := some drawdownRequested,
    guards := [.activeReservationExists, .noCancellationPending],
    statusEvent := some .drawdownRequested },
  { id := .t13, source := [drawdownRequested], trigger := .drawdownConfirmed,
    target := some drawdownConfirmed, guards := [.providerEventVerified],
    statusEvent := some .drawdownConfirmed, companionEvents := [.drawdownConfirmed] },
  { id := .t14, source := [drawdownRequested], trigger := .drawdownFailed,
    target := some exception, guards := [.providerEventVerified],
    statusEvent := some .exceptionOpened, companionEvents := [.reservationReleased] },
  -- The dispatch transaction: its commit is the point of no return.
  { id := .t15, source := [drawdownConfirmed], trigger := .dispatchPayout,
    target := some payoutSubmitted,
    guards := [.railSelected, .destinationVersionVerified, .noCancellationPending,
      .beforePointOfNoReturn],
    statusEvent := some .payoutSubmitted },
  { id := .t16, source := [payoutSubmitted], trigger := .payoutCredited,
    target := some payoutConfirmed, guards := [.trustedProviderEvent, .utrPresentAndWellFormed],
    statusEvent := some .payoutConfirmed },
  { id := .t17, source := [payoutSubmitted], trigger := .payoutRejected,
    target := some exception, guards := [.trustedProviderEvent],
    statusEvent := some .exceptionOpened },
  { id := .t18, source := [payoutSubmitted], trigger := .payoutTimeout,
    target := some exception, guards := [.railSlaElapsed], statusEvent := some .exceptionOpened },
  { id := .t19, source := [payoutConfirmed], trigger := .beginReconciliation,
    target := some reconciling, guards := [], statusEvent := some .reconciliationStarted },
  { id := .t20, source := [reconciling], trigger := .reconciledMatched, target := some settled,
    guards := [.finalityConditionsMet], statusEvent := some .settled,
    companionEvents := [.reconciled, .receiptAvailable] },
  { id := .t21, source := [reconciling], trigger := .reconciledMismatch,
    target := some exception, guards := [.nonZeroDelta], statusEvent := some .exceptionOpened,
    companionEvents := [.reconciled] },
  -- Resumes to `exception_entered_from`: the destination is data, not a constant.
  { id := .t22, source := [exception], trigger := .resolveResume, target := none,
    guards := [.resolutionAttributed], statusEvent := some .exceptionResolved },
  { id := .t23, source := [exception], trigger := .resolveFail, target := some failed,
    guards := [.resolutionAttributed, .noValueDelivered], statusEvent := some .failed,
    companionChoice := [.reservationReleased, .repaymentRequested] },
  { id := .t24, source := [exception], trigger := .resolveCancel, target := some cancelled,
    guards := [.resolutionAttributed, .beforePointOfNoReturn], statusEvent := some .cancelled,
    companionChoice := [.reservationReleased, .repaymentRequested] },
  { id := .t25, source := [draft, ready, quoted, actionRequired], trigger := .cancel,
    target := some cancelled, guards := [.actorMayCancel], statusEvent := some .cancelled,
    companionChoice := [.quoteExpired] },
  -- An annotation: no status change, so no status event.
  { id := .t26,
    source := [authorized, liquidityReserving, liquidityReserved, drawdownRequested,
      drawdownConfirmed],
    trigger := .requestCancellation, target := none,
    guards := [.beforePointOfNoReturn, .actorMayCancel], statusEvent := none,
    companionEvents := [.cancellationRequested] },
  { id := .t27, source := [authorized, liquidityReserved, drawdownConfirmed],
    trigger := .cancellationHonoured, target := some cancelled,
    guards := [.cancellationPending, .atCheckpoint, .beforePointOfNoReturn],
    statusEvent := some .cancelled,
    companionChoice := [.reservationReleased, .repaymentRequested] },
  { id := .t28, source := [liquidityReserved], trigger := .reservationExpired,
    target := some exception, guards := [.reservationTtlReached],
    statusEvent := some .exceptionOpened, companionEvents := [.reservationExpired] },
  { id := .t29, source := [drawdownRequested], trigger := .drawdownTimeout,
    target := some exception, guards := [.drawdownSlaElapsed],
    statusEvent := some .exceptionOpened },
  { id := .t30, source := [reconciling], trigger := .reconciliationStalled,
    target := some exception, guards := [.reconciliationSlaElapsed],
    statusEvent := some .exceptionOpened }]

/-! ### The row of a trigger -/

namespace Trigger

/-- The row that answers a trigger; no two rows answer the same one. -/
def row (trigger : Trigger) : Option Transition :=
  transitions.find? fun t => decide (t.trigger = trigger)

def sources (trigger : Trigger) : List SettlementStatus :=
  (trigger.row.map (·.source)).getD []

def guards (trigger : Trigger) : List Guard :=
  (trigger.row.map (·.guards)).getD []

/-- Where the trigger leads; resuming leads to where the exception was entered from. -/
def leadsTo (trigger : Trigger) (enteredFrom : Option SettlementStatus) :
    Option SettlementStatus :=
  if trigger = .resolveResume then enteredFrom else trigger.row.bind (·.target)

end Trigger

theorem row_of_mem : ∀ t ∈ transitions, t.trigger.row = some t := by decide +kernel

theorem resumes_iff : ∀ t ∈ transitions, t.id = .t22 ↔ t.trigger = .resolveResume := by
  decide +kernel

/-! ### Evaluation -/

/-- Answers to the named guards; a guard that is absent was not answered. -/
abbrev GuardContext := List (Guard × Bool)

structure TransitionRequest where
  source : Option SettlementStatus
  trigger : Trigger
  guards : GuardContext
  exceptionEnteredFrom : Option SettlementStatus := none

inductive TransitionResult where
  | ok (transition : Transition) (target : Option SettlementStatus)
  | invalidTransition (source : Option SettlementStatus) (trigger : Trigger)
  | guardFailed (transition : TransitionId) (failed : List Guard)
  | guardUnanswered (transition : TransitionId) (unanswered : List Guard)
  | resumeTargetUnknown (transition : TransitionId)
  deriving DecidableEq, Repr

def Transition.leaves (t : Transition) : Option SettlementStatus → Bool
  | none => t.source.isEmpty
  | some s => decide (s ∈ t.source)

/-- The single entry point: anything not explicitly legal is `invalidTransition`. -/
def evaluateTransition (request : TransitionRequest) : TransitionResult :=
  match transitions.filter fun t => decide (t.trigger = request.trigger) && t.leaves request.source with
  | [t] =>
    let unanswered := t.guards.filter fun g => (request.guards.lookup g).isNone
    let failed := t.guards.filter fun g => request.guards.lookup g == some false
    if unanswered ≠ [] then .guardUnanswered t.id unanswered
    else if failed ≠ [] then .guardFailed t.id failed
    else if t.id = .t22 then
      match request.exceptionEnteredFrom with
      | none => .resumeTargetUnknown t.id
      | some origin => .ok t (some origin)
    else .ok t t.target
  | _ => .invalidTransition request.source request.trigger

/-- Where an accepted transition leads. -/
def Transition.leadsTo (t : Transition) (enteredFrom : Option SettlementStatus) :
    Option SettlementStatus :=
  if t.id = .t22 then enteredFrom else t.target

/-- An accepted request names a row of the table, from where the settlement is, with every
guard of that row answered true. -/
theorem evaluateTransition_ok {request : TransitionRequest} {t : Transition}
    {target : Option SettlementStatus} (h : evaluateTransition request = .ok t target) :
    t ∈ transitions ∧ t.trigger = request.trigger ∧ t.leaves request.source = true ∧
      (∀ g ∈ t.guards, request.guards.lookup g = some true) ∧
      target = t.leadsTo request.exceptionEnteredFrom ∧
      (t.id = .t22 → request.exceptionEnteredFrom.isSome) := by
  unfold evaluateTransition at h
  split at h
  case h_2 => cases h
  case h_1 found only =>
    have member : found ∈ transitions ∧ found.trigger = request.trigger ∧
        found.leaves request.source = true := by
      have inFilter : found ∈ transitions.filter fun t =>
          decide (t.trigger = request.trigger) && t.leaves request.source := by simp [only]
      simpa using List.mem_filter.mp inFilter
    simp only at h
    split at h
    · cases h
    split at h
    · cases h
    rename_i answered passed
    have held : ∀ g ∈ found.guards, request.guards.lookup g = some true := by
      intro g hg
      have known := List.filter_eq_nil_iff.mp (not_not.mp answered) g hg
      have notFalse := List.filter_eq_nil_iff.mp (not_not.mp passed) g hg
      cases answer : request.guards.lookup g with
      | none => simp [answer] at known
      | some value => cases value <;> simp_all
    split at h
    · rename_i isResume
      cases origin : request.exceptionEnteredFrom with
      | none => simp [origin] at h
      | some from' =>
        simp only [origin, TransitionResult.ok.injEq] at h
        obtain ⟨rfl, rfl⟩ := h
        exact ⟨member.1, member.2.1, member.2.2, held, by simp [Transition.leadsTo, isResume],
          fun _ => rfl⟩
    · rename_i notResume
      simp only [TransitionResult.ok.injEq] at h
      obtain ⟨rfl, rfl⟩ := h
      exact ⟨member.1, member.2.1, member.2.2, held, by simp [Transition.leadsTo, notResume],
        fun resume => (notResume resume).elim⟩

end InrSettle
