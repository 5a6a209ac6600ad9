import InrSettle.System.Operations
import InrSettle.System.Turns

/-!
# What one operation can do

Every committed operation on a settlement, said once: the rows it wrote, in the
state it found, and the transition it took or was refused. Every invariant of a
settlement is proved by cases on this.
-/

namespace InrSettle

open Transaction CaseTables

/-! ### Plain operations -/

/-- The triggers of the operations that move the settlement and write no other row. -/
def SettlementOp.plainTriggers : SettlementOp → List Trigger
  | startPreflight .. => [.runPreflight]
  | completePreflight _ => [.preflightPassed, .preflightBlocked]
  | attachQuote .. => [.attachQuote]
  | expireAttachedQuote .. => [.quoteExpired]
  | cancelSettlement _ => [.cancel, .requestCancellation]
  | requestCancellation _ => [.requestCancellation]
  | honourCancellation _ => [.cancellationHonoured]
  | beginReservation _ => [.beginReservation]
  | _ => []

/-- The columns the plain operations write, the status apart. -/
def PlainPatch (patch : List ColumnWrite) : Prop :=
  ∀ row, ∃ quoteId requestedAt requestedBy, applyPatch patch row =
    { row with quoteId := quoteId
               cancellationRequestedAt := requestedAt
               cancellationRequestedBy := requestedBy }

theorem plainPatch_nil : PlainPatch [] :=
  fun row => ⟨row.quoteId, row.cancellationRequestedAt, row.cancellationRequestedBy, rfl⟩

theorem plainPatch_quoteId (value : Option String) : PlainPatch [.quoteId value] :=
  fun row => ⟨value, row.cancellationRequestedAt, row.cancellationRequestedBy, rfl⟩

theorem plainPatch_cancellation (now : Instant) (requestedBy : String) :
    PlainPatch [.cancellationRequestedAt now, .cancellationRequestedBy requestedBy] :=
  fun row => ⟨row.quoteId, some now, some requestedBy, rfl⟩

/-! ### Outcomes of an attempt -/

/-- The row an outcome leaves of the attempt it is applied to. -/
def PayoutOutcomeInput.set (input : PayoutOutcomeInput) (a : PayoutAttemptRow) :
    PayoutAttemptRow :=
  match input.outcome with
  | .credited => credited input a
  | .rejected => rejected input a
  | .accepted => accepted input a
  | .returned => returned input a
  | .unknown => a

/-- The attempts an outcome changes. -/
def PayoutOutcomeInput.Permits (input : PayoutOutcomeInput) (a : PayoutAttemptRow) : Prop :=
  match input.outcome with
  | .credited => a.status.isInFlight = true ∧ isWellFormedUtr input.utr = true
  | .rejected => a.status.isInFlight = true
  | .accepted => a.status = .submitted
  | .returned => a.status = .credited
  | .unknown => False

/-- The case with one attempt updated. -/
def withAttempt (c : Case) (attemptId : String) (set : PayoutAttemptRow → PayoutAttemptRow) :
    Case :=
  { c with attempts := Table.setWhere (fun a => decide (a.id = attemptId)) set c.attempts }

/-- What the database asks of an update of an attempt. -/
def AttemptAllowed (c : Case) (attemptId : String) (set : PayoutAttemptRow → PayoutAttemptRow) :
    Prop :=
  ∀ a ∈ c.attempts, a.id = attemptId →
    attemptMayBecome a (set a) = true ∧ attemptChecks (set a) = true

/-- What the database asks of a new attempt. -/
structure AttemptFresh (c : Case) (a : PayoutAttemptRow) : Prop where
  ids : ∀ b ∈ c.attempts, b.id ≠ a.id
  checks : attemptChecks a = true
  numbers : ∀ b ∈ c.attempts, b.attemptNumber ≠ a.attemptNumber
  oneInFlight : Table.admits oneInFlight c.attempts a = true

/-- The transition was refused, or it moved the settlement. -/
def Turn (input : ApplyTransitionInput) (c c' : Case) : Prop := c' = c ∨ Moved input c c'

/-- The trigger, patch and code of an input. -/
structure Asks (input : ApplyTransitionInput) (trigger : Trigger) (patch : List ColumnWrite)
    (code : Option ExceptionCode) : Prop where
  trigger : input.trigger = trigger
  patch : input.patch = patch
  code : input.exceptionCode = code

/-- The case with its exceptions stamped where they match. -/
def withResolved (c : Case) (which : SettlementExceptionRow → Bool) (now : Instant)
    (resolvedBy reason : String) : Case :=
  { c with exceptions := Table.setWhere which (resolved now resolvedBy reason) c.exceptions }

/-- The case with the settlement's drawdown moved. -/
def withDrawdown (c : Case) (drawdownId : String) (target : DrawdownStatus) (now : Instant)
    (providerReference : Option String) : Case :=
  { c with
    drawdowns := Table.setWhere (fun d => decide (d.id = drawdownId))
      (movedDrawdown target now providerReference) c.drawdowns }

def Case.noted (c : Case) (audits : List AuditRow) : Case :=
  { c with audits := c.audits ++ audits }

def Case.reconciling (c : Case) (row : ReconciliationRow) : Case :=
  { c with reconciliation := some row }

def Case.evaluated (c : Case) (row : FinalityEvaluationRow) : Case :=
  { c with evaluations := c.evaluations ++ [row] }

/-- The case with one return updated. -/
def withReturn (c : Case) (returnId : String) (set : SettlementReturnRow → SettlementReturnRow) :
    Case :=
  { c with returns := Table.setWhere (fun r => decide (r.id = returnId)) set c.returns }

def Case.observing (c : Case) (observation : ReturnObservationRow) : Case :=
  { c with returnObservations := c.returnObservations ++ [observation] }

def Case.recorded (c : Case) (events : List EventRow) (audits : List AuditRow) : Case :=
  { c with events := c.events ++ events, audits := c.audits ++ audits }

def Store.withCase (s : Store) (c : Case) : Store := { s with case := c }

/-- The outcome the operation reports. -/
def SettlementOp.reports : SettlementOp → Option PayoutOutcomeInput
  | applyPayoutOutcome _ input | applyEvent _ input _ => some input
  | _ => none

/-! ### Returns -/

/-- What was checked before a return is counted, and the total it brings the attempt to. -/
structure Counts (c : Case) (input : ConfirmInput) (current : SettlementReturnRow)
    (attempt : PayoutAttemptRow) (total : Int) (observation : ReturnObservationRow) : Prop where
  found : findReturn c input.returnId = some current
  pending : current.status = .observed ∨ current.status = .manualReview
  against : (c.attempts.find? fun a => decide (a.id = current.payoutAttemptId)) = some attempt
  covered : checkReturnCap attempt.creditedMinor
    (attempt.amountCurrency.getD current.amountCurrency)
    (confirmedSoFar c current.payoutAttemptId) ⟨current.amountCurrency, current.amountMinor⟩ =
      .ok total
  allowed : AttemptAllowed c attempt.id (totalled total)
  upheld : ∃ source, input.check = .upheld observation.observedAmountMinor source

/-- The case with the return counted and the attempt's total brought up to it. -/
def ConfirmInput.counted (input : ConfirmInput) (current : SettlementReturnRow)
    (attempt : PayoutAttemptRow) (total : Int) (observation : ReturnObservationRow) (c : Case) :
    Case :=
  (withReturn (withAttempt c attempt.id (totalled total)) current.id (confirmed input)).observing
    observation

/-! ### Reservations -/

/-- The reservation a settlement asks its facility for. -/
def ReserveForInput.reserve (input : ReserveForInput) (stamp : ReserveStamp) : ReserveInput where
  facilityId := input.facilityId
  settlementId := input.settlementId
  amount := input.fundingAmount
  ttlSeconds := input.ttlSeconds
  actor := input.actor
  reservationId := stamp.reservationId
  transferId := stamp.transferId
  now := stamp.now

/-- Whether the facility refuses the reservation. -/
def reservationRefused (l : Liquidity) (input : ReserveInput) : Bool :=
  decide (0 < input.ttlSeconds) && (FundingTables.facilityOf l input.facilityId).any fun f =>
    (canReserve f.position (f.limitMinor - f.drawnMinor - f.reservedMinor) f.status
      input.amount).isSome ||
    l.reservations.any fun r => r.settlementId == input.settlementId && r.status == .active

/-! ### The moves -/

/-- Everything one committed operation on a settlement can do. -/
inductive StoreMove (digest : AuthorizedInstruction → String) (read : Reads) (s : Store) :
    SettlementOp → Store → Prop where
  /-- Nothing but audit rows. -/
  | noted {op : SettlementOp} (audits : List AuditRow) :
    StoreMove digest read s op (s.withCase (s.case.noted audits))
  | created {op : CreateInput} {events : List EventRow} {audits : List AuditRow} :
    s.case.settlement = none → settlementChecks op.row = true →
    StoreMove digest read s (.createSettlement op) (s.withCase { s.case with
      settlement := some op.row
      events := s.case.events ++ events
      audits := s.case.audits ++ audits })
  | plain {op : SettlementOp} {input : ApplyTransitionInput} {c : Case} :
    input.trigger ∈ op.plainTriggers → PlainPatch input.patch → Moved input s.case c →
    StoreMove digest read s op (s.withCase c)
  | authorized {op : AuthorizeInput} {row : SettlementRow} {destination : DestinationView}
      {quote : QuoteView} {input : ApplyTransitionInput} {c : Case} :
    read.settlement = some row →
    Asks input .authorize (authorizationPatch digest row destination quote op) none →
    input.actor = op.actor → Moved input s.case c →
    StoreMove digest read s (.authorizeSettlement op) (s.withCase c)
  | dispatched {op : DispatchInput} {old : SettlementRow} {versionId key : String}
      {input : ApplyTransitionInput} {c : Case} :
    s.case.settlement = some old → old.pointOfNoReturnAt = none →
    old.destinationVersionId = some versionId → s.case.attempts = [] →
    payoutIdempotencyKey op.settlementId 1 = some key →
    Asks input .dispatchPayout [.pointOfNoReturnAt op.now, .payoutAttemptId op.attemptId] none →
    Moved input s.case c → AttemptFresh c (op.attempt versionId key) →
    StoreMove digest read s (.dispatchPayout op)
      (s.withCase { c with attempts := c.attempts ++ [op.attempt versionId key] })
  | openedException {op : OpenExceptionInput} {row : SettlementRow}
      {input : ApplyTransitionInput} {c : Case} :
    read.settlement = some row → Asks input op.trigger.trigger [] (some op.code) →
    input.guards = op.guards → Moved input s.case c →
    (∀ q ∈ s.case.exceptions, q.id ≠ op.exceptionId) →
    Table.admits oneOpen s.case.exceptions
      { id := op.exceptionId, code := op.code, enteredFrom := row.status } = true →
    StoreMove digest read s (.openException op) (s.withCase { c with
      exceptions := c.exceptions ++
        [{ id := op.exceptionId, code := op.code, enteredFrom := row.status }] })
  | resolvedException {op : ResolveInput} {row : SettlementRow} {input : ApplyTransitionInput}
      {c : Case} :
    read.settlement = some row → Asks input op.resolution.trigger [] none →
    isStated op.reason = true → (op.resolution ≠ .resume → row.pointOfNoReturnAt = none) →
    Moved input s.case c →
    StoreMove digest read s (.resolveException op) (s.withCase
      (withResolved c (·.resolvedAt.isNone) op.now op.actor.id op.reason))
  | submitted {settlementId : String} {op : SubmissionInput} :
    AttemptAllowed s.case op.attemptId (acknowledged op) →
    StoreMove digest read s (.recordSubmission settlementId op)
      (s.withCase (withAttempt s.case op.attemptId (acknowledged op)))
  | outcome {op : SettlementOp} {input : PayoutOutcomeInput} {a : PayoutAttemptRow} {c : Case} :
    op.reports = some input → latestAttempt s.case = some a → input.trusted = true →
    input.Permits a → AttemptAllowed s.case a.id input.set →
    (c = withAttempt s.case a.id input.set ∨
      read.settlement.map (·.status) ≠ some .exception ∧
      (input.outcome = .credited ∨ input.outcome = .rejected) ∧
      Moved (outcomeTransition input a) (withAttempt s.case a.id input.set) c) →
    StoreMove digest read s op (s.withCase c)
  | swept {settlementId : String} {op : SweepInput} {a : PayoutAttemptRow}
      {input : ApplyTransitionInput} {c : Case} :
    latestAttempt s.case = some a → (a.status = .submitted ∨ a.status = .accepted) →
    slaElapsed a.dispatchedAt a.slaSeconds op.now = true →
    AttemptAllowed s.case a.id overdue →
    Asks input .payoutTimeout [] (some .payoutStatusUnknown) →
    Turn input (withAttempt s.case a.id overdue) c →
    StoreMove digest read s (.sweepPayoutSla settlementId op) (s.withCase c)
  | retried {op : RetryInput} {previous : PayoutAttemptRow} {key : String}
      {audits : List AuditRow} :
    latestAttempt s.case = some previous → previous.status = .rejected →
    payoutIdempotencyKey op.settlementId (previous.attemptNumber + 1) = some key →
    AttemptFresh s.case (op.attempt previous key) →
    StoreMove digest read s (.retryPayout op) (s.withCase { s.case with
      attempts := s.case.attempts ++ [op.attempt previous key]
      audits := s.case.audits ++ audits })
  | reserved {settlementId : String} {stamp : ReserveStamp} {op : ReserveForInput}
      {input : ApplyTransitionInput} {c : Case} {events : List EventRow} :
    read.pending = some op → ReserveAllowed (op.reserve stamp) s.liquidity →
    Asks input .reservationSucceeded [] none → Turn input s.case c →
    StoreMove digest read s (.completeReservation settlementId stamp)
      ⟨c, { reserving (op.reserve stamp) s.liquidity with events := events }⟩
  | reservationFailed {settlementId : String} {stamp : ReserveStamp} {op : ReserveForInput}
      {input : ApplyTransitionInput} {code : ExceptionCode} {c : Case} :
    read.pending = some op → reservationRefused s.liquidity (op.reserve stamp) = true →
    Asks input .reservationFailed [] (some code) → Moved input s.case c →
    StoreMove digest read s (.completeReservation settlementId stamp) (s.withCase c)
  | drawn {op : DrawInput} {reservation : ReservationRow} {input : ApplyTransitionInput}
      {c : Case} :
    activeReservation s.liquidity op.settlementId = some reservation →
    Asks input .requestDrawdown [] none → Moved input s.case c →
    (∀ q ∈ s.case.drawdowns, q.id ≠ op.drawdownId) →
    (∀ q ∈ s.case.drawdowns, q.status.isTerminal = true) →
    StoreMove digest read s (.requestDrawdown op)
      (s.withCase { c with drawdowns := c.drawdowns ++ [op.row reservation] })
  | drawdownResolved {op : ResolveDrawdownInput} {d : DrawdownRow} {row : DrawdownTransition}
      {r : Except ReservationRefusal PUnit} {c : Case} {l : Liquidity} :
    latestDrawdown s.case = some d →
    drawdownMachine.evaluate (some d.status) op.trigger.trigger = some row →
    Commits (followReservation op row.target) s.liquidity r l →
    (c = withDrawdown s.case d.id row.target op.now op.providerReference ∨
      r = .ok ⟨⟩ ∧ Moved (drawdownTransition op row.target)
        (withDrawdown s.case d.id row.target op.now op.providerReference) c) →
    StoreMove digest read s (.resolveDrawdown op) ⟨c, l⟩
  | compensated {op : CompensateInput} {r : Except FundingRefusal Compensation} {l : Liquidity} :
    Commits (compensateCancellation op) s r ⟨s.case, l⟩ →
    StoreMove digest read s (.compensateCancellation op) ⟨s.case, l⟩
  | released {op : ReleaseInput} {r : Except ReservationRefusal ReservationDone}
      {l : Liquidity} :
    Commits (releaseReservation op) s.liquidity r l →
    StoreMove digest read s (.releaseReservation op) ⟨s.case, l⟩
  | operatorResolved {ctx : OperatorContext} {op : OperatorResolveInput} {old : SettlementRow}
      {e : SettlementExceptionRow} {r : Except FundingRefusal Compensation} {c : Case}
      {l : Liquidity} :
    s.case.settlement = some old → openExceptionFor s.case = some e →
    (op.resolution ≠ .resume → old.pointOfNoReturnAt = none) →
    Commits (op.giveBack ctx) s r ⟨s.case, l⟩ →
    (c = s.case ∨ ∃ compensation moved audits, r = .ok compensation ∧
      Moved (op.transition ctx old e.code compensation) s.case moved ∧
      c = (withResolved moved (fun q => decide (q.id = e.id)) op.now ctx.principal.id
        ctx.reason).noted audits) →
    StoreMove digest read s (.resolveExceptionAsOperator ctx op) ⟨c, l⟩
  | reconciliationBegun {op : BeginInput} {c : Case} :
    s.case.reconciliation = none → s.case.settlement ≠ none →
    reconciliationChecks op.row = true →
    Turn op.transition (s.case.reconciling op.row) c →
    StoreMove digest read s (.beginReconciliation op) (s.withCase c)
  | observationMatched {op : ObservationInput} {current : ReconciliationRow}
      {audits : List AuditRow} :
    s.case.reconciliation = some current → current.status = .pending →
    (op.verdict current).isMatched = true →
    StoreMove digest read s (.applyObservation op) (s.withCase
      ((s.case.reconciling (observed op .matched 0 current)).noted audits))
  | observationDiffered {op : ObservationInput} {current : ReconciliationRow}
      {audits : List AuditRow} {c : Case} :
    s.case.reconciliation = some current → current.status = .pending →
    (op.verdict current).isMatched = false →
    Turn (op.transition current (op.verdict current))
      ((s.case.reconciling (observed op .manualReview (op.verdict current).delta current)).noted
        audits) c →
    StoreMove digest read s (.applyObservation op) (s.withCase c)
  | reconciliationSwept {op : ReconciliationSweepInput} {current : ReconciliationRow}
      {audits : List AuditRow} {c : Case} :
    s.case.reconciliation = some current → current.status = .pending →
    current.openedAt + current.slaSeconds * 1000 ≤ op.now →
    Turn (op.transition current) ((s.case.reconciling
      { current with status := .manualReview, evaluatedAt := some op.now }).noted audits) c →
    StoreMove digest read s (.sweepReconciliationSla op) (s.withCase c)
  | reconciliationResolved {op : ResolveReconciliationInput} {current : ReconciliationRow}
      {row : ReconciliationTransition} {audits : List AuditRow} :
    s.case.reconciliation = some current →
    reconciliationMachine.evaluate (some current.status) op.trigger.trigger = some row →
    StoreMove digest read s (.resolveReconciliation op) (s.withCase
      ((s.case.reconciling (resolvedReconciliation op row.target current)).noted audits))
  | evaluated {op : EvaluateInput} {evaluation : FinalityEvaluationRow}
      {audits : List AuditRow} :
    StoreMove digest read s (.evaluateAndSettle op)
      (s.withCase ((s.case.evaluated evaluation).noted audits))
  | settled {op : EvaluateInput} {evidence : EvidenceRow} {c : Case} :
    gatherEvidence s = some evidence →
    (evaluateFinality (toEvidence digest evidence)).final = true →
    Moved op.transition
      (s.case.evaluated (op.row (evaluateFinality (toEvidence digest evidence)))) c →
    StoreMove digest read s (.evaluateAndSettle op) (s.withCase c)
  | returned {op : OpenReturnInput} {r : ReturnResult} {c : Case} :
    Commits (openReturn op) s.case r c →
    StoreMove digest read s (.openReturn op) (s.withCase c)
  | eventReturned {settlementId : String} {op : PayoutOutcomeInput} {opening : OpenReturnInput}
      {a : PayoutAttemptRow} {r : ReturnResult} {c₁ c : Case} :
    latestAttempt s.case = some a → op.trusted = true → op.outcome = .returned →
    (a.status = .credited ∧ AttemptAllowed s.case a.id op.set ∧
        c₁ = withAttempt s.case a.id op.set ∨
      a.status = .returned ∧ c₁ = s.case) →
    Commits (openReturn opening) c₁ r c →
    StoreMove digest read s (.applyEvent settlementId op (some opening)) (s.withCase c)
  | returnEscalated {op : EscalateInput} {current : SettlementReturnRow}
      {audits : List AuditRow} :
    findReturn s.case op.returnId = some current →
    (current.status = .observed ∨ current.status = .confirmed) →
    StoreMove digest read s (.escalateReturn op)
      (s.withCase ((withReturn s.case current.id escalated).noted audits))
  | returnCapped {op : ConfirmInput} {current : SettlementReturnRow} {audits : List AuditRow} :
    findReturn s.case op.returnId = some current → current.status = .observed →
    StoreMove digest read s (.confirmReturn op)
      (s.withCase ((withReturn s.case current.id escalated).noted audits))
  | returnCounted {op : ConfirmInput} {current : SettlementReturnRow}
      {attempt : PayoutAttemptRow} {total : Int} {observation : ReturnObservationRow} :
    Counts s.case op current attempt total observation →
    StoreMove digest read s (.confirmReturn op)
      (s.withCase (op.counted current attempt total observation s.case))
  | returnConfirmed {op : ConfirmInput} {current : SettlementReturnRow}
      {attempt : PayoutAttemptRow} {total : Int} {observation : ReturnObservationRow}
      {drawdown : DrawdownRow} {done : RepaymentDone} {l : Liquidity} {events : List EventRow}
      {audits : List AuditRow} :
    Counts s.case op current attempt total observation →
    confirmedDrawdown s.case = some drawdown →
    Commits (requestRepayment (op.repay drawdown (attempt.creditedMinor.getD 0) current))
      s.liquidity (.ok done) l →
    StoreMove digest read s (.confirmReturn op)
      ⟨(withReturn (op.counted current attempt total observation s.case) current.id
        (repaying op.repaymentId)).recorded events audits, l⟩
  | returnRejected {op : RejectInput} {current : SettlementReturnRow} {events : List EventRow}
      {audits : List AuditRow} :
    findReturn s.case op.returnId = some current →
    (current.status = .observed ∨ current.status = .manualReview) →
    StoreMove digest read s (.rejectReturn op)
      (s.withCase ((withReturn s.case current.id (refused op)).recorded events audits))
  | returnRepaid {op : RepaidInput} {current : SettlementReturnRow} {repaymentId : String}
      {events : List EventRow} {audits : List AuditRow} :
    findReturn s.case op.returnId = some current → current.status = .confirmed →
    current.repaymentId = some repaymentId →
    (∃ q ∈ s.liquidity.repayments, q.id = repaymentId ∧ q.status = .confirmed) →
    StoreMove digest read s (.markReturnRepaid op)
      (s.withCase ((withReturn s.case current.id (repaidReturn op.now)).recorded events audits))

end InrSettle
