import InrSettle.Library.Table
import InrSettle.Store.Rows

/-!
# Writing the rows of a settlement

Every write the services make to a settlement, its payout attempts, exceptions,
drawdowns, reconciliation, evaluations and returns, with the checks, unique
indexes and triggers the database holds it to.
-/

namespace InrSettle

open Transaction

namespace CaseTables

/-! ### The settlement row -/

open SettlementStatus in
/-- The statuses the CHECK on `exception_entered_from` lists. -/
def exceptionOrigins : List SettlementStatus :=
  [liquidityReserving, liquidityReserved, drawdownRequested, payoutSubmitted, reconciling]

/-- The CHECK constraints of `settlements`. -/
def settlementChecks (s : SettlementRow) : Bool :=
  decide (0 < s.recipientAmountMinor) &&
    s.exceptionEnteredFrom.all fun origin => decide (origin ∈ exceptionOrigins)

/-- The columns that are immutable from AUTHORIZED onward. -/
def sameInstruction (old new : SettlementRow) : Bool :=
  new.beneficiaryId == old.beneficiaryId && new.destinationId == old.destinationId &&
    new.destinationVersionId == old.destinationVersionId &&
    new.recipientAmountMinor == old.recipientAmountMinor &&
    new.purposeCode == old.purposeCode && new.fundingCurrency == old.fundingCurrency &&
    new.quoteId == old.quoteId && new.authorizedTerms == old.authorizedTerms &&
    new.authorizedTermsHash == old.authorizedTermsHash &&
    new.authorizedAt == old.authorizedAt && new.authorizedBy == old.authorizedBy

/-- `protect_settlement_row`, the refusals, in the order the trigger makes them. -/
def settlementMayBecome (old new : SettlementRow) : Bool :=
  !old.status.isTerminal &&
    (old.authorizedAt.isNone || sameInstruction old new) &&
    (old.pointOfNoReturnAt.isNone || new.pointOfNoReturnAt == old.pointOfNoReturnAt) &&
    -- Entering EXCEPTION records the status left; while in it the record is frozen.
    (!(new.status == .exception && old.status != .exception) ||
      new.exceptionEnteredFrom == some old.status) &&
    (old.status != .exception || new.exceptionEnteredFrom == old.exceptionEnteredFrom) &&
    -- Leaving EXCEPTION resumes to the record, or ends the settlement.
    (!(old.status == .exception && new.status != .exception) ||
      new.status == .failed || new.status == .cancelled ||
      some new.status == old.exceptionEnteredFrom) &&
    (!(old.pointOfNoReturnAt.isSome && old.status == .exception && new.status != .exception) ||
      new.status == .failed || new.status == .cancelled || new.status == .payoutSubmitted ||
      new.status == .payoutConfirmed || new.status == .reconciling) &&
    (new.replacesSettlementId == old.replacesSettlementId)

/-- `protect_settlement_row`, the version it stamps. -/
def stampSettlement (old new : SettlementRow) : SettlementRow :=
  if new.status ≠ old.status then { new with version := old.version + 1 } else new

def insertSettlement (s : SettlementRow) : CaseTx PUnit := do
  let c ← get
  require (c.settlement = none) (.uniqueViolation "settlements_pkey")
  require (settlementChecks s = true) (.checkViolation "settlements")
  modify fun c => { c with settlement := some s }

/-- `UPDATE settlements SET … WHERE id = $1`, from the row the transaction holds locked. -/
def updateSettlement (old new : SettlementRow) : CaseTx PUnit := do
  require (settlementMayBecome old new = true) (.restrictViolation "protect_settlement_row")
  require (settlementChecks new = true) (.checkViolation "settlements")
  modify fun c => { c with settlement := some (stampSettlement old new) }

/-! ### Payout attempts -/

/-- The CHECK constraints of `payout_attempts`. -/
def attemptChecks (a : PayoutAttemptRow) : Bool :=
  decide (1 ≤ a.attemptNumber) && a.amountMinor.all (fun amount => decide (0 < amount)) &&
    a.slaSeconds.all (fun seconds => decide (0 < seconds)) &&
    (a.status != .credited || (a.utr.any (fun utr => decide (0 < utr.length)) && a.creditedAt.isSome)) &&
    (a.status != .returned || (a.utr.isSome && a.creditedAt.isSome && a.returnedAt.isSome)) &&
    a.creditedMinor.all (fun amount =>
      decide (0 < amount) && (a.status == .credited || a.status == .returned)) &&
    decide (0 ≤ a.returnedTotalMinor) &&
    (a.returnedTotalMinor == 0 ||
      a.creditedMinor.any fun amount => decide (a.returnedTotalMinor ≤ amount))

/-- `protect_payout_attempt`. -/
def attemptMayBecome (old new : PayoutAttemptRow) : Bool :=
  new.settlementId == old.settlementId && new.attemptNumber == old.attemptNumber &&
    new.idempotencyKey == old.idempotencyKey &&
    new.destinationVersionId == old.destinationVersionId &&
    new.dispatchedAt == old.dispatchedAt &&
    (!old.status.isTerminal || new.status == old.status ||
      (old.status == .credited && new.status == .returned))

/-- `payout_attempts_one_in_flight`. -/
def oneInFlight (a : PayoutAttemptRow) : Option String :=
  if a.status.isInFlight then some a.settlementId else none

def insertAttempt (a : PayoutAttemptRow) : CaseTx PUnit := do
  let c ← get
  require (∀ b ∈ c.attempts, b.id ≠ a.id) (.uniqueViolation "payout_attempts_pkey")
  require (attemptChecks a = true) (.checkViolation "payout_attempts")
  require (∀ b ∈ c.attempts, b.attemptNumber ≠ a.attemptNumber)
    (.uniqueViolation "payout_attempts_settlement_id_attempt_number_key")
  require (∀ b ∈ c.attempts, b.idempotencyKey ≠ a.idempotencyKey)
    (.uniqueViolation "payout_attempts_idempotency_key")
  require (Table.admits oneInFlight c.attempts a = true)
    (.uniqueViolation "payout_attempts_one_in_flight")
  modify fun c => { c with attempts := c.attempts ++ [a] }

/-- `UPDATE payout_attempts SET … WHERE id = $1`. -/
def updateAttempt (attemptId : String) (set : PayoutAttemptRow → PayoutAttemptRow) :
    CaseTx PUnit := do
  let c ← get
  require (∀ a ∈ c.attempts, a.id = attemptId → attemptMayBecome a (set a) = true)
    (.restrictViolation "protect_payout_attempt")
  require (∀ a ∈ c.attempts, a.id = attemptId → attemptChecks (set a) = true)
    (.checkViolation "payout_attempts")
  modify fun c => { c with
    attempts := Table.setWhere (fun a => decide (a.id = attemptId)) set c.attempts }

/-! ### Exceptions -/

/-- `settlement_exceptions_one_open`, within one settlement. -/
def oneOpen (e : SettlementExceptionRow) : Option Unit :=
  if e.resolvedAt.isNone then some () else none

def insertException (e : SettlementExceptionRow) : CaseTx PUnit := do
  let c ← get
  require (∀ q ∈ c.exceptions, q.id ≠ e.id) (.uniqueViolation "settlement_exceptions_pkey")
  require (Table.admits oneOpen c.exceptions e = true)
    (.uniqueViolation "settlement_exceptions_one_open")
  modify fun c => { c with exceptions := c.exceptions ++ [e] }

def resolved (now : Instant) (resolvedBy reason : String) (e : SettlementExceptionRow) :
    SettlementExceptionRow :=
  { e with resolvedAt := some now, resolvedBy := some resolvedBy, resolutionReason := some reason }

/-- Stamp the open exceptions that match; `resolution_is_attributed` wants a reason. -/
def resolveExceptions (which : SettlementExceptionRow → Bool) (now : Instant)
    (resolvedBy reason : String) : CaseTx PUnit := do
  let c ← get
  require (∀ e ∈ c.exceptions, which e = true → 0 < reason.length)
    (.checkViolation "resolution_is_attributed")
  modify fun c => { c with
    exceptions := Table.setWhere which (resolved now resolvedBy reason) c.exceptions }

/-! ### Drawdowns -/

/-- `protect_drawdown_row`, for an update that keeps the drawdown's identity. -/
def drawdownMayBecome (old : DrawdownRow) (target : DrawdownStatus) : Bool :=
  !old.status.isTerminal || target == old.status

def insertDrawdown (d : DrawdownRow) : CaseTx PUnit := do
  let c ← get
  require (∀ q ∈ c.drawdowns, q.id ≠ d.id) (.uniqueViolation "drawdowns_pkey")
  require (0 < d.amountMinor) (.checkViolation "drawdowns_amount_minor_check")
  require (∀ q ∈ c.drawdowns, q.requestFingerprint ≠ d.requestFingerprint)
    (.uniqueViolation "drawdowns_request_fingerprint_key")
  require (d.status.isTerminal = true ∨ ∀ q ∈ c.drawdowns, q.status.isTerminal = true)
    (.uniqueViolation "drawdowns_one_in_flight")
  modify fun c => { c with drawdowns := c.drawdowns ++ [d] }

/-- The row of a drawdown that moved to `target`. -/
def movedDrawdown (target : DrawdownStatus) (now : Instant) (providerReference : Option String)
    (d : DrawdownRow) : DrawdownRow :=
  { d with
    status := target
    confirmedAt := if target = .confirmed then some now else d.confirmedAt
    failedAt := if target = .failed then some now else d.failedAt
    providerReference := if providerReference.any (· ≠ "") then providerReference
      else d.providerReference }

def updateDrawdown (drawdownId : String) (target : DrawdownStatus) (now : Instant)
    (providerReference : Option String) : CaseTx PUnit := do
  let c ← get
  require (∀ d ∈ c.drawdowns, d.id = drawdownId → drawdownMayBecome d target = true)
    (.restrictViolation "protect_drawdown_row")
  modify fun c => { c with
    drawdowns := Table.setWhere (fun d => decide (d.id = drawdownId))
      (movedDrawdown target now providerReference) c.drawdowns }

/-! ### Reconciliation and finality -/

/-- The CHECK constraints of `reconciliations`. -/
def reconciliationChecks (r : ReconciliationRow) : Bool :=
  decide (0 < r.expectedMinor) && decide (0 < r.slaSeconds) &&
    (r.status != .matched || (r.observedMinor.isSome && r.deltaMinor == 0)) &&
    (r.resolvedAt.isNone ||
      (r.resolvedBy.isSome && r.resolutionNote.any fun note => decide (0 < note.length)))

def insertReconciliation (r : ReconciliationRow) : CaseTx PUnit := do
  let c ← get
  require (c.settlement.isSome = true) (.foreignKeyViolation "settlements")
  require (c.reconciliation = none) (.uniqueViolation "reconciliations_settlement_key")
  require (reconciliationChecks r = true) (.checkViolation "reconciliations")
  modify fun c => { c with reconciliation := some r }

/-- `UPDATE reconciliations SET …`, of the row the transaction holds locked. -/
def updateReconciliation (r : ReconciliationRow) : CaseTx PUnit := do
  require (reconciliationChecks r = true) (.checkViolation "reconciliations")
  modify fun c => { c with reconciliation := some r }

def insertEvaluation (e : FinalityEvaluationRow) : CaseTx PUnit :=
  modify fun c => { c with evaluations := c.evaluations ++ [e] }

/-! ### Returns -/

/-- The CHECK constraints of `settlement_returns`. -/
def returnChecks (r : SettlementReturnRow) : Bool :=
  decide (0 < r.amountMinor) &&
    (r.resolvedBy.isNone || r.resolutionNote.any fun note => decide (0 < note.length)) &&
    (!countsTowardCap r.status || r.confirmedAt.isSome) &&
    (r.status != .repaid || (r.repaymentId.isSome && r.repaidAt.isSome))

def insertReturn (r : SettlementReturnRow) : CaseTx PUnit := do
  let c ← get
  require (∀ q ∈ c.returns, q.id ≠ r.id) (.uniqueViolation "settlement_returns_pkey")
  require (returnChecks r = true) (.checkViolation "settlement_returns")
  require (∀ q ∈ c.returns, ¬(q.payoutAttemptId = r.payoutAttemptId ∧
      q.providerReturnReference = r.providerReturnReference))
    (.uniqueViolation "settlement_returns_dedupe_key")
  modify fun c => { c with returns := c.returns ++ [r] }

def insertObservation (o : ReturnObservationRow) : CaseTx PUnit :=
  modify fun c => { c with returnObservations := c.returnObservations ++ [o] }

/-- `UPDATE settlement_returns SET … WHERE id = $1`. -/
def updateReturn (returnId : String) (set : SettlementReturnRow → SettlementReturnRow) :
    CaseTx PUnit := do
  let c ← get
  require (∀ r ∈ c.returns, r.id = returnId → returnChecks (set r) = true)
    (.checkViolation "settlement_returns")
  modify fun c => { c with
    returns := Table.setWhere (fun r => decide (r.id = returnId)) set c.returns }

/-! ### Events and audit rows -/

def emit (event : EventRow) : CaseTx PUnit :=
  modify fun c => { c with events := c.events ++ [event] }

def audit (row : AuditRow) : CaseTx PUnit :=
  modify fun c => { c with audits := c.audits ++ [row] }

end CaseTables

end InrSettle
