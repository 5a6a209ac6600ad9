import InrSettle.Store.Funding
import InrSettle.Service.Reconciliation
import InrSettle.Service.Settlement

/-!
# The finality service

Gathers what the eight conditions are judged on, records every evaluation, and
settles (T20) when all of them are met.
-/

namespace InrSettle

open Transaction CaseTables

/-! ### Evidence -/

/-- `LEFT JOIN payout_attempts pa ON pa.id = s.payout_attempt_id`. -/
def joinedAttempt (c : Case) : Option PayoutAttemptRow :=
  (c.settlement.bind (·.payoutAttemptId)).bind fun attemptId =>
    c.attempts.find? fun a => decide (a.id = attemptId)

/-- What one settlement joins to. -/
structure EvidenceRow where
  settlement : SettlementRow
  drawdown : Option DrawdownRow
  facility : Option FacilityRow
  attempt : Option PayoutAttemptRow
  reconciliation : Option ReconciliationRow
  authorizerHeldCapability : Bool
  deriving DecidableEq

/-- The settlement's drawdown that was confirmed. -/
def confirmedDrawdown (c : Case) : Option DrawdownRow :=
  c.drawdowns.find? fun d => decide (d.status = .confirmed)

/-- Whether the audit log has an authorization of this settlement by whoever authorized it. -/
def authorizerHeldCapability (c : Case) (settlement : SettlementRow) : Bool :=
  c.audits.any fun a => a.subjectId == settlement.id && a.action == "settlement.authorize" &&
    settlement.authorizedBy == some a.actor.id

def gatherEvidence (s : Store) : Option EvidenceRow :=
  s.case.settlement.map fun settlement => {
    settlement := settlement
    drawdown := confirmedDrawdown s.case
    facility := (confirmedDrawdown s.case).bind fun d =>
      FundingTables.facilityOf s.liquidity d.facilityId
    attempt := joinedAttempt s.case
    reconciliation := s.case.reconciliation
    authorizerHeldCapability := authorizerHeldCapability s.case settlement }

def toEvidence (digest : AuthorizedInstruction → String) (row : EvidenceRow) :
    FinalityEvidence where
  authorizedAt := row.settlement.authorizedAt
  authorizedBy := row.settlement.authorizedBy
  actorHeldCapability := row.authorizerHeldCapability
  drawdownStatus := row.drawdown.map (·.status)
  facilityStatus := row.facility.map (·.status)
  confirmationSource := if row.attempt.any fun a => a.status == .credited || a.status == .returned
    then some .trustedProviderEvent else none
  attemptStatus := row.attempt.map (·.status)
  utr := row.attempt.bind (·.utr)
  reconciliationStatus := row.reconciliation.map (·.status)
  reconciliationDelta := row.reconciliation.map (·.deltaMinor)
  openExceptionCode := row.settlement.openExceptionCode
  authorizedTermsHash := row.settlement.authorizedTermsHash
  authorizedDestinationVersionId := row.settlement.destinationVersionId
  executedTermsHash := row.settlement.authorizedTerms.map (authorizedTermsHash digest)
  executedDestinationVersionId := row.attempt.map (·.destinationVersionId)

/-- The settlement and payout columns a receipt is built from. The join to the destination version
frozen at authorization is an inner one. -/
structure ReceiptSource where
  settlement : SettlementRow
  destinationVersionId : String
  attempt : Option PayoutAttemptRow
  reconciliationStatus : Option ReconciliationStatus
  deriving DecidableEq

def readReceiptSource (c : Case) : Option ReceiptSource :=
  c.settlement.bind fun settlement =>
    settlement.destinationVersionId.map fun destinationVersionId => {
      settlement := settlement
      destinationVersionId := destinationVersionId
      attempt := joinedAttempt c
      reconciliationStatus := c.reconciliation.map (·.status) }

/-! ### Settling -/

inductive FinalityRefusal where
  | settlementNotFound
  | transition (failure : TransitionFailure)
  deriving DecidableEq

structure FinalityDone where
  verdict : FinalityVerdict
  evaluationId : String
  settled : Bool
  alreadySettled : Bool := false
  deriving DecidableEq

/-- `FinalityResult`. -/
abbrev FinalityResult := Except FinalityRefusal FinalityDone

structure IssuedReceipt where
  receiptId : String
  contentHash : String
  deriving DecidableEq

structure EvaluateInput where
  settlementId : String
  actor : PrincipalRef
  /-- What `issueReceipt` answers, should it be asked. -/
  receipt : IssuedReceipt
  evaluationId : String
  now : Instant
  deriving DecidableEq

def EvaluateInput.row (input : EvaluateInput) (verdict : FinalityVerdict) :
    FinalityEvaluationRow where
  id := input.evaluationId
  final := verdict.final
  conditions := verdict.conditions
  missing := verdict.missing

/-- The conditions that were not met, with why. -/
def FinalityVerdict.refusal (verdict : FinalityVerdict) : String :=
  "; ".intercalate ((verdict.conditions.filter (!·.met)).map fun condition =>
    s!"{condition.condition.wire}: {condition.because}")

def EvaluateInput.refusedAudit (input : EvaluateInput) (verdict : FinalityVerdict) : AuditRow where
  actor := input.actor
  action := "settlement.finality_refused"
  subjectType := .settlement
  subjectId := input.settlementId
  reason := some verdict.refusal

/-- T20. -/
def EvaluateInput.transition (input : EvaluateInput) : ApplyTransitionInput where
  trigger := .reconciledMatched
  actor := input.actor
  guards := [(.finalityConditionsMet, true)]
  patch := [.settledAt input.now, .receiptId input.receipt.receiptId]
  companions := [
    { type := .reconciled, subjectType := .settlement, subjectId := input.settlementId,
      payload := [("evaluation_id", input.evaluationId), ("delta_minor", "0")] },
    { type := .receiptAvailable, subjectType := .settlement, subjectId := input.settlementId,
      payload := [("receipt_id", input.receipt.receiptId),
        ("content_hash", input.receipt.contentHash)] }]
  statusEventPayload := [("evaluation_id", input.evaluationId),
    ("receipt_id", input.receipt.receiptId), ("content_hash", input.receipt.contentHash)]

/-- Evaluate, record the evaluation, and settle when nothing is missing. -/
def evaluateAndSettle (digest : AuthorizedInstruction → String) (input : EvaluateInput) :
    StoreTx FinalityResult := do
  let s ← get
  match gatherEvidence s with
  | none => return .error .settlementNotFound
  | some row =>
    let verdict := evaluateFinality (toEvidence digest row)
    onCase (insertEvaluation (input.row verdict))
    if row.settlement.status = .settled then
      return .ok { verdict := verdict, evaluationId := input.evaluationId, settled := false,
                   alreadySettled := true }
    else if !verdict.final then
      onCase (audit (input.refusedAudit verdict))
      return .ok { verdict := verdict, evaluationId := input.evaluationId, settled := false }
    else
      let moved ← onCase (applyTransition input.transition)
      match moved with
      | .error failure => return .error (.transition failure)
      | .ok _ =>
        return .ok { verdict := verdict, evaluationId := input.evaluationId, settled := true }

end InrSettle
