import InrSettle.Service.Transition

/-!
# The reconciliation service

One reconciliation for a settlement: opened with T19, evaluated by an observation,
swept when its SLA has elapsed, resolved by an attributed decision.
-/

namespace InrSettle

open Transaction CaseTables

inductive ReconciliationRefusal where
  | slaSecondsMustBePositive | reconciliationNotFound | slaNotElapsed | resolutionNoteRequired
  | compensationDecisionRequired
  | reconciliationNotPending (status : ReconciliationStatus)
  | invalidTransition
  | transition (failure : TransitionFailure)
  deriving DecidableEq

structure ReconciliationDone where
  reconciliationId : String
  status : ReconciliationStatus
  transition : ReconciliationTransitionId
  deltaMinor : Int
  settlementMoved : Bool := false
  idempotent : Bool := false
  deriving DecidableEq

/-- `ReconciliationResult`. -/
abbrev ReconciliationResult := Except ReconciliationRefusal ReconciliationDone

/-- The audit row of one reconciliation step. -/
def reconciliationAudit (settlementId : String) (actor : PrincipalRef) (action : String)
    (reason : Option String := none) : AuditRow where
  actor := actor
  action := action
  subjectType := .settlement
  subjectId := settlementId
  reason := reason

/-! ### Opening -/

structure BeginInput where
  settlementId : String
  expected : Money
  actor : PrincipalRef
  slaSeconds : Int
  reconciliationId : String
  now : Instant
  deriving DecidableEq

def BeginInput.row (input : BeginInput) : ReconciliationRow where
  id := input.reconciliationId
  status := .pending
  expectedMinor := input.expected.minorUnits
  deltaMinor := 0
  currency := input.expected.currency
  openedAt := input.now
  slaSeconds := input.slaSeconds.toNat

/-- T19. -/
def BeginInput.transition (input : BeginInput) : ApplyTransitionInput where
  trigger := .beginReconciliation
  actor := input.actor
  guards := []
  statusEventPayload := [("reconciliation_id", input.reconciliationId),
    ("expected_minor", toString input.expected.minorUnits)]

/-- R01 with T19. A second call answers with the reconciliation that exists. -/
def beginReconciliation (input : BeginInput) : CaseTx ReconciliationResult := do
  if input.slaSeconds ≤ 0 then return .error .slaSecondsMustBePositive
  else
    let c ← get
    match c.reconciliation with
    | some existing =>
      return .ok { reconciliationId := existing.id, status := existing.status, transition := .r01,
                   deltaMinor := existing.deltaMinor, idempotent := true }
    | none =>
      match reconciliationMachine.evaluate none .begin with
      | none => return .error .invalidTransition
      | some _ =>
        insertReconciliation input.row
        let moved ← applyTransition input.transition
        match moved with
        | .error failure => return .error (.transition failure)
        | .ok _ =>
          return .ok { reconciliationId := input.reconciliationId, status := .pending,
                       transition := .r01, deltaMinor := 0, settlementMoved := true }

/-! ### Observing -/

structure ObservationInput where
  settlementId : String
  source : ObservationSource
  observedMinor : Option Int
  observedCurrency : String
  actor : PrincipalRef
  now : Instant
  deriving DecidableEq

/-- What the observation says of the expected amount. -/
def ObservationInput.verdict (input : ObservationInput) (current : ReconciliationRow) :
    ComparisonVerdict :=
  compareObservation ⟨current.currency, current.expectedMinor⟩
    (input.observedMinor.map fun observed => ⟨input.observedCurrency, observed⟩)

/-- The reconciliation as an observation leaves it: MATCHED or MISMATCH. -/
def observed (input : ObservationInput) (status : ReconciliationStatus) (delta : Int)
    (current : ReconciliationRow) : ReconciliationRow :=
  { current with
    status := status
    observedMinor := input.observedMinor
    deltaMinor := delta
    source := some input.source
    evaluatedAt := some input.now }

/-- T21. -/
def ObservationInput.transition (input : ObservationInput) (current : ReconciliationRow)
    (verdict : ComparisonVerdict) : ApplyTransitionInput where
  trigger := .reconciledMismatch
  actor := input.actor
  guards := [(.nonZeroDelta, true)]
  exceptionCode := some .reconciliationMismatch
  companions := [{
    type := .reconciled
    subjectType := .settlement
    subjectId := input.settlementId
    payload := [("reconciliation_id", current.id), ("delta_minor", toString verdict.delta),
      ("why", (verdict.why.map (·.wire)).getD "")] }]
  statusEventPayload := [("reconciliation_id", current.id),
    ("delta_minor", toString verdict.delta)]

/-- R02 on a match. On a mismatch R03, and at once R05 and T21. -/
def applyObservation (input : ObservationInput) : CaseTx ReconciliationResult := do
  let c ← get
  match c.reconciliation with
  | none => return .error .reconciliationNotFound
  | some current =>
    if current.status ≠ .pending then
      return .ok {
        reconciliationId := current.id, status := current.status, deltaMinor := current.deltaMinor
        transition := if current.status = .matched then .r02 else .r03, idempotent := true }
    else
      let verdict := input.verdict current
      match reconciliationMachine.evaluate (some .pending) verdict.trigger with
      | none => return .error .invalidTransition
      | some row =>
        updateReconciliation (observed input row.target verdict.delta current)
        audit (reconciliationAudit input.settlementId input.actor "reconciliation.evaluated")
        if verdict.isMatched then
          return .ok { reconciliationId := current.id, status := .matched, transition := .r02,
                       deltaMinor := 0 }
        else
          updateReconciliation (observed input .manualReview verdict.delta current)
          audit (reconciliationAudit input.settlementId input.actor "reconciliation.escalated"
            (some "a mismatch is never left unattended (R05)"))
          let moved ← applyTransition (input.transition current verdict)
          match moved with
          | .error failure => return .error (.transition failure)
          | .ok _ =>
            return .ok { reconciliationId := current.id, status := .manualReview,
                         transition := .r03, deltaMinor := verdict.delta, settlementMoved := true }

/-! ### The SLA sweep -/

structure ReconciliationSweepInput where
  settlementId : String
  actor : PrincipalRef
  now : Instant
  deriving DecidableEq

/-- T30. -/
def ReconciliationSweepInput.transition (input : ReconciliationSweepInput)
    (current : ReconciliationRow) : ApplyTransitionInput where
  trigger := .reconciliationStalled
  actor := input.actor
  guards := [(.reconciliationSlaElapsed, true)]
  exceptionCode := some .finalityEvidenceMissing
  statusEventPayload := [("reconciliation_id", current.id), ("transition", "R04")]

def sweepReconciliationSla (input : ReconciliationSweepInput) : CaseTx ReconciliationResult := do
  let c ← get
  match c.reconciliation with
  | none => return .error .reconciliationNotFound
  | some current =>
    if current.status ≠ .pending then return .error (.reconciliationNotPending current.status)
    else if input.now < current.openedAt + current.slaSeconds * 1000 then
      return .error .slaNotElapsed
    else match reconciliationMachine.evaluate (some .pending) .observationOverdue with
    | none => return .error .invalidTransition
    | some _ =>
      updateReconciliation { current with
        status := .manualReview
        evaluatedAt := some input.now }
      audit (reconciliationAudit input.settlementId input.actor
        "reconciliation.observation_overdue"
        (some "no authoritative observation within the reconciliation SLA"))
      let moved ← applyTransition (input.transition current)
      match moved with
      | .error failure => return .error (.transition failure)
      | .ok _ =>
        return .ok { reconciliationId := current.id, status := .manualReview, transition := .r04,
                     deltaMinor := current.deltaMinor, settlementMoved := true }

/-! ### Resolving -/

/-- The triggers `resolveReconciliation` accepts. -/
inductive ReconciliationResolution where
  | resolveMatched | resolveUnresolvable
  deriving DecidableEq

def ReconciliationResolution.trigger : ReconciliationResolution → ReconciliationTrigger
  | resolveMatched => .resolveMatched
  | resolveUnresolvable => .resolveUnresolvable

structure ResolveReconciliationInput where
  settlementId : String
  trigger : ReconciliationResolution
  actor : PrincipalRef
  note : String
  compensationRequired : Option Bool := none
  now : Instant
  deriving DecidableEq

/-- The reconciliation as a resolution leaves it. A match asserts the expected amount. -/
def resolvedReconciliation (input : ResolveReconciliationInput) (status : ReconciliationStatus)
    (current : ReconciliationRow) : ReconciliationRow :=
  { current with
    status := status
    resolvedAt := some input.now
    resolvedBy := some input.actor.id
    resolutionNote := some input.note
    compensationRequired := input.compensationRequired.orElse fun _ => current.compensationRequired
    deltaMinor := if status = .matched then 0 else current.deltaMinor
    observedMinor := if status = .matched then some current.expectedMinor
      else current.observedMinor }

/-- R06 or R07, which move no settlement. -/
def resolveReconciliation (input : ResolveReconciliationInput) :
    CaseTx ReconciliationResult := do
  let c ← get
  match c.reconciliation with
  | none => return .error .reconciliationNotFound
  | some current =>
    match reconciliationMachine.evaluate (some current.status) input.trigger.trigger with
    | none => return .error .invalidTransition
    | some row =>
      if !isStated input.note then return .error .resolutionNoteRequired
      else if row.requiresCompensationDecision ∧ input.compensationRequired = none then
        return .error .compensationDecisionRequired
      else
        updateReconciliation (resolvedReconciliation input row.target current)
        let trigger := input.trigger.trigger.wire
        audit (reconciliationAudit input.settlementId input.actor s!"reconciliation.{trigger}"
          (some input.note))
        return .ok { reconciliationId := current.id, status := row.target, transition := row.id,
                     deltaMinor := if row.target = .matched then 0 else current.deltaMinor }

end InrSettle
