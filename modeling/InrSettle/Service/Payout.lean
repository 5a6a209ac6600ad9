import InrSettle.Service.Settlement

/-!
# The payout service

Submission, outcomes, the SLA sweep, the authoritative pull and the retry. Calls to
the provider happen between transactions: what a function reads before the call and
what it writes after it are separate definitions.
-/

namespace InrSettle

open Transaction CaseTables

/-- `readAttempt`: the settlement's highest-numbered attempt. -/
def latestAttempt (c : Case) : Option PayoutAttemptRow :=
  Table.latestBy (·.attemptNumber) c.attempts

inductive PayoutRefusal where
  | attemptNotFound
  | attemptNotAwaitingSubmission (status : PayoutAttemptStatus)
  | destinationVersionNotFound
  | untrustedEvidence
  | utrMissingOrMalformed (utr : Option String)
  | invalidAttemptTransition (source : PayoutAttemptStatus)
  | returnRequiresCredit (source : PayoutAttemptStatus)
  | unknownOutcomeIsNotApplied
  | attemptNotInFlight (status : PayoutAttemptStatus)
  | slaNotElapsed
  | pullFailed (error : String)
  | stillInFlight
  | retryRequiresAuthoritativeRejection (status : PayoutAttemptStatus)
  | transition (failure : TransitionFailure)
  deriving DecidableEq

structure PayoutDone where
  attemptNumber : Nat
  status : PayoutAttemptStatus
  utr : Option String := none
  creditedMinor : Option Int := none
  settlementAwaitingResolution : Bool := false
  idempotent : Bool := false
  deriving DecidableEq

/-- `PayoutResult`. -/
abbrev PayoutResult := Except PayoutRefusal PayoutDone

/-- `value ? { column: value } : {}`, for a column of text. -/
def orKept (value kept : Option String) : Option String :=
  if value.any (· ≠ "") then value else kept

/-! ### Submission -/

inductive AckStatus where
  | submitted | accepted | credited | rejected
  deriving DecidableEq

structure PayoutAck where
  providerReference : String
  status : AckStatus
  rawCode : Option String := none
  deriving DecidableEq

/-- The command a submission sends, for the attempt that was read. -/
structure PayoutCommand where
  attemptId : String
  attemptNumber : Nat
  idempotencyKey : String
  destinationVersionId : String
  amountMinor : Int
  deriving DecidableEq

/-- `submitDispatchedPayout`, before the call: the attempt as it was read and its command. -/
def prepareSubmission (c : Case) (destinationResolved : Bool) :
    Except PayoutRefusal PayoutCommand :=
  match latestAttempt c with
  | none => .error .attemptNotFound
  | some attempt =>
    if attempt.status ≠ .submitted then
      .error (.attemptNotAwaitingSubmission attempt.status)
    else if !destinationResolved then .error .destinationVersionNotFound
    else .ok {
      attemptId := attempt.id
      attemptNumber := attempt.attemptNumber
      idempotencyKey := (payoutIdempotencyKey attempt.settlementId attempt.attemptNumber).getD ""
      destinationVersionId := attempt.destinationVersionId
      amountMinor := attempt.amountMinor.getD 0 }

structure SubmissionInput where
  attemptId : String
  ack : PayoutAck
  now : Instant
  deriving DecidableEq

def acknowledged (input : SubmissionInput) (a : PayoutAttemptRow) : PayoutAttemptRow :=
  { a with
    providerReference := some input.ack.providerReference
    submittedAt := some input.now
    status := if input.ack.status = .accepted then .accepted else a.status
    rawCode := orKept input.ack.rawCode a.rawCode }

/-- `submitDispatchedPayout`, after an answer: the attempt that was sent, by its id. -/
def recordSubmission (input : SubmissionInput) : CaseTx PUnit :=
  updateAttempt input.attemptId (acknowledged input)

/-- `submitDispatchedPayout`, after no answer. -/
def recordTimeout (settlementId : String) (actor : PrincipalRef) : CaseTx PUnit :=
  audit {
    actor := actor
    action := "payout.submit_timeout"
    subjectType := .settlement
    subjectId := settlementId
    reason := some "provider did not answer; status is unknown, not failed" }

/-! ### Outcomes -/

structure PayoutOutcomeInput where
  outcome : ProviderOutcome
  actor : PrincipalRef
  trusted : Bool
  utr : Option String := none
  rawCode : Option String := none
  exceptionCode : Option ExceptionCode := none
  providerReference : Option String := none
  mappingVersion : Option String := none
  creditedMinor : Option Int := none
  now : Instant
  deriving DecidableEq

def credited (input : PayoutOutcomeInput) (a : PayoutAttemptRow) : PayoutAttemptRow :=
  { a with
    status := .credited
    utr := input.utr
    creditedAt := some input.now
    resolvedAt := some input.now
    creditedMinor := input.creditedMinor.orElse fun _ => a.creditedMinor
    providerReference := orKept input.providerReference a.providerReference
    rawCode := orKept input.rawCode a.rawCode
    mappingVersion := orKept input.mappingVersion a.mappingVersion }

def rejected (input : PayoutOutcomeInput) (a : PayoutAttemptRow) : PayoutAttemptRow :=
  { a with
    status := .rejected
    resolvedAt := some input.now
    providerReference := orKept input.providerReference a.providerReference
    rawCode := orKept input.rawCode a.rawCode
    mappingVersion := orKept input.mappingVersion a.mappingVersion }

def accepted (input : PayoutOutcomeInput) (a : PayoutAttemptRow) : PayoutAttemptRow :=
  { a with
    status := .accepted
    providerReference := orKept input.providerReference a.providerReference }

def returned (input : PayoutOutcomeInput) (a : PayoutAttemptRow) : PayoutAttemptRow :=
  { a with
    status := .returned
    returnedAt := some input.now
    rawCode := orKept input.rawCode a.rawCode }

/-- The transition an outcome asks of the settlement: T16 for a credit, T17 for a rejection. -/
def outcomeTransition (input : PayoutOutcomeInput) (attempt : PayoutAttemptRow) :
    ApplyTransitionInput :=
  if input.outcome = .credited then {
    trigger := .payoutCredited
    actor := input.actor
    guards := [(.trustedProviderEvent, true), (.utrPresentAndWellFormed, true)]
    statusEventPayload := [("utr", input.utr.getD ""),
      ("attempt_number", toString attempt.attemptNumber)] }
  else {
    trigger := .payoutRejected
    actor := input.actor
    guards := [(.trustedProviderEvent, true)]
    exceptionCode := some (input.exceptionCode.getD .payoutRejectedProvider)
    statusEventPayload := [("attempt_number", toString attempt.attemptNumber),
      ("raw_code", input.rawCode.getD "null")] }

/-- Move the attempt, and then the settlement unless it is already in EXCEPTION. -/
def moveAttempt (settlementStatus : Option SettlementStatus) (input : PayoutOutcomeInput)
    (attempt : PayoutAttemptRow) (set : PayoutAttemptRow → PayoutAttemptRow)
    (done : PayoutDone) : CaseTx PayoutResult := do
  updateAttempt attempt.id set
  if settlementStatus = some .exception then
    return .ok { done with settlementAwaitingResolution := true }
  else
    let outcome ← applyTransition (outcomeTransition input attempt)
    match outcome with
    | .error failure => return .error (.transition failure)
    | .ok _ => return .ok done

/-- Apply one outcome to the settlement's highest-numbered attempt, whichever attempt it is
about. The settlement's status is read without its lock. -/
def applyPayoutOutcome (settlementStatus : Option SettlementStatus) (input : PayoutOutcomeInput) :
    CaseTx PayoutResult := do
  if !input.trusted then return .error .untrustedEvidence
  else
    let c ← get
    match latestAttempt c with
    | none => return .error .attemptNotFound
    | some attempt =>
      match input.outcome with
      | .credited =>
        if !isWellFormedUtr input.utr then return .error (.utrMissingOrMalformed input.utr)
        else if attempt.status = .credited then
          return .ok { attemptNumber := attempt.attemptNumber, status := .credited,
                       idempotent := true }
        else if !attempt.status.isInFlight then
          return .error (.invalidAttemptTransition attempt.status)
        else
          moveAttempt settlementStatus input attempt (credited input)
            { attemptNumber := attempt.attemptNumber, status := .credited, utr := input.utr,
              creditedMinor := input.creditedMinor }
      | .rejected =>
        if attempt.status = .rejected then
          return .ok { attemptNumber := attempt.attemptNumber, status := .rejected,
                       idempotent := true }
        else if !attempt.status.isInFlight then
          return .error (.invalidAttemptTransition attempt.status)
        else
          moveAttempt settlementStatus input attempt (rejected input)
            { attemptNumber := attempt.attemptNumber, status := .rejected }
      | .accepted =>
        if attempt.status = .submitted then
          updateAttempt attempt.id (accepted input)
          return .ok { attemptNumber := attempt.attemptNumber, status := .accepted }
        else
          return .ok { attemptNumber := attempt.attemptNumber, status := attempt.status,
                       idempotent := true }
      | .returned =>
        if attempt.status = .returned then
          return .ok { attemptNumber := attempt.attemptNumber, status := .returned,
                       idempotent := true }
        else if attempt.status ≠ .credited then
          return .error (.returnRequiresCredit attempt.status)
        else
          updateAttempt attempt.id (returned input)
          return .ok { attemptNumber := attempt.attemptNumber, status := .returned }
      | .unknown => return .error .unknownOutcomeIsNotApplied

/-! ### The SLA sweep -/

/-- `elapsedSeconds >= slaSeconds`; without an SLA it never elapses. -/
def slaElapsed (since : Instant) (slaSeconds : Option Nat) (now : Instant) : Bool :=
  slaSeconds.any fun seconds => decide (since + seconds * 1000 ≤ now)

structure SweepInput where
  actor : PrincipalRef
  now : Instant
  deriving DecidableEq

/-- UNKNOWN: the SLA elapsed without a terminal signal. -/
def overdue (a : PayoutAttemptRow) : PayoutAttemptRow :=
  { a with status := .unknown }

def sweepPayoutSla (input : SweepInput) : CaseTx PayoutResult := do
  let c ← get
  match latestAttempt c with
  | none => return .error .attemptNotFound
  | some attempt =>
    if attempt.status ≠ .submitted ∧ attempt.status ≠ .accepted then
      return .error (.attemptNotInFlight attempt.status)
    else if !slaElapsed attempt.dispatchedAt attempt.slaSeconds input.now then
      return .error .slaNotElapsed
    else
      updateAttempt attempt.id overdue
      let outcome ← applyTransition {
        trigger := .payoutTimeout
        actor := input.actor
        guards := [(.railSlaElapsed, true)]
        exceptionCode := some .payoutStatusUnknown
        statusEventPayload := [("attempt_number", toString attempt.attemptNumber)] }
      match outcome with
      | .error failure => return .error (.transition failure)
      | .ok _ => return .ok { attemptNumber := attempt.attemptNumber, status := .unknown }

/-! ### The authoritative pull -/

inductive ProviderStatus where
  | submitted | accepted | credited | rejected | returned
  deriving DecidableEq

/-- `PayoutQuery`. -/
inductive PayoutQuery where
  | found (status : ProviderStatus) (providerReference : String) (utr rawCode : Option String)
      (creditedMinor : Option Int)
  | notFound
  | failed (error : String)
  deriving DecidableEq

/-- `pullPayoutStatus`, after the provider answered: the outcome it applies, if any. -/
def pulledOutcome (mapping : ProviderMappingTable) (actor : PrincipalRef) (now : Instant) :
    PayoutQuery → Except PayoutRefusal PayoutOutcomeInput
  | .failed error => .error (.pullFailed error)
  | .notFound => .ok {
      outcome := .rejected
      actor := actor
      trusted := true
      rawCode := some "PULL_NOT_FOUND"
      exceptionCode := some .payoutRejectedProvider
      mappingVersion := some mapping.version
      now := now }
  | .found status providerReference utr rawCode creditedMinor =>
    if status = .submitted ∨ status = .accepted then .error .stillInFlight
    else
      let outcome : ProviderOutcome := if status = .credited then .credited
        else if status = .returned then .returned else .rejected
      .ok {
        outcome := outcome
        actor := actor
        trusted := true
        utr := utr
        creditedMinor := creditedMinor
        rawCode := rawCode
        providerReference := some providerReference
        exceptionCode := if rawCode.any (· ≠ "") then
            (interpretProviderCode mapping (rawCode.getD "") outcome).exceptionCode
          else none
        mappingVersion := some mapping.version
        now := now }

/-! ### The retry -/

structure RetryInput where
  settlementId : String
  actor : PrincipalRef
  rail : String
  slaSeconds : Nat
  providerId : String
  reason : String
  attemptId : String
  now : Instant
  deriving DecidableEq

def RetryInput.attempt (input : RetryInput) (previous : PayoutAttemptRow)
    (idempotencyKey : String) : PayoutAttemptRow where
  id := input.attemptId
  settlementId := input.settlementId
  destinationVersionId := previous.destinationVersionId
  attemptNumber := previous.attemptNumber + 1
  idempotencyKey := idempotencyKey
  status := .submitted
  dispatchedBy := input.actor.id
  dispatchedAt := input.now
  providerId := some input.providerId
  rail := some input.rail
  amountMinor := previous.amountMinor
  amountCurrency := previous.amountCurrency
  slaSeconds := some input.slaSeconds

/-- Allocate the next attempt after an authoritative rejection. The settlement row is neither
read nor written. -/
def retryPayout (input : RetryInput) : CaseTx PayoutResult := do
  let c ← get
  match latestAttempt c with
  | none => return .error .attemptNotFound
  | some previous =>
    if previous.status ≠ .rejected then
      return .error (.retryRequiresAuthoritativeRejection previous.status)
    else
      let idempotencyKey ← orThrow "attempt number must be a positive integer"
        (payoutIdempotencyKey input.settlementId (previous.attemptNumber + 1))
      insertAttempt (input.attempt previous idempotencyKey)
      audit {
        actor := input.actor
        action := "payout.retry_allocated"
        subjectType := .settlement
        subjectId := input.settlementId
        reason := some input.reason }
      return .ok { attemptNumber := previous.attemptNumber + 1, status := .submitted }

end InrSettle
