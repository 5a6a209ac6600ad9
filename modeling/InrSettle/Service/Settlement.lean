import Mathlib
import InrSettle.Domain.Payout
import InrSettle.Service.Transition

/-!
# The settlement service

Preflight, quote, authorization, cancellation, dispatch and exceptions. Where the
source reads the settlement without locking it, the row it read is a parameter: by
the time the transition locks the row, another transaction may have moved it.
-/

namespace InrSettle

open Transaction CaseTables

/-! ### Preflight and quotes -/

def startPreflight (settlement : Option SettlementRow) (actor : PrincipalRef) :
    CaseTx TransitionOutcome := do
  match settlement with
  | none => return .error .settlementNotFound
  | some settlement =>
    applyTransition {
      trigger := .runPreflight
      actor := actor
      guards := [(.beneficiaryAmountPurposePresent,
        settlement.beneficiaryId != "" && decide (0 < settlement.recipientAmountMinor) &&
          settlement.purposeCode.isSome)] }

structure PreflightInput where
  settlementId : String
  actor : PrincipalRef
  /-- What `runPreflightFor` answered: the codes of the blocking requirements. -/
  blocking : List String
  ruleSetVersion : String
  fingerprint : String
  deriving DecidableEq

/-- T03 or T04, by whether anything blocks. -/
def completePreflight (settlement : Option SettlementRow) (input : PreflightInput) :
    CaseTx TransitionOutcome := do
  match settlement with
  | none => return .error .settlementNotFound
  | some _ =>
    let passed := input.blocking.isEmpty
    applyTransition {
      trigger := if passed then .preflightPassed else .preflightBlocked
      actor := input.actor
      guards := [(.noBlockingRequirements, passed), (.hasBlockingRequirements, !passed)]
      companions := [{
        type := .preflightCompleted
        subjectType := .settlement
        subjectId := input.settlementId
        payload := [("rule_set_version", input.ruleSetVersion),
          ("fingerprint", input.fingerprint), ("blocking", ",".intercalate input.blocking)] }] }

inductive QuoteStatus where
  | active | locked | consumed | expired | void
  deriving DecidableEq

/-- A quote as the settlement service reads it. -/
structure QuoteView where
  terms : AuthorizedTerms
  /-- Workspace and environment are the settlement's own. -/
  sameTenant : Bool
  status : QuoteStatus
  consumedBySettlementId : Option String := none
  expiresAt : Instant
  deriving DecidableEq

def isAttachable (settlement : SettlementRow) (quote : Option QuoteView) (now : Instant) : Bool :=
  quote.any fun quote =>
    quote.sameTenant && quote.status == .active && quote.consumedBySettlementId.isNone &&
      decide (now ≤ quote.expiresAt) &&
      quote.terms.recipientAmount.minorUnits == settlement.recipientAmountMinor &&
      quote.terms.fundingAmount.currency == settlement.fundingCurrency

structure QuoteInput where
  quoteId : String
  quote : Option QuoteView
  actor : PrincipalRef
  now : Instant
  deriving DecidableEq

def attachQuote (settlement : Option SettlementRow) (input : QuoteInput) :
    CaseTx TransitionOutcome := do
  match settlement with
  | none => return .error .settlementNotFound
  | some settlement =>
    let attachable := isAttachable settlement input.quote input.now
    applyTransition {
      trigger := .attachQuote
      actor := input.actor
      guards := [(.quoteAttachable, attachable)]
      patch := if attachable then [.quoteId (some input.quoteId)] else []
      companions := if attachable then
          [{ type := .quoteLocked, subjectType := .quote, subjectId := input.quoteId }]
        else [] }

def expireAttachedQuote (settlement : Option SettlementRow) (input : QuoteInput) :
    CaseTx TransitionOutcome := do
  match settlement.bind (·.quoteId) with
  | none => return .error .settlementNotFound
  | some quoteId =>
    let expired := input.quote.any fun quote => decide (quote.expiresAt < input.now)
    applyTransition {
      trigger := .quoteExpired
      actor := input.actor
      guards := [(.quoteExpiredByServerClock, expired)]
      patch := if expired then [.quoteId none] else []
      companions := if expired then
          [{ type := .quoteExpired, subjectType := .quote, subjectId := quoteId }]
        else [] }

/-! ### Authorization -/

/-- The instruction with its fees sorted by code, which the hash and the stored terms share. -/
def canonicalInstruction (instruction : AuthorizedInstruction) : AuthorizedInstruction :=
  { instruction with
    terms := { instruction.terms with
      feeComponents := instruction.terms.feeComponents.insertionSort (·.code ≤ ·.code) } }

/-- `authorizedTermsHash`, over a digest of the canonical instruction. -/
def authorizedTermsHash (digest : AuthorizedInstruction → String)
    (instruction : AuthorizedInstruction) : String :=
  digest (canonicalInstruction instruction)

inductive SeparationDecision where
  | allowed
  | creatorCannotAuthorize
  | authorizerIsNotHuman
  deriving DecidableEq

def evaluateSeparationOfDuties (enabled : Bool) (createdBy authorizedBy : PrincipalRef) :
    SeparationDecision :=
  if !enabled then .allowed
  else if authorizedBy.type ≠ .user then .authorizerIsNotHuman
  else if createdBy = authorizedBy then .creatorCannotAuthorize
  else .allowed

/-- `denialFor`: the code and the title of a refusal. -/
def denialFor : SeparationDecision → Option (String × String)
  | .allowed => none
  | .creatorCannotAuthorize => some ("separation_of_duties", "Someone else needs to approve this")
  | .authorizerIsNotHuman =>
    some ("human_approver_required", "A person needs to approve this")

structure DestinationView where
  id : String
  versionId : String
  verified : Bool
  deriving DecidableEq

structure AuthorizeInput where
  settlementId : String
  actor : PrincipalRef
  mayAuthorize : Bool
  separationEnabled : Bool
  quote : Option QuoteView
  beneficiaryVerified : Bool
  destination : Option DestinationView
  preflightPassing : Bool
  hasActiveLiquidityFacility : Bool
  /-- Whether `transitionQuote` consumed the quote. -/
  quoteConsumed : Bool
  expectedVersion : Option Nat := none
  now : Instant
  deriving DecidableEq

inductive AuthorizeRefusal where
  | settlementNotFound | noQuoteAttached | missingCapability | unexpected | quoteNotConsumed
  | denied (code : String)
  | transition (failure : TransitionFailure)
  deriving DecidableEq

def isQuoteValid (settlement : SettlementRow) (quote : Option QuoteView) (now : Instant) : Bool :=
  quote.any fun quote =>
    quote.sameTenant && (quote.status == .active || quote.status == .locked) &&
      quote.consumedBySettlementId.isNone && decide (now ≤ quote.expiresAt) &&
      quote.terms.recipientAmount.minorUnits == settlement.recipientAmountMinor

/-- `freezeInstruction`, as it is stored. -/
def freezeInstruction (settlement : SettlementRow) (destination : DestinationView)
    (quote : QuoteView) : AuthorizedInstruction :=
  canonicalInstruction {
    beneficiaryId := settlement.beneficiaryId
    destinationId := destination.id
    destinationVersionId := destination.versionId
    recipientAmount := quote.terms.recipientAmount
    purposeCode := settlement.purposeCode.getD ""
    fundingCurrency := quote.terms.fundingAmount.currency
    terms := quote.terms }

def authorizationGuards (input : AuthorizeInput) (quoteValid destinationVerified : Bool) :
    GuardContext :=
  [(.quoteValidForAuthorization, quoteValid), (.beneficiaryVerified, input.beneficiaryVerified),
    (.destinationVersionVerified, destinationVerified), (.actorMayAuthorize, true),
    (.preflightStillPassing, input.preflightPassing),
    (.activeLiquidityFacility, input.hasActiveLiquidityFacility)]

/-- The columns T08 freezes. -/
def authorizationPatch (digest : AuthorizedInstruction → String) (settlement : SettlementRow)
    (destination : DestinationView) (quote : QuoteView) (input : AuthorizeInput) :
    List ColumnWrite :=
  [.destinationId destination.id, .destinationVersionId destination.versionId,
    .authorizedTerms (freezeInstruction settlement destination quote),
    .authorizedTermsHash (authorizedTermsHash digest
      (freezeInstruction settlement destination quote)),
    .authorizedAt input.now, .authorizedBy input.actor.id]

def authorizeSettlement (digest : AuthorizedInstruction → String)
    (settlement : Option SettlementRow) (input : AuthorizeInput) :
    CaseTx (Except AuthorizeRefusal String) := do
  match settlement with
  | none => return .error .settlementNotFound
  | some settlement =>
    match settlement.quoteId with
    | none => return .error .noQuoteAttached
    | some _ =>
      let quoteValid := isQuoteValid settlement input.quote input.now
      let destinationVerified := input.destination.any (·.verified)
      if !input.mayAuthorize then return .error .missingCapability
      else match denialFor (evaluateSeparationOfDuties input.separationEnabled
          ⟨.user, settlement.createdBy⟩ input.actor) with
      | some (code, title) =>
        audit {
          actor := input.actor
          action := "settlement.authorize_refused"
          subjectType := .settlement
          subjectId := input.settlementId
          reason := some title }
        return .error (.denied code)
      | none =>
        match input.quote, input.destination, quoteValid && destinationVerified &&
            input.preflightPassing with
        | some quote, some destination, true =>
          let hash := authorizedTermsHash digest (freezeInstruction settlement destination quote)
          let outcome ← applyTransition {
            trigger := .authorize
            actor := input.actor
            guards := authorizationGuards input true true
            expectedVersion := input.expectedVersion
            patch := authorizationPatch digest settlement destination quote input
            statusEventPayload := [("authorized_terms_hash", hash)]
            companions := [{
              type := .quoteConsumed
              subjectType := .quote
              subjectId := quote.terms.quoteId
              payload := [("settlement_id", input.settlementId)] }] }
          match outcome with
          | .error failure => return .error (.transition failure)
          | .ok _ =>
            if !input.quoteConsumed then return .error .quoteNotConsumed
            else return .ok hash
        | _, _, _ =>
          let refused ← applyTransition {
            trigger := .authorize
            actor := input.actor
            guards := authorizationGuards input quoteValid destinationVerified
            expectedVersion := input.expectedVersion }
          match refused with
          | .error failure => return .error (.transition failure)
          | .ok _ => return .error .unexpected

/-! ### Cancellation -/

inductive CancelRefusal where
  | pastPointOfNoReturn
  | transition (failure : TransitionFailure)
  deriving DecidableEq

structure CancelInput where
  settlementId : String
  actor : PrincipalRef
  mayCancel : Bool
  reason : Option String := none
  now : Instant
  deriving DecidableEq

/-- T26, under the row lock. -/
def requestCancellation (input : CancelInput) : CaseTx (Except CancelRefusal Transitioned) := do
  let c ← get
  match c.settlement with
  | none => return .error (.transition .settlementNotFound)
  | some current =>
    if current.pointOfNoReturnAt.isSome then
      audit {
        actor := input.actor
        action := "settlement.cancellation_refused"
        subjectType := .settlement
        subjectId := input.settlementId }
      return .error .pastPointOfNoReturn
    else
      let outcome ← applyTransition {
        trigger := .requestCancellation
        actor := input.actor
        guards := [(.beforePointOfNoReturn, true), (.actorMayCancel, input.mayCancel)]
        patch := [.cancellationRequestedAt input.now, .cancellationRequestedBy input.actor.id]
        companions := [{
          type := .cancellationRequested
          subjectType := .settlement
          subjectId := input.settlementId }]
        reason := input.reason }
      return outcome.mapError .transition

/-- T25 before authorization, T26 after it. -/
def cancelSettlement (settlement : Option SettlementRow) (input : CancelInput) :
    CaseTx (Except CancelRefusal Transitioned) := do
  match settlement with
  | none => return .error (.transition .settlementNotFound)
  | some settlement =>
    if settlement.status ∈ [.draft, .ready, .quoted, .actionRequired] then
      let outcome ← applyTransition {
        trigger := .cancel
        actor := input.actor
        guards := [(.actorMayCancel, input.mayCancel)]
        companions := settlement.quoteId.toList.map fun quoteId =>
          { type := .quoteExpired, subjectType := .quote, subjectId := quoteId }
        reason := input.reason }
      return outcome.mapError .transition
    else requestCancellation input

inductive FacilityCompensation where
  | release | repayment
  deriving DecidableEq

def FacilityCompensation.companion : FacilityCompensation → CompanionEvent
  | release => .reservationReleased
  | repayment => .repaymentRequested

structure HonourInput where
  settlementId : String
  actor : PrincipalRef
  facilityCompensation : Option FacilityCompensation := none
  deriving DecidableEq

/-- T27, with guards answered from the row as it was read. -/
def honourCancellation (settlement : Option SettlementRow) (input : HonourInput) :
    CaseTx TransitionOutcome := do
  match settlement with
  | none => return .error .settlementNotFound
  | some settlement =>
    let compensation := input.facilityCompensation.getD
      (if settlement.status = .drawdownConfirmed then .repayment else .release)
    applyTransition {
      trigger := .cancellationHonoured
      actor := input.actor
      guards := [(.cancellationPending, settlement.cancellationRequestedAt.isSome),
        (.atCheckpoint, true), (.beforePointOfNoReturn, settlement.pointOfNoReturnAt.isNone)]
      companions := if settlement.status = .authorized then []
        else [{
          type := compensation.companion
          subjectType := .settlement
          subjectId := input.settlementId }] }

/-! ### Dispatch -/

structure DispatchInput where
  settlementId : String
  actor : PrincipalRef
  railSelected : Bool
  rail : Option String := none
  slaSeconds : Option Nat := none
  providerId : Option String := none
  fundingAmountMinor : Option Int := none
  /-- Whether the frozen destination version has a verified verification. -/
  destinationVerified : Bool
  attemptId : String
  now : Instant
  deriving DecidableEq

inductive DispatchRefusal where
  | settlementNotFound | cancellationPending | notAuthorized | attemptStateInconsistent
  | alreadyDispatched
  | attempt (allocation : AttemptAllocation)
  | transition (failure : TransitionFailure)
  deriving DecidableEq

structure Dispatched where
  payoutAttemptId : String
  attemptNumber : Nat
  idempotencyKey : String
  pointOfNoReturnAt : Instant
  reused : Bool
  deriving DecidableEq

/-- `allocation.ok`. -/
def AttemptAllocation.isOk : AttemptAllocation → Bool
  | firstAttempt | reuseInFlight _ | nextAttempt _ => true
  | _ => false

def PayoutAttemptRow.summary (a : PayoutAttemptRow) : AttemptSummary :=
  ⟨a.attemptNumber, a.status⟩

def DispatchInput.attempt (input : DispatchInput) (destinationVersionId idempotencyKey : String) :
    PayoutAttemptRow where
  id := input.attemptId
  settlementId := input.settlementId
  destinationVersionId := destinationVersionId
  attemptNumber := 1
  status := .submitted
  idempotencyKey := idempotencyKey
  providerId := input.providerId
  rail := input.rail
  amountMinor := input.fundingAmountMinor
  amountCurrency := input.fundingAmountMinor.map fun _ => "INR"
  slaSeconds := input.slaSeconds
  dispatchedAt := input.now
  dispatchedBy := input.actor.id

/-- T15: the point of no return, the attempt and its key, in one transaction under the row
lock. -/
def dispatchPayout (input : DispatchInput) : CaseTx (Except DispatchRefusal Dispatched) := do
  let c ← get
  match c.settlement with
  | none => return .error .settlementNotFound
  | some current =>
    if current.cancellationRequestedAt.isSome then return .error .cancellationPending
    else match current.destinationVersionId, current.authorizedTermsHash with
    | some destinationVersionId, some authorizedTermsHash =>
      if destinationVersionId = "" ∨ authorizedTermsHash = "" then return .error .notAuthorized
      else
        let allocation := allocateAttemptNumber (c.attempts.map (·.summary))
        if !allocation.isOk then return .error (.attempt allocation)
        else match current.pointOfNoReturnAt, allocation with
        | some pointOfNoReturnAt, .reuseInFlight attemptNumber =>
          match c.attempts.find? fun a => decide (a.attemptNumber = attemptNumber) with
          | none => return .error .attemptStateInconsistent
          | some attempt =>
            return .ok ⟨attempt.id, attempt.attemptNumber, attempt.idempotencyKey,
              pointOfNoReturnAt, true⟩
        | some _, _ => return .error .alreadyDispatched
        | none, .firstAttempt =>
          let idempotencyKey ← orThrow "attempt number must be a positive integer"
            (payoutIdempotencyKey input.settlementId 1)
          let outcome ← applyTransition {
            trigger := .dispatchPayout
            actor := input.actor
            guards := [(.railSelected, input.railSelected),
              (.destinationVersionVerified, input.destinationVerified),
              (.noCancellationPending, true), (.beforePointOfNoReturn, true)]
            patch := [.pointOfNoReturnAt input.now, .payoutAttemptId input.attemptId]
            statusEventPayload := [("payout_attempt_id", input.attemptId)] }
          match outcome with
          | .error failure => return .error (.transition failure)
          | .ok _ =>
            insertAttempt (input.attempt destinationVersionId idempotencyKey)
            return .ok ⟨input.attemptId, 1, idempotencyKey, input.now, false⟩
        | none, _ => return .error .attemptStateInconsistent
    | _, _ => return .error .notAuthorized

/-! ### Exceptions -/

/-- The triggers `openException` accepts. -/
inductive ExceptionTrigger where
  | reservationFailed | drawdownFailed | payoutRejected | payoutTimeout | reconciledMismatch
  | reservationExpired | drawdownTimeout | reconciliationStalled
  deriving DecidableEq

namespace ExceptionTrigger

def trigger : ExceptionTrigger → Trigger
  | reservationFailed => .reservationFailed | drawdownFailed => .drawdownFailed
  | payoutRejected => .payoutRejected | payoutTimeout => .payoutTimeout
  | reconciledMismatch => .reconciledMismatch | reservationExpired => .reservationExpired
  | drawdownTimeout => .drawdownTimeout | reconciliationStalled => .reconciliationStalled

def companion : ExceptionTrigger → Option CompanionEvent
  | drawdownFailed => some .reservationReleased
  | reservationExpired => some .reservationExpired
  | reconciledMismatch => some .reconciled
  | _ => none

end ExceptionTrigger

structure OpenExceptionInput where
  settlementId : String
  trigger : ExceptionTrigger
  code : ExceptionCode
  actor : PrincipalRef
  guards : GuardContext
  exceptionId : String
  deriving DecidableEq

def openException (settlement : Option SettlementRow) (input : OpenExceptionInput) :
    CaseTx TransitionOutcome := do
  match settlement with
  | none => return .error .settlementNotFound
  | some settlement =>
    let outcome ← applyTransition {
      trigger := input.trigger.trigger
      actor := input.actor
      guards := input.guards
      exceptionCode := some input.code
      companions := input.trigger.companion.toList.map fun type =>
        { type := type, subjectType := .settlement, subjectId := input.settlementId } }
    match outcome with
    | .error failure => return .error failure
    | .ok done =>
      insertException {
        id := input.exceptionId
        code := input.code
        enteredFrom := settlement.status }
      return .ok done

inductive Resolution where
  | resume | fail | cancel
  deriving DecidableEq

namespace Resolution

def trigger : Resolution → Trigger
  | resume => .resolveResume | fail => .resolveFail | cancel => .resolveCancel

def wire : Resolution → String
  | resume => "resume" | fail => "fail" | cancel => "cancel"

end Resolution

structure ResolveInput where
  settlementId : String
  resolution : Resolution
  actor : PrincipalRef
  reason : String
  facilityCompensation : Option FacilityCompensation := none
  now : Instant
  deriving DecidableEq

/-- T22, T23 or T24, with guards answered from the row as it was read. -/
def resolveException (settlement : Option SettlementRow) (input : ResolveInput) :
    CaseTx TransitionOutcome := do
  match settlement with
  | none => return .error .settlementNotFound
  | some settlement =>
    let outcome ← applyTransition {
      trigger := input.resolution.trigger
      actor := input.actor
      guards := [(.resolutionAttributed, isStated input.reason),
        (.noValueDelivered, settlement.pointOfNoReturnAt.isNone),
        (.beforePointOfNoReturn, settlement.pointOfNoReturnAt.isNone)]
      companions := if input.resolution = .resume then []
        else [{
          type := (input.facilityCompensation.getD .release).companion
          subjectType := .settlement
          subjectId := input.settlementId }]
      reason := some input.reason }
    match outcome with
    | .error failure => return .error failure
    | .ok done =>
      resolveExceptions (·.resolvedAt.isNone) input.now input.actor.id input.reason
      return .ok done

end InrSettle
