import InrSettle.Service.Liquidity
import InrSettle.Service.Payout

/-!
# The settlement funding service

Reserve, draw and compensate for one settlement. These transactions write both the
settlement's own rows and the funding tables.
-/

namespace InrSettle

open Transaction

/-! ### Reserving -/

inductive FundingRefusal where
  | settlementNotFound | facilityNotFound | noActiveReservation | drawdownNotFound
  | evidenceRequired | currencyMismatch | facilityMismatch | amountMismatch
  | providerEventUnverified | invalidTransition
  | reserve (refusal : ReserveRefusal)
  | reservation (refusal : ReservationRefusal)
  | repayment (refusal : RepaymentRefusal)
  | transition (failure : TransitionFailure)
  deriving DecidableEq

structure FundingDone where
  transition : Option TransitionId
  reservationId : Option String := none
  drawdownId : Option String := none
  idempotent : Bool := false
  deriving DecidableEq

/-- `FundingResult`. -/
abbrev FundingResult := Except FundingRefusal FundingDone

structure ReserveForInput where
  settlementId : String
  facilityId : String
  fundingAmount : Money
  ttlSeconds : Int
  actor : PrincipalRef
  deriving DecidableEq

/-- The first transaction of `reserveForSettlement`. The facility is read without its lock. -/
def beginReservation (facility : Option FacilityView) (input : ReserveForInput) :
    StoreTx FundingResult := do
  let s ← get
  match s.case.settlement with
  | none => return .error .settlementNotFound
  | some settlement =>
    match facility with
    | none => return .error .facilityNotFound
    | some facility =>
      let outcome ← onCase (applyTransition {
        trigger := .beginReservation
        actor := input.actor
        guards := [(.facilityActive, facility.row.status == .active),
          (.noCancellationPending, settlement.cancellationRequestedAt.isNone)] })
      match outcome with
      | .error failure => return .error (.transition failure)
      | .ok done => return .ok { transition := some done.transition }

/-- What the platform supplies to a transaction that reserves. -/
structure ReserveStamp where
  reservationId : String
  transferId : String
  now : Instant
  deriving DecidableEq

/-- The second transaction of `reserveForSettlement`. -/
def completeReservation (input : ReserveForInput) (stamp : ReserveStamp) :
    StoreTx FundingResult := do
  match ← onLiquidity (lockFacility input.facilityId) with
  | none => return .error .facilityNotFound
  | some facility =>
    let reserved ← onLiquidity (reserveLiquidity {
      facilityId := input.facilityId
      settlementId := input.settlementId
      amount := input.fundingAmount
      ttlSeconds := input.ttlSeconds
      actor := input.actor
      reservationId := stamp.reservationId
      transferId := stamp.transferId
      now := stamp.now })
    match reserved with
    | .error refusal =>
      let _ ← onCase (applyTransition {
        trigger := .reservationFailed
        actor := input.actor
        guards := []
        exceptionCode := some (if refusal = .facilityNotActive then .facilitySuspended
          else .liquidityUnavailable) })
      return .error (.reserve refusal)
    | .ok reserved =>
      let succeeded ← onCase (applyTransition {
        trigger := .reservationSucceeded
        actor := input.actor
        guards := [(.sufficientAvailability, true),
          (.facilityActive, facility.row.status == .active)]
        statusEventPayload := [("reservation_id", reserved.reservationId)] })
      match succeeded with
      | .error failure => return .error (.transition failure)
      | .ok done =>
        return .ok { transition := some done.transition,
                     reservationId := some reserved.reservationId }

/-! ### Drawing -/

structure DrawInput where
  settlementId : String
  actor : PrincipalRef
  drawdownId : String
  now : Instant
  deriving DecidableEq

def DrawInput.row (input : DrawInput) (reservation : ReservationRow) : DrawdownRow where
  id := input.drawdownId
  facilityId := reservation.facilityId
  reservationId := reservation.id
  amountMinor := reservation.amountMinor
  amountCurrency := reservation.amountCurrency
  status := .requested
  requestFingerprint := drawdownFingerprint input.drawdownId
  requestedAt := input.now
  requestedBy := input.actor.id

/-- The settlement's ACTIVE reservation, of which the index admits one. -/
def activeReservation (l : Liquidity) (settlementId : String) : Option ReservationRow :=
  l.reservations.find? fun r => decide (r.settlementId = settlementId) && decide (r.status = .active)

/-- T12. -/
def requestDrawdown (input : DrawInput) : StoreTx FundingResult := do
  let s ← get
  match s.case.settlement with
  | none => return .error .settlementNotFound
  | some settlement =>
    let reservation := activeReservation s.liquidity input.settlementId
    let outcome ← onCase (applyTransition {
      trigger := .requestDrawdown
      actor := input.actor
      guards := [(.activeReservationExists, reservation.isSome),
        (.noCancellationPending, settlement.cancellationRequestedAt.isNone)] })
    match outcome with
    | .error failure => return .error (.transition failure)
    | .ok done =>
      match reservation with
      | none => return .error .noActiveReservation
      | some reservation =>
        onCase (CaseTables.insertDrawdown (input.row reservation))
        return .ok { transition := some done.transition, drawdownId := some input.drawdownId }

structure DrawdownEvidence where
  amountMinor : Int
  currency : String
  facilityId : Option String := none
  deriving DecidableEq

/-- `matchesDrawdown`: `none` when the evidence is about this drawdown and its amount. -/
def mismatch (drawdown : DrawdownRow) : Option DrawdownEvidence → Option FundingRefusal
  | none => some .evidenceRequired
  | some evidence =>
    if evidence.currency ≠ drawdown.amountCurrency then some .currencyMismatch
    else if evidence.facilityId.any (· ≠ drawdown.facilityId) then some .facilityMismatch
    else if evidence.amountMinor ≠ drawdown.amountMinor then some .amountMismatch
    else none

/-- The triggers `resolveDrawdown` accepts. -/
inductive DrawdownResolution where
  | confirmed | failed | slaElapsed | pullResolvedConfirmed | pullResolvedFailed
  deriving DecidableEq

namespace DrawdownResolution

def trigger : DrawdownResolution → DrawdownTrigger
  | confirmed => .confirmed | failed => .failed | slaElapsed => .slaElapsed
  | pullResolvedConfirmed => .pullResolvedConfirmed | pullResolvedFailed => .pullResolvedFailed

def isConfirming : DrawdownResolution → Bool
  | confirmed | pullResolvedConfirmed => true
  | _ => false

def isFailing : DrawdownResolution → Bool
  | failed | pullResolvedFailed => true
  | _ => false

end DrawdownResolution

structure ResolveDrawdownInput where
  settlementId : String
  trigger : DrawdownResolution
  actor : PrincipalRef
  providerReference : Option String := none
  providerEventVerified : Bool
  evidence : Option DrawdownEvidence := none
  transferId : String
  now : Instant
  deriving DecidableEq

/-- The settlement's drawdown requested last. -/
def latestDrawdown (c : Case) : Option DrawdownRow :=
  Table.latestBy (·.requestedAt) c.drawdowns

/-- The settlement's side of a resolved drawdown: T13, T14 or T29. -/
def drawdownTransition (input : ResolveDrawdownInput) (target : DrawdownStatus) :
    ApplyTransitionInput :=
  match target with
  | .confirmed => {
      trigger := .drawdownConfirmed
      actor := input.actor
      guards := [(.providerEventVerified, input.providerEventVerified)]
      companions := [{ type := .drawdownConfirmed, subjectType := .settlement,
                       subjectId := input.settlementId }] }
  | .failed => {
      trigger := .drawdownFailed
      actor := input.actor
      guards := [(.providerEventVerified, input.providerEventVerified)]
      exceptionCode := some .drawdownFailed
      companions := [{ type := .reservationReleased, subjectType := .settlement,
                       subjectId := input.settlementId }] }
  | _ => {
      trigger := .drawdownTimeout
      actor := input.actor
      guards := [(.drawdownSlaElapsed, true)]
      exceptionCode := some .drawdownStatusUnknown }

/-- The reservation's side of a resolved drawdown. -/
def followReservation (input : ResolveDrawdownInput) :
    DrawdownStatus → LiquidityTx (Except ReservationRefusal PUnit)
  | .confirmed => do
    let consumed ← consumeReservation {
      settlementId := input.settlementId
      actor := input.actor
      transferId := input.transferId
      now := input.now }
    return consumed.map fun _ => ⟨⟩
  | .failed => do
    let released ← releaseReservation {
      settlementId := input.settlementId
      reason := .drawdownFailed
      actor := input.actor
      transferId := input.transferId
      now := input.now }
    return released.map fun _ => ⟨⟩
  | _ => return .ok ⟨⟩

/-- Resolve the drawdown, its reservation and the settlement, in this order. A refusal on the
way commits what was written before it. -/
def resolveDrawdown (input : ResolveDrawdownInput) : StoreTx FundingResult := do
  let s ← get
  match latestDrawdown s.case with
  | none => return .error .drawdownNotFound
  | some drawdown =>
    if (input.trigger.isConfirming || input.trigger.isFailing) && !input.providerEventVerified then
      return .error .providerEventUnverified
    else match (if input.trigger.isConfirming then mismatch drawdown input.evidence else none) with
    | some refusal => return .error refusal
    | none =>
      if input.trigger.isConfirming ∧ drawdown.status = .confirmed then
        return .ok { transition := none, drawdownId := some drawdown.id, idempotent := true }
      else match drawdownMachine.evaluate (some drawdown.status) input.trigger.trigger with
      | none => return .error .invalidTransition
      | some row =>
        onCase (CaseTables.updateDrawdown drawdown.id row.target input.now
          input.providerReference)
        match ← onLiquidity (followReservation input row.target) with
        | .error refusal => return .error (.reservation refusal)
        | .ok _ =>
          let outcome ← onCase (applyTransition (drawdownTransition input row.target))
          match outcome with
          | .error failure => return .error (.transition failure)
          | .ok done =>
            return .ok { transition := some done.transition, drawdownId := some drawdown.id }

/-! ### Compensation -/

inductive Compensation where
  | reservationReleased | repaymentRequested | none
  deriving DecidableEq

namespace Compensation

def companion : Compensation → Option CompanionEvent
  | reservationReleased => some .reservationReleased
  | repaymentRequested => some .repaymentRequested
  | none => Option.none

end Compensation

structure CompensateInput where
  settlementId : String
  actor : PrincipalRef
  repaymentId : String
  transferId : String
  now : Instant
  deriving DecidableEq

/-- The settlement's reservation created last. -/
def latestReservation (l : Liquidity) (settlementId : String) : Option ReservationRow :=
  Table.latestBy (·.createdAt) (l.reservations.filter fun r => decide (r.settlementId = settlementId))

/-- Give back what the settlement holds: release an ACTIVE reservation, or request the repayment
of a CONSUMED one. -/
def compensateCancellation (input : CompensateInput) :
    StoreTx (Except FundingRefusal Compensation) := do
  let s ← get
  match s.case.settlement with
  | none => return .error .settlementNotFound
  | some _ =>
    match latestReservation s.liquidity input.settlementId with
    | none => return .ok .none
    | some reservation =>
      match reservation.status with
      | .active =>
        let released ← onLiquidity (releaseReservation {
          settlementId := input.settlementId
          reason := .settlementCancelled
          actor := input.actor
          transferId := input.transferId
          now := input.now })
        match released with
        | .error refusal => return .error (.reservation refusal)
        | .ok _ => return .ok .reservationReleased
      | .consumed =>
        let repayment ← onLiquidity (requestRepayment {
          facilityId := reservation.facilityId
          amount := ⟨reservation.amountCurrency, reservation.amountMinor⟩
          source := .cancellationAfterDrawdown
          settlementId := some input.settlementId
          actor := input.actor
          repaymentId := input.repaymentId
          now := input.now })
        match repayment with
        | .error refusal => return .error (.repayment refusal)
        | .ok _ => return .ok .repaymentRequested
      | .released => return .ok .none
      | .expired => return .ok .none

end InrSettle
