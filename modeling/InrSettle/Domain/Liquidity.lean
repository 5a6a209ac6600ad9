import InrSettle.Library.Machine

/-!
# The liquidity domain

Facilities and their position, reservations, drawdowns and repayments, each with
its own transition table, and the ledger movements that carry value between the
accounts of a facility.
-/

namespace InrSettle

structure Money where
  currency : String
  minorUnits : Int
  deriving DecidableEq, Repr

/-! ### Facilities -/

inductive FacilityStatus where
  | active | suspended | closed
  deriving DecidableEq, Repr

def FacilityStatus.wire : FacilityStatus → String
  | active => "ACTIVE" | suspended => "SUSPENDED" | closed => "CLOSED"

def facilityAcceptsNewExposure (status : FacilityStatus) : Bool :=
  status == .active

structure FacilityPosition where
  currency : String
  limit : Int
  drawn : Int
  reserved : Int
  deriving DecidableEq, Repr

/-- `limit - drawn - reserved`; the source throws when it is negative. -/
def availableToSettle (position : FacilityPosition) : Option Int :=
  let available := position.limit - position.drawn - position.reserved
  if available < 0 then none else some available

inductive ReserveRefusal where
  | facilityNotFound | facilityNotActive | insufficientAvailability | currencyMismatch
  | alreadyReserved
  deriving DecidableEq, Repr

def ReserveRefusal.wire : ReserveRefusal → String
  | facilityNotFound => "facility_not_found"
  | facilityNotActive => "facility_not_active"
  | insufficientAvailability => "insufficient_availability"
  | currencyMismatch => "currency_mismatch"
  | alreadyReserved => "already_reserved"

/-- `none` when the amount may be reserved. -/
def canReserve (position : FacilityPosition) (available : Int) (status : FacilityStatus)
    (amount : Money) : Option ReserveRefusal :=
  if !facilityAcceptsNewExposure status then some .facilityNotActive
  else if amount.currency ≠ position.currency then some .currencyMismatch
  else if available < amount.minorUnits then some .insufficientAvailability
  else none

/-! ### The ledger -/

inductive LedgerAccount where
  | available | reserved | drawn
  deriving DecidableEq, Repr

inductive LedgerDirection where
  | debit | credit
  deriving DecidableEq, Repr

inductive LedgerMovement where
  | reservationCreated | reservationReleased | reservationExpired | reservationConsumed
  | repaymentConfirmed
  deriving DecidableEq, Repr

structure LedgerPair where
  source : LedgerAccount
  target : LedgerAccount
  deriving DecidableEq, Repr

/-- `MOVEMENT_PAIRS`: value moves from the source account to the target account. -/
def LedgerMovement.pair : LedgerMovement → LedgerPair
  | reservationCreated => ⟨.available, .reserved⟩
  | reservationReleased => ⟨.reserved, .available⟩
  | reservationExpired => ⟨.reserved, .available⟩
  | reservationConsumed => ⟨.reserved, .drawn⟩
  | repaymentConfirmed => ⟨.drawn, .available⟩

/-- `ledgerPairFor`: the account debited and the account credited. -/
def ledgerPairFor (movement : LedgerMovement) : LedgerAccount × LedgerAccount :=
  (movement.pair.target, movement.pair.source)

theorem ledgerPairFor_distinct (movement : LedgerMovement) :
    (ledgerPairFor movement).1 ≠ (ledgerPairFor movement).2 := by
  cases movement <;> decide

/-! ### Reservations -/

inductive ReservationStatus where
  | active | consumed | released | expired
  deriving DecidableEq, Repr

def ReservationStatus.isTerminal : ReservationStatus → Bool
  | active => false
  | _ => true

inductive ReservationTrigger where
  | reserve | consume | release | expire
  deriving DecidableEq, Repr

inductive ReservationTransitionId where
  | v01 | v02 | v03 | v04
  deriving DecidableEq, Repr

structure ReservationTransition where
  id : ReservationTransitionId
  source : List ReservationStatus
  trigger : ReservationTrigger
  target : ReservationStatus
  movement : LedgerMovement
  deriving DecidableEq, Repr

open ReservationStatus in
/-- `RESERVATION_TRANSITIONS`. -/
def reservationMachine : Machine ReservationStatus ReservationTrigger ReservationTransition where
  rows := [
    ⟨.v01, [], .reserve, active, .reservationCreated⟩,
    ⟨.v02, [active], .consume, consumed, .reservationConsumed⟩,
    ⟨.v03, [active], .release, released, .reservationReleased⟩,
    ⟨.v04, [active], .expire, expired, .reservationExpired⟩]
  source := (·.source)
  trigger := (·.trigger)
  target := (·.target)

inductive ReservationEvaluation where
  | ok (transition : ReservationTransition)
  | invalidTransition
  | consumedCannotBeReleased
  deriving DecidableEq, Repr

def evaluateReservationTransition (source : Option ReservationStatus)
    (trigger : ReservationTrigger) : ReservationEvaluation :=
  if source = some .consumed ∧ (trigger = .release ∨ trigger = .expire) then
    .consumedCannotBeReleased
  else match reservationMachine.evaluate source trigger with
    | none => .invalidTransition
    | some row => .ok row

/-- Every edge of a reservation leaves ACTIVE. -/
theorem evaluateReservationTransition_ok {status : ReservationStatus}
    {trigger : ReservationTrigger} {row : ReservationTransition}
    (h : evaluateReservationTransition (some status) trigger = .ok row) :
    status = .active ∧ row ∈ reservationMachine.rows ∧ row.trigger = trigger := by
  unfold evaluateReservationTransition at h
  split at h
  · cases h
  split at h
  · cases h
  rename_i found
  obtain rfl := ReservationEvaluation.ok.inj h
  obtain ⟨mem, answers, source⟩ := Machine.evaluate_some found
  refine ⟨?_, mem, answers⟩
  simp only [reservationMachine, List.mem_cons, List.not_mem_nil, or_false] at mem source
  rcases mem with rfl | rfl | rfl | rfl
  · cases source
  · exact List.mem_singleton.mp source
  · exact List.mem_singleton.mp source
  · exact List.mem_singleton.mp source

inductive ReservationReleaseReason where
  | settlementCancelled | settlementFailed | drawdownFailed | ttlExpired
  deriving DecidableEq, Repr

def ReservationReleaseReason.wire : ReservationReleaseReason → String
  | settlementCancelled => "settlement_cancelled" | settlementFailed => "settlement_failed"
  | drawdownFailed => "drawdown_failed" | ttlExpired => "ttl_expired"

/-! ### Drawdowns -/

inductive DrawdownStatus where
  | requested | confirmed | failed | unknown
  deriving DecidableEq, Repr

def DrawdownStatus.wire : DrawdownStatus → String
  | requested => "REQUESTED" | confirmed => "CONFIRMED" | failed => "FAILED"
  | unknown => "UNKNOWN"

def DrawdownStatus.isTerminal : DrawdownStatus → Bool
  | confirmed | failed => true
  | _ => false

inductive DrawdownTrigger where
  | request | confirmed | failed | slaElapsed | pullResolvedConfirmed | pullResolvedFailed
  deriving DecidableEq, Repr

inductive DrawdownTransitionId where
  | w01 | w02 | w03 | w04 | w05 | w06
  deriving DecidableEq, Repr

structure DrawdownTransition where
  id : DrawdownTransitionId
  source : List DrawdownStatus
  trigger : DrawdownTrigger
  target : DrawdownStatus
  deriving DecidableEq, Repr

open DrawdownStatus in
/-- `DRAWDOWN_TRANSITIONS`. -/
def drawdownMachine : Machine DrawdownStatus DrawdownTrigger DrawdownTransition where
  rows := [
    ⟨.w01, [], .request, requested⟩,
    ⟨.w02, [requested], .confirmed, confirmed⟩,
    ⟨.w03, [requested], .failed, failed⟩,
    ⟨.w04, [requested], .slaElapsed, unknown⟩,
    ⟨.w05, [unknown], .pullResolvedConfirmed, confirmed⟩,
    ⟨.w06, [unknown], .pullResolvedFailed, failed⟩]
  source := (·.source)
  trigger := (·.trigger)
  target := (·.target)

/-- `drawdownFingerprint`. -/
def drawdownFingerprint (drawdownId : String) : String :=
  s!"drawdown:v1:{drawdownId}"

/-! ### Repayments -/

inductive RepaymentStatus where
  | requested | submitted | confirmed | failed | unknown
  deriving DecidableEq, Repr

namespace RepaymentStatus

def wire : RepaymentStatus → String
  | requested => "REQUESTED" | submitted => "SUBMITTED" | confirmed => "CONFIRMED"
  | failed => "FAILED" | unknown => "UNKNOWN"

/-- `isRepaymentInFlight`. -/
def isInFlight : RepaymentStatus → Bool
  | requested | submitted | unknown => true
  | _ => false

end RepaymentStatus

inductive RepaymentSource where
  | cancellationAfterDrawdown | settlementReturn | manual | scheduled
  deriving DecidableEq, Repr

def RepaymentSource.wire : RepaymentSource → String
  | cancellationAfterDrawdown => "CANCELLATION_AFTER_DRAWDOWN"
  | settlementReturn => "SETTLEMENT_RETURN" | manual => "MANUAL" | scheduled => "SCHEDULED"

inductive RepaymentTrigger where
  | request | submit | confirmed | rejected | slaElapsed
  | pullResolvedConfirmed | pullResolvedFailed | reRequest
  deriving DecidableEq, Repr

def RepaymentTrigger.wire : RepaymentTrigger → String
  | request => "request" | submit => "submit" | confirmed => "confirmed"
  | rejected => "rejected" | slaElapsed => "sla_elapsed"
  | pullResolvedConfirmed => "pull_resolved_confirmed"
  | pullResolvedFailed => "pull_resolved_failed" | reRequest => "re_request"

inductive RepaymentTransitionId where
  | y01 | y02 | y03 | y04 | y05 | y06 | y07 | y08
  deriving DecidableEq, Repr

def RepaymentTransitionId.wire : RepaymentTransitionId → String
  | y01 => "Y01" | y02 => "Y02" | y03 => "Y03" | y04 => "Y04"
  | y05 => "Y05" | y06 => "Y06" | y07 => "Y07" | y08 => "Y08"

structure RepaymentTransition where
  id : RepaymentTransitionId
  source : List RepaymentStatus
  trigger : RepaymentTrigger
  target : RepaymentStatus
  restoresCapacity : Bool := false
  requiresNewFingerprint : Bool := false
  deriving DecidableEq, Repr

open RepaymentStatus in
/-- `REPAYMENT_TRANSITIONS`. -/
def repaymentMachine : Machine RepaymentStatus RepaymentTrigger RepaymentTransition where
  rows := [
    { id := .y01, source := [], trigger := .request, target := requested },
    { id := .y02, source := [requested], trigger := .submit, target := submitted },
    { id := .y03, source := [submitted], trigger := .confirmed, target := confirmed,
      restoresCapacity := true },
    { id := .y04, source := [submitted], trigger := .rejected, target := failed },
    { id := .y05, source := [submitted], trigger := .slaElapsed, target := unknown },
    { id := .y06, source := [unknown], trigger := .pullResolvedConfirmed, target := confirmed,
      restoresCapacity := true },
    { id := .y07, source := [unknown], trigger := .pullResolvedFailed, target := failed },
    { id := .y08, source := [failed], trigger := .reRequest, target := requested,
      requiresNewFingerprint := true }]
  source := (·.source)
  trigger := (·.trigger)
  target := (·.target)

/-- A repayment restores capacity exactly when it is confirmed, and re-enters the in-flight
statuses from outside them only by a re-request, which alone changes the fingerprint. -/
theorem repaymentMachine_rows {row : RepaymentTransition} (mem : row ∈ repaymentMachine.rows)
    {status : RepaymentStatus} (source : status ∈ row.source) :
    (row.restoresCapacity = true ↔ row.target = .confirmed) ∧
      (row.target = .confirmed → status.isInFlight = true) ∧
      (row.requiresNewFingerprint = true ↔ row.trigger = .reRequest) ∧
      (row.trigger = .reRequest ↔ status = .failed) ∧
      (row.target = .failed → status.isInFlight = true) ∧ status ≠ .confirmed := by
  simp only [repaymentMachine, List.mem_cons, List.not_mem_nil, or_false] at mem
  rcases mem with rfl | rfl | rfl | rfl | rfl | rfl | rfl | rfl <;>
    simp only [List.not_mem_nil, List.mem_singleton] at source <;>
    (subst source; decide)

/-- `repaymentFingerprint`; the attempt number is a positive integer at every call. -/
def repaymentFingerprint (repaymentId : String) (attempt : Nat) : Option String :=
  if attempt < 1 then none else some s!"repay:v1:{repaymentId}:{attempt}"

end InrSettle
