import InrSettle.Store.Funding

/-!
# The liquidity service

Reserve, release, consume, repay. Each function is one stretch of a transaction
on the funding tables, under the facility's row lock. Identifiers and the
database clock are inputs: the platform supplies them fresh.
-/

namespace InrSettle

open Transaction FundingTables

/-! ### Reading and posting -/

/-- A facility as the service reads it, with what it can still promise. -/
structure FacilityView where
  row : FacilityRow
  available : Int
  deriving DecidableEq

def FacilityRow.position (f : FacilityRow) : FacilityPosition :=
  ⟨f.currency, f.limitMinor, f.drawnMinor, f.reservedMinor⟩

/-- `readFacility`, and `lockFacility`, which reads the same under the row lock. A position
whose availability is negative throws. -/
def lockFacility (facilityId : String) : LiquidityTx (Option FacilityView) := do
  let l ← get
  match facilityOf l facilityId with
  | none => return none
  | some f =>
    match availableToSettle f.position with
    | none => abort (.thrown "negative_availability")
    | some available => return some ⟨f, available⟩

structure Movement where
  facilityId : String
  movement : LedgerMovement
  amount : Money
  subjectType : SubjectType
  subjectId : String
  actor : PrincipalRef
  transferId : String

def Movement.entry (m : Movement) (account : LedgerAccount) (direction : LedgerDirection) :
    LedgerEntry where
  facilityId := m.facilityId
  transferId := m.transferId
  movement := m.movement
  account := account
  direction := direction
  amountMinor := m.amount.minorUnits
  amountCurrency := m.amount.currency
  subjectType := m.subjectType
  subjectId := m.subjectId
  createdBy := m.actor.id

/-- What the movement adds to an account of its facility. -/
def Movement.delta (m : Movement) (account : LedgerAccount) : Int :=
  (if (ledgerPairFor m.movement).1 = account then m.amount.minorUnits else 0) -
    (if (ledgerPairFor m.movement).2 = account then m.amount.minorUnits else 0)

def Movement.apply (m : Movement) (f : FacilityRow) : FacilityRow :=
  { f with drawnMinor := f.drawnMinor + m.delta .drawn
           reservedMinor := f.reservedMinor + m.delta .reserved }

/-- Post one movement as its two entries and move the facility's stored projection by the same
amounts, in the same transaction. -/
def postMovement (m : Movement) : LiquidityTx String := do
  insertLedgerEntry (m.entry (ledgerPairFor m.movement).1 .debit)
  insertLedgerEntry (m.entry (ledgerPairFor m.movement).2 .credit)
  updateFacility m.facilityId m.apply
  assertLedgerBalanced m.transferId
  return m.transferId

/-! ### Reservations -/

structure ReserveInput where
  facilityId : String
  settlementId : String
  amount : Money
  ttlSeconds : Int
  actor : PrincipalRef
  reservationId : String
  transferId : String
  now : Instant
  deriving DecidableEq

structure Reserved where
  reservationId : String
  available : Int
  expiresAt : Instant
  deriving DecidableEq

/-- Reserve capacity for one settlement. -/
def reserveLiquidity (input : ReserveInput) : LiquidityTx (Except ReserveRefusal Reserved) := do
  if input.ttlSeconds ≤ 0 then
    abort (.thrown "reservation TTL must be a positive whole number of seconds")
  else match ← lockFacility input.facilityId with
  | none => return .error .facilityNotFound
  | some facility =>
    match canReserve facility.row.position facility.available facility.row.status input.amount with
    | some refusal => return .error refusal
    | none =>
      let l ← get
      if l.reservations.any fun r => r.settlementId == input.settlementId && r.status == .active then
        return .error .alreadyReserved
      else
        let expiresAt := input.now + input.ttlSeconds.toNat * 1000
        insertReservation {
          id := input.reservationId
          facilityId := facility.row.id
          settlementId := input.settlementId
          amountMinor := input.amount.minorUnits
          amountCurrency := input.amount.currency
          status := .active
          expiresAt := expiresAt
          createdAt := input.now }
        let _ ← postMovement {
          facilityId := facility.row.id
          movement := .reservationCreated
          amount := input.amount
          subjectType := .liquidityReservation
          subjectId := input.reservationId
          actor := input.actor
          transferId := input.transferId }
        emit {
          type := .companion .reservationCreated
          subjectType := .settlement
          subjectId := input.settlementId
          actor := input.actor
          payload := [("reservation_id", input.reservationId),
            ("amount_minor", toString input.amount.minorUnits)] }
        match ← lockFacility facility.row.id with
        | none => abort (.thrown "facility vanished under its lock")
        | some after => return .ok ⟨input.reservationId, after.available, expiresAt⟩

inductive ReservationRefusal where
  | reservationNotFound | consumedCannotBeReleased | invalidTransition
  deriving DecidableEq

def ReservationRefusal.wire : ReservationRefusal → String
  | reservationNotFound => "reservation_not_found"
  | consumedCannotBeReleased => "consumed_cannot_be_released"
  | invalidTransition => "invalid_transition"

structure ReservationDone where
  reservationId : String
  noop : Bool
  deriving DecidableEq

/-- The reservation of a settlement: its ACTIVE one, else the one created last. -/
def lockReservation (l : Liquidity) (settlementId : String) : Option ReservationRow :=
  let mine := l.reservations.filter fun r => decide (r.settlementId = settlementId)
  match Table.latestBy (·.createdAt) (mine.filter fun r => decide (r.status = .active)) with
  | some r => some r
  | none => Table.latestBy (·.createdAt) mine

structure ReleaseInput where
  settlementId : String
  reason : ReservationReleaseReason
  actor : PrincipalRef
  expired : Bool := false
  transferId : String
  now : Instant
  deriving DecidableEq

/-- Return reserved capacity. -/
def releaseReservation (input : ReleaseInput) :
    LiquidityTx (Except ReservationRefusal ReservationDone) := do
  let l ← get
  match lockReservation l input.settlementId with
  | none => return .error .reservationNotFound
  | some reservation =>
    match evaluateReservationTransition (some reservation.status)
        (if input.expired then .expire else .release) with
    | .consumedCannotBeReleased => return .error .consumedCannotBeReleased
    | .invalidTransition =>
      if reservation.status = .released ∨ reservation.status = .expired then
        return .ok ⟨reservation.id, true⟩
      else return .error .invalidTransition
    | .ok row =>
      match ← lockFacility reservation.facilityId with
      | none => return .error .reservationNotFound
      | some _ =>
        updateReservation reservation.id row.target input.now (some input.reason.wire)
        let _ ← postMovement {
          facilityId := reservation.facilityId
          movement := row.movement
          amount := ⟨reservation.amountCurrency, reservation.amountMinor⟩
          subjectType := .liquidityReservation
          subjectId := reservation.id
          actor := input.actor
          transferId := input.transferId }
        emit {
          type := .companion (if input.expired then .reservationExpired else .reservationReleased)
          subjectType := .settlement
          subjectId := input.settlementId
          actor := input.actor
          payload := [("reservation_id", reservation.id), ("reason", input.reason.wire)] }
        return .ok ⟨reservation.id, false⟩

structure ConsumeInput where
  settlementId : String
  actor : PrincipalRef
  transferId : String
  now : Instant
  deriving DecidableEq

/-- Turn a reservation into drawn capacity: the drawdown confirmed. -/
def consumeReservation (input : ConsumeInput) :
    LiquidityTx (Except ReservationRefusal ReservationDone) := do
  let l ← get
  match lockReservation l input.settlementId with
  | none => return .error .reservationNotFound
  | some reservation =>
    match evaluateReservationTransition (some reservation.status) .consume with
    | .consumedCannotBeReleased => return .error .invalidTransition
    | .invalidTransition => return .error .invalidTransition
    | .ok _ =>
      updateReservation reservation.id .consumed input.now none
      let _ ← lockFacility reservation.facilityId
      let _ ← postMovement {
        facilityId := reservation.facilityId
        movement := .reservationConsumed
        amount := ⟨reservation.amountCurrency, reservation.amountMinor⟩
        subjectType := .liquidityReservation
        subjectId := reservation.id
        actor := input.actor
        transferId := input.transferId }
      return .ok ⟨reservation.id, false⟩

/-! ### Repayments -/

inductive RepaymentRefusal where
  | invalidTransition (source : Option RepaymentStatus) (trigger : RepaymentTrigger)
  | facilityNotFound
  | currencyMismatch (facility repayment : String)
  | amountNotPositive
  | exceedsOutstanding (requested eligible drawn : Int)
  | repaymentNotFound
  deriving DecidableEq

def RepaymentRefusal.wire : RepaymentRefusal → String
  | invalidTransition .. => "invalid_transition"
  | facilityNotFound => "facility_not_found"
  | currencyMismatch .. => "currency_mismatch"
  | amountNotPositive => "amount_not_positive"
  | exceedsOutstanding .. => "exceeds_outstanding"
  | repaymentNotFound => "repayment_not_found"

structure RepaymentDone where
  repaymentId : String
  status : RepaymentStatus
  capacityRestored : Bool
  deriving DecidableEq

/-- The repayments of a facility still on their way to the lender, summed. -/
def inFlightRepayments (l : Liquidity) (facilityId : String) : Int :=
  Table.sumWhere (fun r => decide (r.facilityId = facilityId) && r.status.isInFlight)
    (·.amountMinor) l.repayments

/-- Drawn capacity no repayment on its way already answers for. -/
def eligibleOutstanding (l : Liquidity) (facilityId : String) : Int :=
  match facilityOf l facilityId with
  | none => 0
  | some f =>
    let eligible := f.drawnMinor - inFlightRepayments l facilityId
    if 0 < eligible then eligible else 0

structure RepayInput where
  facilityId : String
  amount : Money
  source : RepaymentSource
  settlementId : Option String := none
  returnId : Option String := none
  actor : PrincipalRef
  repaymentId : String
  now : Instant
  deriving DecidableEq

def requestRepayment (input : RepayInput) :
    LiquidityTx (Except RepaymentRefusal RepaymentDone) := do
  match repaymentMachine.evaluate none .request with
  | none => return .error (.invalidTransition none .request)
  | some _ =>
    match ← lockFacility input.facilityId with
    | none => return .error .facilityNotFound
    | some facility =>
      if input.amount.currency ≠ facility.row.currency then
        return .error (.currencyMismatch facility.row.currency input.amount.currency)
      else if input.amount.minorUnits ≤ 0 then return .error .amountNotPositive
      else
        let l ← get
        let outstanding := eligibleOutstanding l input.facilityId
        if outstanding < input.amount.minorUnits then
          return .error (.exceedsOutstanding input.amount.minorUnits outstanding
            facility.row.drawnMinor)
        else
          let fingerprint ← orThrow "repayment attempt must be a positive integer"
            (repaymentFingerprint input.repaymentId 1)
          insertRepayment {
            id := input.repaymentId
            facilityId := input.facilityId
            amountMinor := input.amount.minorUnits
            amountCurrency := input.amount.currency
            source := input.source
            settlementId := input.settlementId
            returnId := input.returnId
            status := .requested
            attempt := 1
            requestFingerprint := fingerprint }
          emit {
            type := .companion .repaymentRequested
            subjectType := if input.settlementId.isSome then .settlement else .facility
            subjectId := input.settlementId.getD input.facilityId
            actor := input.actor
            payload := [("repayment_id", input.repaymentId),
              ("amount_minor", toString input.amount.minorUnits),
              ("source", input.source.wire), ("capacity_restored", "false")] }
          return .ok ⟨input.repaymentId, .requested, false⟩

structure AdvanceInput where
  repaymentId : String
  trigger : RepaymentTrigger
  actor : PrincipalRef
  providerReference : Option String := none
  reason : Option String := none
  transferId : String
  now : Instant
  deriving DecidableEq

/-- The row a transition leaves: its status, the time it is stamped with and, for Y08, the next
attempt under a new fingerprint. -/
def advancedRepayment (current : RepaymentRow) (row : RepaymentTransition) (input : AdvanceInput)
    (fingerprint : String) : RepaymentRow :=
  let moved := { current with
    status := row.target
    submittedAt := if row.target = .submitted then some input.now else current.submittedAt
    confirmedAt := if row.target = .confirmed then some input.now else current.confirmedAt
    failedAt := if row.target = .failed then some input.now else current.failedAt
    providerReference := if input.providerReference.any (· ≠ "") then input.providerReference
      else current.providerReference }
  if row.requiresNewFingerprint then
    { moved with attempt := current.attempt + 1, requestFingerprint := fingerprint,
                 failedAt := none, providerReference := none }
  else moved

def advanceRepayment (input : AdvanceInput) :
    LiquidityTx (Except RepaymentRefusal RepaymentDone) := do
  let l ← get
  match l.repayments.find? fun r => decide (r.id = input.repaymentId) with
  | none => return .error .repaymentNotFound
  | some current =>
    match repaymentMachine.evaluate (some current.status) input.trigger with
    | none => return .error (.invalidTransition (some current.status) input.trigger)
    | some row =>
      let fingerprint ← orThrow "repayment attempt must be a positive integer"
        (repaymentFingerprint current.id (current.attempt + 1))
      updateRepayment current (advancedRepayment current row input fingerprint)
      if row.restoresCapacity then
        let _ ← lockFacility current.facilityId
        let _ ← postMovement {
          facilityId := current.facilityId
          movement := .repaymentConfirmed
          amount := ⟨current.amountCurrency, current.amountMinor⟩
          subjectType := .repayment
          subjectId := current.id
          actor := input.actor
          transferId := input.transferId }
      emit {
        type := if row.restoresCapacity then .repaymentConfirmed else .repaymentUpdated
        subjectType := if current.settlementId.isSome then .settlement else .facility
        subjectId := current.settlementId.getD current.facilityId
        actor := input.actor
        payload := [("repayment_id", current.id), ("transition", row.id.wire),
          ("to", row.target.wire), ("capacity_restored", toString row.restoresCapacity)] }
      audit {
        actor := input.actor
        action := s!"facility.repayment_{input.trigger.wire}"
        subjectType := .repayment
        subjectId := current.id
        reason := input.reason }
      return .ok ⟨current.id, row.target, row.restoresCapacity⟩

/-! ### The projection -/

def LedgerEntry.signed (e : LedgerEntry) : Int :=
  if e.direction = .debit then e.amountMinor else -e.amountMinor

/-- What the ledger says one account of a facility holds. -/
def projectAccount (l : Liquidity) (facilityId : String) (account : LedgerAccount) : Int :=
  Table.sumWhere (fun e => decide (e.facilityId = facilityId) && decide (e.account = account))
    LedgerEntry.signed l.ledger

/-- `project_facility_position`: drawn and reserved, replayed from the ledger. -/
def projectFacilityPosition (l : Liquidity) (facilityId : String) : Int × Int :=
  (projectAccount l facilityId .drawn, projectAccount l facilityId .reserved)

/-- `checkFacilityProjection`: whether the stored columns agree with the ledger. -/
def checkFacilityProjection (l : Liquidity) (facilityId : String) : Option Bool :=
  (facilityOf l facilityId).map fun f =>
    (f.drawnMinor, f.reservedMinor) == projectFacilityPosition l facilityId

/-! ### Facilities -/

structure FacilityInput where
  facilityId : String
  providerId : String
  currency : String
  limit : Money
  actor : PrincipalRef
  deriving DecidableEq

def createFacility (input : FacilityInput) : LiquidityTx String := do
  if input.limit.currency ≠ input.currency then
    abort (.thrown
      s!"facility currency {input.currency} does not match its limit {input.limit.currency}")
  else
    insertFacility {
      id := input.facilityId
      providerId := input.providerId
      currency := input.currency
      limitMinor := input.limit.minorUnits
      status := .active }
    audit {
      actor := input.actor
      action := "facility.create"
      subjectType := .facility
      subjectId := input.facilityId }
    return input.facilityId

inductive InternalCapability where
  | read | exceptionResolve | liquidityManage | providerManage | operatorManage
  deriving DecidableEq

structure OperatorContext where
  principal : PrincipalRef
  capabilities : List InternalCapability
  action : String
  reason : String
  deriving DecidableEq

/-- Refuse an operator without the capability, or without a reason that says something. -/
def requireCapability {σ : Type} (ctx : OperatorContext) (capability : InternalCapability) :
    Tx σ DbError PUnit := do
  require (capability ∈ ctx.capabilities) (.thrown "insufficient_capability")
  require (validateReason ctx.reason = none) (.thrown ((validateReason ctx.reason).getD ""))

inductive FacilityRefusal where
  | facilityNotFound | facilityClosed | currencyMismatch | belowCommitted (committed : Money)
  | noChange
  deriving DecidableEq

/-- The two audit rows an operator's write leaves: the service's own and the operator record. -/
def auditOperator (ctx : OperatorContext) (action facilityId : String) : LiquidityTx PUnit := do
  audit { actor := ctx.principal, action := action, subjectType := .facility,
          subjectId := facilityId, reason := some ctx.reason }
  audit { actor := ctx.principal, action := ctx.action, subjectType := .facility,
          subjectId := facilityId, reason := some ctx.reason }

/-- The operator's limit change. It never goes below what is committed already. -/
def setFacilityLimit (ctx : OperatorContext) (facilityId : String) (limit : Money) :
    LiquidityTx (Except FacilityRefusal Money) := do
  requireCapability ctx .liquidityManage
  let l ← get
  match facilityOf l facilityId with
  | none => return .error .facilityNotFound
  | some facility =>
    if facility.status = .closed then return .error .facilityClosed
    else if facility.currency ≠ limit.currency then return .error .currencyMismatch
    else
      let committed := facility.drawnMinor + facility.reservedMinor
      if limit.minorUnits < committed then
        return .error (.belowCommitted ⟨facility.currency, committed⟩)
      else
        updateFacility facilityId fun f =>
          { f with limitMinor := limit.minorUnits, version := f.version + 1 }
        auditOperator ctx "ops.facility_limit_changed" facilityId
        return .ok ⟨facility.currency, facility.limitMinor⟩

/-- The operator's suspension or reactivation. -/
def setFacilityStatus (ctx : OperatorContext) (facilityId : String) (suspend : Bool) :
    LiquidityTx (Except FacilityRefusal FacilityStatus) := do
  requireCapability ctx .liquidityManage
  let target : FacilityStatus := if suspend then .suspended else .active
  let l ← get
  match facilityOf l facilityId with
  | none => return .error .facilityNotFound
  | some facility =>
    if facility.status = .closed then return .error .facilityClosed
    else if facility.status = target then return .error .noChange
    else
      updateFacility facilityId fun f => { f with status := target, version := f.version + 1 }
      auditOperator ctx
        (if suspend then "ops.facility_suspended" else "ops.facility_reactivated") facilityId
      return .ok facility.status

end InrSettle
