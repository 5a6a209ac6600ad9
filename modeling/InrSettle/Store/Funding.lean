import InrSettle.Library.Table
import InrSettle.Store.Rows

/-!
# Writing the funding tables

Every write the services make to facilities, reservations, repayments and the
ledger, with the checks, unique indexes, foreign keys and triggers the database
holds it to. A write the database refuses aborts the transaction.
-/

namespace InrSettle

open Transaction

namespace FundingTables

/-! ### Facilities -/

def facilityOf (l : Liquidity) (facilityId : String) : Option FacilityRow :=
  l.facilities.find? fun f => decide (f.id = facilityId)

/-- The CHECK constraints of `liquidity_facilities`. -/
def facilityChecks (f : FacilityRow) : Bool :=
  decide (0 ≤ f.limitMinor) && decide (0 ≤ f.drawnMinor) && decide (0 ≤ f.reservedMinor) &&
    decide (0 ≤ f.limitMinor - f.drawnMinor - f.reservedMinor)

/-- `protect_facility_row`, the refusals. -/
def facilityMayBecome (old new : FacilityRow) : Bool :=
  decide (new.currency = old.currency) &&
    (old.status != .closed || new.status == .closed) &&
    (new.status != .closed || (new.drawnMinor == 0 && new.reservedMinor == 0))

/-- `protect_facility_row`, the version it stamps. -/
def stampFacility (old new : FacilityRow) : FacilityRow :=
  if new.drawnMinor ≠ old.drawnMinor ∨ new.reservedMinor ≠ old.reservedMinor ∨
      new.limitMinor ≠ old.limitMinor ∨ new.status ≠ old.status then
    { new with version := old.version + 1 }
  else new

def insertFacility (f : FacilityRow) : LiquidityTx PUnit := do
  let l ← get
  require (∀ g ∈ l.facilities, g.id ≠ f.id) (.uniqueViolation "liquidity_facilities_pkey")
  require (facilityChecks f = true) (.checkViolation "facility_availability_non_negative")
  modify fun l => { l with facilities := l.facilities ++ [f] }

def updateFacility (facilityId : String) (set : FacilityRow → FacilityRow) :
    LiquidityTx PUnit := do
  let l ← get
  require (∀ f ∈ l.facilities, f.id = facilityId → facilityMayBecome f (set f) = true)
    (.restrictViolation "protect_facility_row")
  require (∀ f ∈ l.facilities, f.id = facilityId → facilityChecks (set f) = true)
    (.checkViolation "facility_availability_non_negative")
  modify fun l => { l with
    facilities := Table.setWhere (fun f => decide (f.id = facilityId))
      (fun f => stampFacility f (set f)) l.facilities }

/-- The composite foreign key every amount carries: the facility, in its own currency. -/
def referencesFacility (l : Liquidity) (facilityId currency : String) : Prop :=
  ∃ f ∈ l.facilities, f.id = facilityId ∧ f.currency = currency

instance (l : Liquidity) (facilityId currency : String) :
    Decidable (referencesFacility l facilityId currency) :=
  inferInstanceAs (Decidable (∃ f ∈ l.facilities, f.id = facilityId ∧ f.currency = currency))

/-! ### Reservations -/

/-- `liquidity_reservations_one_active`. -/
def oneActive (r : ReservationRow) : Option String :=
  if r.status = .active then some r.settlementId else none

def insertReservation (r : ReservationRow) : LiquidityTx PUnit := do
  let l ← get
  require (∀ q ∈ l.reservations, q.id ≠ r.id) (.uniqueViolation "liquidity_reservations_pkey")
  require (0 < r.amountMinor) (.checkViolation "liquidity_reservations_amount_minor_check")
  require (referencesFacility l r.facilityId r.amountCurrency)
    (.foreignKeyViolation "liquidity_facilities")
  require (Table.admits oneActive l.reservations r = true)
    (.uniqueViolation "liquidity_reservations_one_active")
  modify fun l => { l with reservations := l.reservations ++ [r] }

/-- `UPDATE liquidity_reservations SET … WHERE id = $1 AND status = 'ACTIVE'`: the new status,
stamped where the checks want a time and a reason. -/
def leaveActive (reservationId : String) (target : ReservationStatus) (now : Instant)
    (reason : Option String) (r : ReservationRow) : ReservationRow :=
  if r.id = reservationId ∧ r.status = .active then
    match target with
    | .consumed => { r with status := .consumed, consumedAt := some now }
    | .active => r
    | _ => { r with status := target, releasedAt := some now, releasedReason := reason }
  else r

def updateReservation (reservationId : String) (target : ReservationStatus) (now : Instant)
    (reason : Option String) : LiquidityTx PUnit :=
  modify fun l => { l with
    reservations := l.reservations.map (leaveActive reservationId target now reason) }

/-! ### Repayments -/

/-- `repayments_one_live_per_settlement_cause`. -/
def liveCause (r : RepaymentRow) : Option (String × String) :=
  match r.settlementId with
  | none => none
  | some settlementId =>
    if r.status = .failed then none else some (settlementId, r.returnId.getD "")

/-- `repayment_source_is_attributed`. -/
def sourceIsAttributed (r : RepaymentRow) : Bool :=
  match r.source with
  | .cancellationAfterDrawdown => r.settlementId.isSome
  | .settlementReturn => r.returnId.isSome
  | .manual | .scheduled => true

def insertRepayment (r : RepaymentRow) : LiquidityTx PUnit := do
  let l ← get
  require (∀ q ∈ l.repayments, q.id ≠ r.id) (.uniqueViolation "repayments_pkey")
  require (∀ q ∈ l.repayments, q.requestFingerprint ≠ r.requestFingerprint)
    (.uniqueViolation "repayments_request_fingerprint_key")
  require (0 < r.amountMinor) (.checkViolation "repayments_amount_minor_check")
  require (sourceIsAttributed r = true) (.checkViolation "repayment_source_is_attributed")
  require (referencesFacility l r.facilityId r.amountCurrency)
    (.foreignKeyViolation "liquidity_facilities")
  require (Table.admits liveCause l.repayments r = true)
    (.uniqueViolation "repayments_one_live_per_settlement_cause")
  modify fun l => { l with repayments := l.repayments ++ [r] }

/-- `protect_repayment_row`. -/
def repaymentMayBecome (old new : RepaymentRow) : Bool :=
  (old.status != .confirmed || new.status == .confirmed) &&
    if old.status = .failed ∧ new.status = .requested then
      decide (old.attempt < new.attempt) && (new.requestFingerprint != old.requestFingerprint)
    else new.requestFingerprint == old.requestFingerprint

/-- Replace one repayment row by its successor. -/
def updateRepayment (old new : RepaymentRow) : LiquidityTx PUnit := do
  let l ← get
  require (repaymentMayBecome old new = true) (.restrictViolation "protect_repayment_row")
  require (∀ q ∈ l.repayments, q.id ≠ old.id → q.requestFingerprint ≠ new.requestFingerprint)
    (.uniqueViolation "repayments_request_fingerprint_key")
  require (Table.admits liveCause (l.repayments.filter fun q => decide (q.id ≠ old.id)) new = true)
    (.uniqueViolation "repayments_one_live_per_settlement_cause")
  modify fun l => { l with
    repayments := Table.setWhere (fun q => decide (q.id = old.id)) (fun _ => new) l.repayments }

/-! ### The ledger -/

def insertLedgerEntry (e : LedgerEntry) : LiquidityTx PUnit := do
  let l ← get
  require (0 < e.amountMinor) (.checkViolation "ledger_entries_amount_minor_check")
  require (∀ q ∈ l.ledger, ¬(q.transferId = e.transferId ∧ q.account = e.account))
    (.uniqueViolation "ledger_entries_transfer_id_account_key")
  require (referencesFacility l e.facilityId e.amountCurrency)
    (.foreignKeyViolation "liquidity_facilities")
  modify fun l => { l with ledger := l.ledger ++ [e] }

/-- `assert_ledger_balanced`: a transfer is one debit and one credit of the same amount. -/
def isBalanced (entries : List LedgerEntry) : Bool :=
  match entries with
  | [a, b] => a.direction != b.direction && a.amountMinor == b.amountMinor &&
      a.amountCurrency == b.amountCurrency
  | _ => false

/-- The deferred trigger `ledger_entries_balanced`, for the transfer just written. -/
def assertLedgerBalanced (transferId : String) : LiquidityTx PUnit := do
  let l ← get
  require (isBalanced (l.ledger.filter fun e => decide (e.transferId = transferId)) = true)
    (.restrictViolation "ledger_entries_balanced")

/-! ### Events and audit rows -/

def emit (event : EventRow) : LiquidityTx PUnit :=
  modify fun l => { l with events := l.events ++ [event] }

def audit (row : AuditRow) : LiquidityTx PUnit :=
  modify fun l => { l with audits := l.audits ++ [row] }

end FundingTables

end InrSettle
