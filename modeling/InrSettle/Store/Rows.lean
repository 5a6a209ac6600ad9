import InrSettle.Library.Transaction
import InrSettle.Domain.Return

/-!
# The rows of the database

One row type for each table the services read or write, in two parts: what
belongs to one settlement, and the facilities, reservations, repayments and
ledger a tenant's settlements share.
-/

namespace InrSettle

/-- Milliseconds since the epoch. -/
abbrev Instant := Nat

inductive PrincipalType where
  | user | apiKey | job | provider
  deriving DecidableEq

structure PrincipalRef where
  type : PrincipalType
  id : String
  deriving DecidableEq

/-- Why the database or the code ended a transaction without committing it. -/
inductive DbError where
  | restrictViolation (message : String)
  | uniqueViolation (index : String)
  | checkViolation (constraint : String)
  | foreignKeyViolation (table : String)
  | thrown (message : String)
  deriving DecidableEq

/-! ### Events and the audit log -/

inductive EventType where
  | status (event : SettlementStatusEvent)
  | companion (event : CompanionEvent)
  | repaymentConfirmed | repaymentUpdated
  | returnObserved | returnConfirmed | returnRejected | returnRepaid
  deriving DecidableEq

inductive SubjectType where
  | settlement | quote | facility | providerEvent | repayment | liquidityReservation
  deriving DecidableEq

structure EventRow where
  type : EventType
  subjectType : SubjectType
  subjectId : String
  actor : PrincipalRef
  payload : List (String × String) := []
  deriving DecidableEq

structure AuditRow where
  actor : PrincipalRef
  action : String
  subjectType : SubjectType
  subjectId : String
  reason : Option String := none
  deriving DecidableEq

/-! ### The rows of one settlement -/

structure FeeComponent where
  code : String
  label : String
  amount : Money
  deriving DecidableEq

structure AuthorizedTerms where
  quoteId : String
  direction : String
  recipientAmount : Money
  fundingAmount : Money
  fxPair : String
  fxRateScaled : String
  fxScale : Nat
  fxQuotedAt : String
  feeComponents : List FeeComponent
  residualCurrency : String
  residualAmount : String
  residualScale : Nat
  quotedAt : String
  expiresAt : String
  deriving DecidableEq

structure AuthorizedInstruction where
  beneficiaryId : String
  destinationId : String
  destinationVersionId : String
  recipientAmount : Money
  purposeCode : String
  fundingCurrency : String
  terms : AuthorizedTerms
  deriving DecidableEq

structure SettlementRow where
  id : String
  beneficiaryId : String
  destinationId : Option String := none
  destinationVersionId : Option String := none
  recipientAmountMinor : Int
  fundingCurrency : String
  purposeCode : Option String := none
  quoteId : Option String := none
  authorizedTerms : Option AuthorizedInstruction := none
  authorizedTermsHash : Option String := none
  status : SettlementStatus := .draft
  customerStatus : Option CustomerStatus := none
  exceptionEnteredFrom : Option SettlementStatus := none
  openExceptionCode : Option ExceptionCode := none
  replacesSettlementId : Option String := none
  authorizedAt : Option Instant := none
  authorizedBy : Option String := none
  cancellationRequestedAt : Option Instant := none
  cancellationRequestedBy : Option String := none
  pointOfNoReturnAt : Option Instant := none
  settledAt : Option Instant := none
  payoutAttemptId : Option String := none
  receiptId : Option String := none
  createdBy : String
  version : Nat := 1
  deriving DecidableEq

structure PayoutAttemptRow where
  id : String
  settlementId : String
  destinationVersionId : String
  attemptNumber : Nat
  status : PayoutAttemptStatus := .submitted
  idempotencyKey : String
  providerId : Option String := none
  rail : Option String := none
  amountMinor : Option Int := none
  amountCurrency : Option String := none
  providerReference : Option String := none
  utr : Option String := none
  rawCode : Option String := none
  mappingVersion : Option String := none
  slaSeconds : Option Nat := none
  dispatchedAt : Instant
  dispatchedBy : String
  submittedAt : Option Instant := none
  creditedAt : Option Instant := none
  resolvedAt : Option Instant := none
  returnedAt : Option Instant := none
  creditedMinor : Option Int := none
  returnedTotalMinor : Int := 0
  deriving DecidableEq

structure SettlementExceptionRow where
  id : String
  code : ExceptionCode
  enteredFrom : SettlementStatus
  resolvedAt : Option Instant := none
  resolvedBy : Option String := none
  resolutionReason : Option String := none
  deriving DecidableEq

structure DrawdownRow where
  id : String
  facilityId : String
  reservationId : String
  amountMinor : Int
  amountCurrency : String
  status : DrawdownStatus := .requested
  requestFingerprint : String
  providerReference : Option String := none
  requestedAt : Instant
  requestedBy : String
  confirmedAt : Option Instant := none
  failedAt : Option Instant := none
  deriving DecidableEq

structure ReconciliationRow where
  id : String
  status : ReconciliationStatus := .pending
  expectedMinor : Int
  observedMinor : Option Int := none
  deltaMinor : Int := 0
  currency : String
  source : Option ObservationSource := none
  openedAt : Instant
  evaluatedAt : Option Instant := none
  slaSeconds : Nat
  resolvedAt : Option Instant := none
  resolvedBy : Option String := none
  resolutionNote : Option String := none
  compensationRequired : Option Bool := none
  deriving DecidableEq

structure FinalityEvaluationRow where
  id : String
  final : Bool
  conditions : List ConditionVerdict
  missing : List FinalityCondition
  deriving DecidableEq

structure SettlementReturnRow where
  id : String
  payoutAttemptId : String
  status : ReturnStatus := .observed
  amountMinor : Int
  amountCurrency : String
  reasonCode : ReturnReasonCode
  openedBySource : ObservationSource
  providerReturnReference : String
  observedAt : Instant
  confirmedAt : Option Instant := none
  repaidAt : Option Instant := none
  repaymentId : Option String := none
  resolvedBy : Option String := none
  resolutionNote : Option String := none
  windowSecondsAtOpen : Option Nat := none
  arrivalElapsedSeconds : Nat
  arrivedWithinWindow : Bool
  deriving DecidableEq

structure ReturnObservationRow where
  returnId : String
  source : ObservationSource
  observedAmountMinor : Option Int
  observedAmountCurrency : Option String
  openedTheReturn : Bool
  deriving DecidableEq

/-- Everything the database holds about one settlement. -/
structure Case where
  settlement : Option SettlementRow := none
  attempts : List PayoutAttemptRow := []
  exceptions : List SettlementExceptionRow := []
  drawdowns : List DrawdownRow := []
  reconciliation : Option ReconciliationRow := none
  evaluations : List FinalityEvaluationRow := []
  returns : List SettlementReturnRow := []
  returnObservations : List ReturnObservationRow := []
  events : List EventRow := []
  audits : List AuditRow := []
  deriving DecidableEq

/-! ### The rows settlements share -/

structure FacilityRow where
  id : String
  providerId : String
  currency : String
  limitMinor : Int
  status : FacilityStatus := .active
  drawnMinor : Int := 0
  reservedMinor : Int := 0
  version : Nat := 0
  deriving DecidableEq

structure ReservationRow where
  id : String
  facilityId : String
  settlementId : String
  amountMinor : Int
  amountCurrency : String
  status : ReservationStatus := .active
  expiresAt : Instant
  createdAt : Instant
  releasedAt : Option Instant := none
  releasedReason : Option String := none
  consumedAt : Option Instant := none
  deriving DecidableEq

structure RepaymentRow where
  id : String
  facilityId : String
  amountMinor : Int
  amountCurrency : String
  source : RepaymentSource
  settlementId : Option String := none
  returnId : Option String := none
  status : RepaymentStatus := .requested
  attempt : Nat := 1
  requestFingerprint : String
  providerReference : Option String := none
  submittedAt : Option Instant := none
  confirmedAt : Option Instant := none
  failedAt : Option Instant := none
  deriving DecidableEq

structure LedgerEntry where
  facilityId : String
  transferId : String
  movement : LedgerMovement
  account : LedgerAccount
  direction : LedgerDirection
  amountMinor : Int
  amountCurrency : String
  subjectType : SubjectType
  subjectId : String
  createdBy : String
  deriving DecidableEq

/-- The funding tables of a tenant, with the events and audit rows written about them. -/
structure Liquidity where
  facilities : List FacilityRow := []
  reservations : List ReservationRow := []
  repayments : List RepaymentRow := []
  ledger : List LedgerEntry := []
  events : List EventRow := []
  audits : List AuditRow := []
  deriving DecidableEq

/-- What a transaction about one settlement can reach. -/
structure Store where
  case : Case
  liquidity : Liquidity
  deriving DecidableEq

abbrev CaseTx := Transaction.Tx Case DbError
abbrev LiquidityTx := Transaction.Tx Liquidity DbError
abbrev StoreTx := Transaction.Tx Store DbError

/-- A transaction about the settlement's own rows, run on the whole store. -/
def onCase {α : Type} (m : CaseTx α) : StoreTx α :=
  Transaction.focus Store.case (fun s c => { s with case := c }) m

/-- A transaction about the funding tables, run on the whole store. -/
def onLiquidity {α : Type} (m : LiquidityTx α) : StoreTx α :=
  Transaction.focus Store.liquidity (fun s l => { s with liquidity := l }) m

/-- Lift an answer that may be a thrown error. -/
def orThrow {σ α : Type} (message : String) : Option α → Transaction.Tx σ DbError α
  | some a => return a
  | none => Transaction.abort (.thrown message)

open Transaction

theorem commits_orThrow {σ α : Type} {message : String} {o : Option α} {s s' : σ} {a : α} :
    Commits (orThrow message o : Tx σ DbError α) s a s' ↔ o = some a ∧ s' = s := by
  cases o <;> simp [orThrow, eq_comm]

theorem commits_onCase {α : Type} {m : CaseTx α} {s s' : Store} {a : α} :
    Commits (onCase m) s a s' ↔
      ∃ c, Commits m s.case a c ∧ s' = { s with case := c } := commits_focus

theorem after_onCase_case {α : Type} (m : CaseTx α) (s : Store) :
    (after (onCase m) s).case = after m s.case :=
  part_after_focus (fun _ _ => rfl) m s

theorem commits_onLiquidity {α : Type} {m : LiquidityTx α} {s s' : Store} {a : α} :
    Commits (onLiquidity m) s a s' ↔
      ∃ l, Commits m s.liquidity a l ∧ s' = { s with liquidity := l } := commits_focus

end InrSettle
