import InrSettle.Library.Table
import InrSettle.Library.Text
import InrSettle.Domain.Exceptions

/-!
# Payout attempts

The attempt machine P01–P08, the idempotency key of a submission, the allocation
of attempt numbers, the shape of a UTR and the mapping of provider vocabulary.
-/

namespace InrSettle

inductive PayoutAttemptStatus where
  | submitted | accepted | credited | rejected | returned | unknown
  deriving DecidableEq, Repr

namespace PayoutAttemptStatus

def wire : PayoutAttemptStatus → String
  | submitted => "SUBMITTED" | accepted => "ACCEPTED" | credited => "CREDITED"
  | rejected => "REJECTED" | returned => "RETURNED" | unknown => "UNKNOWN"

def isTerminal : PayoutAttemptStatus → Bool
  | credited | rejected | returned => true
  | _ => false

/-- `isPayoutAttemptInFlight`. -/
def isInFlight (status : PayoutAttemptStatus) : Bool := !status.isTerminal

end PayoutAttemptStatus

inductive PayoutTrigger where
  | dispatch | accepted | credited | rejected | slaElapsed
  | pullResolvedCredited | pullResolvedRejected | returned
  deriving DecidableEq, Repr

inductive PayoutTransitionId where
  | p01 | p02 | p03 | p04 | p05 | p06 | p07 | p08
  deriving DecidableEq, Repr

structure PayoutTransition where
  id : PayoutTransitionId
  source : List PayoutAttemptStatus
  trigger : PayoutTrigger
  target : PayoutAttemptStatus
  deriving DecidableEq, Repr

open PayoutAttemptStatus in
/-- `PAYOUT_TRANSITIONS`. -/
def payoutMachine : Machine PayoutAttemptStatus PayoutTrigger PayoutTransition where
  rows := [
    ⟨.p01, [], .dispatch, submitted⟩,
    ⟨.p02, [submitted], .accepted, accepted⟩,
    ⟨.p03, [submitted, accepted], .credited, credited⟩,
    ⟨.p04, [submitted, accepted], .rejected, rejected⟩,
    ⟨.p05, [submitted, accepted], .slaElapsed, unknown⟩,
    ⟨.p06, [unknown], .pullResolvedCredited, credited⟩,
    ⟨.p07, [unknown], .pullResolvedRejected, rejected⟩,
    ⟨.p08, [credited], .returned, returned⟩]
  source := (·.source)
  trigger := (·.trigger)
  target := (·.target)

/-- The only terminal attempt that moves again is a credited one, when it is returned. -/
theorem payoutMachine_final {status : PayoutAttemptStatus} (terminal : status.isTerminal = true)
    (kept : status ≠ .credited) : payoutMachine.Final status := by
  cases status with
  | rejected => decide
  | returned => decide
  | credited => exact (kept rfl).elim
  | submitted => cases terminal
  | accepted => cases terminal
  | unknown => cases terminal

/-- The key of every submission of one attempt; `none` is the `RangeError` below 1. -/
def payoutIdempotencyKey (settlementId : String) (attemptNumber : Nat) : Option String :=
  if attemptNumber < 1 then none
  else some s!"payout:v1:{settlementId}:{attemptNumber}"

/-- A key names its settlement and its attempt. -/
theorem payoutIdempotencyKey_inj {s t : String} {n m : Nat} {key : String}
    (left : payoutIdempotencyKey s n = some key) (right : payoutIdempotencyKey t m = some key) :
    s = t ∧ n = m := by
  unfold payoutIdempotencyKey at left right
  split at left
  · cases left
  split at right
  · cases right
  have same := congrArg String.toList ((Option.some.inj left).trans (Option.some.inj right).symm)
  simp only [String.toList_append, List.append_assoc] at same
  have named : s.toList ++ ':' :: (toString n).toList = t.toList ++ ':' :: (toString m).toList :=
    List.append_cancel_left same
  exact Text.numbered_inj (by decide) named

/-! ### Allocating the next attempt -/

structure AttemptSummary where
  attemptNumber : Nat
  status : PayoutAttemptStatus
  deriving DecidableEq, Repr

inductive AttemptAllocation where
  | firstAttempt
  | reuseInFlight (attemptNumber : Nat)
  | nextAttempt (attemptNumber : Nat)
  | inFlightAttemptExists (attemptNumber : Nat)
  | statusUnknown (attemptNumber : Nat)
  | alreadyCredited (attemptNumber : Nat)
  | returnedNeedsReplacement (attemptNumber : Nat)
  deriving DecidableEq, Repr

def terminalAttemptPermitsAnother (status : PayoutAttemptStatus) : Bool :=
  status == .rejected

/-- Decide which attempt number a dispatch should use. -/
def allocateAttemptNumber (attempts : List AttemptSummary) : AttemptAllocation :=
  match Table.latestBy (·.attemptNumber) (attempts.filter (·.status.isInFlight)) with
  | some attempt =>
    if attempt.status = .unknown then .statusUnknown attempt.attemptNumber
    else .reuseInFlight attempt.attemptNumber
  | none =>
    match Table.latestBy (·.attemptNumber) attempts with
    | none => .firstAttempt
    | some latest =>
      if latest.status = .credited then .alreadyCredited latest.attemptNumber
      else if latest.status = .returned then .returnedNeedsReplacement latest.attemptNumber
      else if !terminalAttemptPermitsAnother latest.status then
        .inFlightAttemptExists latest.attemptNumber
      else .nextAttempt (latest.attemptNumber + 1)

theorem allocateAttemptNumber_eq_first {attempts : List AttemptSummary} :
    allocateAttemptNumber attempts = .firstAttempt ↔ attempts = [] := by
  constructor
  · intro h
    simp only [allocateAttemptNumber] at h
    split at h
    · split at h <;> cases h
    · split at h
      case h_1 none => exact Table.latestBy_eq_none.mp none
      · split at h
        · cases h
        split at h
        · cases h
        split at h <;> cases h
  · rintro rfl
    rfl

/-! ### The UTR and the provider's vocabulary -/

/-- `UTR_PATTERN`: twelve to twenty-two ASCII letters and digits. -/
def isWellFormedUtr : Option String → Bool
  | none => false
  | some utr =>
    utr.toList.all Char.isAlphanum && decide (12 ≤ utr.length) && decide (utr.length ≤ 22)

inductive ProviderOutcome where
  | accepted | credited | rejected | returned | unknown
  deriving DecidableEq, Repr

def ProviderOutcome.wire : ProviderOutcome → String
  | accepted => "accepted" | credited => "credited" | rejected => "rejected"
  | returned => "returned" | unknown => "unknown"

/-- `RETURN_REASON_CODES`. -/
inductive ReturnReasonCode where
  | beneficiaryAccountClosed | beneficiaryAccountInvalid | beneficiaryNameMismatch
  | beneficiaryAccountBlocked | refusedByBeneficiary | complianceAtBeneficiaryBank
  | railReversal | returnReasonUnmapped
  deriving DecidableEq, Repr

structure ProviderCodeMapping where
  providerCode : String
  outcome : ProviderOutcome
  exceptionCode : Option ExceptionCode := none
  returnReason : Option ReturnReasonCode := none
  note : String := ""
  deriving DecidableEq, Repr

structure ProviderMappingTable where
  providerId : String
  version : String
  codes : List ProviderCodeMapping
  deriving DecidableEq, Repr

def unmappedRejectionDefault : ExceptionCode := .payoutRejectedProvider

def unmappedUnknownDefault : ExceptionCode := .payoutStatusUnknown

/-- `UNMAPPED_RETURN_REASON`. -/
def unmappedReturnReason : ReturnReasonCode := .returnReasonUnmapped

structure Interpretation where
  mapped : Bool
  outcome : ProviderOutcome
  exceptionCode : Option ExceptionCode
  mappingVersion : String
  returnReason : Option ReturnReasonCode := none
  deriving DecidableEq, Repr

def interpretProviderCode (table : ProviderMappingTable) (rawCode : String)
    (fallbackOutcome : ProviderOutcome := .unknown) : Interpretation :=
  match table.codes.find? (·.providerCode == rawCode) with
  | some found =>
    ⟨true, found.outcome, found.exceptionCode, table.version, found.returnReason⟩
  | none =>
    ⟨false, fallbackOutcome,
      some (if fallbackOutcome = .rejected then unmappedRejectionDefault
        else unmappedUnknownDefault),
      table.version, none⟩

/-- `returnReasonOf`. -/
def returnReasonOf (interpretation : Interpretation) : ReturnReasonCode :=
  interpretation.returnReason.getD unmappedReturnReason

end InrSettle
