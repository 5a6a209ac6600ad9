import InrSettle.Domain.Settlement

/-!
# Exceptions and the customer projection

The closed taxonomy of exception codes, which of them a customer can act on, and
the customer status a settlement row carries.
-/

namespace InrSettle

inductive ExceptionCode where
  | liquidityUnavailable | facilitySuspended | drawdownFailed | drawdownStatusUnknown
  | payoutRejectedDestination | payoutRejectedCompliance | payoutRejectedProvider
  | payoutStatusUnknown | reconciliationMismatch | finalityEvidenceMissing
  deriving DecidableEq, Repr

def ExceptionCode.wire : ExceptionCode → String
  | liquidityUnavailable => "LIQUIDITY_UNAVAILABLE"
  | facilitySuspended => "FACILITY_SUSPENDED"
  | drawdownFailed => "DRAWDOWN_FAILED"
  | drawdownStatusUnknown => "DRAWDOWN_STATUS_UNKNOWN"
  | payoutRejectedDestination => "PAYOUT_REJECTED_DESTINATION"
  | payoutRejectedCompliance => "PAYOUT_REJECTED_COMPLIANCE"
  | payoutRejectedProvider => "PAYOUT_REJECTED_PROVIDER"
  | payoutStatusUnknown => "PAYOUT_STATUS_UNKNOWN"
  | reconciliationMismatch => "RECONCILIATION_MISMATCH"
  | finalityEvidenceMissing => "FINALITY_EVIDENCE_MISSING"

def isCustomerActionable : ExceptionCode → Bool
  | .payoutRejectedDestination | .payoutRejectedCompliance => true
  | _ => false

/-- `projectCustomerStatus`, as the column stores it: drafts project to nothing. -/
def customerStatusColumn (status : SettlementStatus) (openExceptionCode : Option ExceptionCode) :
    Option CustomerStatus :=
  match status with
  | .draft => none
  | .preflighting | .ready | .quoted => some .ready
  | .actionRequired => some .actionRequired
  | .authorized | .liquidityReserving | .liquidityReserved | .drawdownRequested
  | .drawdownConfirmed | .payoutSubmitted | .payoutConfirmed | .reconciling => some .settling
  | .exception =>
    if openExceptionCode.any isCustomerActionable then some .actionRequired else some .settling
  | .settled => some .settled
  | .failed | .cancelled => some .cancelled

/-- The characters `String.prototype.trim` strips. -/
def isSpace (c : Char) : Bool :=
  (9 ≤ c.toNat && c.toNat ≤ 13) || c.toNat == 0x20 || c.toNat == 0xA0 || c.toNat == 0x1680 ||
    (0x2000 ≤ c.toNat && c.toNat ≤ 0x200A) || c.toNat == 0x2028 || c.toNat == 0x2029 ||
    c.toNat == 0x202F || c.toNat == 0x205F || c.toNat == 0x3000 || c.toNat == 0xFEFF

/-- `text.trim().length > 0`. -/
def isStated (text : String) : Bool :=
  text.toList.any fun c => !isSpace c

/-- `text.trim()`. -/
def trim (text : String) : List Char :=
  ((text.toList.dropWhile isSpace).reverse.dropWhile isSpace).reverse

/-- `length`, in UTF-16 code units. -/
def utf16Length (text : List Char) : Nat :=
  (text.map fun c => if c.toNat < 0x10000 then 1 else 2).sum

/-- `validateReason`: why an operator's reason is refused, if it is. -/
def validateReason (reason : String) : Option String :=
  let length := utf16Length (trim reason)
  if length = 0 then some "reason_missing"
  else if length < 8 then some "reason_too_short"
  else if 2000 < length then some "reason_too_long"
  else none

end InrSettle
