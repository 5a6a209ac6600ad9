import InrSettle.Domain.Reconciliation

/-!
# Settlement returns

The return machine N01–N07, the statuses that count against the delivered amount,
the cap they are held to, and the share of a drawdown a return sends back.
-/

namespace InrSettle

inductive ReturnStatus where
  | observed | confirmed | repaid | rejected | manualReview
  deriving DecidableEq, Repr

inductive ReturnTrigger where
  | opening | upheld | notUpheld | escalate | repaid | resolveUpheld | resolveNotUpheld
  deriving DecidableEq, Repr

inductive ReturnTransitionId where
  | n01 | n02 | n03 | n04 | n05 | n06 | n07
  deriving DecidableEq, Repr

structure ReturnTransition where
  id : ReturnTransitionId
  source : List ReturnStatus
  trigger : ReturnTrigger
  target : ReturnStatus
  checksCap : Bool := false
  requestsRepayment : Bool := false
  requiresAttribution : Bool := false
  deriving DecidableEq, Repr

open ReturnStatus in
/-- `RETURN_TRANSITIONS`. -/
def returnMachine : Machine ReturnStatus ReturnTrigger ReturnTransition where
  rows := [
    { id := .n01, source := [], trigger := .opening, target := observed },
    { id := .n02, source := [observed], trigger := .upheld, target := confirmed,
      checksCap := true, requestsRepayment := true },
    { id := .n03, source := [observed], trigger := .notUpheld, target := rejected },
    { id := .n04, source := [observed, confirmed], trigger := .escalate,
      target := manualReview },
    { id := .n05, source := [confirmed], trigger := .repaid, target := repaid },
    { id := .n06, source := [manualReview], trigger := .resolveUpheld, target := confirmed,
      checksCap := true, requestsRepayment := true, requiresAttribution := true },
    { id := .n07, source := [manualReview], trigger := .resolveNotUpheld, target := rejected,
      requiresAttribution := true }]
  source := (·.source)
  trigger := (·.trigger)
  target := (·.target)

/-- `CAP_COUNTING_STATUSES`. -/
def countsTowardCap : ReturnStatus → Bool
  | .confirmed | .repaid => true
  | _ => false

/-! ### The cap -/

inductive CapRefusal where
  | notPositive (amountMinor : Int)
  | deliveredAmountUnknown
  | currencyMismatch (delivered returned : String)
  | exceedsDelivered (deliveredMinor confirmedSoFarMinor thisReturnMinor : Int)
  deriving DecidableEq, Repr

def CapRefusal.wire : CapRefusal → String
  | notPositive _ => "not_positive" | deliveredAmountUnknown => "delivered_amount_unknown"
  | currencyMismatch .. => "currency_mismatch" | exceedsDelivered .. => "exceeds_delivered"

/-- `checkReturnCap`: the new total, where the delivered amount is known and covers it. -/
def checkReturnCap (deliveredMinor : Option Int) (deliveredCurrency : String)
    (confirmedSoFarMinor : Int) (amount : Money) : Except CapRefusal Int :=
  if amount.minorUnits ≤ 0 then .error (.notPositive amount.minorUnits)
  else match deliveredMinor with
  | none => .error .deliveredAmountUnknown
  | some delivered =>
    if deliveredCurrency ≠ amount.currency then
      .error (.currencyMismatch deliveredCurrency amount.currency)
    else if delivered < confirmedSoFarMinor + amount.minorUnits then
      .error (.exceedsDelivered delivered confirmedSoFarMinor amount.minorUnits)
    else .ok (confirmedSoFarMinor + amount.minorUnits)

theorem checkReturnCap_ok {deliveredMinor : Option Int} {deliveredCurrency : String}
    {confirmedSoFarMinor total : Int} {amount : Money}
    (within : checkReturnCap deliveredMinor deliveredCurrency confirmedSoFarMinor amount =
      .ok total) :
    0 < amount.minorUnits ∧ total = confirmedSoFarMinor + amount.minorUnits ∧
      ∃ delivered, deliveredMinor = some delivered ∧ total ≤ delivered := by
  unfold checkReturnCap at within
  split at within
  · cases within
  rename_i positive
  cases deliveredMinor with
  | none => cases within
  | some delivered =>
    simp only at within
    split at within
    · cases within
    split at within
    · cases within
    rename_i covered
    obtain rfl := Except.ok.inj within
    exact ⟨not_le.mp positive, rfl, delivered, rfl, not_lt.mp covered⟩

/-- `proRataRepayment`: the fraction of the delivery that came back, of the drawdown. -/
def proRataRepayment (drawnMinor deliveredMinor returnedMinor : Int) : Int :=
  if deliveredMinor ≤ 0 then 0 else (drawnMinor * returnedMinor).tdiv deliveredMinor

/-- A share is rounded down: of the delivery it is no more than was drawn for what came back. -/
theorem proRataRepayment_mul_le {drawnMinor deliveredMinor returnedMinor : Int}
    (drawn : 0 ≤ drawnMinor) (returned : 0 ≤ returnedMinor) :
    proRataRepayment drawnMinor deliveredMinor returnedMinor * deliveredMinor ≤
      drawnMinor * returnedMinor := by
  have nonneg := Int.mul_nonneg drawn returned
  unfold proRataRepayment
  split
  · rwa [Int.zero_mul]
  · rw [Int.tdiv_eq_ediv_of_nonneg nonneg]
    exact Int.ediv_mul_le _ (by omega)

theorem proRataRepayment_pos {drawnMinor deliveredMinor returnedMinor : Int}
    (positive : 0 < proRataRepayment drawnMinor deliveredMinor returnedMinor) :
    0 < deliveredMinor := by
  unfold proRataRepayment at positive
  split at positive <;> omega

end InrSettle
