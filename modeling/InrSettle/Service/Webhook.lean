import InrSettle.Service.ReturnReview

/-!
# The payout webhook service

What a provider's event does to its settlement: the outcome it reports is applied, and
a returned credit is handed to whoever opens returns.
-/

namespace InrSettle

open Transaction CaseTables

/-- The settlement's side of a verified event: the outcome, and, for a return that was applied, the
caller's `onReturn`. -/
def applyEvent (settlementStatus : Option SettlementStatus) (input : PayoutOutcomeInput)
    (onReturn : Option OpenReturnInput) : CaseTx PayoutResult := do
  let applied ← applyPayoutOutcome settlementStatus input
  match applied, onReturn with
  | .ok done, some opening =>
    if input.outcome = .returned then
      let _ ← openReturn opening
      return .ok done
    else return .ok done
  | applied, _ => return applied

end InrSettle
