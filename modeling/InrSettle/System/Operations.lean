import Mathlib
import InrSettle.Funding.Books
import InrSettle.Service.Webhook
import InrSettle.Service.Operator

/-!
# Operations and runs

A tenant's settlements and funding tables, and every operation on them as one
committed transaction. A service that reads without a lock may have read what was
committed before: the operation names how far back.
-/

namespace InrSettle

open Transaction

/-! ### The state -/

/-- What one tenant's tables hold. -/
structure Tenant where
  cases : String → Case
  liquidity : Liquidity

namespace Tenant

/-- What a transaction about one settlement can reach. -/
def store (t : Tenant) (settlementId : String) : Store := ⟨t.cases settlementId, t.liquidity⟩

def put (t : Tenant) (settlementId : String) (s : Store) : Tenant :=
  ⟨Function.update t.cases settlementId s.case, s.liquidity⟩

def empty : Tenant := ⟨fun _ => {}, {}⟩

end Tenant

/-- The tables now, what was committed before, latest first, and the reservations that have begun
and not completed. -/
structure World where
  now : Tenant
  past : List Tenant
  pending : String → Option ReserveForInput

def World.empty : World := ⟨Tenant.empty, [], fun _ => none⟩

/-! ### Operations -/

/-- The operations on one settlement. -/
inductive SettlementOp where
  | createSettlement (input : CreateInput)
  | startPreflight (settlementId : String) (actor : PrincipalRef)
  | completePreflight (input : PreflightInput)
  | attachQuote (settlementId : String) (input : QuoteInput)
  | expireAttachedQuote (settlementId : String) (input : QuoteInput)
  | authorizeSettlement (input : AuthorizeInput)
  | cancelSettlement (input : CancelInput)
  | requestCancellation (input : CancelInput)
  | honourCancellation (input : HonourInput)
  | dispatchPayout (input : DispatchInput)
  | openException (input : OpenExceptionInput)
  | resolveException (input : ResolveInput)
  | beginReservation (input : ReserveForInput)
  | completeReservation (settlementId : String) (stamp : ReserveStamp)
  | requestDrawdown (input : DrawInput)
  | resolveDrawdown (input : ResolveDrawdownInput)
  | compensateCancellation (input : CompensateInput)
  | releaseReservation (input : ReleaseInput)
  | recordSubmission (settlementId : String) (input : SubmissionInput)
  | recordTimeout (settlementId : String) (actor : PrincipalRef)
  | applyPayoutOutcome (settlementId : String) (input : PayoutOutcomeInput)
  | sweepPayoutSla (settlementId : String) (input : SweepInput)
  | retryPayout (input : RetryInput)
  | beginReconciliation (input : BeginInput)
  | applyObservation (input : ObservationInput)
  | sweepReconciliationSla (input : ReconciliationSweepInput)
  | resolveReconciliation (input : ResolveReconciliationInput)
  | evaluateAndSettle (input : EvaluateInput)
  | resolveExceptionAsOperator (ctx : OperatorContext) (input : OperatorResolveInput)
  | openReturn (input : OpenReturnInput)
  | applyEvent (settlementId : String) (input : PayoutOutcomeInput)
      (onReturn : Option OpenReturnInput)
  | confirmReturn (input : ConfirmInput)
  | escalateReturn (input : EscalateInput)
  | rejectReturn (input : RejectInput)
  | markReturnRepaid (input : RepaidInput)
  deriving DecidableEq

/-- The settlement the operation is about. -/
def SettlementOp.subject : SettlementOp → String
  | createSettlement input => input.settlementId
  | startPreflight settlementId _ => settlementId
  | completePreflight input => input.settlementId
  | attachQuote settlementId _ => settlementId
  | expireAttachedQuote settlementId _ => settlementId
  | authorizeSettlement input => input.settlementId
  | cancelSettlement input => input.settlementId
  | requestCancellation input => input.settlementId
  | honourCancellation input => input.settlementId
  | dispatchPayout input => input.settlementId
  | openException input => input.settlementId
  | resolveException input => input.settlementId
  | beginReservation input => input.settlementId
  | completeReservation settlementId _ => settlementId
  | requestDrawdown input => input.settlementId
  | resolveDrawdown input => input.settlementId
  | compensateCancellation input => input.settlementId
  | releaseReservation input => input.settlementId
  | recordSubmission settlementId _ => settlementId
  | recordTimeout settlementId _ => settlementId
  | applyPayoutOutcome settlementId _ => settlementId
  | sweepPayoutSla settlementId _ => settlementId
  | retryPayout input => input.settlementId
  | beginReconciliation input => input.settlementId
  | applyObservation input => input.settlementId
  | sweepReconciliationSla input => input.settlementId
  | resolveReconciliation input => input.settlementId
  | evaluateAndSettle input => input.settlementId
  | resolveExceptionAsOperator _ input => input.settlementId
  | openReturn input => input.settlementId
  | applyEvent settlementId _ _ => settlementId
  | confirmReturn input => input.settlementId
  | escalateReturn input => input.settlementId
  | rejectReturn input => input.settlementId
  | markReturnRepaid input => input.settlementId

/-- The operations on the funding tables that are about no one settlement. -/
inductive FundingOp where
  | createFacility (input : FacilityInput)
  | setFacilityLimit (ctx : OperatorContext) (facilityId : String) (limit : Money)
  | setFacilityStatus (ctx : OperatorContext) (facilityId : String) (suspend : Bool)
  | requestRepayment (input : RepayInput)
  | advanceRepayment (input : AdvanceInput)
  deriving DecidableEq

def FundingOp.op : FundingOp → LiquidityOp
  | createFacility input => .createFacility input
  | setFacilityLimit ctx facilityId limit => .setFacilityLimit ctx facilityId limit
  | setFacilityStatus ctx facilityId suspend => .setFacilityStatus ctx facilityId suspend
  | requestRepayment input => .requestRepayment input
  | advanceRepayment input => .advanceRepayment input

inductive WorldOp where
  | funding (op : FundingOp)
  | settlement (asOf : Nat) (op : SettlementOp)
  deriving DecidableEq

/-! ### Reading without a lock -/

/-- What an operation read before its transition locked the settlement. -/
structure Reads where
  settlement : Option SettlementRow
  facility : Option FacilityView
  /-- The first transaction of `reserveForSettlement`, where it committed. -/
  pending : Option ReserveForInput

/-- The tables as they were some commits ago. -/
def World.asOf (w : World) : Nat → Tenant
  | 0 => w.now
  | n + 1 => (w.past[n]?).getD w.now

/-- The facility an operation reads without its lock. -/
def SettlementOp.facilityRead (l : Liquidity) : SettlementOp → Option FacilityView
  | beginReservation input => (answer (lockFacility input.facilityId) l).join
  | _ => none

def World.read (w : World) (asOf : Nat) (op : SettlementOp) : Reads where
  settlement := ((w.asOf asOf).cases op.subject).settlement
  facility := op.facilityRead (w.asOf asOf).liquidity
  pending := w.pending op.subject

/-! ### Steps -/

variable (digest : AuthorizedInstruction → String)

/-- The settlement's rows and the funding tables after one operation; one that aborts leaves them
as they were. -/
def settlementStep (read : Reads) (s : Store) : SettlementOp → Store
  | .createSettlement input => after (onCase (createSettlement input)) s
  | .startPreflight _ actor => after (onCase (startPreflight read.settlement actor)) s
  | .completePreflight input => after (onCase (completePreflight read.settlement input)) s
  | .attachQuote _ input => after (onCase (attachQuote read.settlement input)) s
  | .expireAttachedQuote _ input => after (onCase (expireAttachedQuote read.settlement input)) s
  | .authorizeSettlement input =>
    after (onCase (authorizeSettlement digest read.settlement input)) s
  | .cancelSettlement input => after (onCase (cancelSettlement read.settlement input)) s
  | .requestCancellation input => after (onCase (requestCancellation input)) s
  | .honourCancellation input => after (onCase (honourCancellation read.settlement input)) s
  | .dispatchPayout input => after (onCase (dispatchPayout input)) s
  | .openException input => after (onCase (openException read.settlement input)) s
  | .resolveException input => after (onCase (resolveException read.settlement input)) s
  | .beginReservation input => after (beginReservation read.facility input) s
  | .completeReservation _ stamp =>
    match read.pending with
    | none => s
    | some input => after (completeReservation input stamp) s
  | .requestDrawdown input => after (requestDrawdown input) s
  | .resolveDrawdown input => after (resolveDrawdown input) s
  | .compensateCancellation input => after (compensateCancellation input) s
  | .releaseReservation input => after (onLiquidity (releaseReservation input)) s
  | .recordSubmission _ input => after (onCase (recordSubmission input)) s
  | .recordTimeout settlementId actor => after (onCase (recordTimeout settlementId actor)) s
  | .applyPayoutOutcome _ input =>
    after (onCase (applyPayoutOutcome (read.settlement.map (·.status)) input)) s
  | .sweepPayoutSla _ input => after (onCase (sweepPayoutSla input)) s
  | .retryPayout input => after (onCase (retryPayout input)) s
  | .beginReconciliation input => after (onCase (beginReconciliation input)) s
  | .applyObservation input => after (onCase (applyObservation input)) s
  | .sweepReconciliationSla input => after (onCase (sweepReconciliationSla input)) s
  | .resolveReconciliation input => after (onCase (resolveReconciliation input)) s
  | .evaluateAndSettle input => after (evaluateAndSettle digest input) s
  | .resolveExceptionAsOperator ctx input => after (resolveExceptionAsOperator ctx input) s
  | .openReturn input => after (onCase (openReturn input)) s
  | .applyEvent _ input onReturn =>
    after (onCase (applyEvent (read.settlement.map (·.status)) input onReturn)) s
  | .confirmReturn input => after (confirmReturn input) s
  | .escalateReturn input => after (onCase (escalateReturn input)) s
  | .rejectReturn input => after (onCase (rejectReturn input)) s
  | .markReturnRepaid input => after (markReturnRepaid input) s

/-- The reservations begun and not completed, after one operation. -/
def nextPending (read : Reads) (s : Store) (pending : String → Option ReserveForInput) :
    SettlementOp → String → Option ReserveForInput
  | .beginReservation input =>
    match answer (beginReservation read.facility input) s with
    | some (.ok _) => Function.update pending input.settlementId (some input)
    | _ => pending
  | .completeReservation settlementId _ => Function.update pending settlementId none
  | _ => pending

def World.step (w : World) : WorldOp → World
  | .funding op =>
    { w with now := { w.now with liquidity := liquidityStep w.now.liquidity op.op }
             past := w.now :: w.past }
  | .settlement asOf op =>
    let s := w.now.store op.subject
    { now := w.now.put op.subject (settlementStep digest (w.read asOf op) s op)
      past := w.now :: w.past
      pending := nextPending (w.read asOf op) s w.pending op }

end InrSettle
