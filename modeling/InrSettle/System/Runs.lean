import InrSettle.System.FundingSteps
import InrSettle.System.ReturnSteps

/-!
# Invariants of runs

An operation changes the rows of the settlement it is about and of no other. What
every move keeps of one settlement's rows holds of every settlement after every run.
-/

namespace InrSettle

open Run

section

variable {digest : AuthorizedInstruction → String} {read : Reads} {s : Store}

/-- Every operation is a move. -/
theorem settlementStep_move (op : SettlementOp) :
    StoreMove digest read s op (settlementStep digest read s op) := by
  cases op with
  | createSettlement input => exact after_onCase (createSettlement_move input)
  | startPreflight settlementId actor => exact after_onCase (startPreflight_move settlementId actor)
  | completePreflight input => exact after_onCase (completePreflight_move input)
  | attachQuote settlementId input => exact after_onCase (attachQuote_move settlementId input)
  | expireAttachedQuote settlementId input =>
    exact after_onCase (expireAttachedQuote_move settlementId input)
  | authorizeSettlement input => exact after_onCase (authorizeSettlement_move input)
  | cancelSettlement input => exact after_onCase (cancelSettlement_move input)
  | requestCancellation input =>
    exact after_onCase fun r c h => requestCancellation_plain
      (by simp [SettlementOp.plainTriggers]) h
  | honourCancellation input => exact after_onCase (honourCancellation_move input)
  | dispatchPayout input => exact after_onCase (dispatchPayout_move input)
  | openException input => exact after_onCase (openException_move input)
  | resolveException input => exact after_onCase (resolveException_move input)
  | beginReservation input => exact after_store (beginReservation_move input)
  | completeReservation settlementId stamp =>
    simp only [settlementStep]
    split
    · exact .unmoved
    · rename_i input pending
      exact after_store (completeReservation_move settlementId stamp input pending)
  | requestDrawdown input => exact after_store (requestDrawdown_move input)
  | resolveDrawdown input => exact after_store (resolveDrawdown_move input)
  | compensateCancellation input => exact after_store (compensateCancellation_move input)
  | releaseReservation input => exact after_store (releaseReservation_storeMove input)
  | recordSubmission settlementId input =>
    exact after_onCase (recordSubmission_move settlementId input)
  | recordTimeout settlementId actor => exact after_onCase (recordTimeout_move settlementId actor)
  | applyPayoutOutcome settlementId input =>
    exact after_onCase (applyPayoutOutcome_move input rfl)
  | sweepPayoutSla settlementId input =>
    exact after_onCase (sweepPayoutSla_move settlementId input)
  | retryPayout input => exact after_onCase (retryPayout_move input)
  | beginReconciliation input => exact after_onCase (beginReconciliation_move input)
  | applyObservation input => exact after_onCase (applyObservation_move input)
  | sweepReconciliationSla input => exact after_onCase (sweepReconciliationSla_move input)
  | resolveReconciliation input => exact after_onCase (resolveReconciliation_move input)
  | evaluateAndSettle input => exact after_store (evaluateAndSettle_move input)
  | resolveExceptionAsOperator ctx input =>
    exact after_store (resolveExceptionAsOperator_move ctx input)
  | openReturn input => exact after_onCase (openReturn_move input)
  | applyEvent settlementId input onReturn =>
    exact after_onCase (applyEvent_move settlementId input onReturn)
  | confirmReturn input => exact after_store (confirmReturn_move input)
  | escalateReturn input => exact after_onCase (escalateReturn_move input)
  | rejectReturn input => exact after_onCase (rejectReturn_move input)
  | markReturnRepaid input => exact after_store (markReturnRepaid_move input)

end

variable {digest : AuthorizedInstruction → String} {w : World} {asOf : Nat} {op : SettlementOp}

theorem step_case_subject :
    (w.step digest (.settlement asOf op)).now.cases op.subject =
      (settlementStep digest (w.read asOf op) (w.now.store op.subject) op).case := by
  simp [World.step, Tenant.put]

theorem step_case_of_ne {settlementId : String} (other : settlementId ≠ op.subject) :
    (w.step digest (.settlement asOf op)).now.cases settlementId = w.now.cases settlementId := by
  simp [World.step, Tenant.put, Function.update_of_ne other]

theorem step_liquidity :
    (w.step digest (.settlement asOf op)).now.liquidity =
      (settlementStep digest (w.read asOf op) (w.now.store op.subject) op).liquidity := rfl

/-- What the operation's move keeps of its own settlement, the step keeps of every settlement. -/
theorem step_cases {R : Case → Case → Prop} (same : ∀ c, R c c)
    (moves : ∀ s', StoreMove digest (w.read asOf op) (w.now.store op.subject) op s' →
      R (w.now.cases op.subject) s'.case) (settlementId : String) :
    R (w.now.cases settlementId)
      ((w.step digest (.settlement asOf op)).now.cases settlementId) := by
  by_cases subject : settlementId = op.subject
  · subst subject
    rw [step_case_subject]
    exact moves _ (settlementStep_move op)
  · rw [step_case_of_ne subject]
    exact same _

/-- An invariant of the rows of one settlement, kept by the operations on it. -/
theorem stepInvariant {P : String → Case → Prop} {allowed : World → WorldOp → Prop}
    (preserved : ∀ w asOf op, allowed w (.settlement asOf op) →
      P op.subject (w.now.cases op.subject) → P op.subject
        (settlementStep digest (w.read asOf op) (w.now.store op.subject) op).case)
    {ops : List WorldOp} (start : ∀ id, P id (w.now.cases id))
    (steps : Along (World.step digest) allowed w ops) :
    ∀ id, P id ((run (World.step digest) w ops).now.cases id) := by
  refine Along.invariant (I := fun w => ∀ id, P id (w.now.cases id)) ?_ start steps
  intro w op holds permitted
  cases op with
  | funding op => exact holds
  | settlement asOf op =>
    intro id
    by_cases subject : id = op.subject
    · subst subject
      rw [step_case_subject]
      exact preserved w asOf op permitted (holds _)
    · rw [step_case_of_ne subject]
      exact holds id

/-- An invariant of the rows of one settlement, kept by every move. -/
theorem caseInvariant {P : String → Case → Prop} {allowed : World → WorldOp → Prop}
    (preserved : ∀ w asOf op s', allowed w (.settlement asOf op) →
      P op.subject (w.now.cases op.subject) →
      StoreMove digest (w.read asOf op) (w.now.store op.subject) op s' → P op.subject s'.case)
    {ops : List WorldOp} (start : ∀ id, P id (w.now.cases id))
    (steps : Along (World.step digest) allowed w ops) :
    ∀ id, P id ((run (World.step digest) w ops).now.cases id) :=
  stepInvariant (fun w asOf op permitted held =>
    preserved w asOf op _ permitted held (settlementStep_move op)) start steps

/-- The rows of one settlement after a run from nothing. -/
abbrev caseAfter (digest : AuthorizedInstruction → String) (ops : List WorldOp)
    (settlementId : String) : Case :=
  (run (World.step digest) World.empty ops).now.cases settlementId

/-! ### A settlement on its way

The operations that take one settlement to its payout, for the runs of this development. -/

section Delivery

def creator : PrincipalRef := ⟨.user, "creator"⟩

def approver : PrincipalRef := ⟨.user, "approver"⟩

def worker : PrincipalRef := ⟨.job, "worker"⟩

def rupees (minorUnits : Int) : Money := ⟨"INR", minorUnits⟩

def offer : QuoteView where
  terms := {
    quoteId := "quote", direction := "payout"
    recipientAmount := rupees 1000, fundingAmount := rupees 1000
    fxPair := "INR/INR", fxRateScaled := "1", fxScale := 0, fxQuotedAt := "0"
    feeComponents := []
    residualCurrency := "INR", residualAmount := "0", residualScale := 0
    quotedAt := "0", expiresAt := "100" }
  sameTenant := true
  status := .active
  expiresAt := 100

/-- One operation on what is committed now. -/
def fresh (op : SettlementOp) : WorldOp := .settlement 0 op

/-- From nothing to AUTHORIZED, with a facility to draw on. -/
def authorizing : List WorldOp := [
  .funding (.createFacility ⟨"facility", "lender", "INR", rupees 5000, worker⟩),
  fresh (.createSettlement {
    settlementId := "s", beneficiaryId := "beneficiary", recipientAmountMinor := 1000
    fundingCurrency := "INR", purposeCode := some "P0001", actor := creator }),
  fresh (.startPreflight "s" creator),
  fresh (.completePreflight {
    settlementId := "s", actor := worker, blocking := [], ruleSetVersion := "1"
    fingerprint := "f" }),
  fresh (.attachQuote "s" {
    quoteId := "quote", quote := some offer, actor := creator, now := 1 }),
  fresh (.authorizeSettlement {
    settlementId := "s", actor := approver, mayAuthorize := true, separationEnabled := true
    quote := some offer, beneficiaryVerified := true
    destination := some ⟨"destination", "version", true⟩, preflightPassing := true
    hasActiveLiquidityFacility := true, quoteConsumed := true, now := 2 })]

/-- From AUTHORIZED to LIQUIDITY_RESERVED. -/
def capacity : List WorldOp := [
  fresh (.beginReservation ⟨"s", "facility", rupees 1000, 3600, worker⟩),
  fresh (.completeReservation "s" ⟨"reservation", "t1", 3⟩)]

/-- The rows of the settlement after a run. -/
def reached (ops : List WorldOp) : Store :=
  (run (World.step fun _ => "hash") World.empty ops).now.store "s"

def drawing : WorldOp := fresh (.requestDrawdown ⟨"s", worker, "drawdown", 4⟩)

def resolving (trigger : DrawdownResolution) (now : Instant) : WorldOp :=
  fresh (.resolveDrawdown {
    settlementId := "s", trigger := trigger, actor := worker, providerEventVerified := true
    evidence := some ⟨1000, "INR", some "facility"⟩, transferId := "t2", now := now })

/-- From nothing to DRAWDOWN_CONFIRMED. -/
def funded : List WorldOp := authorizing ++ capacity ++ [drawing, resolving .confirmed 5]

def dispatching : WorldOp :=
  fresh (.dispatchPayout {
    settlementId := "s", actor := worker, railSelected := true, rail := some "imps"
    slaSeconds := some 60, providerId := some "provider", fundingAmountMinor := some 1000
    destinationVerified := true, attemptId := "a1", now := 6 })

/-- An outcome the provider reports of the payout. -/
def reporting (outcome : ProviderOutcome) (now : Instant) : WorldOp :=
  fresh (.applyPayoutOutcome "s" {
    outcome := outcome, actor := worker, trusted := true, utr := some "UTR0000000001"
    creditedMinor := if outcome = .credited then some 1000 else none, now := now })

def retrying : WorldOp :=
  fresh (.retryPayout {
    settlementId := "s", actor := worker, rail := "neft", slaSeconds := 60
    providerId := "provider", reason := "rejected by the rail", attemptId := "a2", now := 9 })

/-- From PAYOUT_CONFIRMED to SETTLED. -/
def closing : List WorldOp := [
  fresh (.beginReconciliation ⟨"s", rupees 1000, worker, 60, "reconciliation", 20⟩),
  fresh (.applyObservation ⟨"s", .authoritativeStatusPull, some 1000, "INR", worker, 21⟩),
  fresh (.evaluateAndSettle ⟨"s", worker, ⟨"receipt", "hash"⟩, "evaluation", 22⟩)]

/-- From nothing to SETTLED. -/
def delivered : List WorldOp := funded ++ [dispatching, reporting .credited 10] ++ closing

/-- The provider reports that some of the money came back. -/
def comingBack (returnId : String) (amountMinor : Int) : WorldOp :=
  fresh (.applyEvent "s" { outcome := .returned, actor := worker, trusted := true, now := 30 }
    (some {
      settlementId := "s", actor := worker, source := .trustedProviderEvent
      amountMinor := amountMinor, currency := "INR", reasonCode := .refusedByBeneficiary
      providerReturnReference := returnId, returnId := returnId, now := 30 }))

/-- A return is confirmed on what the provider answered of it. -/
def confirming (returnId repaymentId : String) (reportedMinor : Option Int) : WorldOp :=
  fresh (.confirmReturn {
    settlementId := "s", returnId := returnId, actor := worker
    check := .upheld reportedMinor .authoritativeStatusPull, repaymentId := repaymentId
    notice := some ⟨"notice", "hash"⟩, now := 31 })

def escalating (returnId : String) : WorldOp :=
  fresh (.escalateReturn ⟨"s", returnId, worker, ["under review"]⟩)

end Delivery

end InrSettle
