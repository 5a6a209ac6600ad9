import InrSettle.Domain.Payout
import InrSettle.Domain.Liquidity

/-!
# Reconciliation and finality

The reconciliation machine R01–R07, the comparison of an observation with what
was expected, and the eight conditions under which a settlement is final.
-/

namespace InrSettle

inductive ReconciliationStatus where
  | pending | matched | mismatch | manualReview
  deriving DecidableEq, Repr

def ReconciliationStatus.wire : ReconciliationStatus → String
  | pending => "PENDING" | matched => "MATCHED" | mismatch => "MISMATCH"
  | manualReview => "MANUAL_REVIEW"

inductive ReconciliationTrigger where
  | begin | observedMatching | observedDiffering | observationOverdue | escalate
  | resolveMatched | resolveUnresolvable
  deriving DecidableEq, Repr

def ReconciliationTrigger.wire : ReconciliationTrigger → String
  | begin => "begin" | observedMatching => "observed_matching"
  | observedDiffering => "observed_differing" | observationOverdue => "observation_overdue"
  | escalate => "escalate" | resolveMatched => "resolve_matched"
  | resolveUnresolvable => "resolve_unresolvable"

inductive ReconciliationTransitionId where
  | r01 | r02 | r03 | r04 | r05 | r06 | r07
  deriving DecidableEq, Repr

structure ReconciliationTransition where
  id : ReconciliationTransitionId
  source : List ReconciliationStatus
  trigger : ReconciliationTrigger
  target : ReconciliationStatus
  requiresCompensationDecision : Bool := false
  deriving DecidableEq, Repr

open ReconciliationStatus in
/-- `RECONCILIATION_TRANSITIONS`. -/
def reconciliationMachine :
    Machine ReconciliationStatus ReconciliationTrigger ReconciliationTransition where
  rows := [
    { id := .r01, source := [], trigger := .begin, target := pending },
    { id := .r02, source := [pending], trigger := .observedMatching, target := matched },
    { id := .r03, source := [pending], trigger := .observedDiffering, target := mismatch },
    { id := .r04, source := [pending], trigger := .observationOverdue, target := manualReview },
    { id := .r05, source := [mismatch], trigger := .escalate, target := manualReview },
    { id := .r06, source := [manualReview], trigger := .resolveMatched, target := matched,
      requiresCompensationDecision := true },
    { id := .r07, source := [manualReview], trigger := .resolveUnresolvable,
      target := mismatch }]
  source := (·.source)
  trigger := (·.trigger)
  target := (·.target)

inductive ObservationSource where
  | trustedProviderEvent | authoritativeStatusPull
  deriving DecidableEq, Repr

def ObservationSource.wire : ObservationSource → String
  | trustedProviderEvent => "trusted_provider_event"
  | authoritativeStatusPull => "authoritative_status_pull"

inductive MismatchReason where
  | short | over | currencyMismatch | noAmountObserved
  deriving DecidableEq, Repr

def MismatchReason.wire : MismatchReason → String
  | .short => "short" | .over => "over" | .currencyMismatch => "currency_mismatch"
  | .noAmountObserved => "no_amount_observed"

structure ComparisonVerdict where
  delta : Int
  trigger : ReconciliationTrigger
  why : Option MismatchReason
  deriving DecidableEq, Repr

def ComparisonVerdict.isMatched (verdict : ComparisonVerdict) : Bool :=
  verdict.why.isNone

/-- Compare what was expected with what was observed, exactly. -/
def compareObservation (expected : Money) (observed : Option Money) : ComparisonVerdict :=
  match observed with
  | none => ⟨0, .observedDiffering, some .noAmountObserved⟩
  | some amount =>
    if amount.currency ≠ expected.currency then ⟨0, .observedDiffering, some .currencyMismatch⟩
    else
      let delta := amount.minorUnits - expected.minorUnits
      if delta = 0 then ⟨delta, .observedMatching, none⟩
      else ⟨delta, .observedDiffering, some (if delta < 0 then .short else .over)⟩

/-- An observation matches exactly when it is the expected amount in the expected currency. -/
theorem compareObservation_matched {expected : Money} {observed : Option Money} :
    (compareObservation expected observed).isMatched = true ↔ observed = some expected := by
  cases observed with
  | none => simp [compareObservation, ComparisonVerdict.isMatched]
  | some amount =>
    obtain ⟨currency, minorUnits⟩ := amount
    obtain ⟨currency', minorUnits'⟩ := expected
    simp only [compareObservation, ComparisonVerdict.isMatched, Option.some.injEq, Money.mk.injEq]
    by_cases sameCurrency : currency = currency'
    · by_cases sameAmount : minorUnits - minorUnits' = 0
      · have : minorUnits = minorUnits' := by omega
        simp [sameCurrency, this]
      · have : minorUnits ≠ minorUnits' := by omega
        simp [sameCurrency, sameAmount, this]
    · simp [sameCurrency]

/-! ### Finality -/

inductive FinalityCondition where
  | f1 | f2 | f3 | f4 | f5 | f6 | x1 | x2
  deriving DecidableEq, Repr

def FinalityCondition.wire : FinalityCondition → String
  | f1 => "F1" | f2 => "F2" | f3 => "F3" | f4 => "F4" | f5 => "F5" | f6 => "F6"
  | x1 => "X1" | x2 => "X2"

structure FinalityEvidence where
  authorizedAt : Option Nat
  authorizedBy : Option String
  actorHeldCapability : Bool
  drawdownStatus : Option DrawdownStatus
  facilityStatus : Option FacilityStatus
  confirmationSource : Option ObservationSource
  attemptStatus : Option PayoutAttemptStatus
  utr : Option String
  reconciliationStatus : Option ReconciliationStatus
  reconciliationDelta : Option Int
  openExceptionCode : Option ExceptionCode
  authorizedTermsHash : Option String
  authorizedDestinationVersionId : Option String
  executedTermsHash : Option String
  executedDestinationVersionId : Option String
  deriving DecidableEq, Repr

structure ConditionVerdict where
  condition : FinalityCondition
  met : Bool
  because : String
  deriving DecidableEq, Repr

structure FinalityVerdict where
  final : Bool
  conditions : List ConditionVerdict
  missing : List FinalityCondition
  deriving DecidableEq, Repr

def f1 (e : FinalityEvidence) : ConditionVerdict :=
  match e.authorizedAt, e.authorizedBy with
  | some authorizedAt, some authorizedBy =>
    if e.actorHeldCapability then
      ⟨.f1, true, s!"authorized at {authorizedAt} by {authorizedBy}, who held " ++
        "settlement:authorize at the time"⟩
    else
      ⟨.f1, false, s!"authorized by {authorizedBy}, who did not hold settlement:authorize at " ++
        s!"{authorizedAt}"⟩
  | _, _ => ⟨.f1, false, "no AUTHORIZED transition is recorded on this settlement"⟩

def f2 (e : FinalityEvidence) : ConditionVerdict :=
  if e.drawdownStatus ≠ some .confirmed then
    let status := (e.drawdownStatus.map (·.wire)).getD "absent"
    ⟨.f2, false, s!"the drawdown is {status}, not CONFIRMED"⟩
  else if e.facilityStatus ≠ some .active then
    let status := (e.facilityStatus.map (·.wire)).getD "absent"
    ⟨.f2, false, s!"the funding facility is {status}, not ACTIVE"⟩
  else ⟨.f2, true, "a confirmed drawdown against an ACTIVE liquidity facility"⟩

def f3 (e : FinalityEvidence) : ConditionVerdict :=
  if e.attemptStatus ≠ some .credited ∧ e.attemptStatus ≠ some .returned then
    let status := (e.attemptStatus.map (·.wire)).getD "absent"
    ⟨.f3, false, s!"the payout attempt is {status}; no terminal credit confirmation"⟩
  else match e.confirmationSource with
    | none => ⟨.f3, false, "the credit confirmation did not arrive over a trusted channel"⟩
    | some source =>
      let channel := source.wire
      ⟨.f3, true, s!"terminal credit confirmed via {channel}"⟩

def f4 (e : FinalityEvidence) : ConditionVerdict :=
  match e.utr with
  | none => ⟨.f4, false, "no UTR is recorded for the credited payout"⟩
  | some utr =>
    if utr.length = 0 then ⟨.f4, false, "no UTR is recorded for the credited payout"⟩
    else if !isWellFormedUtr (some utr) then
      ⟨.f4, false, s!"the recorded UTR {utr} is not well-formed"⟩
    else ⟨.f4, true, s!"UTR {utr} is present and well-formed"⟩

def f5 (e : FinalityEvidence) : ConditionVerdict :=
  match e.reconciliationStatus with
  | none => ⟨.f5, false, "no reconciliation exists for this settlement"⟩
  | some status =>
    let wire := status.wire
    if status ≠ .matched then ⟨.f5, false, s!"reconciliation is {wire}, not MATCHED"⟩
    else if e.reconciliationDelta ≠ some 0 then
      let delta := (e.reconciliationDelta.map toString).getD "unknown"
      ⟨.f5, false, s!"reconciliation is MATCHED but carries a delta of {delta} minor units"⟩
    else ⟨.f5, true, "reconciliation is MATCHED with a delta of exactly zero"⟩

def f6 (e : FinalityEvidence) : ConditionVerdict :=
  match e.openExceptionCode with
  | some code =>
    let wire := code.wire
    ⟨.f6, false, s!"exception {wire} is open"⟩
  | none => ⟨.f6, true, "no blocking exception is open"⟩

def x1 (e : FinalityEvidence) : ConditionVerdict :=
  match e.authorizedTermsHash with
  | none => ⟨.x1, false, "no authorized terms hash was frozen at authorization"⟩
  | some termsHash =>
    if e.executedTermsHash ≠ some termsHash then
      let executed := e.executedTermsHash.getD "none"
      ⟨.x1, false, s!"executed against terms {executed}, authorized against {termsHash}"⟩
    else ⟨.x1, true, s!"executed against the authorized terms {termsHash}"⟩

def x2 (e : FinalityEvidence) : ConditionVerdict :=
  match e.authorizedDestinationVersionId with
  | none => ⟨.x2, false, "no destination version was frozen at authorization"⟩
  | some destinationVersionId =>
    if e.executedDestinationVersionId ≠ some destinationVersionId then
      let executed := e.executedDestinationVersionId.getD "none"
      ⟨.x2, false, s!"paid destination version {executed}, authorized {destinationVersionId}"⟩
    else
      ⟨.x2, true, s!"paid the destination version {destinationVersionId} frozen at " ++
        "authorization"⟩

def evaluateFinality (evidence : FinalityEvidence) : FinalityVerdict :=
  let conditions := [f1 evidence, f2 evidence, f3 evidence, f4 evidence, f5 evidence,
    f6 evidence, x1 evidence, x2 evidence]
  let missing := (conditions.filter (!·.met)).map (·.condition)
  ⟨missing.isEmpty, conditions, missing⟩

/-- A settlement is final exactly when each of the eight conditions is met. -/
theorem evaluateFinality_final {e : FinalityEvidence} :
    (evaluateFinality e).final = true ↔
      (f1 e).met = true ∧ (f2 e).met = true ∧ (f3 e).met = true ∧ (f4 e).met = true ∧
        (f5 e).met = true ∧ (f6 e).met = true ∧ (x1 e).met = true ∧ (x2 e).met = true := by
  simp [evaluateFinality, List.filter_eq_nil_iff]

end InrSettle
