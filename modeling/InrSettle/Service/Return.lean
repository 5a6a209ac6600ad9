import InrSettle.Service.Finality

/-!
# The settlement return service

A return the provider reports about a settled payout: opened once for each payout
attempt and provider reference, and escalated where its reason or its arrival is out
of the ordinary.
-/

namespace InrSettle

open Transaction CaseTables

/-! ### Triage -/

structure ArrivalTriage where
  within : Bool
  elapsedSeconds : Nat
  why : String := ""
  deriving DecidableEq

/-- `triageReturnArrival`: without a configured window every arrival is ordinary. -/
def triageReturnArrival (creditedAt returnObservedAt : Instant) (windowSeconds : Option Nat) :
    ArrivalTriage :=
  let elapsedSeconds := (returnObservedAt - creditedAt) / 1000
  match windowSeconds with
  | none => ⟨true, elapsedSeconds, ""⟩
  | some window =>
    if elapsedSeconds ≤ window then ⟨true, elapsedSeconds, ""⟩
    else ⟨false, elapsedSeconds,
      s!"the return was observed {elapsedSeconds}s after the credit, past the rail's " ++
        s!"{window}s observation window — the provider's own reporting is in question"⟩

/-- `verdictOnOpening`: the grounds on which a return is escalated as it is opened. -/
def verdictOnOpening (reasonCode : ReturnReasonCode) (triage : ArrivalTriage) : List String :=
  (if reasonCode = unmappedReturnReason then
    ["the provider return reason is not in the mapping table (INV-43)"] else []) ++
  (if triage.within then [] else [triage.why])

/-! ### Opening -/

inductive ReturnRefusal where
  | settlementNotFound | noPayoutAttempt | amountMustBePositive | providerReturnReferenceRequired
  | settlementNotSettled (status : SettlementStatus)
  deriving DecidableEq

structure ReturnDone where
  returnId : String
  status : ReturnStatus
  transition : ReturnTransitionId
  duplicate : Bool := false
  escalation : List String := []
  unmappedReturnReasonAlarm : Bool := false
  deriving DecidableEq

/-- `ReturnResult`. -/
abbrev ReturnResult := Except ReturnRefusal ReturnDone

structure OpenReturnInput where
  settlementId : String
  actor : PrincipalRef
  source : ObservationSource
  amountMinor : Int
  currency : String
  reasonCode : ReturnReasonCode
  providerReturnReference : String
  occurredAt : Option Instant := none
  windowSeconds : Option Nat := none
  returnId : String
  now : Instant
  deriving DecidableEq

def OpenReturnInput.observation (input : OpenReturnInput) (returnId : String)
    (openedTheReturn : Bool) : ReturnObservationRow where
  returnId := returnId
  source := input.source
  observedAmountMinor := some input.amountMinor
  observedAmountCurrency := some input.currency
  openedTheReturn := openedTheReturn

/-- The settlement and the payout attempt a return is opened against. -/
structure ReturnSource where
  settlement : SettlementRow
  attempt : Option PayoutAttemptRow
  deriving DecidableEq

def readReturnSource (c : Case) : Option ReturnSource :=
  c.settlement.map fun settlement => ⟨settlement, joinedAttempt c⟩

def OpenReturnInput.row (input : OpenReturnInput) (payoutAttemptId : String)
    (observedAt : Instant) (triage : ArrivalTriage) : SettlementReturnRow where
  id := input.returnId
  payoutAttemptId := payoutAttemptId
  status := .observed
  amountMinor := input.amountMinor
  amountCurrency := input.currency
  reasonCode := input.reasonCode
  openedBySource := input.source
  providerReturnReference := input.providerReturnReference
  observedAt := observedAt
  windowSecondsAtOpen := input.windowSeconds
  arrivalElapsedSeconds := triage.elapsedSeconds
  arrivedWithinWindow := triage.within

def OpenReturnInput.audit (input : OpenReturnInput) (action : String)
    (reason : Option String := none) : AuditRow where
  actor := input.actor
  action := action
  subjectType := .settlement
  subjectId := input.settlementId
  reason := reason

/-- N04. -/
def escalated (r : SettlementReturnRow) : SettlementReturnRow :=
  { r with status := .manualReview }

/-- N01, and N04 at once where the opening has grounds for it. -/
def openReturn (input : OpenReturnInput) : CaseTx ReturnResult := do
  let c ← get
  match readReturnSource c with
  | none => return .error .settlementNotFound
  | some source =>
    if source.settlement.status ≠ .settled then
      return .error (.settlementNotSettled source.settlement.status)
    else match source.settlement.payoutAttemptId with
    | none => return .error .noPayoutAttempt
    | some payoutAttemptId =>
      if input.amountMinor ≤ 0 then return .error .amountMustBePositive
      else if !isStated input.providerReturnReference then
        return .error .providerReturnReferenceRequired
      else match c.returns.find? fun r => decide (r.payoutAttemptId = payoutAttemptId) &&
          decide (r.providerReturnReference = input.providerReturnReference) with
      | some existing =>
        insertObservation (input.observation existing.id false)
        return .ok { returnId := existing.id, status := existing.status, transition := .n01,
                     duplicate := true }
      | none =>
        let observedAt := input.occurredAt.getD input.now
        let triage := triageReturnArrival
          ((source.attempt.bind (·.creditedAt)).getD observedAt) observedAt input.windowSeconds
        insertReturn (input.row payoutAttemptId observedAt triage)
        insertObservation (input.observation input.returnId true)
        emit {
          type := .returnObserved
          subjectType := .settlement
          subjectId := input.settlementId
          actor := input.actor
          payload := [("return_id", input.returnId),
            ("amount_minor", toString input.amountMinor), ("currency", input.currency)] }
        audit (input.audit "settlement.return_observed")
        let reasons := verdictOnOpening input.reasonCode triage
        if reasons ≠ [] then
          updateReturn input.returnId escalated
          audit (input.audit "settlement.return_escalated" (some ("; ".intercalate reasons)))
          return .ok { returnId := input.returnId, status := .manualReview, transition := .n04,
                       escalation := reasons,
                       unmappedReturnReasonAlarm := input.reasonCode == unmappedReturnReason }
        else return .ok { returnId := input.returnId, status := .observed, transition := .n01 }

end InrSettle
