import InrSettle.Service.Funding
import InrSettle.Service.Return

/-!
# Reviewing returns

What becomes of a return that was opened: the provider is asked about it, it is
confirmed under the cap on what was delivered and a repayment is requested, or it is
rejected, escalated to a person, or marked repaid.
-/

namespace InrSettle

open Transaction CaseTables

/-- `lockReturn`. -/
def findReturn (c : Case) (returnId : String) : Option SettlementReturnRow :=
  c.returns.find? fun r => decide (r.id = returnId)

inductive ReviewRefusal where
  | returnNotFound
  | checkDidNotUphold (why : String)
  | invalidTransition (source : ReturnStatus) (trigger : ReturnTrigger)
  | resolutionNoteRequired | payoutAttemptNotFound | noConfirmedDrawdown
  | proRataRepaymentIsZero
  | repaymentRequestFailed (refusal : RepaymentRefusal)
  | returnNoticeFailed | noRepaymentRequested
  | repaymentNotConfirmed (status : Option RepaymentStatus)
  deriving DecidableEq

inductive ReturnAlarm where
  | returnNotUpheld | returnCapBreach
  deriving DecidableEq

structure ReviewDone where
  returnId : String
  status : ReturnStatus
  transition : ReturnTransitionId
  duplicate : Bool := false
  repaymentId : Option String := none
  noticeId : Option String := none
  noticeContentHash : Option String := none
  alarm : Option ReturnAlarm := none
  deriving DecidableEq

/-- `ReturnResult`, of a return that was opened before. -/
abbrev ReviewResult := Except ReviewRefusal ReviewDone

def returnAudit (settlementId : String) (actor : PrincipalRef) (action : String)
    (reason : Option String := none) : AuditRow where
  actor := actor
  action := action
  subjectType := .settlement
  subjectId := settlementId
  reason := reason

/-! ### Escalating -/

structure EscalateInput where
  settlementId : String
  returnId : String
  actor : PrincipalRef
  reasons : List String
  deriving DecidableEq

/-- N04. -/
def escalateReturn (input : EscalateInput) : CaseTx ReviewResult := do
  let c ← get
  match findReturn c input.returnId with
  | none => return .error .returnNotFound
  | some current =>
    match returnMachine.evaluate (some current.status) .escalate with
    | none => return .error (.invalidTransition current.status .escalate)
    | some _ =>
      updateReturn input.returnId escalated
      audit (returnAudit input.settlementId input.actor "settlement.return_escalated"
        (some ("; ".intercalate input.reasons)))
      return .ok { returnId := input.returnId, status := .manualReview, transition := .n04 }

/-! ### The authoritative check -/

inductive ReturnCheck where
  | upheld (reportedMinor : Option Int) (source : ObservationSource)
  | notUpheld (why : String)
  deriving DecidableEq

/-- What the provider answers when it is asked about a payout, for the return check. -/
inductive ReturnQuery where
  | found (status : ProviderStatus) (returnedMinor : Option Int)
  | failed (error : String)
  deriving DecidableEq

def ProviderStatus.wire : ProviderStatus → String
  | submitted => "SUBMITTED" | accepted => "ACCEPTED" | credited => "CREDITED"
  | rejected => "REJECTED" | returned => "RETURNED"

/-- `checkReturnWithProvider`, after the provider answered: its cumulative figure is held against
the one return's own amount. -/
def checkReturnWithProvider (r : Option SettlementReturnRow) : ReturnQuery → ReturnCheck
  | .failed error =>
    match r with
    | none => .notUpheld "the return no longer exists"
    | some _ => .notUpheld s!"the status pull failed: {error}"
  | .found status returnedMinor =>
    match r with
    | none => .notUpheld "the return no longer exists"
    | some row =>
      if status ≠ .returned then
        let now := status.wire
        .notUpheld s!"the provider now reports {now}, not RETURNED"
      else match returnedMinor with
      | none => .upheld none .authoritativeStatusPull
      | some reported =>
        if reported < row.amountMinor then
          let own := row.amountMinor
          .notUpheld
            s!"the provider reports {reported} returned in total, less than this return's {own}"
        else .upheld (some reported) .authoritativeStatusPull

/-! ### Confirming -/

/-- What of an attempt's delivery its returns have taken back: the sum the cap is checked on. -/
def confirmedSoFar (c : Case) (attemptId : String) : Int :=
  Table.sumWhere (fun r => decide (r.payoutAttemptId = attemptId) && countsTowardCap r.status)
    (·.amountMinor) c.returns

structure IssuedNotice where
  noticeId : String
  contentHash : String
  deriving DecidableEq

structure ConfirmInput where
  settlementId : String
  returnId : String
  actor : PrincipalRef
  check : ReturnCheck
  note : Option String := none
  repaymentId : String
  /-- What `issueReturnNotice` answers, should it be asked. -/
  notice : Option IssuedNotice
  now : Instant
  deriving DecidableEq

/-- The attempt with the total its returns have taken back. -/
def totalled (total : Int) (a : PayoutAttemptRow) : PayoutAttemptRow :=
  { a with returnedTotalMinor := total }

/-- N02 and N06. -/
def confirmed (input : ConfirmInput) (r : SettlementReturnRow) : SettlementReturnRow :=
  { r with
    status := .confirmed
    confirmedAt := some input.now
    resolvedBy := if input.note.isSome then some input.actor.id else r.resolvedBy
    resolutionNote := input.note.orElse fun _ => r.resolutionNote }

def repaying (repaymentId : String) (r : SettlementReturnRow) : SettlementReturnRow :=
  { r with repaymentId := some repaymentId }

/-- The repayment a confirmed return asks for: its share of the drawdown. -/
def ConfirmInput.repay (input : ConfirmInput) (drawdown : DrawdownRow) (deliveredMinor : Int)
    (current : SettlementReturnRow) : RepayInput where
  facilityId := drawdown.facilityId
  amount := ⟨drawdown.amountCurrency,
    proRataRepayment drawdown.amountMinor deliveredMinor current.amountMinor⟩
  source := .settlementReturn
  settlementId := some input.settlementId
  returnId := some current.id
  actor := input.actor
  repaymentId := input.repaymentId
  now := input.now

def ConfirmInput.event (input : ConfirmInput) (current : SettlementReturnRow)
    (notice : IssuedNotice) : EventRow where
  type := .returnConfirmed
  subjectType := .settlement
  subjectId := input.settlementId
  actor := input.actor
  payload := [("return_id", current.id), ("amount_minor", toString current.amountMinor),
    ("currency", current.amountCurrency), ("notice_id", notice.noticeId),
    ("notice_content_hash", notice.contentHash), ("repayment_id", input.repaymentId)]

/-- After the cap held: what the return sends back of the drawdown, and the notice. A refusal here
leaves the return confirmed. -/
def requestReturnRepayment (input : ConfirmInput) (current : SettlementReturnRow)
    (attempt : PayoutAttemptRow) (transition : ReturnTransitionId) : StoreTx ReviewResult := do
  let s ← get
  match confirmedDrawdown s.case with
  | none => return .error .noConfirmedDrawdown
  | some drawdown =>
    let repay := input.repay drawdown (attempt.creditedMinor.getD 0) current
    if repay.amount.minorUnits ≤ 0 then return .error .proRataRepaymentIsZero
    else
      match ← onLiquidity (requestRepayment repay) with
      | .error refusal => return .error (.repaymentRequestFailed refusal)
      | .ok _ =>
        onCase (updateReturn current.id (repaying input.repaymentId))
        match input.notice with
        | none => return .error .returnNoticeFailed
        | some notice =>
          onCase (emit (input.event current notice))
          onCase (audit (returnAudit input.settlementId input.actor "settlement.return_confirmed"
            input.note))
          return .ok { returnId := current.id, status := .confirmed, transition := transition,
                       repaymentId := some input.repaymentId, noticeId := some notice.noticeId,
                       noticeContentHash := some notice.contentHash }

def ConfirmInput.escalation (input : ConfirmInput) (refusal : CapRefusal) : EscalateInput where
  settlementId := input.settlementId
  returnId := input.returnId
  actor := input.actor
  reasons :=
    let reason := refusal.wire
    [s!"the cumulative return cap would be breached: {reason}"]

/-- N02, or N06 from MANUAL_REVIEW, under the payout attempt's row lock. A breach of the cap goes to
a person instead. -/
def confirmReturn (input : ConfirmInput) : StoreTx ReviewResult := do
  let s ← get
  match findReturn s.case input.returnId with
  | none => return .error .returnNotFound
  | some current =>
    if countsTowardCap current.status then
      return .ok { returnId := current.id, status := current.status, transition := .n02,
                   duplicate := true }
    else match input.check with
    | .notUpheld why => return .error (.checkDidNotUphold why)
    | .upheld reportedMinor source =>
      let trigger : ReturnTrigger :=
        if current.status = .manualReview then .resolveUpheld else .upheld
      match returnMachine.evaluate (some current.status) trigger with
      | none => return .error (.invalidTransition current.status trigger)
      | some row =>
        if row.requiresAttribution ∧ !isStated (input.note.getD "") then
          return .error .resolutionNoteRequired
        else match s.case.attempts.find? fun a => decide (a.id = current.payoutAttemptId) with
        | none => return .error .payoutAttemptNotFound
        | some attempt =>
          match checkReturnCap attempt.creditedMinor
              (attempt.amountCurrency.getD current.amountCurrency)
              (confirmedSoFar s.case current.payoutAttemptId)
              ⟨current.amountCurrency, current.amountMinor⟩ with
          | .error refusal =>
            let escalated ← onCase (escalateReturn (input.escalation refusal))
            return escalated.map fun done => { done with alarm := some .returnCapBreach }
          | .ok total =>
            onCase (updateAttempt attempt.id (totalled total))
            onCase (updateReturn current.id (confirmed input))
            onCase (insertObservation {
              returnId := current.id
              source := source
              observedAmountMinor := reportedMinor
              observedAmountCurrency := reportedMinor.map fun _ => current.amountCurrency
              openedTheReturn := false })
            requestReturnRepayment input current attempt row.id

/-! ### Rejecting and repaying -/

structure RejectInput where
  settlementId : String
  returnId : String
  actor : PrincipalRef
  why : String
  note : Option String := none
  deriving DecidableEq

/-- N03 and N07. -/
def refused (input : RejectInput) (r : SettlementReturnRow) : SettlementReturnRow :=
  { r with
    status := .rejected
    resolvedBy := if input.note.isSome then some input.actor.id else r.resolvedBy
    resolutionNote := input.note.orElse fun _ => r.resolutionNote }

def rejectReturn (input : RejectInput) : CaseTx ReviewResult := do
  let c ← get
  match findReturn c input.returnId with
  | none => return .error .returnNotFound
  | some current =>
    let trigger : ReturnTrigger :=
      if current.status = .manualReview then .resolveNotUpheld else .notUpheld
    match returnMachine.evaluate (some current.status) trigger with
    | none => return .error (.invalidTransition current.status trigger)
    | some row =>
      if row.requiresAttribution ∧ !isStated (input.note.getD "") then
        return .error .resolutionNoteRequired
      else
        updateReturn current.id (refused input)
        emit {
          type := .returnRejected
          subjectType := .settlement
          subjectId := input.settlementId
          actor := input.actor
          payload := [("return_id", current.id), ("why", input.why)] }
        audit (returnAudit input.settlementId input.actor "settlement.return_rejected"
          (some (input.note.getD
            "the authoritative check did not substantiate the reported return")))
        return .ok { returnId := current.id, status := .rejected, transition := row.id,
                     alarm := some .returnNotUpheld }

structure RepaidInput where
  settlementId : String
  returnId : String
  actor : PrincipalRef
  now : Instant
  deriving DecidableEq

/-- N05. -/
def repaidReturn (now : Instant) (r : SettlementReturnRow) : SettlementReturnRow :=
  { r with status := .repaid, repaidAt := some now }

def markReturnRepaid (input : RepaidInput) : StoreTx ReviewResult := do
  let s ← get
  match findReturn s.case input.returnId with
  | none => return .error .returnNotFound
  | some current =>
    if current.status = .repaid then
      return .ok { returnId := current.id, status := .repaid, transition := .n05,
                   duplicate := true }
    else match returnMachine.evaluate (some current.status) .repaid with
    | none => return .error (.invalidTransition current.status .repaid)
    | some _ =>
      match current.repaymentId with
      | none => return .error .noRepaymentRequested
      | some repaymentId =>
        let status := (s.liquidity.repayments.find? fun r => decide (r.id = repaymentId)).map
          (·.status)
        if status ≠ some .confirmed then return .error (.repaymentNotConfirmed status)
        else
          onCase (updateReturn current.id (repaidReturn input.now))
          onCase (emit {
            type := .returnRepaid
            subjectType := .settlement
            subjectId := input.settlementId
            actor := input.actor
            payload := [("return_id", current.id), ("repayment_id", repaymentId)] })
          onCase (audit (returnAudit input.settlementId input.actor "settlement.return_repaid"))
          return .ok { returnId := current.id, status := .repaid, transition := .n05 }

end InrSettle
