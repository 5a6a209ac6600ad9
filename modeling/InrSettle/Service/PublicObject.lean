import InrSettle.Domain.Fx
import InrSettle.Domain.Money
import InrSettle.Library.JsConvert
import InrSettle.Library.JsDate
import InrSettle.Store.Rows

/-!
# The public objects

Every representation a customer can see, as the serializers build it from what was read.
-/

namespace InrSettle.Public

open Js

/-- An object that is being built. -/
abbrev Document (N : Type) := List (String × Value N)

section Objects

variable {N : Type} [Js.NumberFormat N]

def object (document : Document N) : Value N :=
  .object (document.map fun member => (ofString member.1, member.2))

def text (s : String) : Value N := .string (ofString s)

def optional (s : Option String) : Value N := (s.map text).getD .null

def count (n : Nat) : Value N := .number (numberOfInt n)

/-- `timestamp`, of a date that is there. -/
def timestamp (at_ : Instant) : Value N := .string (withoutMilliseconds (toISOString at_))

def optionalTimestamp (at_ : Option Instant) : Value N := (at_.map timestamp).getD .null

def moneyJson (amount : Amount) (format : NumberFormat) : Value N :=
  object [
    ("currency", text amount.currency.wire),
    ("minor_units", text (toString amount.minorUnits)),
    ("scale", count (scaleOf amount.currency)),
    ("display", text (formatMoney amount
      (if format = .indian ∧ amount.currency = .inr then .indian else .international)))]

/-- `reference`: what is left of a subject that is gone. -/
def reference (kind id : String) : Document N :=
  [("object", text kind), ("id", text id), ("deleted", .bool true)]

/-! ### Beneficiaries -/

structure DestinationVersionView where
  id : String
  versionNumber : Nat
  kind : String
  accountNumberLast4 : Option String
  ifsc : Option String
  accountType : Option String
  accountHolderName : Option String
  vpa : Option String
  summary : String
  verificationStatus : String
  verifiedAt : Option Instant

structure DestinationView where
  id : String
  currentVersion : Option DestinationVersionView

structure BeneficiaryView where
  id : String
  displayName : String
  legalName : Option String
  type : String
  country : String
  status : String
  defaultDestinationId : Option String
  destinations : List DestinationView
  createdAt : Instant

def destinationJson (destinationId : String) (v : DestinationVersionView) : Value N :=
  object [
    ("id", text destinationId),
    ("current_version_id", text v.id),
    ("version_number", count v.versionNumber),
    ("kind", text v.kind),
    ("account_number_last4", optional v.accountNumberLast4),
    ("ifsc", optional v.ifsc),
    ("account_type", optional v.accountType),
    ("account_holder_name", optional v.accountHolderName),
    ("vpa", optional v.vpa),
    ("verification_status", text v.verificationStatus),
    ("verified_at", optionalTimestamp v.verifiedAt)]

/-- `beneficiaryJson` without a settlement summary, as events have it. -/
def beneficiaryJson (b : BeneficiaryView) (environment : String) : Document N :=
  let destination := b.destinations.find? (fun d => decide (some d.id = b.defaultDestinationId))
    <|> b.destinations.head?
  [ ("id", text b.id),
    ("object", text "beneficiary"),
    ("environment", text environment),
    ("display_name", text b.displayName),
    ("legal_name", optional b.legalName),
    ("type", text b.type),
    ("country", text b.country),
    ("status", text b.status),
    ("destination", ((destination.bind fun d =>
      d.currentVersion.map (destinationJson d.id)).getD .null)),
    ("settlement_summary", .null),
    ("created_at", timestamp b.createdAt)]

/-! ### Quotes, returns and batches -/

structure QuoteView where
  id : String
  recipientFirst : Bool
  recipientAmount : Amount
  fundingAmount : Amount
  fxRate : FxRate
  feeComponents : List (String × String × Amount)
  roundingResidual : ExactAmount
  estimatedDelivery : String
  status : String
  expiresAt : Instant
  createdAt : Instant

def quoteJson (q : QuoteView) (format : NumberFormat) : Document N :=
  [ ("id", text q.id),
    ("object", text "quote"),
    ("direction", text (if q.recipientFirst then "recipient_first" else "funding_first")),
    ("recipient_amount", moneyJson q.recipientAmount format),
    ("funding_amount", moneyJson q.fundingAmount format),
    ("fx_rate", object [
      ("pair", text q.fxRate.pair),
      ("rate", text (formatFxRate q.fxRate)),
      ("scale", count fxRateScale),
      ("quoted_at", timestamp q.fxRate.quotedAt)]),
    ("fees", .array (q.feeComponents.map fun (code, label, amount) => object [
      ("code", text code), ("label", text label), ("amount", moneyJson amount format)])),
    ("rounding_residual", object [
      ("currency", text q.roundingResidual.currency.wire),
      ("amount", text q.roundingResidual.amount),
      ("scale", count exactAmountScale)]),
    ("estimated_delivery", text q.estimatedDelivery),
    ("status", text q.status.toLower),
    ("expires_at", timestamp q.expiresAt),
    ("created_at", timestamp q.createdAt)]

structure ReturnView where
  id : String
  settlementId : String
  status : String
  amount : Amount
  reasonCode : String
  reasonMessage : String
  observedAt : Instant
  confirmedAt : Option Instant
  repaidAt : Option Instant

def settlementReturnJson (r : ReturnView) (format : NumberFormat) : Document N :=
  [ ("id", text r.id),
    ("object", text "settlement_return"),
    ("settlement_id", text r.settlementId),
    ("status", text r.status.toLower),
    ("amount", moneyJson r.amount format),
    ("reason_code", text r.reasonCode),
    ("reason_message", text r.reasonMessage),
    ("observed_at", timestamp r.observedAt),
    ("confirmed_at", optionalTimestamp r.confirmedAt),
    ("repaid_at", optionalTimestamp r.repaidAt)]

structure BatchSummary where
  id : String
  name : String
  source : String
  status : String
  rowCount : Nat
  validCount : Nat
  actionRequiredCount : Nat
  settledCount : Nat
  failedCount : Nat
  total : Amount

def batchJson (b : BatchSummary) (format : NumberFormat) : Document N :=
  [ ("id", text b.id),
    ("object", text "batch"),
    ("name", text b.name),
    ("source", text b.source),
    ("status", text b.status.toLower),
    ("row_count", count b.rowCount),
    ("valid_count", count b.validCount),
    ("action_required_count", count b.actionRequiredCount),
    ("settled_count", count b.settledCount),
    ("failed_count", count b.failedCount),
    ("total", moneyJson b.total format)]

/-! ### Settlements -/

structure AttemptView where
  creditedMinor : Option Int
  providerReference : Option String
  creditedAt : Option Instant

/-- The columns of a settlement its representation is built from. -/
structure SettlementColumns (N : Type) where
  id : String
  environment : String
  status : SettlementStatus
  openExceptionCode : Option ExceptionCode
  recipientAmount : Amount
  fundingCurrency : String
  purposeCode : Option String
  externalReference : Option String
  quoteId : Option String
  receiptId : Option String
  authorizedTerms : Option (List (Text × Value N))
  authorizedTermsHash : Option String
  pointOfNoReturnAt : Option Instant
  cancellationRequestedAt : Option Instant
  authorizedAt : Option Instant
  settledAt : Option Instant
  createdAt : Instant
  updatedAt : Instant
  replacesSettlementId : Option String
  drawdownId : Option String
  beneficiaryId : String
  destinationId : Option String
  destinationVersionId : Option String

/-- A settlement with what is read beside it. -/
structure SettlementView (N : Type) where
  row : SettlementColumns N
  beneficiary : Option BeneficiaryView
  returns : List ReturnView
  replacedBy : Option String
  /-- `summariseVersion` of the frozen version. -/
  frozenSummary : Option String
  attempt : Option AttemptView
  batchId : Option String

def customerStatusText : CustomerStatus → String
  | .ready => "ready" | .settling => "settling" | .settled => "settled"
  | .actionRequired => "action_required" | .cancelled => "cancelled"

inductive CancellationAffordance where
  | cancel | requestCancellation | requested | none
  deriving DecidableEq

def cancellationAffordance (status : SettlementStatus)
    (pointOfNoReturnAt cancellationRequestedAt : Option Instant) : CancellationAffordance :=
  if pointOfNoReturnAt.isSome then .none
  else if cancellationRequestedAt.isSome then .requested
  else match status with
    | .draft | .ready | .quoted | .actionRequired => .cancel
    | .authorized | .liquidityReserving | .liquidityReserved | .drawdownRequested
    | .drawdownConfirmed => .requestCancellation
    | _ => .none

/-- `{ ...members, [name]: value }`. -/
def withMember (members : List (Text × Value N)) (name : String) (value : Value N) : Value N :=
  if ofString name ∈ members.map (·.1) then
    .object (members.map fun member =>
      if member.1 = ofString name then (member.1, value) else member)
  else .object (members ++ [(ofString name, value)])

def progress (v : SettlementView N) : Value N :=
  let step := fun (name label : String) (at_ : Option Instant) => object
    [("step", text name), ("label", text label), ("at", optionalTimestamp at_)]
  .array [
    step "ready" "Settlement ready"
      (if v.row.status = .draft ∨ v.row.status = .preflighting then none else some v.row.createdAt),
    step "liquidity_secured" "Liquidity secured"
      (if v.row.drawdownId.isNone then none else some v.row.updatedAt),
    step "payout_confirmed" "INR payout confirmed" (v.attempt.bind (·.creditedAt)),
    step "reconciled" "Reconciled" v.row.settledAt]

/-- The destination a settlement is shown with where its own version is not read. -/
def shownDestination (v : SettlementView N) : Option DestinationVersionView :=
  (v.beneficiary.bind fun b =>
    b.destinations.find? (fun d => decide (some d.id = v.row.destinationId))
      <|> b.destinations.head?).bind (·.currentVersion)

/-- The purpose; without a label its code is shown. -/
def purposeJson (purposeCode purposeLabel : Option String) : Value N :=
  match purposeCode with
  | none => .null
  | some code => object [("code", text code), ("label", text (purposeLabel.getD code))]

/-- `settlementJson` of the input that `settlementObject` builds. -/
def settlementJson (v : SettlementView N) (purposeLabel : Option String) (format : NumberFormat) :
    Document N :=
  let row := v.row
  let affordance :=
    cancellationAffordance row.status row.pointOfNoReturnAt row.cancellationRequestedAt
  [ ("id", text row.id),
    ("object", text "settlement"),
    ("environment", text row.environment),
    ("status",
      optional ((customerStatusColumn row.status row.openExceptionCode).map customerStatusText)),
    ("beneficiary", object [
      ("id", text row.beneficiaryId),
      ("display_name", text ((v.beneficiary.map (·.displayName)).getD "")),
      ("destination_id", optional row.destinationId),
      ("destination_version_id", optional row.destinationVersionId),
      ("destination_summary",
        optional (v.frozenSummary <|> (shownDestination v).map (·.summary))),
      ("destination_is_frozen",
        .bool (row.authorizedAt.isSome && row.destinationVersionId.isSome)),
      ("verification_status", optional ((shownDestination v).map (·.verificationStatus)))]),
    ("authorized_terms", match row.authorizedTerms with
      | none => .null
      | some terms => withMember terms "hash" (optional row.authorizedTermsHash)),
    ("recipient_amount", moneyJson row.recipientAmount format),
    ("delivered_amount", match v.attempt.bind (·.creditedMinor) with
      | none => .null
      | some minor => moneyJson ⟨.inr, minor⟩ format),
    ("funding_currency", text row.fundingCurrency),
    ("purpose", purposeJson row.purposeCode purposeLabel),
    ("external_reference", optional row.externalReference),
    ("quote_id", optional row.quoteId),
    ("batch_id", optional v.batchId),
    ("requirements", .array []),
    ("progress", progress v),
    ("payout_reference", optional (v.attempt.bind (·.providerReference))),
    ("receipt_id", optional row.receiptId),
    ("cancellable", .bool (decide (affordance = .cancel ∨ affordance = .requestCancellation))),
    ("point_of_no_return_at", optionalTimestamp row.pointOfNoReturnAt),
    ("cancellation_requested_at", optionalTimestamp row.cancellationRequestedAt),
    -- `listReturns` does not read when a return was confirmed or repaid.
    ("returns", .array (v.returns.map fun r =>
      object (settlementReturnJson { r with confirmedAt := none, repaidAt := none } format))),
    ("replaces_settlement_id", optional row.replacesSettlementId),
    ("replaced_by", optional v.replacedBy),
    ("authorized_at", optionalTimestamp row.authorizedAt),
    ("settled_at", optionalTimestamp row.settledAt),
    ("created_at", timestamp row.createdAt)]

/-! ### Receipts and endpoints -/

structure ArtifactView where
  id : String
  kind : String
  settlementId : Option String
  contentHash : String
  createdAt : Instant

def receiptJson (row : ArtifactView) : Document N :=
  [ ("id", text row.id),
    ("object", text row.kind),
    ("settlement_id", optional row.settlementId),
    ("content_hash", text row.contentHash),
    ("pdf_url", .null),
    ("created_at", timestamp row.createdAt)]

structure EndpointView where
  id : String
  url : String
  status : String
  consecutiveFailures : Nat
  circuitOpenedAt : Option Instant

def endpointJson (row : EndpointView) : Document N :=
  [ ("id", text row.id),
    ("object", text "webhook_endpoint"),
    ("url", text row.url),
    ("status", text row.status),
    ("consecutive_failures", count row.consecutiveFailures),
    ("circuit_opened_at", optionalTimestamp row.circuitOpenedAt)]

end Objects

end InrSettle.Public
