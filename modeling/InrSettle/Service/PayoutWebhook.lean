import Mathlib
import InrSettle.Library.Decimal
import InrSettle.Library.JsonValue
import InrSettle.Service.Webhook

/-!
# Ingesting a payout webhook

A delivery of the provider: verified, stored as it came, deduplicated on the provider's event
id, interpreted and applied, all in one transaction. Verifying a signature and finding the
settlement a payload is about are the provider's.
-/

namespace InrSettle

open Transaction CaseTables

/-! ### The types of the columns a report reaches -/

/-- The largest `bigint`. -/
def maxBigint : Int := 2 ^ 63 - 1

/-- The largest `integer`. -/
def maxInteger : Nat := 2 ^ 31 - 1

def PayoutAttemptRow.fits (a : PayoutAttemptRow) : Bool :=
  a.creditedMinor.all (fun amount => decide (amount ≤ maxBigint)) &&
    a.rawCode.all Json.nulFree && a.providerReference.all Json.nulFree

def SettlementReturnRow.fits (r : SettlementReturnRow) : Bool :=
  decide (r.amountMinor ≤ maxBigint) && decide (r.arrivalElapsedSeconds ≤ maxInteger) &&
    Json.nulFree r.providerReturnReference

def ReturnObservationRow.fits (o : ReturnObservationRow) : Bool :=
  o.observedAmountMinor.all fun amount => decide (amount ≤ maxBigint)

def Case.fits (c : Case) : Bool :=
  c.attempts.all (·.fits) && c.returns.all (·.fits) && c.returnObservations.all (·.fits)

/-- Run `m`, which the database aborts where it writes a value its column cannot hold. -/
def typed {α : Type} (m : CaseTx α) : CaseTx α := do
  let a ← m
  let c ← get
  require (c.fits = true) (.thrown "value out of range for its column")
  return a

/-! ### Provider events -/

inductive VerdictFailure where
  | badSignature | staleTimestamp | futureTimestamp | malformed
  deriving DecidableEq

def VerdictFailure.wire : VerdictFailure → String
  | badSignature => "bad_signature" | staleTimestamp => "stale_timestamp"
  | futureTimestamp => "future_timestamp" | malformed => "malformed"

inductive SignatureVerdict where
  | valid (providerEventId eventType : String) (payload : Json.Value)
  | invalid (reason : VerdictFailure)

def SignatureVerdict.isValid : SignatureVerdict → Bool
  | valid .. => true
  | invalid _ => false

/-- What an event was read as, the `interpretation` of its row. -/
inductive EventInterpretation where
  | untrusted (reason : VerdictFailure)
  | noSubject
  | unmapped (outcome : ProviderOutcome)
  | unknownOutcomeNotApplied
  | applied (outcome : ProviderOutcome) (idempotent : Bool)
  | refused (reason : PayoutRefusal)
  deriving DecidableEq

structure ProviderEventRow where
  id : String
  tenant : String
  providerId : String
  providerEventId : String
  eventType : String
  payload : Json.Value
  signatureValid : Bool
  subjectId : Option String
  interpretedAt : Option Instant := none
  interpretation : Option EventInterpretation := none
  unmappedCode : Option String := none

/-- The columns of `provider_events_dedupe`, which is one index for all tenants. -/
def ProviderEventRow.key (row : ProviderEventRow) : String × String :=
  (row.providerId, row.providerEventId)

/-- What a delivery reads and writes: the settlements, the provider's events and the audit log. -/
structure Inbox where
  cases : String → Case
  events : List ProviderEventRow
  audits : List AuditRow

abbrev InboxTx := Transaction.Tx Inbox DbError

def aboutSettlement {α : Type} (settlementId : String) (m : CaseTx α) : InboxTx α :=
  focus (fun s => s.cases settlementId)
    (fun s c => { s with cases := Function.update s.cases settlementId c }) m

namespace InboxTables

/-- No text of the row, and none of its payload, holds U+0000. -/
def storable (row : ProviderEventRow) : Bool :=
  Json.nulFree row.providerEventId && Json.nulFree row.eventType && row.payload.storable &&
    row.subjectId.all Json.nulFree

def insertProviderEvent (row : ProviderEventRow) : InboxTx PUnit := do
  let s ← get
  require (storable row = true) (.thrown "unsupported Unicode escape sequence")
  require (∀ other ∈ s.events, other.id ≠ row.id) (.uniqueViolation "provider_events_pkey")
  require (∀ other ∈ s.events, other.key ≠ row.key) (.uniqueViolation "provider_events_dedupe")
  modify fun s => { s with events := s.events ++ [row] }

/-- `UPDATE provider_events SET interpreted_at, interpretation`: none of the columns that
`protect_provider_event` keeps. -/
def interpretEvent (id : String) (now : Instant) (interpretation : EventInterpretation) :
    InboxTx PUnit :=
  modify fun s => { s with
    events := Table.setWhere (fun row => decide (row.id = id))
      (fun row => { row with interpretedAt := some now, interpretation := some interpretation })
      s.events }

/-- `UPDATE provider_events SET unmapped_code, interpretation`. -/
def markUnmapped (id rawCode : String) (outcome : ProviderOutcome) : InboxTx PUnit := do
  require (Json.nulFree rawCode = true) (.thrown "invalid byte sequence for encoding")
  modify fun s => { s with
    events := Table.setWhere (fun row => decide (row.id = id))
      (fun row => { row with
        unmappedCode := some rawCode, interpretation := some (.unmapped outcome) })
      s.events }

def note (row : AuditRow) : InboxTx PUnit :=
  modify fun s => { s with audits := s.audits ++ [row] }

end InboxTables

open InboxTables

/-! ### The delivery -/

structure PayoutProvider where
  id : String
  verifySignature : String → List (String × String) → Instant → SignatureVerdict

/-- What the edge knows about a return, before the return aggregate exists. -/
structure ReturnSinkInput where
  settlementId : String
  providerEventId : String
  rawCode : String
  reasonCode : ReturnReasonCode
  mapped : Bool
  payload : Json.Value
  amountMinor : Option Int
  providerReturnReference : Option String
  occurredAt : Option Instant

/-- What a delivery is ingested with: the tenant, the provider and its vocabulary, `JSON.parse` and
`Date.parse`, where a payload names its settlement, and the return the caller opens of what it is
told, if any. -/
structure PayoutEdge where
  tenant : String
  provider : PayoutProvider
  mapping : ProviderMappingTable
  parse : String → Option Json.Value
  parseDate : String → Option Instant
  resolveSettlementId : Json.Value → Option String
  onReturn : ReturnSinkInput → Option OpenReturnInput

structure IngestInput where
  raw : String
  headers : List (String × String)
  actor : PrincipalRef
  eventRowId : String
  unverifiedId : String
  now : Instant
  deriving DecidableEq

structure PayoutEvent where
  providerEventId : String
  eventType : String
  payload : Json.Value

inductive WebhookAlarm where
  | unmappedProviderCode | untrustedEvent
  deriving DecidableEq

inductive WebhookRefusal where
  | malformed
  deriving DecidableEq

structure Ingested where
  providerEventId : String
  duplicate : Bool := false
  applied : Bool := false
  outcome : Option ProviderOutcome := none
  alarm : Option WebhookAlarm := none
  deriving DecidableEq

/-- `WebhookResult`. -/
abbrev WebhookResult := Except WebhookRefusal Ingested

/-- `outcomeForEventType`. -/
def outcomeForEventType (eventType : String) : ProviderOutcome :=
  if eventType = "payout.accepted" then .accepted
  else if eventType = "payout.credited" then .credited
  else if eventType = "payout.rejected" then .rejected
  else if eventType = "payout.failed" then .rejected
  else if eventType = "payout.returned" then .returned
  else .unknown

/-- `readMinorUnits`: digits, or a number that is surely an integer, above zero. -/
def readMinorUnits : Option Json.Value → Option Int
  | some (.string digits) =>
    (Decimal.readDigits digits.toList).bind fun n => if 0 < n then some (n : Int) else none
  | some (.number value) => value.safeInteger.filter fun n => decide (0 < n)
  | _ => none

namespace PayoutEdge

variable (edge : PayoutEdge)

/-- `safeParse`. -/
def safeParse (raw : String) : Json.Value :=
  match edge.parse raw with
  | some (.object members) => .object members
  | some (.array items) => .array items
  | _ => .object []

/-- The event to be stored: what the provider signed, or what the body says of itself. -/
def eventOf (input : IngestInput) : SignatureVerdict → PayoutEvent
  | .valid providerEventId eventType payload => ⟨providerEventId, eventType, payload⟩
  | .invalid _ =>
    let body := edge.safeParse input.raw
    ⟨((body.textField "id").filter (· ≠ "")).getD input.unverifiedId,
      ((body.textField "type").filter (· ≠ "")).getD "unknown", body⟩

def verdict (input : IngestInput) : SignatureVerdict :=
  edge.provider.verifySignature input.raw input.headers input.now

def event (input : IngestInput) : PayoutEvent := edge.eventOf input (edge.verdict input)

def row (input : IngestInput) : ProviderEventRow where
  id := input.eventRowId
  tenant := edge.tenant
  providerId := edge.provider.id
  providerEventId := (edge.event input).providerEventId
  eventType := (edge.event input).eventType
  payload := (edge.event input).payload
  signatureValid := (edge.verdict input).isValid
  subjectId := edge.resolveSettlementId (edge.event input).payload

/-- `String(payload['code'] ?? payload['status'] ?? eventType)`. -/
def rawCode (event : PayoutEvent) : Option String :=
  match (event.payload.given "code").or (event.payload.given "status") with
  | some value => value.asText
  | none => some event.eventType

def interpretation (event : PayoutEvent) (rawCode : String) : Interpretation :=
  interpretProviderCode edge.mapping rawCode (outcomeForEventType event.eventType)

/-- The outcome the event reports. -/
def report (input : IngestInput) (event : PayoutEvent) (rawCode : String) : PayoutOutcomeInput where
  outcome := (edge.interpretation event rawCode).outcome
  actor := input.actor
  trusted := true
  utr := event.payload.textField "utr"
  creditedMinor := readMinorUnits (event.payload.field "credited_minor")
  rawCode := some rawCode
  exceptionCode := (edge.interpretation event rawCode).exceptionCode
  providerReference := event.payload.textField "reference"
  mappingVersion := some (edge.interpretation event rawCode).mappingVersion
  now := input.now

/-- What the sink is told of a return. -/
def told (event : PayoutEvent) (settlementId rawCode : String) : ReturnSinkInput where
  settlementId := settlementId
  providerEventId := event.providerEventId
  rawCode := rawCode
  reasonCode := returnReasonOf (edge.interpretation event rawCode)
  mapped := (edge.interpretation event rawCode).mapped
  payload := event.payload
  amountMinor := readMinorUnits (event.payload.field "amount_minor")
  providerReturnReference := event.payload.textField "return_id"
  occurredAt := (event.payload.textField "occurred_at").bind edge.parseDate

/-- The alarm for a code the mapping table does not have. -/
def alarmUnmapped (input : IngestInput) (event : PayoutEvent) (settlementId rawCode : String) :
    InboxTx PUnit :=
  if (edge.interpretation event rawCode).mapped then return ⟨⟩
  else do
    markUnmapped input.eventRowId rawCode (edge.interpretation event rawCode).outcome
    note {
      actor := input.actor
      action := "payout.unmapped_provider_code"
      subjectType := .settlement
      subjectId := settlementId
      reason := some ("provider vocabulary not present in the mapping table; routed to the safe " ++
        "default and alarmed (INV-43)") }

/-- Once the return is on the attempt, the caller's half of it. -/
def tellReturn (event : PayoutEvent) (settlementId rawCode : String) (applied : PayoutResult) :
    InboxTx PUnit :=
  match applied, edge.onReturn (edge.told event settlementId rawCode) with
  | .ok _, some opening =>
    if (edge.interpretation event rawCode).outcome = .returned then do
      let _ ← aboutSettlement settlementId (typed (openReturn opening))
      return ⟨⟩
    else return ⟨⟩
  | _, _ => return ⟨⟩

/-- What was made of the event, once its outcome was applied or refused. -/
def applicationOf (outcome : ProviderOutcome) : PayoutResult → EventInterpretation
  | .ok done => .applied outcome done.idempotent
  | .error refusal => .refused refusal

/-- The outcome was applied, and for the first time. -/
def isFirst : PayoutResult → Bool
  | .ok done => !done.idempotent
  | .error _ => false

/-- The answer to a delivery whose event was interpreted. -/
def answered (event : PayoutEvent) (rawCode : String) (applied : Bool) : Ingested where
  providerEventId := event.providerEventId
  applied := applied
  outcome := some (edge.interpretation event rawCode).outcome
  alarm := if (edge.interpretation event rawCode).mapped then none else some .unmappedProviderCode

/-- A verified event about a settlement: interpreted, alarmed where its code is not mapped, and
applied where it reports an outcome. -/
def applyVerified (statusRead : String → Option SettlementStatus) (input : IngestInput)
    (event : PayoutEvent) (settlementId : String) : InboxTx WebhookResult := do
  let rawCode ← orThrow "Cannot convert object to primitive value" (rawCode event)
  edge.alarmUnmapped input event settlementId rawCode
  if (edge.interpretation event rawCode).outcome = .unknown then
    interpretEvent input.eventRowId input.now .unknownOutcomeNotApplied
    return .ok (edge.answered event rawCode false)
  else
    let applied ← aboutSettlement settlementId
      (typed (applyPayoutOutcome (statusRead settlementId) (edge.report input event rawCode)))
    interpretEvent input.eventRowId input.now
      (applicationOf (edge.interpretation event rawCode).outcome applied)
    edge.tellReturn event settlementId rawCode applied
    return .ok (edge.answered event rawCode (isFirst applied))

/-- The event of this delivery is stored already, as far as its tenant sees. -/
def seen (input : IngestInput) (s : Inbox) : Bool :=
  s.events.any fun row => decide (row.tenant = edge.tenant) &&
    decide (row.key = (edge.provider.id, (edge.event input).providerEventId))

/-- A malformed body is refused at the edge; every other one is stored before it is
interpreted. -/
def ingestPayoutWebhook (statusRead : String → Option SettlementStatus) (input : IngestInput) :
    InboxTx WebhookResult :=
  match edge.verdict input with
  | .invalid .malformed => do
    note {
      actor := input.actor
      action := "payout.webhook_malformed"
      subjectType := .providerEvent
      subjectId := "unparseable"
      reason := some "body could not be parsed or carried no provider event id" }
    return .error .malformed
  | verdict => do
    let event := edge.event input
    require (Json.nulFree event.providerEventId = true)
      (.thrown "invalid byte sequence for encoding")
    let s ← get
    if edge.seen input s then
      return .ok { providerEventId := event.providerEventId, duplicate := true }
    else
      insertProviderEvent (edge.row input)
      match verdict with
      | .invalid reason =>
        interpretEvent input.eventRowId input.now (.untrusted reason)
        note {
          actor := input.actor
          action := "payout.webhook_untrusted"
          subjectType := .providerEvent
          subjectId := input.eventRowId
          reason := some s!"signature verification failed: {reason.wire}" }
        return .ok { providerEventId := event.providerEventId, alarm := some .untrustedEvent }
      | .valid .. =>
        match (edge.resolveSettlementId event.payload).filter (· ≠ "") with
        | none =>
          interpretEvent input.eventRowId input.now .noSubject
          return .ok { providerEventId := event.providerEventId }
        | some settlementId => edge.applyVerified statusRead input event settlementId

end PayoutEdge

end InrSettle
