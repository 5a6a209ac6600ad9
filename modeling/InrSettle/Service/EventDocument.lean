import InrSettle.Domain.Webhook
import InrSettle.Service.PublicObject

/-!
# Events as a customer sees them

The object an event is about, the envelope that is posted to an endpoint, and the document
that `GET /v1/events/{id}` returns. Both are built around one resolver.
-/

namespace InrSettle.Public

open Js

section Documents

variable {N : Type}

/-! ### The object -/

/-- What is read of a workspace, by the id of the subject. -/
structure PublicReads (N : Type) where
  settlement : String → Option (SettlementView N)
  beneficiary : String → Option BeneficiaryView
  destinationBeneficiary : String → Option String
  settlementReturn : String → Option ReturnView
  batch : String → Option BatchSummary
  quote : String → Option QuoteView
  financialArtifact : String → Option ArtifactView
  webhookEndpoint : String → Option EndpointView

structure EventRow where
  id : String
  type : String
  subjectType : String
  subjectId : String
  createdAt : Instant

structure EventObjectContext where
  numberFormat : NumberFormat
  purposeLabels : Option (List (String × String)) := none

structure TenantScope where
  workspaceId : String
  environment : String

variable [Js.NumberFormat N]

/-- `map.get(key)` of a map made from these pairs: the last of a key counts. -/
def labelOf (purposeLabels : Option (List (String × String))) (code : String) : Option String :=
  purposeLabels.bind fun labels => labels.reverse.lookup code

def settlementObject (reads : PublicReads N) (settlementId : String) (ctx : EventObjectContext) :
    Document N :=
  match reads.settlement settlementId with
  | none => reference "settlement" settlementId
  | some v => settlementJson v (v.row.purposeCode.bind (labelOf ctx.purposeLabels)) ctx.numberFormat

def beneficiaryObject (reads : PublicReads N) (scope : TenantScope) (beneficiaryId : String) :
    Document N :=
  match reads.beneficiary beneficiaryId with
  | none => reference "beneficiary" beneficiaryId
  | some view => beneficiaryJson view scope.environment

def destinationBeneficiaryObject (reads : PublicReads N) (scope : TenantScope)
    (destinationId : String) : Document N :=
  match reads.destinationBeneficiary destinationId with
  | none => reference "beneficiary" destinationId
  | some beneficiaryId => beneficiaryObject reads scope beneficiaryId

/-- The object a serializer makes of what was read, or a reference. -/
def found {α : Type} (kind id : String) (json : α → Document N) (row : Option α) : Document N :=
  match row with
  | none => reference kind id
  | some row => json row

def resolveCustomerEventObject (reads : PublicReads N) (scope : TenantScope) (event : EventRow)
    (ctx : EventObjectContext) : Document N :=
  let id := event.subjectId
  if !isCustomerEventType event.type && !"endpoint.".toList.isPrefixOf event.type.toList then
    reference "unknown" id
  else match event.subjectType with
    | "settlement" => settlementObject reads id ctx
    | "beneficiary" => beneficiaryObject reads scope id
    | "payout_destination" => destinationBeneficiaryObject reads scope id
    | "settlement_return" => found "settlement_return" id
        (settlementReturnJson · ctx.numberFormat) (reads.settlementReturn id)
    | "batch" => found "batch" id (batchJson · ctx.numberFormat) (reads.batch id)
    | "quote" => found "quote" id (quoteJson · ctx.numberFormat) (reads.quote id)
    | "financial_artifact" =>
      found "settlement_receipt" id receiptJson (reads.financialArtifact id)
    | "webhook_endpoint" => found "webhook_endpoint" id endpointJson (reads.webhookEndpoint id)
    | subjectType => reference subjectType id

/-! ### The workspace -/

/-- `API_VERSIONS`. -/
def apiVersions : List String := ["2026-08-31"]

/-- `DEFAULT_API_VERSION`. -/
def defaultApiVersion : String := "2026-08-31"

structure WorkspaceRow where
  apiVersion : String
  numberFormat : String

/-- The version the workspace has, or the default where there is no row. -/
def pinOf (workspace : Option WorkspaceRow) : String :=
  (workspace.map (·.apiVersion)).getD defaultApiVersion

def numberFormatOf (workspace : Option WorkspaceRow) : NumberFormat :=
  if workspace.any (fun row => row.numberFormat == "indian") then .indian else .international

/-- `resolveApiVersion`: the version a request is answered in, if it asks for one there is. -/
def resolveApiVersion (header : Option String) (workspacePin : String) : Option String :=
  match header.filter (· ≠ "") with
  | some header => if header ∈ apiVersions then some header else none
  | none => some (if workspacePin ∈ apiVersions then workspacePin else defaultApiVersion)

/-! ### The two documents -/

/-- The envelope that `loadContext` has `buildEnvelope` build; the worker has no rule set. -/
def postedEnvelope (reads : PublicReads N) (workspace : Option WorkspaceRow) (scope : TenantScope)
    (event : EventRow) : Document N :=
  [ ("id", text event.id),
    ("object", text "event"),
    ("type", text event.type),
    ("api_version", text (pinOf workspace)),
    ("environment", text scope.environment),
    ("workspace_id", text scope.workspaceId),
    ("created_at", .string (toISOString event.createdAt)),
    ("data", object [("object", object (resolveCustomerEventObject reads scope event
      { numberFormat := numberFormatOf workspace }))])]

def eventJson (event : EventRow) (resolved : Document N) (apiVersion : String)
    (scope : TenantScope) : Document N :=
  [ ("id", text event.id),
    ("object", text "event"),
    ("type", text event.type),
    ("api_version", text apiVersion),
    ("environment", text scope.environment),
    ("workspace_id", text scope.workspaceId),
    ("created_at", timestamp event.createdAt),
    ("data", object [("object", object resolved)])]

/-- `withDeliveries`; the delivery history is what it is. -/
def withDeliveries (reads : PublicReads N) (scope : TenantScope) (event : EventRow)
    (ctx : EventObjectContext) (apiVersion : String) (deliveries : List (Value N)) : Document N :=
  eventJson event (resolveCustomerEventObject reads scope event ctx) apiVersion scope ++
    [("deliveries", .array deliveries)]

/-- `getEventHandler`, asked for an event of the workspace; nothing where the request is refused. -/
def getEvent (reads : PublicReads N) (workspace : Option WorkspaceRow) (scope : TenantScope)
    (purposeCodes : List (String × String)) (header : Option String) (event : EventRow)
    (deliveries : List (Value N)) : Option (Document N) := do
  let apiVersion ← resolveApiVersion header (pinOf workspace)
  if isCustomerEventType event.type then
    some (withDeliveries reads scope event ⟨numberFormatOf workspace, some purposeCodes⟩ apiVersion
      deliveries)
  else none

end Documents

end InrSettle.Public
