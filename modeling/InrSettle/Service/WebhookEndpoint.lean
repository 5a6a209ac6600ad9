import InrSettle.Store.Webhook

/-!
# The webhook endpoint service

Creating, removing and reopening an endpoint. Removal is soft: the row stays, marked
deleted, and reopening leaves it alone.
-/

namespace InrSettle

open Transaction WebhookTables

structure CreateEndpointInput where
  url : String
  eventTypes : List String := []
  actorCapabilities : List String

def createWebhookEndpoint (args : CreateEndpointInput) : WebhookTx Nat := do
  require ("apikey:manage" ∈ args.actorCapabilities) (.thrown "insufficient_scope")
  require ("https://".toList <+: args.url.toList) (.thrown "invalid_parameter")
  require (∀ type ∈ args.eventTypes, isCustomerEventType type = true) (.thrown "unknown_event_type")
  insertEndpoint { url := args.url, eventTypes := args.eventTypes }

structure EndpointInput where
  endpointId : Nat
  actorCapabilities : List String
  now : Instant

/-- The circuit's timestamp is left as it is. -/
def deleteWebhookEndpoint (args : EndpointInput) : WebhookTx Bool := do
  require ("apikey:manage" ∈ args.actorCapabilities) (.thrown "insufficient_scope")
  let tables ← get
  if tables.endpoints[args.endpointId]?.any (fun row => decide (row.status ≠ .deleted)) = true then
    updateEndpoint args.endpointId fun row =>
      { row with status := .deleted, disabledAt := some args.now }
    return true
  else return false

def reopenWebhookEndpoint (args : EndpointInput) : WebhookTx Bool := do
  require ("apikey:manage" ∈ args.actorCapabilities) (.thrown "insufficient_scope")
  let tables ← get
  if tables.endpoints[args.endpointId]?.any
      (fun row => decide (row.status ≠ .enabled ∧ row.status ≠ .deleted)) = true then
    updateEndpoint args.endpointId fun row =>
      { row with status := .enabled, consecutiveFailures := 0, circuitOpenedAt := none }
    return true
  else return false

end InrSettle
