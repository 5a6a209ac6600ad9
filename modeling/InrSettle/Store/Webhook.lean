import InrSettle.Library.Table
import InrSettle.Library.Transaction
import InrSettle.Domain.Webhook

/-!
# The webhook tables

Endpoints, the event log with its outbox, deliveries and their attempts, with the
checks and unique indexes the database holds them to, and the queue of delivery
jobs. Rows are never deleted, so a row's id is its position in its table.
-/

namespace InrSettle

open Transaction

/-! ### Rows -/

inductive EndpointStatus where
  | enabled | disabled | circuitOpen | deleted
  deriving DecidableEq

structure WebhookEndpoint where
  url : String
  eventTypes : List String
  status : EndpointStatus := .enabled
  consecutiveFailures : Nat := 0
  circuitOpenedAt : Option Instant := none
  disabledAt : Option Instant := none
  deriving DecidableEq

/-- What an event of the log is about. -/
inductive EventSubject where
  | webhookEndpoint (endpointId : Nat)
  | other (subjectType subjectId : String)
  deriving DecidableEq

structure LoggedEvent where
  type : String
  subject : EventSubject
  deriving DecidableEq

inductive OutboxStatus where
  | pending | delivering | delivered | failed
  deriving DecidableEq

structure OutboxRow where
  eventId : Nat
  status : OutboxStatus := .pending
  nextAttemptAt : Instant
  createdAt : Instant
  deliveredAt : Option Instant := none
  deriving DecidableEq

inductive DeliveryOrigin where
  | outbox | replay | test
  deriving DecidableEq

inductive DeliveryStatus where
  | pending | delivering | succeeded | failed | exhausted
  deriving DecidableEq

/-- `loadContext` skips a delivery in one of these. -/
def DeliveryStatus.isSettled : DeliveryStatus → Bool
  | succeeded | exhausted => true
  | _ => false

structure WebhookDelivery where
  endpointId : Nat
  eventId : Nat
  origin : DeliveryOrigin
  status : DeliveryStatus := .pending
  attemptCount : Nat := 0
  nextAttemptAt : Instant
  firstAttemptAt : Option Instant := none
  succeededAt : Option Instant := none
  deriving DecidableEq

structure WebhookAttempt where
  deliveryId : Nat
  attemptNumber : Nat
  statusCode : Option Nat
  responseBody : Option String
  error : Option String
  durationMs : Nat
  deriving DecidableEq

/-- The tables of one tenant. Jobs are keyed on their delivery: one waits at most, with the time it
is due. -/
structure WebhookTables where
  endpoints : List WebhookEndpoint
  events : List LoggedEvent
  outbox : List OutboxRow
  deliveries : List WebhookDelivery
  attempts : List WebhookAttempt
  jobs : Nat → Option Instant

abbrev WebhookTx := Tx WebhookTables DbError

namespace WebhookTables

/-- `webhook_circuit_pairing` and `webhook_endpoints_deleted_is_stamped`. -/
def endpointChecks (e : WebhookEndpoint) : Bool :=
  decide (e.status = .circuitOpen) == e.circuitOpenedAt.isSome &&
    (decide (e.status ≠ .deleted) || e.disabledAt.isSome)

/-- The type of an event of the log. -/
def eventType (t : WebhookTables) (eventId : Nat) : String :=
  t.events[eventId]?.elim "" (·.type)

/-- The key of `webhook_deliveries_automatic`. -/
def automaticKey (d : WebhookDelivery) : Option (Nat × Nat) :=
  if d.origin = .outbox then some (d.endpointId, d.eventId) else none

/-- The key of `webhook_attempts_sequence`. -/
def sequenceKey (a : WebhookAttempt) : Option (Nat × Nat) := some (a.deliveryId, a.attemptNumber)

/-! ### Writes -/

def insertEndpoint (row : WebhookEndpoint) : WebhookTx Nat := do
  require (endpointChecks row = true) (.checkViolation "webhook_endpoints")
  let tables ← get
  modify fun t => { t with endpoints := t.endpoints ++ [row] }
  return tables.endpoints.length

/-- `UPDATE webhook_endpoints SET … WHERE id = $1`. -/
def updateEndpoint (endpointId : Nat) (set : WebhookEndpoint → WebhookEndpoint) :
    WebhookTx PUnit := do
  let tables ← get
  require (tables.endpoints[endpointId]?.all (fun row => endpointChecks (set row)) = true)
    (.checkViolation "webhook_endpoints")
  modify fun t => { t with endpoints := t.endpoints.modify endpointId set }

def appendEvent (row : LoggedEvent) (t : WebhookTables) : WebhookTables :=
  { t with events := t.events ++ [row] }

/-- `enqueueDelivery`: the key collapses onto the job that already waits. -/
def enqueueDelivery (deliveryId : Nat) (runAt : Instant) (t : WebhookTables) : WebhookTables :=
  { t with jobs := Function.update t.jobs deliveryId (some runAt) }

/-- A new delivery row, and the job that will attempt it. -/
def addDelivery (row : WebhookDelivery) (now : Instant) (t : WebhookTables) : WebhookTables :=
  enqueueDelivery t.deliveries.length now { t with deliveries := t.deliveries ++ [row] }

def updateDelivery (deliveryId : Nat) (set : WebhookDelivery → WebhookDelivery)
    (t : WebhookTables) : WebhookTables :=
  { t with deliveries := t.deliveries.modify deliveryId set }

def insertAttempt (row : WebhookAttempt) : WebhookTx PUnit := do
  let tables ← get
  require (row.statusCode.isSome = true ∨ row.error.isSome = true)
    (.checkViolation "webhook_attempt_outcome")
  require (Table.admits sequenceKey tables.attempts row = true)
    (.uniqueViolation "webhook_attempts_sequence")
  modify fun t => { t with attempts := t.attempts ++ [row] }

end WebhookTables

end InrSettle
