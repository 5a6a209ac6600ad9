import Mathlib
import InrSettle.Store.Webhook

/-!
# The webhook delivery service

A drain of the outbox claims pending rows, reads the enabled endpoints, and commits
one delivery for each endpoint that wants an event. A delivery job reads what it
needs, posts outside every transaction, and records the outcome in one afterwards.
-/

namespace InrSettle

open Transaction WebhookTables

/-! ### Phase 1: fan out -/

/-- The rows the statement may lock: pending, due and not locked by another drain. -/
def dueRows (t : WebhookTables) (locked : List Nat) (now : Instant) : List Nat :=
  (List.range t.outbox.length).filter fun outboxId =>
    t.outbox[outboxId]?.any (fun row =>
      decide (row.status = .pending ∧ row.nextAttemptAt ≤ now)) && decide (outboxId ∉ locked)

/-- `ORDER BY created_at LIMIT $1 FOR UPDATE SKIP LOCKED`. -/
def claimable (t : WebhookTables) (locked : List Nat) (now : Instant) (batchSize : Nat) :
    List Nat :=
  let createdAt : Nat → Instant := fun outboxId => t.outbox[outboxId]?.elim 0 (·.createdAt)
  ((dueRows t locked now).insertionSort fun a b => createdAt a ≤ createdAt b).take batchSize

/-- The statement that reads the enabled endpoints. -/
def enabledEndpoints (t : WebhookTables) : List (WebhookEndpoint × Nat) :=
  t.endpoints.zipIdx.filter fun e => decide (e.1.status = .enabled)

/-- The allow-list, applied at the last possible moment. -/
def wanted (endpoints : List (WebhookEndpoint × Nat)) (type : String) : List Nat :=
  (if isCustomerEventType type then
    endpoints.filter fun e => endpointWantsEvent e.1.eventTypes type
  else []).map (·.2)

structure DrainResult where
  claimed : Nat
  deliveriesCreated : Nat
  undeliverable : Nat
  deriving DecidableEq

/-- `INSERT … ON CONFLICT DO NOTHING`, and the job where a row was inserted. -/
def insertAutomatic (eventId : Nat) (now : Instant) (t : WebhookTables) (endpointId : Nat) :
    WebhookTables :=
  let row : WebhookDelivery := { endpointId, eventId, origin := .outbox, nextAttemptAt := now }
  if Table.admits automaticKey t.deliveries row then addDelivery row now t else t

/-- One claimed row: its deliveries, and the row itself marked. -/
def drainRow (endpoints : List (WebhookEndpoint × Nat)) (now : Instant) (t : WebhookTables)
    (outboxId : Nat) : WebhookTables :=
  match t.outbox[outboxId]? with
  | none => t
  | some row =>
    let fanned := (wanted endpoints (t.eventType row.eventId)).foldl
      (insertAutomatic row.eventId now) t
    { fanned with
      outbox := fanned.outbox.modify outboxId fun row =>
        { row with status := .delivered, deliveredAt := some now } }

/-- The loop over the claimed rows. -/
def drainRows (endpoints : List (WebhookEndpoint × Nat)) (now : Instant) (claimed : List Nat)
    (t : WebhookTables) : WebhookTables :=
  claimed.foldl (drainRow endpoints now) t

def undeliverable (endpoints : List (WebhookEndpoint × Nat)) (t : WebhookTables)
    (outboxId : Nat) : Bool :=
  let eventId := t.outbox[outboxId]?.elim 0 (·.eventId)
  (wanted endpoints (t.eventType eventId)).isEmpty

/-- What `drainOutbox` commits, from the rows it claimed and the endpoints it read. -/
def drainOutbox (endpoints : List (WebhookEndpoint × Nat)) (now : Instant) (claimed : List Nat) :
    WebhookTx DrainResult := do
  let tables ← get
  let drained := drainRows endpoints now claimed tables
  modify fun _ => drained
  return ⟨claimed.length, drained.deliveries.length - tables.deliveries.length,
    claimed.countP (undeliverable endpoints tables)⟩

/-! ### Phase 2: attempt -/

inductive SkipReason where
  | notFound | alreadySettled | endpointGone
  deriving DecidableEq

structure DeliveryContext where
  deliveryId : Nat
  endpointId : Nat
  url : String
  attemptCount : Nat
  consecutiveFailures : Nat
  deriving DecidableEq

def DeliveryContext.attemptNumber (ctx : DeliveryContext) : Nat := ctx.attemptCount + 1

/-- What the run needs, with the endpoint row it is read from. -/
def loadContext (t : WebhookTables) (deliveryId : Nat) :
    Except SkipReason (DeliveryContext × WebhookEndpoint) :=
  match t.deliveries[deliveryId]? with
  | none => .error .notFound
  | some delivery =>
    if delivery.status.isSettled then .error .alreadySettled
    else match t.endpoints[delivery.endpointId]? with
      | none => .error .endpointGone
      | some endpoint =>
        if endpoint.status = .disabled then .error .endpointGone
        else match t.events[delivery.eventId]? with
          | none => .error .notFound
          | some _ => .ok (
            { deliveryId, endpointId := delivery.endpointId, url := endpoint.url,
              attemptCount := delivery.attemptCount,
              consecutiveFailures := endpoint.consecutiveFailures }, endpoint)

/-- What the endpoint answered, or why it did not. -/
inductive PostResponse where
  | answered (statusCode : Nat) (body : String)
  | failed (error : String)
  deriving DecidableEq

def PostResponse.outcome : PostResponse → DeliveryOutcome
  | answered statusCode _ => classifyResponse statusCode
  | failed error => .retryable none (some error)

inductive AttemptResult where
  | delivered (attemptNumber : Nat)
  | retrying (attemptNumber : Nat) (nextAttemptAt : Instant)
  | gaveUp (attemptNumber : Nat)
  deriving DecidableEq

/-- What the run hands to its last transaction beside the response. -/
structure RecordInput where
  durationMs : Nat
  random : ℚ
  now : Instant

/-- The attempt row. -/
def PostResponse.attempt (response : PostResponse) (ctx : DeliveryContext) (durationMs : Nat) :
    WebhookAttempt :=
  match response with
  | answered statusCode body =>
    ⟨ctx.deliveryId, ctx.attemptNumber, some statusCode, some (truncateResponseBody body), none,
      durationMs⟩
  | failed error => ⟨ctx.deliveryId, ctx.attemptNumber, none, none, some error, durationMs⟩

/-- The time of the next attempt; a delivered or rejected one has none. -/
def DeliveryOutcome.nextAt (outcome : DeliveryOutcome) (attemptNumber : Nat)
    (input : RecordInput) : Option Instant :=
  match outcome with
  | delivered _ | rejected _ => none
  | retryable _ _ => (nextAttempt attemptNumber input.random).map fun schedule =>
    input.now + schedule.delaySeconds.toNat * 1000

/-- The delivery row after an attempt. -/
def DeliveryOutcome.settle (outcome : DeliveryOutcome) (ctx : DeliveryContext)
    (input : RecordInput) (row : WebhookDelivery) : WebhookDelivery :=
  let nextAt := outcome.nextAt ctx.attemptNumber input
  { row with
    status := if outcome.isDelivered then .succeeded
      else if nextAt.isNone then .exhausted else .failed
    attemptCount := ctx.attemptNumber
    nextAttemptAt := nextAt.getD row.nextAttemptAt
    firstAttemptAt := if ctx.attemptCount = 0 then some input.now else row.firstAttemptAt
    succeededAt := if outcome.isDelivered then some input.now else row.succeededAt }

/-- The endpoint row after an attempt, counted from the failures the run read. -/
def EndpointHealth.write (health : EndpointHealth) (now : Instant) (row : WebhookEndpoint) :
    WebhookEndpoint :=
  match health.action with
  | .openCircuit => { row with
      consecutiveFailures := health.consecutiveFailures
      status := .circuitOpen
      circuitOpenedAt := some now }
  | .keepEnabled => { row with consecutiveFailures := health.consecutiveFailures }

/-- The event of an opened circuit. It has no outbox row. -/
def circuitOpened (endpointId : Nat) : LoggedEvent :=
  ⟨"webhook_endpoint.circuit_opened", .webhookEndpoint endpointId⟩

/-- The last transaction of `runWebhookDelivery`. -/
def recordOutcome (ctx : DeliveryContext) (response : PostResponse) (input : RecordInput) :
    WebhookTx AttemptResult := do
  let outcome := response.outcome
  let nextAt := outcome.nextAt ctx.attemptNumber input
  insertAttempt (response.attempt ctx input.durationMs)
  modify (updateDelivery ctx.deliveryId (outcome.settle ctx input))
  let health := endpointHealthAfter ctx.consecutiveFailures outcome
  updateEndpoint ctx.endpointId (health.write input.now)
  if health.action = .openCircuit then
    modify (appendEvent (circuitOpened ctx.endpointId))
  match nextAt with
  | some nextAt =>
    modify (enqueueDelivery ctx.deliveryId nextAt)
    return .retrying ctx.attemptNumber nextAt
  | none =>
    return if outcome.isDelivered then .delivered ctx.attemptNumber else .gaveUp ctx.attemptNumber

/-! ### Replay and test -/

/-- A new delivery chain of one event to one endpoint. -/
def replayEvent (eventId endpointId : Nat) (now : Instant) : WebhookTx (Option Nat) := do
  let tables ← get
  if tables.events[eventId]?.any (fun event => isCustomerEventType event.type) = true ∧
      tables.endpoints[endpointId]?.isSome = true then
    modify (addDelivery { endpointId, eventId, origin := .replay, nextAttemptAt := now } now)
    return some tables.deliveries.length
  else return none

/-- An event of its own, delivered to the one endpoint. -/
def sendTestEvent (endpointId : Nat) (now : Instant) : WebhookTx (Option (Nat × Nat)) := do
  let tables ← get
  if tables.endpoints[endpointId]?.isSome = true then
    modify (appendEvent ⟨testEventType, .webhookEndpoint endpointId⟩)
    modify (addDelivery
      { endpointId, eventId := tables.events.length, origin := .test, nextAttemptAt := now } now)
    return some (tables.deliveries.length, tables.events.length)
  else return none

/-- `dueDeliveries`. -/
def dueDeliveries (t : WebhookTables) (now : Instant) (limit : Nat) : List Nat :=
  ((List.range t.deliveries.length).filter fun deliveryId =>
    t.deliveries[deliveryId]?.any fun row =>
      decide ((row.status = .pending ∨ row.status = .failed) ∧ row.nextAttemptAt ≤ now)).take limit

end InrSettle
