import InrSettle.Library.Run
import InrSettle.Service.WebhookDelivery
import InrSettle.Service.WebhookEndpoint

/-!
# The webhook system

The tables of a tenant, the drains under way with the rows they hold locked, and the
delivery runs between their load and their record. Steps of different drains and runs
come in any order; a run may stop anywhere, and its job be delivered again.
-/

namespace InrSettle

open Transaction WebhookTables

/-! ### The state -/

inductive RunPhase where
  | loaded
  | posted (response : PostResponse)
  | recorded (response : PostResponse)
  /-- Its last transaction did not commit. -/
  | aborted
  deriving DecidableEq

/-- A run of a delivery job that was not skipped, with the endpoint row its load read. -/
structure DeliveryRun where
  context : DeliveryContext
  endpoint : WebhookEndpoint
  phase : RunPhase := .loaded
  deriving DecidableEq

inductive DrainPhase where
  | claimed
  | read (endpoints : List (WebhookEndpoint × Nat))
  | committed (endpoints : List (WebhookEndpoint × Nat))
  | aborted
  deriving DecidableEq

/-- A drain with the rows it claimed; `now()` is the time its transaction started. -/
structure DrainRun where
  claimed : List Nat
  now : Instant
  phase : DrainPhase := .claimed
  deriving DecidableEq

/-- The rows the drain holds locked. -/
def DrainRun.locks (drain : DrainRun) : List Nat :=
  match drain.phase with
  | .claimed | .read _ => drain.claimed
  | .committed _ | .aborted => []

structure WebhookWorld where
  tables : WebhookTables
  drains : List DrainRun
  runs : List DeliveryRun
  clock : Instant

namespace WebhookWorld

/-- An endpoint no delivery was attempted to yet, in service or taken out of it by hand. -/
structure NewEndpoint where
  url : String
  eventTypes : List String
  inService : Bool

def NewEndpoint.row (e : NewEndpoint) : WebhookEndpoint where
  url := e.url
  eventTypes := e.eventTypes
  status := if e.inService then .enabled else .disabled

/-- A tenant with endpoints and no events yet. -/
def start (endpoints : List NewEndpoint) (clock : Instant) : WebhookWorld where
  tables := ⟨endpoints.map (·.row), [], [], [], [], fun _ => none⟩
  drains := []
  runs := []
  clock := clock

def locked (w : WebhookWorld) : List Nat := w.drains.flatMap (·.locks)

/-! ### Steps -/

/-- A transaction on the tables. -/
def onTables {α : Type} (w : WebhookWorld) (t : WebhookTx α) : WebhookWorld :=
  { w with tables := after t w.tables }

/-- Another service writes an event, and its outbox row where it is to be delivered. -/
def recordEvent (w : WebhookWorld) (event : LoggedEvent) (deliver : Bool) (now : Instant) :
    WebhookWorld :=
  { w with tables := { w.tables with
      events := w.tables.events ++ [event]
      outbox := w.tables.outbox ++ if deliver then
        [{ eventId := w.tables.events.length, nextAttemptAt := now, createdAt := now }] else [] } }

def claimOutbox (w : WebhookWorld) (batchSize : Nat) (now : Instant) : WebhookWorld :=
  { w with drains := w.drains ++ [{ claimed := claimable w.tables w.locked now batchSize, now }] }

def readEndpoints (w : WebhookWorld) (drainId : Nat) : WebhookWorld :=
  match w.drains[drainId]? with
  | some ⟨claimed, now, .claimed⟩ =>
    { w with drains := w.drains.set drainId ⟨claimed, now, .read (enabledEndpoints w.tables)⟩ }
  | _ => w

def commitDrain (w : WebhookWorld) (drainId : Nat) : WebhookWorld :=
  match w.drains[drainId]? with
  | some ⟨claimed, now, .read endpoints⟩ =>
    { w with
      tables := after (drainOutbox endpoints now claimed) w.tables
      drains := w.drains.set drainId ⟨claimed, now, .committed endpoints⟩ }
  | _ => w

/-- The drain's process ends before it commits, and its locks go with it. -/
def abortDrain (w : WebhookWorld) (drainId : Nat) : WebhookWorld :=
  match w.drains[drainId]? with
  | some ⟨claimed, now, .claimed⟩ | some ⟨claimed, now, .read _⟩ =>
    { w with drains := w.drains.set drainId ⟨claimed, now, .aborted⟩ }
  | _ => w

def load (w : WebhookWorld) (deliveryId : Nat) : WebhookWorld :=
  match loadContext w.tables deliveryId with
  | .ok (context, endpoint) => { w with runs := w.runs ++ [{ context, endpoint }] }
  | .error _ => w

/-- The queue starts a job that is due; it waits no longer. -/
def takeJob (w : WebhookWorld) (deliveryId : Nat) : WebhookWorld :=
  if (w.tables.jobs deliveryId).any (fun runAt => decide (runAt ≤ w.clock)) = true then
    { w with tables := { w.tables with
        jobs := Function.update w.tables.jobs deliveryId none } }.load deliveryId
  else w

/-- The queue puts a job back, unless another waits under its key. -/
def requeue (w : WebhookWorld) (deliveryId : Nat) (runAt : Instant) : WebhookWorld :=
  if (w.tables.jobs deliveryId).isSome = true then w
  else { w with tables := enqueueDelivery deliveryId runAt w.tables }

def post (w : WebhookWorld) (runId : Nat) (response : PostResponse) : WebhookWorld :=
  match w.runs[runId]? with
  | some ⟨ctx, endpoint, .loaded⟩ =>
    { w with runs := w.runs.set runId ⟨ctx, endpoint, .posted response⟩ }
  | _ => w

/-- The context of a run that has posted, and what the endpoint answered. -/
def posted (w : WebhookWorld) (runId : Nat) : Option (DeliveryContext × PostResponse) :=
  w.runs[runId]?.bind fun run => match run.phase with
    | .posted response => some (run.context, response)
    | _ => none

def recordOutcome (w : WebhookWorld) (runId : Nat) (input : RecordInput) : WebhookWorld :=
  match w.runs[runId]? with
  | some ⟨ctx, endpoint, .posted response⟩ =>
    let record := InrSettle.recordOutcome ctx response input
    { w with
      tables := after record w.tables
      runs := w.runs.set runId ⟨ctx, endpoint,
        if (answer record w.tables).isSome then .recorded response else .aborted⟩ }
  | _ => w

end WebhookWorld

inductive WebhookOp where
  | createWebhookEndpoint (args : CreateEndpointInput)
  | deleteWebhookEndpoint (args : EndpointInput)
  | reopenWebhookEndpoint (args : EndpointInput)
  | recordEvent (event : LoggedEvent) (deliver : Bool) (now : Instant)
    (apart : event.type ≠ "webhook_endpoint.circuit_opened")
  | claimOutbox (batchSize : Nat) (now : Instant)
  | readEndpoints (drainId : Nat)
  | commitDrain (drainId : Nat)
  | abortDrain (drainId : Nat)
  | replayEvent (eventId endpointId : Nat) (now : Instant)
  | sendTestEvent (endpointId : Nat) (now : Instant)
  | takeJob (deliveryId : Nat)
  | redeliver (deliveryId : Nat)
  | requeue (deliveryId : Nat) (runAt : Instant)
  | post (runId : Nat) (response : PostResponse)
  | recordOutcome (runId : Nat) (input : RecordInput)
  | tick (ms : Nat)

namespace WebhookWorld

def step (w : WebhookWorld) : WebhookOp → WebhookWorld
  | .createWebhookEndpoint args => w.onTables (createWebhookEndpoint args)
  | .deleteWebhookEndpoint args => w.onTables (deleteWebhookEndpoint args)
  | .reopenWebhookEndpoint args => w.onTables (reopenWebhookEndpoint args)
  | .recordEvent event deliver now _ => w.recordEvent event deliver now
  | .claimOutbox batchSize now => w.claimOutbox batchSize now
  | .readEndpoints drainId => w.readEndpoints drainId
  | .commitDrain drainId => w.commitDrain drainId
  | .abortDrain drainId => w.abortDrain drainId
  | .replayEvent eventId endpointId now => w.onTables (replayEvent eventId endpointId now)
  | .sendTestEvent endpointId now => w.onTables (sendTestEvent endpointId now)
  | .takeJob deliveryId => w.takeJob deliveryId
  | .redeliver deliveryId => w.load deliveryId
  | .requeue deliveryId runAt => w.requeue deliveryId runAt
  | .post runId response => w.post runId response
  | .recordOutcome runId input => w.recordOutcome runId input
  | .tick ms => { w with clock := w.clock + ms }

end WebhookWorld

/-! ### The endpoint services -/

theorem commits_updateEndpoint {endpointId : Nat} {set : WebhookEndpoint → WebhookEndpoint}
    {t t' : WebhookTables} {r : PUnit} :
    Commits (updateEndpoint endpointId set) t r t' ↔
      (∀ row, t.endpoints[endpointId]? = some row → endpointChecks (set row) = true) ∧
        t' = { t with endpoints := t.endpoints.modify endpointId set } := by
  simp [updateEndpoint, Option.all_eq_true]

theorem createWebhookEndpoint_spec {args : CreateEndpointInput} {t t' : WebhookTables} {r : Nat}
    (h : Commits (createWebhookEndpoint args) t r t') :
    t' = { t with
      endpoints := t.endpoints ++ [{ url := args.url, eventTypes := args.eventTypes }] } := by
  simp only [createWebhookEndpoint, insertEndpoint, commits_get_bind, commits_require_bind,
    commits_modify_bind, commits_pure] at h
  exact h.2.2.2.2.2

theorem deleteWebhookEndpoint_spec {args : EndpointInput} {t t' : WebhookTables} {r : Bool}
    (h : Commits (deleteWebhookEndpoint args) t r t') :
    t' = t ∨ (∃ row, t.endpoints[args.endpointId]? = some row ∧ row.status ≠ .deleted ∧
      row.circuitOpenedAt = none) ∧
      t' = { t with endpoints := t.endpoints.modify args.endpointId fun row =>
        { row with status := .deleted, disabledAt := some args.now } } := by
  simp only [deleteWebhookEndpoint, commits_require_bind, commits_get_bind, commits_ite] at h
  rcases h with ⟨-, ⟨live, h⟩ | ⟨-, h⟩⟩
  · obtain ⟨_, t₁, updated, h⟩ := commits_bind.mp h
    obtain ⟨checks, rfl⟩ := commits_updateEndpoint.mp updated
    obtain ⟨row, found, status⟩ := (Option.any_eq_true _ _).mp live
    refine .inr ⟨⟨row, found, of_decide_eq_true status, ?_⟩, (commits_pure.mp h).2⟩
    simpa [endpointChecks] using checks row found
  · exact .inl (commits_pure.mp h).2

theorem reopenWebhookEndpoint_spec {args : EndpointInput} {t t' : WebhookTables} {r : Bool}
    (h : Commits (reopenWebhookEndpoint args) t r t') :
    t' = t ∨ (∃ row, t.endpoints[args.endpointId]? = some row ∧ row.status ≠ .enabled ∧
      row.status ≠ .deleted) ∧
      t' = { t with endpoints := t.endpoints.modify args.endpointId fun row =>
        { row with status := .enabled, consecutiveFailures := 0, circuitOpenedAt := none } } := by
  simp only [reopenWebhookEndpoint, commits_require_bind, commits_get_bind, commits_ite] at h
  rcases h with ⟨-, ⟨live, h⟩ | ⟨-, h⟩⟩
  · obtain ⟨_, t₁, updated, h⟩ := commits_bind.mp h
    obtain ⟨-, rfl⟩ := commits_updateEndpoint.mp updated
    obtain ⟨row, found, status⟩ := (Option.any_eq_true _ _).mp live
    exact .inr ⟨⟨row, found, of_decide_eq_true status⟩, (commits_pure.mp h).2⟩
  · exact .inl (commits_pure.mp h).2

/-! ### Loading and recording -/

theorem loadContext_eq_ok {t : WebhookTables} {deliveryId : Nat} {ctx : DeliveryContext}
    {endpoint : WebhookEndpoint} :
    loadContext t deliveryId = .ok (ctx, endpoint) ↔
      ∃ delivery, t.deliveries[deliveryId]? = some delivery ∧
        delivery.status.isSettled = false ∧
        t.endpoints[delivery.endpointId]? = some endpoint ∧ endpoint.status ≠ .disabled ∧
        (∃ event, t.events[delivery.eventId]? = some event) ∧
        ctx = ⟨deliveryId, delivery.endpointId, endpoint.url, delivery.attemptCount,
          endpoint.consecutiveFailures⟩ := by
  constructor
  · intro h
    unfold loadContext at h
    split at h
    · cases h
    rename_i delivery found
    split at h
    · cases h
    rename_i unsettled
    split at h
    · cases h
    rename_i row there
    split at h
    · cases h
    rename_i inService
    split at h
    · cases h
    rename_i event logged
    obtain ⟨rfl, rfl⟩ := Prod.mk.inj (Except.ok.inj h)
    exact ⟨delivery, found, by simpa using unsettled, there, inService, ⟨event, logged⟩, rfl⟩
  · rintro ⟨delivery, found, unsettled, there, inService, ⟨event, logged⟩, rfl⟩
    simp [loadContext, found, unsettled, there, inService, logged]

/-- The tables after a recorded outcome. -/
def DeliveryContext.recorded (ctx : DeliveryContext) (response : PostResponse)
    (input : RecordInput) (t : WebhookTables) : WebhookTables :=
  let outcome := response.outcome
  let health := endpointHealthAfter ctx.consecutiveFailures outcome
  { t with
    endpoints := t.endpoints.modify ctx.endpointId (health.write input.now)
    events := t.events ++ if health.action = .openCircuit then [circuitOpened ctx.endpointId] else []
    deliveries := t.deliveries.modify ctx.deliveryId (outcome.settle ctx input)
    attempts := t.attempts ++ [response.attempt ctx input.durationMs]
    jobs := match outcome.nextAt ctx.attemptNumber input with
      | some nextAt => Function.update t.jobs ctx.deliveryId (some nextAt)
      | none => t.jobs }

/-- An endpoint row may be written with the health of any attempt. -/
theorem EndpointHealth.write_checks {health : EndpointHealth} {now : Instant}
    {row : WebhookEndpoint} (checks : endpointChecks row = true) :
    endpointChecks (health.write now row) = true := by
  unfold EndpointHealth.write
  split
  · simp [endpointChecks]
  · exact checks

theorem PostResponse.attempt_outcome (response : PostResponse) (ctx : DeliveryContext)
    (durationMs : Nat) : (response.attempt ctx durationMs).statusCode.isSome = true ∨
      (response.attempt ctx durationMs).error.isSome = true := by
  cases response <;> simp [attempt]

theorem commits_recordOutcome {ctx : DeliveryContext} {response : PostResponse}
    {input : RecordInput} {t t' : WebhookTables} :
    (∃ r, Commits (recordOutcome ctx response input) t r t') ↔
      Table.admits sequenceKey t.attempts (response.attempt ctx input.durationMs) = true ∧
        (∀ row, t.endpoints[ctx.endpointId]? = some row → endpointChecks
          ((endpointHealthAfter ctx.consecutiveFailures response.outcome).write input.now row) =
            true) ∧
        t' = ctx.recorded response input t := by
  have outcome := response.attempt_outcome ctx input.durationMs
  have shape : (endpointHealthAfter ctx.consecutiveFailures response.outcome).action =
      .openCircuit ∨ (endpointHealthAfter ctx.consecutiveFailures response.outcome).action =
      .keepEnabled := by
    cases (endpointHealthAfter ctx.consecutiveFailures response.outcome).action <;> simp
  simp only [recordOutcome, insertAttempt, bind_assoc, commits_bind, commits_updateEndpoint,
    DeliveryContext.recorded]
  rcases shape with opens | keeps <;>
    cases next : response.outcome.nextAt ctx.attemptNumber input <;>
    simp_all [updateDelivery, appendEvent, enqueueDelivery, commits_map]

/-! ### What a step can do -/

/-- Endpoints keep their place, their checks, and out of `disabled`, which nothing writes. -/
structure EndpointsKept (rows rows' : List WebhookEndpoint) : Prop where
  checked : (∀ row ∈ rows, endpointChecks row = true) → ∀ row ∈ rows', endpointChecks row = true
  inService : ∀ (id : Nat) (row : WebhookEndpoint), rows[id]? = some row →
    row.status ≠ .disabled → ∃ row', rows'[id]? = some row' ∧ row'.status ≠ .disabled

theorem EndpointsKept.refl (rows : List WebhookEndpoint) : EndpointsKept rows rows :=
  ⟨fun checked => checked, fun _ row found status => ⟨row, found, status⟩⟩

theorem EndpointsKept.modify {rows : List WebhookEndpoint} {endpointId : Nat}
    {set : WebhookEndpoint → WebhookEndpoint}
    (checks : ∀ row, rows[endpointId]? = some row → endpointChecks row = true →
      endpointChecks (set row) = true)
    (status : ∀ row, row.status ≠ .disabled → (set row).status ≠ .disabled) :
    EndpointsKept rows (rows.modify endpointId set) where
  checked checked row mem := by
    obtain ⟨id, found⟩ := List.mem_iff_getElem?.mp mem
    rw [List.getElem?_modify] at found
    obtain ⟨old, was, rfl⟩ := Option.map_eq_some_iff.mp found
    have before := checked old (List.mem_of_getElem? was)
    split
    · rename_i same
      exact checks old (same ▸ was) before
    · exact before
  inService id row found inService := by
    refine ⟨if endpointId = id then set row else row, by simp [List.getElem?_modify, found], ?_⟩
    split
    · exact status row inService
    · exact inService

/-- Deliveries and events were added, and jobs for the new deliveries. -/
structure Grown (t t' : WebhookTables) : Prop where
  endpoints : t'.endpoints = t.endpoints
  events : ∃ more, t'.events = t.events ++ more ∧
    ∀ event ∈ more, event.type ≠ "webhook_endpoint.circuit_opened"
  attempts : t'.attempts = t.attempts
  deliveries : ∃ new, t'.deliveries = t.deliveries ++ new ∧
    ∀ row ∈ new, row.status = .pending ∧ row.attemptCount = 0
  jobs : ∀ deliveryId < t.deliveries.length, t'.jobs deliveryId = t.jobs deliveryId

theorem Grown.prefix {t t' : WebhookTables} (grown : Grown t t') : t.events <+: t'.events :=
  grown.events.imp fun _ more => more.1.symm

theorem Grown.refl (t : WebhookTables) : Grown t t :=
  ⟨rfl, ⟨[], by simp⟩, rfl, ⟨[], by simp⟩, fun _ _ => rfl⟩

theorem Grown.trans {t₁ t₂ t₃ : WebhookTables} (first : Grown t₁ t₂) (second : Grown t₂ t₃) :
    Grown t₁ t₃ where
  endpoints := second.endpoints.trans first.endpoints
  events := by
    obtain ⟨more, rows, apart⟩ := first.events
    obtain ⟨more', rows', apart'⟩ := second.events
    refine ⟨more ++ more', by rw [rows', rows, List.append_assoc], fun event mem => ?_⟩
    exact (List.mem_append.mp mem).elim (apart event) (apart' event)
  attempts := second.attempts.trans first.attempts
  deliveries := by
    obtain ⟨new, rows, fresh⟩ := first.deliveries
    obtain ⟨new', rows', fresh'⟩ := second.deliveries
    refine ⟨new ++ new', by rw [rows', rows, List.append_assoc], fun row mem => ?_⟩
    exact (List.mem_append.mp mem).elim (fresh row) (fresh' row)
  jobs deliveryId old := by
    obtain ⟨new, rows, -⟩ := first.deliveries
    have still : deliveryId < t₂.deliveries.length := by simp [rows]; omega
    exact (second.jobs deliveryId still).trans (first.jobs deliveryId old)

theorem Grown.appendEvent {event : LoggedEvent}
    (apart : event.type ≠ "webhook_endpoint.circuit_opened") (t : WebhookTables) :
    Grown t (WebhookTables.appendEvent event t) :=
  ⟨rfl, ⟨[event], rfl, by simpa using apart⟩, rfl, ⟨[], by simp [WebhookTables.appendEvent]⟩,
    fun _ _ => rfl⟩

theorem Grown.addDelivery (t : WebhookTables) {row : WebhookDelivery} (now : Instant)
    (pending : row.status = .pending) (unattempted : row.attemptCount = 0) :
    Grown t (WebhookTables.addDelivery row now t) where
  endpoints := rfl
  events := ⟨[], by simp [WebhookTables.addDelivery, enqueueDelivery]⟩
  attempts := rfl
  deliveries := ⟨[row], rfl, by simp [pending, unattempted]⟩
  jobs deliveryId old := Function.update_of_ne (Nat.ne_of_lt old) _ _

theorem Grown.insertAutomatic (eventId : Nat) (now : Instant) (t : WebhookTables)
    (endpointId : Nat) : Grown t (insertAutomatic eventId now t endpointId) := by
  unfold InrSettle.insertAutomatic
  dsimp only
  split
  · exact .addDelivery t now rfl rfl
  · exact .refl t

theorem Grown.foldl {α : Type} {f : WebhookTables → α → WebhookTables}
    (each : ∀ t a, Grown t (f t a)) (as : List α) (t : WebhookTables) :
    Grown t (as.foldl f t) := by
  induction as generalizing t with
  | nil => exact .refl t
  | cons a as ih => exact (each t a).trans (ih (f t a))

theorem Grown.drainRow (endpoints : List (WebhookEndpoint × Nat)) (now : Instant)
    (t : WebhookTables) (outboxId : Nat) : Grown t (drainRow endpoints now t outboxId) := by
  unfold InrSettle.drainRow
  split
  · exact .refl t
  · rename_i row found
    have fanned := Grown.foldl (fun t e => .insertAutomatic row.eventId now t e)
      (wanted endpoints (t.eventType row.eventId)) t
    exact ⟨fanned.endpoints, fanned.events, fanned.attempts, fanned.deliveries, fanned.jobs⟩

theorem Grown.drainRows (endpoints : List (WebhookEndpoint × Nat)) (now : Instant)
    (claimed : List Nat) (t : WebhookTables) : Grown t (drainRows endpoints now claimed t) :=
  .foldl (fun t outboxId => .drainRow endpoints now t outboxId) claimed t

theorem commits_drainOutbox {endpoints : List (WebhookEndpoint × Nat)} {now : Instant}
    {claimed : List Nat} {t t' : WebhookTables} {r : DrainResult}
    (h : Commits (drainOutbox endpoints now claimed) t r t') :
    t' = drainRows endpoints now claimed t := by
  simp only [drainOutbox, commits_get_bind, commits_modify_bind, commits_pure] at h
  exact h.2

@[simp] theorem after_drainOutbox (endpoints : List (WebhookEndpoint × Nat)) (now : Instant)
    (claimed : List Nat) (t : WebhookTables) :
    after (drainOutbox endpoints now claimed) t = drainRows endpoints now claimed t :=
  rfl

theorem replayEvent_grown {eventId endpointId : Nat} {now : Instant} {t t' : WebhookTables}
    {r : Option Nat} (h : Commits (replayEvent eventId endpointId now) t r t') : Grown t t' := by
  simp only [replayEvent, commits_get_bind, commits_ite, commits_modify_bind, commits_pure] at h
  rcases h with ⟨-, -, rfl⟩ | ⟨-, -, rfl⟩
  · exact .addDelivery _ now rfl rfl
  · exact .refl _

theorem sendTestEvent_grown {endpointId : Nat} {now : Instant} {t t' : WebhookTables}
    {r : Option (Nat × Nat)} (h : Commits (sendTestEvent endpointId now) t r t') :
    Grown t t' := by
  simp only [sendTestEvent, commits_get_bind, commits_ite, commits_modify_bind, commits_pure] at h
  rcases h with ⟨-, -, rfl⟩ | ⟨-, -, rfl⟩
  · have logged : Grown t (appendEvent ⟨testEventType, .webhookEndpoint endpointId⟩ t) :=
      .appendEvent (by simp [testEventType]) t
    exact logged.trans (.addDelivery _ now rfl rfl)
  · exact .refl _

/-- A time due by the clock, or by the job that waits. -/
def Waits (clock : Instant) (jobs : Nat → Option Instant) (deliveryId : Nat) (due : Instant) :
    Prop :=
  due ≤ clock ∨ ∃ runAt, jobs deliveryId = some runAt ∧ due ≤ runAt

/-- What a step of the webhook system can do to its state. -/
inductive WebhookEffect (w : WebhookWorld) : WebhookWorld → Prop where
  | endpoints {rows : List WebhookEndpoint} (kept : EndpointsKept w.tables.endpoints rows) :
      WebhookEffect w { w with tables := { w.tables with endpoints := rows } }
  | grown {t : WebhookTables} {drains : List DrainRun} (grown : Grown w.tables t) :
      WebhookEffect w { w with tables := t, drains }
  | queued {jobs : Nat → Option Instant}
      (kept : ∀ id due, Waits w.clock w.tables.jobs id due → Waits w.clock jobs id due) :
      WebhookEffect w { w with tables := { w.tables with jobs } }
  | loaded {jobs : Nat → Option Instant} {deliveryId : Nat} {context : DeliveryContext}
      {endpoint : WebhookEndpoint}
      (kept : ∀ id due, Waits w.clock w.tables.jobs id due → Waits w.clock jobs id due)
      (found : loadContext w.tables deliveryId = .ok (context, endpoint)) :
      WebhookEffect w { w with
        tables := { w.tables with jobs }
        runs := w.runs ++ [{ context, endpoint }] }
  | posted {runId : Nat} {ctx : DeliveryContext} {endpoint : WebhookEndpoint}
      {response : PostResponse} (loaded : w.runs[runId]? = some ⟨ctx, endpoint, .loaded⟩) :
      WebhookEffect w { w with runs := w.runs.set runId ⟨ctx, endpoint, .posted response⟩ }
  | aborted {runId : Nat} {ctx : DeliveryContext} {endpoint : WebhookEndpoint}
      {response : PostResponse} (posted : w.runs[runId]? = some ⟨ctx, endpoint, .posted response⟩) :
      WebhookEffect w { w with runs := w.runs.set runId ⟨ctx, endpoint, .aborted⟩ }
  | recorded {runId : Nat} {ctx : DeliveryContext} {endpoint : WebhookEndpoint}
      {response : PostResponse} {input : RecordInput}
      (posted : w.runs[runId]? = some ⟨ctx, endpoint, .posted response⟩)
      (admitted : Table.admits sequenceKey w.tables.attempts
        (response.attempt ctx input.durationMs) = true) :
      WebhookEffect w { w with
        tables := ctx.recorded response input w.tables
        runs := w.runs.set runId ⟨ctx, endpoint, .recorded response⟩ }
  | ticked {ms : Nat} : WebhookEffect w { w with clock := w.clock + ms }

namespace WebhookEffect

variable {w : WebhookWorld}

theorem still : WebhookEffect w w := .endpoints (.refl _)

theorem onTables {α : Type} {m : WebhookTx α}
    (each : ∀ r t, Commits m w.tables r t → WebhookEffect w { w with tables := t }) :
    WebhookEffect w (w.onTables m) :=
  after_induction (P := fun t => WebhookEffect w { w with tables := t }) still each

end WebhookEffect

namespace WebhookWorld

variable (w : WebhookWorld)

theorem createWebhookEndpoint_effect (args : CreateEndpointInput) :
    WebhookEffect w (w.onTables (createWebhookEndpoint args)) := by
  refine .onTables fun r t h => ?_
  obtain rfl := createWebhookEndpoint_spec h
  refine .endpoints ⟨fun checked => ?_, fun id row found status => ⟨row, ?_, status⟩⟩
  · exact List.forall_mem_append.mpr ⟨checked, by simp [endpointChecks]⟩
  · rw [List.getElem?_append_left (List.getElem?_eq_some_iff.mp found).1]
    exact found

theorem deleteWebhookEndpoint_effect (args : EndpointInput) :
    WebhookEffect w (w.onTables (deleteWebhookEndpoint args)) := by
  refine .onTables fun r t h => ?_
  rcases deleteWebhookEndpoint_spec h with rfl | ⟨⟨row, found, -, closed⟩, rfl⟩
  · exact .still
  refine .endpoints (.modify (fun row' found' _ => ?_) fun _ _ => nofun)
  obtain rfl := Option.some.inj (found.symm.trans found')
  simp [endpointChecks, closed]

theorem reopenWebhookEndpoint_effect (args : EndpointInput) :
    WebhookEffect w (w.onTables (reopenWebhookEndpoint args)) := by
  refine .onTables fun r t h => ?_
  rcases reopenWebhookEndpoint_spec h with rfl | ⟨-, rfl⟩
  · exact .still
  · exact .endpoints (.modify (fun _ _ _ => by simp [endpointChecks]) fun _ _ => nofun)

theorem recordOutcome_effect (runId : Nat) (input : RecordInput) :
    WebhookEffect w (w.recordOutcome runId input) := by
  unfold recordOutcome
  split
  · rename_i ctx endpoint response posted
    dsimp only
    cases answered : answer (InrSettle.recordOutcome ctx response input) w.tables with
    | none =>
      rw [after_of_answer_none answered]
      exact .aborted posted
    | some result =>
      obtain ⟨admitted, -, same⟩ := commits_recordOutcome.mp ⟨result, answer_some answered⟩
      rw [same]
      exact .recorded posted admitted
  · exact .still

@[simp] theorem load_drains (deliveryId : Nat) : (w.load deliveryId).drains = w.drains := by
  unfold load
  split <;> rfl

@[simp] theorem load_tables (deliveryId : Nat) : (w.load deliveryId).tables = w.tables := by
  unfold load
  split <;> rfl

theorem load_effect (deliveryId : Nat) {jobs : Nat → Option Instant}
    (kept : ∀ id due, Waits w.clock w.tables.jobs id due → Waits w.clock jobs id due) :
    WebhookEffect w
      (WebhookWorld.load { w with tables := { w.tables with jobs } } deliveryId) := by
  have same : loadContext { w.tables with jobs } deliveryId = loadContext w.tables deliveryId := rfl
  unfold load
  dsimp only
  rw [same]
  split
  · rename_i context endpoint found
    exact .loaded kept found
  · exact .queued kept

theorem takeJob_effect (deliveryId : Nat) : WebhookEffect w (w.takeJob deliveryId) := by
  unfold takeJob
  split
  · rename_i due
    obtain ⟨runAt, waits, past⟩ := (Option.any_eq_true _ _).mp due
    refine load_effect w deliveryId fun id time waiting => ?_
    rcases waiting with passed | ⟨runAt', waits', bound⟩
    · exact .inl passed
    by_cases same : id = deliveryId
    · subst same
      obtain rfl := Option.some.inj (waits.symm.trans waits')
      exact .inl (bound.trans (of_decide_eq_true past))
    · exact .inr ⟨runAt', by simpa [Function.update_of_ne same] using waits', bound⟩
  · exact .still

theorem requeue_effect (deliveryId : Nat) (runAt : Instant) :
    WebhookEffect w (w.requeue deliveryId runAt) := by
  unfold requeue
  split
  · exact .still
  · rename_i none
    refine .queued fun id due waiting => ?_
    rcases waiting with passed | ⟨runAt', waits, bound⟩
    · exact .inl passed
    · have other : id ≠ deliveryId := fun same => none (by simp [← same, waits])
      exact .inr ⟨runAt', by simpa [Function.update_of_ne other] using waits, bound⟩

theorem post_effect (runId : Nat) (response : PostResponse) :
    WebhookEffect w (w.post runId response) := by
  unfold post
  split
  · rename_i ctx endpoint loaded
    exact .posted loaded
  · exact .still

theorem commitDrain_effect (drainId : Nat) : WebhookEffect w (w.commitDrain drainId) := by
  unfold commitDrain
  split
  · rename_i claimed now endpoints found
    exact .grown (.drainRows endpoints now claimed w.tables)
  · exact .still

theorem readEndpoints_effect (drainId : Nat) : WebhookEffect w (w.readEndpoints drainId) := by
  unfold readEndpoints
  split
  · exact .grown (.refl _)
  · exact .still

theorem abortDrain_effect (drainId : Nat) : WebhookEffect w (w.abortDrain drainId) := by
  unfold abortDrain
  split
  · exact .grown (.refl _)
  · exact .grown (.refl _)
  · exact .still

theorem recordEvent_grown {event : LoggedEvent} (deliver : Bool) (now : Instant)
    (apart : event.type ≠ "webhook_endpoint.circuit_opened") :
    Grown w.tables (w.recordEvent event deliver now).tables :=
  ⟨rfl, ⟨[event], rfl, by simpa using apart⟩, rfl, ⟨[], by simp [recordEvent]⟩, fun _ _ => rfl⟩

theorem step_effect (op : WebhookOp) : WebhookEffect w (w.step op) := by
  cases op with
  | createWebhookEndpoint args => exact w.createWebhookEndpoint_effect args
  | deleteWebhookEndpoint args => exact w.deleteWebhookEndpoint_effect args
  | reopenWebhookEndpoint args => exact w.reopenWebhookEndpoint_effect args
  | recordEvent event deliver now apart => exact .grown (w.recordEvent_grown deliver now apart)
  | claimOutbox batchSize now => exact .grown (.refl _)
  | readEndpoints drainId => exact w.readEndpoints_effect drainId
  | commitDrain drainId => exact w.commitDrain_effect drainId
  | abortDrain drainId => exact w.abortDrain_effect drainId
  | replayEvent eventId endpointId now =>
    exact .onTables fun r t h => .grown (replayEvent_grown h)
  | sendTestEvent endpointId now => exact .onTables fun r t h => .grown (sendTestEvent_grown h)
  | takeJob deliveryId => exact w.takeJob_effect deliveryId
  | redeliver deliveryId => exact w.load_effect deliveryId fun _ _ waits => waits
  | requeue deliveryId runAt => exact w.requeue_effect deliveryId runAt
  | post runId response => exact w.post_effect runId response
  | recordOutcome runId input => exact w.recordOutcome_effect runId input
  | tick ms => exact .ticked

end WebhookWorld

end InrSettle
