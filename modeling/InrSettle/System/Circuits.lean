import InrSettle.System.DeliveryLog

/-!
# The circuit of an endpoint

An endpoint counts its failures from the count the attempt had read before its post.
The count is that of the distinct deliveries failing since the last success or
reopening where no attempt read a stale count and none repeats a failing delivery.
-/

namespace InrSettle

open Transaction WebhookTables Run

/-! ### What a step means for an endpoint -/

def WebhookTables.statusOf (t : WebhookTables) (endpointId : Nat) : Option EndpointStatus :=
  t.endpoints[endpointId]?.map (·.status)

/-- The `webhook_endpoint.circuit_opened` events of the endpoint. -/
def WebhookTables.circuitEvents (t : WebhookTables) (endpointId : Nat) : Nat :=
  t.events.countP fun event => decide (event = circuitOpened endpointId)

/-- The circuit of the endpoint opens from one state to the next. -/
def OpensCircuit (t t' : WebhookTables) (endpointId : Nat) : Prop :=
  t.statusOf endpointId ≠ some .circuitOpen ∧ t'.statusOf endpointId = some .circuitOpen

instance (t t' : WebhookTables) (endpointId : Nat) : Decidable (OpensCircuit t t' endpointId) :=
  inferInstanceAs (Decidable (_ ∧ _))

inductive HealthEvent where
  | failed (endpointId deliveryId : Nat)
  | recovered (endpointId : Nat)
  deriving DecidableEq

/-- The outcome a step recorded, or the reopening it was. -/
def noticed (w : WebhookWorld) (op : WebhookOp) (w' : WebhookWorld) : Option HealthEvent :=
  match op with
  | .recordOutcome runId _ =>
    match w.runs[runId]?, w'.runs[runId]? with
    | some ⟨ctx, _, .posted response⟩, some ⟨_, _, .recorded _⟩ =>
      some (if response.outcome.isDelivered then .recovered ctx.endpointId
        else .failed ctx.endpointId ctx.deliveryId)
    | _, _ => none
  | .reopenWebhookEndpoint args =>
    if w.tables.statusOf args.endpointId ≠ some .enabled ∧
        w'.tables.statusOf args.endpointId = some .enabled then
      some (.recovered args.endpointId)
    else none
  | _ => none

/-- The distinct deliveries failing, for each endpoint, after one more event. -/
def HealthEvent.note (failing : Nat → List Nat) : Option HealthEvent → Nat → List Nat
  | some (.failed endpointId deliveryId) =>
    if deliveryId ∈ failing endpointId then failing
    else Function.update failing endpointId (deliveryId :: failing endpointId)
  | some (.recovered endpointId) => Function.update failing endpointId []
  | none => failing

/-- The system, with what its runs have shown of each endpoint: the distinct deliveries that failed
since its last recorded success or reopening, and how often its circuit opened. -/
structure Watched where
  world : WebhookWorld
  failing : Nat → List Nat
  opened : Nat → Nat

namespace Watched

def start (endpoints : List WebhookWorld.NewEndpoint) (clock : Instant) : Watched :=
  ⟨.start endpoints clock, fun _ => [], fun _ => 0⟩

def step (v : Watched) (op : WebhookOp) : Watched where
  world := v.world.step op
  failing := HealthEvent.note v.failing (noticed v.world op (v.world.step op))
  opened endpointId := v.opened endpointId +
    if OpensCircuit v.world.tables (v.world.step op).tables endpointId then 1 else 0

/-- The counter is the number of failing deliveries, and each opening has its one event. -/
def Counts (v : Watched) : Prop :=
  (∀ (endpointId : Nat) (row : WebhookEndpoint), v.world.tables.endpoints[endpointId]? = some row →
    row.consecutiveFailures = (v.failing endpointId).length) ∧
  ∀ endpointId, v.world.tables.circuitEvents endpointId = v.opened endpointId

/-- The circuit opens in the steps in which the number of failing deliveries reaches the
threshold. -/
def OpensAtThreshold (v : Watched) (op : WebhookOp) : Prop :=
  ∀ endpointId, OpensCircuit v.world.tables (v.step op).world.tables endpointId ↔
    (v.failing endpointId).length < circuitBreakAfter ∧
      circuitBreakAfter ≤ ((v.step op).failing endpointId).length

/-- A failure that is recorded was counted from the count the endpoint still has, is of a delivery
not failing yet, and does not open a circuit that is open. -/
def CountedOnce (v : Watched) : WebhookOp → Prop
  | .recordOutcome runId input => ∀ run ∈ v.world.posted runId,
    Table.admits sequenceKey v.world.tables.attempts
      (run.2.attempt run.1 input.durationMs) = true →
    run.2.outcome.isDelivered = false →
    ∀ row ∈ v.world.tables.endpoints[run.1.endpointId]?,
      run.1.consecutiveFailures = row.consecutiveFailures ∧
        run.1.deliveryId ∉ v.failing run.1.endpointId ∧
        (circuitBreakAfter ≤ row.consecutiveFailures + 1 → row.status ≠ .circuitOpen)
  | _ => True

instance (v : Watched) (op : WebhookOp) : Decidable (v.CountedOnce op) :=
  match op with
  | .recordOutcome runId _ => inferInstanceAs (Decidable (∀ run ∈ v.world.posted runId, _))
  | .createWebhookEndpoint _ | .deleteWebhookEndpoint _ | .reopenWebhookEndpoint _
  | .recordEvent .. | .claimOutbox .. | .readEndpoints _ | .commitDrain _ | .abortDrain _
  | .replayEvent .. | .sendTestEvent .. | .takeJob _ | .redeliver _ | .requeue .. | .post ..
  | .tick _ => inferInstanceAs (Decidable True)

end Watched

/-! ### The steps that write an endpoint -/

inductive HealthStep (w : WebhookWorld) : WebhookOp → WebhookWorld → Prop where
  | still {op : WebhookOp} {w' : WebhookWorld}
      (endpoints : w'.tables.endpoints = w.tables.endpoints)
      (events : ∀ endpointId, w'.tables.circuitEvents endpointId =
        w.tables.circuitEvents endpointId)
      (quiet : noticed w op w' = none) : HealthStep w op w'
  | created {args : CreateEndpointInput} {row : WebhookEndpoint}
      (new : row = { url := args.url, eventTypes := args.eventTypes }) :
      HealthStep w (.createWebhookEndpoint args)
        { w with tables := { w.tables with endpoints := w.tables.endpoints ++ [row] } }
  | deleted {args : EndpointInput} {row : WebhookEndpoint}
      (found : w.tables.endpoints[args.endpointId]? = some row) (live : row.status ≠ .deleted)
      (closed : row.circuitOpenedAt = none) :
      HealthStep w (.deleteWebhookEndpoint args) { w with tables := { w.tables with
        endpoints := w.tables.endpoints.modify args.endpointId fun row =>
          { row with status := .deleted, disabledAt := some args.now } } }
  | reopened {args : EndpointInput} {row : WebhookEndpoint}
      (found : w.tables.endpoints[args.endpointId]? = some row) (off : row.status ≠ .enabled)
      (live : row.status ≠ .deleted) :
      HealthStep w (.reopenWebhookEndpoint args) { w with tables := { w.tables with
        endpoints := w.tables.endpoints.modify args.endpointId fun row =>
          { row with status := .enabled, consecutiveFailures := 0, circuitOpenedAt := none } } }
  | recorded {runId : Nat} {input : RecordInput} {ctx : DeliveryContext}
      {endpoint : WebhookEndpoint} {response : PostResponse}
      (posted : w.runs[runId]? = some ⟨ctx, endpoint, .posted response⟩)
      (admitted : Table.admits sequenceKey w.tables.attempts
        (response.attempt ctx input.durationMs) = true) :
      HealthStep w (.recordOutcome runId input) { w with
        tables := ctx.recorded response input w.tables
        runs := w.runs.set runId ⟨ctx, endpoint, .recorded response⟩ }

namespace HealthStep

variable {w : WebhookWorld}

theorem ofGrown {op : WebhookOp} {w' : WebhookWorld} (grown : Grown w.tables w'.tables)
    (quiet : noticed w op w' = none) : HealthStep w op w' := by
  obtain ⟨more, rows, apart⟩ := grown.events
  refine .still grown.endpoints (fun endpointId => ?_) quiet
  have none : more.countP (fun event => decide (event = circuitOpened endpointId)) = 0 :=
    List.countP_eq_zero.mpr fun event mem => by
      have other : event ≠ circuitOpened endpointId := fun same => apart event mem (same ▸ rfl)
      simpa using other
  rw [circuitEvents, rows, List.countP_append, none, Nat.add_zero, circuitEvents]

theorem ofSame {op : WebhookOp} {w' : WebhookWorld}
    (endpoints : w'.tables.endpoints = w.tables.endpoints)
    (events : w'.tables.events = w.tables.events) (quiet : noticed w op w' = none) :
    HealthStep w op w' :=
  .still endpoints (fun endpointId => by rw [circuitEvents, events, circuitEvents]) quiet

theorem onTables {α : Type} {m : WebhookTx α} {op : WebhookOp} (still : HealthStep w op w)
    (each : ∀ r t, Commits m w.tables r t → HealthStep w op { w with tables := t }) :
    HealthStep w op (w.onTables m) :=
  after_induction (P := fun t => HealthStep w op { w with tables := t }) still each

end HealthStep

theorem WebhookWorld.recordOutcome_health (w : WebhookWorld) (runId : Nat) (input : RecordInput) :
    HealthStep w (.recordOutcome runId input) (w.recordOutcome runId input) := by
  unfold WebhookWorld.recordOutcome
  split
  · rename_i ctx endpoint response posted
    dsimp only
    have within := (List.getElem?_eq_some_iff.mp posted).1
    cases answered : answer (InrSettle.recordOutcome ctx response input) w.tables with
    | none =>
      rw [after_of_answer_none answered]
      exact .ofSame rfl rfl (by simp [noticed, within])
    | some result =>
      obtain ⟨admitted, -, same⟩ := commits_recordOutcome.mp ⟨result, answer_some answered⟩
      rw [same]
      exact .recorded posted admitted
  · rename_i other
    refine .ofSame rfl rfl ?_
    unfold noticed
    dsimp only
    split
    · rename_i ctx endpoint response _ _ _ posted _
      exact (other ctx endpoint response posted).elim
    · rfl

theorem WebhookWorld.step_health (w : WebhookWorld) (op : WebhookOp) :
    HealthStep w op (w.step op) := by
  cases op with
  | createWebhookEndpoint args =>
    exact .onTables (.ofSame rfl rfl rfl) fun r t h => createWebhookEndpoint_spec h ▸ .created rfl
  | deleteWebhookEndpoint args =>
    refine .onTables (.ofSame rfl rfl rfl) fun r t h => ?_
    rcases deleteWebhookEndpoint_spec h with rfl | ⟨⟨row, found, live, closed⟩, rfl⟩
    · exact .ofSame rfl rfl rfl
    · exact .deleted found live closed
  | reopenWebhookEndpoint args =>
    have quiet : noticed w (.reopenWebhookEndpoint args) w = none :=
      if_neg fun changed => changed.1 changed.2
    refine .onTables (.ofSame rfl rfl quiet) fun r t h => ?_
    rcases reopenWebhookEndpoint_spec h with rfl | ⟨⟨row, found, off, live⟩, rfl⟩
    · exact .ofSame rfl rfl quiet
    · exact .reopened found off live
  | recordEvent event deliver now apart => exact .ofGrown (w.recordEvent_grown deliver now apart) rfl
  | commitDrain drainId =>
    simp only [WebhookWorld.step, WebhookWorld.commitDrain]
    split
    · rename_i claimed now endpoints found
      exact .ofGrown (.drainRows endpoints now claimed w.tables) rfl
    · exact .ofSame rfl rfl rfl
  | replayEvent eventId endpointId now =>
    exact .onTables (.ofSame rfl rfl rfl) fun r t h => .ofGrown (replayEvent_grown h) rfl
  | sendTestEvent endpointId now =>
    exact .onTables (.ofSame rfl rfl rfl) fun r t h => .ofGrown (sendTestEvent_grown h) rfl
  | recordOutcome runId input => exact w.recordOutcome_health runId input
  | readEndpoints drainId =>
    simp only [WebhookWorld.step, WebhookWorld.readEndpoints]
    split <;> exact .ofSame rfl rfl rfl
  | abortDrain drainId =>
    simp only [WebhookWorld.step, WebhookWorld.abortDrain]
    split <;> exact .ofSame rfl rfl rfl
  | takeJob deliveryId =>
    simp only [WebhookWorld.step, WebhookWorld.takeJob]
    split
    · exact .ofSame (by simp) (by simp) rfl
    · exact .ofSame rfl rfl rfl
  | redeliver deliveryId =>
    simp only [WebhookWorld.step]
    exact .ofSame (by simp) (by simp) rfl
  | requeue deliveryId runAt =>
    simp only [WebhookWorld.step, WebhookWorld.requeue]
    split <;> exact .ofSame rfl rfl rfl
  | post runId response =>
    simp only [WebhookWorld.step, WebhookWorld.post]
    split <;> exact .ofSame rfl rfl rfl
  | claimOutbox batchSize now => exact .ofSame rfl rfl rfl
  | tick ms => exact .ofSame rfl rfl rfl

/-! ### The invariant -/

/-- The counter of an endpoint is right, and at the threshold its circuit is open. -/
structure EndpointCounted (row : WebhookEndpoint) (failing : List Nat) : Prop where
  counted : row.consecutiveFailures = failing.length
  broken : circuitBreakAfter ≤ row.consecutiveFailures → row.status = .circuitOpen

structure CircuitsInOrder (v : Watched) : Prop where
  log : LogInOrder v.world
  rows : ∀ (endpointId : Nat) (row : WebhookEndpoint),
    v.world.tables.endpoints[endpointId]? = some row → EndpointCounted row (v.failing endpointId)
  events : ∀ endpointId, v.world.tables.circuitEvents endpointId = v.opened endpointId
  absent : ∀ endpointId ≥ v.world.tables.endpoints.length, v.failing endpointId = []

theorem CircuitsInOrder.start (endpoints : List WebhookWorld.NewEndpoint) (clock : Instant) :
    CircuitsInOrder (.start endpoints clock) where
  log := .start endpoints clock
  rows endpointId row found := by
    obtain ⟨e, -, rfl⟩ := List.mem_map.mp (List.mem_of_getElem? found)
    exact ⟨rfl, fun broken => absurd broken (by
      simp [WebhookWorld.NewEndpoint.row, circuitBreakAfter])⟩
  events _ := rfl
  absent _ _ := rfl

section Opening

variable {t t' : WebhookTables}

theorem not_opens_of_same {endpointId : Nat}
    (same : t'.statusOf endpointId = t.statusOf endpointId) : ¬OpensCircuit t t' endpointId :=
  fun opens => opens.1 (same ▸ opens.2)

theorem statusOf_of_endpoints (same : t'.endpoints = t.endpoints) (endpointId : Nat) :
    t'.statusOf endpointId = t.statusOf endpointId := by
  rw [WebhookTables.statusOf, same, WebhookTables.statusOf]

/-- An update opens the circuit of the row it finds or none. -/
theorem opens_modify {set : WebhookEndpoint → WebhookEndpoint} {endpointId : Nat}
    {row : WebhookEndpoint} (rows : t'.endpoints = t.endpoints.modify endpointId set)
    (found : t.endpoints[endpointId]? = some row) (other : Nat) :
    OpensCircuit t t' other ↔
      other = endpointId ∧ row.status ≠ .circuitOpen ∧ (set row).status = .circuitOpen := by
  by_cases same : other = endpointId
  · subst same
    simp [OpensCircuit, WebhookTables.statusOf, rows, found]
  · have kept : t'.statusOf other = t.statusOf other := by
      simp [WebhookTables.statusOf, rows, Ne.symm same]
    simp only [same, false_and, iff_false]
    exact not_opens_of_same kept

end Opening

namespace CircuitsInOrder

variable {v : Watched}

/-- The rows after an update of one of them. -/
theorem modified {set : WebhookEndpoint → WebhookEndpoint} {endpointId : Nat}
    {row : WebhookEndpoint} {xs : List Nat} {failing : Nat → List Nat}
    (held : CircuitsInOrder v) (found : v.world.tables.endpoints[endpointId]? = some row)
    (counted : EndpointCounted (set row) xs)
    (noted : ∀ other, failing other = if other = endpointId then xs else v.failing other) :
    (∀ (other : Nat) (row' : WebhookEndpoint),
      (v.world.tables.endpoints.modify endpointId set)[other]? = some row' →
        EndpointCounted row' (failing other)) ∧
      ∀ other ≥ (v.world.tables.endpoints.modify endpointId set).length, failing other = [] := by
  refine ⟨fun other row' is => ?_, fun other past => ?_⟩
  · rw [noted other]
    rw [List.getElem?_modify] at is
    by_cases same : other = endpointId
    · subst same
      rw [found] at is
      obtain rfl : set row = row' := by simpa using is
      simpa using counted
    · rw [if_neg same]
      exact held.rows other row' (by simpa [Ne.symm same] using is)
  · rw [List.length_modify] at past
    have within := (List.getElem?_eq_some_iff.mp found).1
    rw [noted other, if_neg (by omega)]
    exact held.absent other past

/-- An open circuit is stamped, so what is not stamped is below the threshold. -/
theorem closed_below {endpointId : Nat} {row : WebhookEndpoint} (held : CircuitsInOrder v)
    (found : v.world.tables.endpoints[endpointId]? = some row)
    (closed : row.circuitOpenedAt = none) :
    row.status ≠ .circuitOpen ∧ row.consecutiveFailures < circuitBreakAfter := by
  have checks := held.log.checked row (List.mem_of_getElem? found)
  have off : row.status ≠ .circuitOpen := fun open' => by
    simp [endpointChecks, open', closed] at checks
  exact ⟨off, not_le.mp fun reached => off ((held.rows endpointId row found).broken reached)⟩

theorem still {op : WebhookOp} (held : CircuitsInOrder v)
    (log : LogInOrder (v.world.step op))
    (endpoints : (v.world.step op).tables.endpoints = v.world.tables.endpoints)
    (events : ∀ endpointId, (v.world.step op).tables.circuitEvents endpointId =
      v.world.tables.circuitEvents endpointId)
    (quiet : noticed v.world op (v.world.step op) = none) :
    CircuitsInOrder (v.step op) ∧ v.OpensAtThreshold op := by
  have shut : ∀ endpointId, ¬OpensCircuit v.world.tables (v.world.step op).tables endpointId :=
    fun endpointId => not_opens_of_same (statusOf_of_endpoints endpoints endpointId)
  have failing : (v.step op).failing = v.failing := by
    rw [Watched.step, quiet]
    rfl
  refine ⟨⟨log, ?_, fun endpointId => ?_, ?_⟩, fun endpointId => ?_⟩
  · rw [failing]
    simpa only [Watched.step, endpoints] using held.rows
  · simp only [Watched.step, shut endpointId, if_false, Nat.add_zero, events]
    exact held.events endpointId
  · rw [failing]
    simpa only [Watched.step, endpoints] using held.absent
  · rw [failing]
    exact iff_of_false (shut endpointId) (by omega)

/-- A step that writes one endpoint and opens no circuit. -/
theorem written {op : WebhookOp} {set : WebhookEndpoint → WebhookEndpoint} {endpointId : Nat}
    {row : WebhookEndpoint} (xs : List Nat) (held : CircuitsInOrder v)
    (log : LogInOrder (v.world.step op))
    (found : v.world.tables.endpoints[endpointId]? = some row)
    (endpoints : (v.world.step op).tables.endpoints =
      v.world.tables.endpoints.modify endpointId set)
    (events : ∀ other, (v.world.step op).tables.circuitEvents other =
      v.world.tables.circuitEvents other)
    (noted : ∀ other, (v.step op).failing other =
      if other = endpointId then xs else v.failing other)
    (counted : EndpointCounted (set row) xs)
    (shut : row.status = .circuitOpen ∨ (set row).status ≠ .circuitOpen)
    (unreached : circuitBreakAfter ≤ xs.length →
      circuitBreakAfter ≤ (v.failing endpointId).length) :
    CircuitsInOrder (v.step op) ∧ v.OpensAtThreshold op := by
  have opens : ∀ other, ¬OpensCircuit v.world.tables (v.world.step op).tables other := fun other => by
    rw [opens_modify endpoints found]
    rintro ⟨-, off, on⟩
    exact shut.elim off fun off' => off' on
  have rows := held.modified found counted noted
  refine ⟨⟨log, ?_, fun other => ?_, ?_⟩, fun other => iff_of_false (opens other) ?_⟩
  · simpa only [Watched.step, endpoints] using rows.1
  · simp only [Watched.step, opens other, if_false, Nat.add_zero, events]
    exact held.events other
  · simpa only [Watched.step, endpoints] using rows.2
  · rw [noted other]
    rintro ⟨below, reached⟩
    split at reached
    · rename_i same
      subst same
      exact absurd (unreached reached) (not_le.mpr below)
    · omega

theorem recorded_circuitEvents {ctx : DeliveryContext} {response : PostResponse}
    {input : RecordInput} {t : WebhookTables} (other : Nat) :
    (ctx.recorded response input t).circuitEvents other = t.circuitEvents other +
      if (endpointHealthAfter ctx.consecutiveFailures response.outcome).action = .openCircuit ∧
        other = ctx.endpointId then 1 else 0 := by
  simp only [circuitEvents, DeliveryContext.recorded, List.countP_append]
  by_cases opens :
      (endpointHealthAfter ctx.consecutiveFailures response.outcome).action = .openCircuit
  · by_cases same : other = ctx.endpointId
    · simp [opens, same]
    · simp [opens, same, circuitOpened, Ne.symm same]
  · simp [opens]

theorem note_failed {failing : Nat → List Nat} {endpointId deliveryId : Nat}
    (new : deliveryId ∉ failing endpointId) (other : Nat) :
    HealthEvent.note failing (some (.failed endpointId deliveryId)) other =
      if other = endpointId then deliveryId :: failing endpointId else failing other := by
  simp only [HealthEvent.note, new, if_false, Function.update_apply]

theorem note_recovered {failing : Nat → List Nat} {endpointId : Nat} (other : Nat) :
    HealthEvent.note failing (some (.recovered endpointId)) other =
      if other = endpointId then [] else failing other := by
  simp only [HealthEvent.note, Function.update_apply]

section Recorded

variable {runId : Nat} {input : RecordInput} {ctx : DeliveryContext} {endpoint : WebhookEndpoint}
  {response : PostResponse} {row : WebhookEndpoint}

theorem noticed_recorded
    (posted : v.world.runs[runId]? = some ⟨ctx, endpoint, .posted response⟩)
    (after : v.world.step (.recordOutcome runId input) = { v.world with
      tables := ctx.recorded response input v.world.tables
      runs := v.world.runs.set runId ⟨ctx, endpoint, .recorded response⟩ }) :
    noticed v.world (.recordOutcome runId input) (v.world.step (.recordOutcome runId input)) =
      some (if response.outcome.isDelivered then .recovered ctx.endpointId
        else .failed ctx.endpointId ctx.deliveryId) := by
  have within := (List.getElem?_eq_some_iff.mp posted).1
  rw [after]
  simp only [noticed, posted, List.getElem?_set_self within]

theorem delivered (held : CircuitsInOrder v)
    (log : LogInOrder (v.world.step (.recordOutcome runId input)))
    (posted : v.world.runs[runId]? = some ⟨ctx, endpoint, .posted response⟩)
    (after : v.world.step (.recordOutcome runId input) = { v.world with
      tables := ctx.recorded response input v.world.tables
      runs := v.world.runs.set runId ⟨ctx, endpoint, .recorded response⟩ })
    (found : v.world.tables.endpoints[ctx.endpointId]? = some row)
    (success : response.outcome.isDelivered = true) :
    CircuitsInOrder (v.step (.recordOutcome runId input)) ∧
      v.OpensAtThreshold (.recordOutcome runId input) := by
  have health := endpointHealthAfter_delivered ctx.consecutiveFailures success
  have noted := noticed_recorded posted after
  rw [success, if_pos rfl] at noted
  refine held.written [] log found (by rw [after]; rfl) (fun other => ?_)
    (fun other => ?_) ⟨?_, fun broken => ?_⟩ ?_ (fun reached => absurd reached (by decide))
  · rw [after, recorded_circuitEvents, health]
    simp
  · rw [Watched.step, noted]
    exact note_recovered other
  · simp [health, EndpointHealth.write]
  · simp [health, EndpointHealth.write, circuitBreakAfter] at broken
  · by_cases on : row.status = .circuitOpen
    · exact .inl on
    · exact .inr (by simpa [health, EndpointHealth.write] using on)

theorem failed (held : CircuitsInOrder v)
    (log : LogInOrder (v.world.step (.recordOutcome runId input)))
    (posted : v.world.runs[runId]? = some ⟨ctx, endpoint, .posted response⟩)
    (after : v.world.step (.recordOutcome runId input) = { v.world with
      tables := ctx.recorded response input v.world.tables
      runs := v.world.runs.set runId ⟨ctx, endpoint, .recorded response⟩ })
    (found : v.world.tables.endpoints[ctx.endpointId]? = some row)
    (failure : response.outcome.isDelivered = false)
    (current : ctx.consecutiveFailures = row.consecutiveFailures)
    (new : ctx.deliveryId ∉ v.failing ctx.endpointId)
    (shut : circuitBreakAfter ≤ row.consecutiveFailures + 1 → row.status ≠ .circuitOpen) :
    CircuitsInOrder (v.step (.recordOutcome runId input)) ∧
      v.OpensAtThreshold (.recordOutcome runId input) := by
  have health := endpointHealthAfter_failed ctx.consecutiveFailures failure
  have noted := noticed_recorded posted after
  have counted := (held.rows ctx.endpointId row found).counted
  rw [failure, if_neg (by simp)] at noted
  have failing : ∀ other, (v.step (.recordOutcome runId input)).failing other =
      if other = ctx.endpointId then ctx.deliveryId :: v.failing ctx.endpointId
      else v.failing other := fun other => by
    rw [Watched.step, noted]
    exact note_failed new other
  have endpoints : (v.world.step (.recordOutcome runId input)).tables.endpoints =
      v.world.tables.endpoints.modify ctx.endpointId
        ((endpointHealthAfter ctx.consecutiveFailures response.outcome).write input.now) := by
    rw [after]
    rfl
  rw [current] at health
  by_cases reached : circuitBreakAfter ≤ row.consecutiveFailures + 1
  · -- The circuit was not open, so the counter was one below the threshold.
    have below : row.consecutiveFailures < circuitBreakAfter := not_le.mp fun past =>
      shut reached ((held.rows ctx.endpointId row found).broken past)
    rw [if_pos reached] at health
    have wrote : (endpointHealthAfter ctx.consecutiveFailures response.outcome).write input.now
        row = { row with
          consecutiveFailures := row.consecutiveFailures + 1
          status := .circuitOpen
          circuitOpenedAt := some input.now } := by
      rw [current, health]
      rfl
    have counted' : EndpointCounted ((endpointHealthAfter ctx.consecutiveFailures
        response.outcome).write input.now row) (ctx.deliveryId :: v.failing ctx.endpointId) :=
      wrote ▸ ⟨congrArg (· + 1) counted, fun _ => rfl⟩
    have rows := held.modified found counted' failing
    have opens : ∀ other, OpensCircuit v.world.tables
        (v.world.step (.recordOutcome runId input)).tables other ↔ other = ctx.endpointId := by
      intro other
      rw [opens_modify endpoints found, wrote]
      simp [shut reached]
    refine ⟨⟨log, ?_, fun other => ?_, ?_⟩, fun other => ?_⟩
    · simpa only [Watched.step, endpoints] using rows.1
    · have event : (v.world.step (.recordOutcome runId input)).tables.circuitEvents other =
          v.world.tables.circuitEvents other + if other = ctx.endpointId then 1 else 0 := by
        rw [after, recorded_circuitEvents, current, health]
        simp
      simp only [Watched.step, opens other, event, held.events other]
    · simpa only [Watched.step, endpoints] using rows.2
    · refine (opens other).trans ?_
      rw [failing other]
      by_cases same : other = ctx.endpointId
      · simp only [same, if_true, List.length_cons, true_iff]
        omega
      · simp only [same, if_false, false_iff]
        omega
  · rw [if_neg reached] at health
    have wrote : (endpointHealthAfter ctx.consecutiveFailures response.outcome).write input.now
        row = { row with consecutiveFailures := row.consecutiveFailures + 1 } := by
      rw [current, health]
      rfl
    refine held.written _ log found endpoints (fun other => ?_) failing
      (wrote ▸ ⟨congrArg (· + 1) counted, fun broken => absurd broken reached⟩) (wrote ▸ ?_)
      fun past => absurd past (by rw [List.length_cons, ← counted]; exact reached)
    · rw [after, recorded_circuitEvents, current, health]
      simp
    · by_cases on : row.status = .circuitOpen
      · exact .inl on
      · exact .inr on

end Recorded

theorem step {op : WebhookOp} (held : CircuitsInOrder v) (once : v.CountedOnce op) :
    CircuitsInOrder (v.step op) ∧ v.OpensAtThreshold op := by
  have log := held.log.step op
  have health := v.world.step_health op
  generalize after : v.world.step op = w' at health
  cases health with
  | still endpoints events quiet =>
    subst after
    exact held.still log endpoints events quiet
  | @created args row new =>
    have fresh : row.status = .enabled ∧ row.consecutiveFailures = 0 := by simp [new]
    have absent := held.absent
    have shut : ∀ other, ¬OpensCircuit v.world.tables (v.world.step (.createWebhookEndpoint args)).tables
        other := by
      rintro other ⟨off, on⟩
      simp only [after, WebhookTables.statusOf] at on off
      by_cases old : other < v.world.tables.endpoints.length
      · rw [List.getElem?_append_left old] at on
        exact off on
      · rw [List.getElem?_append_right (not_lt.mp old)] at on
        obtain ⟨row', is, status⟩ := Option.map_eq_some_iff.mp on
        obtain rfl := List.mem_singleton.mp (List.mem_of_getElem? is)
        simp [fresh.1] at status
    have failing : (v.step (.createWebhookEndpoint args)).failing = v.failing := rfl
    refine ⟨⟨log, fun other row' is => ?_, fun other => ?_, fun other past => ?_⟩,
      fun other => iff_of_false (shut other) (by rw [failing]; omega)⟩
    · rw [failing]
      simp only [Watched.step, after] at is
      by_cases old : other < v.world.tables.endpoints.length
      · rw [List.getElem?_append_left old] at is
        exact held.rows other row' is
      · rw [List.getElem?_append_right (not_lt.mp old)] at is
        obtain rfl := List.mem_singleton.mp (List.mem_of_getElem? is)
        refine ⟨by rw [absent other (not_lt.mp old), fresh.2, List.length_nil], fun broken => ?_⟩
        exact absurd (fresh.2 ▸ broken) (by decide)
    · simp only [Watched.step, shut other, if_false, Nat.add_zero]
      rw [after]
      exact held.events other
    · rw [failing]
      simp only [Watched.step, after, List.length_append] at past
      exact absent other (by omega)
  | @deleted args row found live closed =>
    obtain ⟨off, below⟩ := held.closed_below found closed
    have counted := (held.rows args.endpointId row found).counted
    refine held.written (v.failing args.endpointId) log found (by rw [after])
      (fun other => by rw [after]; rfl) (fun other => ?_) ⟨counted, fun past => ?_⟩ (.inr (by simp)) id
    · split
      · rename_i same
        rw [same]
        rfl
      · rfl
    · exact absurd past (not_le.mpr below)
  | @reopened args row found off live =>
    have noted : noticed v.world (.reopenWebhookEndpoint args)
        (v.world.step (.reopenWebhookEndpoint args)) = some (.recovered args.endpointId) := by
      rw [after]
      exact if_pos ⟨by simp [WebhookTables.statusOf, found, off],
        by simp [WebhookTables.statusOf, found]⟩
    refine held.written [] log found (by rw [after]) (fun other => by rw [after]; rfl)
      (fun other => ?_) ⟨rfl, fun past => absurd past (by simp [circuitBreakAfter])⟩
      (.inr (by simp)) fun reached => absurd reached (by decide)
    rw [Watched.step, noted]
    exact note_recovered other
  | @recorded runId input ctx endpoint response posted admitted =>
    obtain ⟨delivery, order, -⟩ := held.log.current posted admitted
    obtain ⟨row, found, -⟩ := order.attemptable.endpoint
    have found : v.world.tables.endpoints[ctx.endpointId]? = some row := order.endpoint ▸ found
    cases success : response.outcome.isDelivered with
    | true => exact held.delivered log posted after found success
    | false =>
      have is : (ctx, response) ∈ v.world.posted runId := by simp [WebhookWorld.posted, posted]
      obtain ⟨current, new, shut⟩ := once (ctx, response) is admitted success row found
      exact held.failed log posted after found success current new shut

end CircuitsInOrder

/-- While each recorded failure is counted once, the counter is the number of distinct deliveries
failing since the last success or reopening, and the circuit opens, with one event, as that number
reaches the threshold. -/
theorem circuit_counts (endpoints : List WebhookWorld.NewEndpoint) (clock : Instant)
    (ops : List WebhookOp)
    (once : Along Watched.step Watched.CountedOnce (.start endpoints clock) ops) :
    (run Watched.step (.start endpoints clock) ops).Counts ∧
      Along Watched.step Watched.OpensAtThreshold (.start endpoints clock) ops := by
  have start := CircuitsInOrder.start endpoints clock
  have kept : ∀ v op, CircuitsInOrder v → Watched.CountedOnce v op →
      CircuitsInOrder (Watched.step v op) := fun v op held once => (held.step once).1
  have held := once.invariant kept start
  refine ⟨⟨fun endpointId row found => (held.rows endpointId row found).counted, held.events⟩, ?_⟩
  exact once.follow kept (fun v op held once => (held.step once).2) start

/-- A delivery that fails and is then delivered. -/
def recovering : List WebhookOp := [
  .sendTestEvent 0 0, .takeJob 0, .post 0 (.failed "connection refused"),
  .recordOutcome 0 ⟨3, 0, 0⟩, .tick 60000, .takeJob 0, .post 1 (.answered 200 "ok"),
  .recordOutcome 1 ⟨3, 0, 60000⟩]

theorem circuit_counts_recovering :
    (run Watched.step (.start [⟨"https://example.test", [], true⟩] 0) recovering).Counts ∧
      Along Watched.step Watched.OpensAtThreshold
        (.start [⟨"https://example.test", [], true⟩] 0) recovering :=
  circuit_counts _ _ _ (by decide +kernel)

/-- A delivery whose first two attempts fail. -/
def failingTwice : List WebhookOp := [
  .sendTestEvent 0 0, .takeJob 0, .post 0 (.failed "connection refused"),
  .recordOutcome 0 ⟨3, 0, 0⟩, .tick 60000, .takeJob 0, .post 1 (.failed "connection refused"),
  .recordOutcome 1 ⟨3, 0, 60000⟩]

/-- Two failed attempts of one delivery count two. -/
theorem attempts_counted :
    let v := run Watched.step (.start [⟨"https://example.test", [], true⟩] 0) failingTwice
    v.failing 0 = [0] ∧ v.world.tables.endpoints[0]?.map (·.consecutiveFailures) = some 2 ∧
      ¬v.Counts := by
  intro v
  have failing : v.failing 0 = [0] := by decide +kernel
  have twice : v.world.tables.endpoints[0]?.map (·.consecutiveFailures) = some 2 := by
    decide +kernel
  refine ⟨failing, twice, fun counts => ?_⟩
  obtain ⟨row, found, count⟩ := Option.map_eq_some_iff.mp twice
  have counted := counts.1 0 row found
  rw [failing, count] at counted
  cases counted

end InrSettle
