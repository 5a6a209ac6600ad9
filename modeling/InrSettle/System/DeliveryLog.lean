import InrSettle.System.Webhooks

/-!
# The webhook delivery log

Attempt numbers come from a count read before the post, and the index on them lets one
run record each: a record that commits found the count as it was read. So the attempt
rows of a delivery are numbered in order, a settled delivery stays as it is, and one
that failed is due or has a job waiting.
-/

namespace InrSettle

open Transaction WebhookTables Run

/-! ### The invariant -/

def WebhookTables.attemptsOf (t : WebhookTables) (deliveryId : Nat) : List WebhookAttempt :=
  t.attempts.filter fun attempt => decide (attempt.deliveryId = deliveryId)

/-- The attempt number a recorded run used. -/
def DeliveryRun.recordedNumber (run : DeliveryRun) : Option (Nat × Nat) :=
  match run.phase with
  | .recorded _ => some (run.context.deliveryId, run.context.attemptNumber)
  | _ => none

/-- A load of the delivery finds an endpoint in service and the event. -/
structure Attemptable (t : WebhookTables) (endpointId eventId : Nat) : Prop where
  endpoint : ∃ row, t.endpoints[endpointId]? = some row ∧ row.status ≠ .disabled
  event : ∃ event, t.events[eventId]? = some event

structure DeliveryInOrder (t : WebhookTables) (clock : Instant) (deliveryId : Nat)
    (delivery : WebhookDelivery) : Prop where
  numbered : (t.attemptsOf deliveryId).map (·.attemptNumber) =
    List.range' 1 delivery.attemptCount
  bounded : delivery.attemptCount ≤ maxAttempts
  unsettled : delivery.status.isSettled = false → delivery.attemptCount < maxAttempts
  attempted : 0 < delivery.attemptCount → Attemptable t delivery.endpointId delivery.eventId
  failed : delivery.status = .failed →
    0 < delivery.attemptCount ∧ Waits clock t.jobs deliveryId delivery.nextAttemptAt

/-- How far a run is behind the delivery it read. -/
def RunPhase.Behind (phase : RunPhase) (ctx : DeliveryContext) (t : WebhookTables)
    (delivery : WebhookDelivery) : Prop :=
  match phase with
  | .recorded response => ctx.attemptCount < delivery.attemptCount ∧
      ∃ durationMs, response.attempt ctx durationMs ∈ t.attempts
  | _ => ctx.attemptCount ≤ delivery.attemptCount ∧
      (ctx.attemptCount = delivery.attemptCount → delivery.status.isSettled = false)

structure RunInOrder (t : WebhookTables) (run : DeliveryRun) (delivery : WebhookDelivery) :
    Prop where
  found : t.deliveries[run.context.deliveryId]? = some delivery
  endpoint : run.context.endpointId = delivery.endpointId
  attemptable : Attemptable t delivery.endpointId delivery.eventId
  behind : run.phase.Behind run.context t delivery

structure LogInOrder (w : WebhookWorld) : Prop where
  checked : ∀ row ∈ w.tables.endpoints, endpointChecks row = true
  known : ∀ attempt ∈ w.tables.attempts, attempt.deliveryId < w.tables.deliveries.length
  deliveries : ∀ deliveryId delivery, w.tables.deliveries[deliveryId]? = some delivery →
    DeliveryInOrder w.tables w.clock deliveryId delivery
  runs : ∀ run ∈ w.runs, ∃ delivery, RunInOrder w.tables run delivery
  apart : Table.Unique DeliveryRun.recordedNumber w.runs

theorem LogInOrder.start (endpoints : List WebhookWorld.NewEndpoint) (clock : Instant) :
    LogInOrder (WebhookWorld.start endpoints clock) where
  checked := by
    intro row mem
    obtain ⟨e, -, rfl⟩ := List.mem_map.mp mem
    cases service : e.inService <;> simp [WebhookWorld.NewEndpoint.row, endpointChecks, service]
  known := by simp [WebhookWorld.start]
  deliveries := by simp [WebhookWorld.start]
  runs := by simp [WebhookWorld.start]
  apart := List.Pairwise.nil

/-! ### Steps that record nothing -/

theorem Attemptable.kept {t t' : WebhookTables} {endpointId eventId : Nat}
    (held : Attemptable t endpointId eventId)
    (endpoints : EndpointsKept t.endpoints t'.endpoints) (events : t.events <+: t'.events) :
    Attemptable t' endpointId eventId where
  endpoint := by
    obtain ⟨row, found, inService⟩ := held.endpoint
    exact endpoints.inService endpointId row found inService
  event := held.event.imp fun _ found => by
    obtain ⟨more, rows⟩ := events
    rw [← rows, List.getElem?_append_left (List.getElem?_eq_some_iff.mp found).1]
    exact found

theorem DeliveryInOrder.kept {t t' : WebhookTables} {clock clock' : Instant} {deliveryId : Nat}
    {delivery : WebhookDelivery} (held : DeliveryInOrder t clock deliveryId delivery)
    (endpoints : EndpointsKept t.endpoints t'.endpoints) (events : t.events <+: t'.events)
    (attempts : t'.attemptsOf deliveryId = t.attemptsOf deliveryId)
    (waits : ∀ due, Waits clock t.jobs deliveryId due → Waits clock' t'.jobs deliveryId due) :
    DeliveryInOrder t' clock' deliveryId delivery where
  numbered := attempts ▸ held.numbered
  bounded := held.bounded
  unsettled := held.unsettled
  attempted some := (held.attempted some).kept endpoints events
  failed is := ⟨(held.failed is).1, waits _ (held.failed is).2⟩

theorem RunPhase.Behind.kept {phase : RunPhase} {ctx : DeliveryContext} {t t' : WebhookTables}
    {delivery : WebhookDelivery} (held : phase.Behind ctx t delivery)
    (attempts : ∀ attempt ∈ t.attempts, attempt ∈ t'.attempts) :
    phase.Behind ctx t' delivery := by
  cases phase with
  | recorded response => exact ⟨held.1, held.2.imp fun _ mem => attempts _ mem⟩
  | _ => exact held

theorem RunInOrder.kept {t t' : WebhookTables} {run : DeliveryRun} {delivery : WebhookDelivery}
    (held : RunInOrder t run delivery) (endpoints : EndpointsKept t.endpoints t'.endpoints)
    (events : t.events <+: t'.events) (attempts : t'.attempts = t.attempts)
    (deliveries : t.deliveries <+: t'.deliveries) : RunInOrder t' run delivery where
  found := by
    obtain ⟨more, rows⟩ := deliveries
    rw [← rows, List.getElem?_append_left (List.getElem?_eq_some_iff.mp held.found).1]
    exact held.found
  endpoint := held.endpoint
  attemptable := held.attemptable.kept endpoints events
  behind := held.behind.kept fun _ mem => attempts ▸ mem

theorem DeliveryInOrder.fresh {t : WebhookTables} {clock : Instant} {deliveryId : Nat}
    {delivery : WebhookDelivery} (pending : delivery.status = .pending)
    (unattempted : delivery.attemptCount = 0) (none : t.attemptsOf deliveryId = []) :
    DeliveryInOrder t clock deliveryId delivery where
  numbered := by simp [none, unattempted]
  bounded := by simp [unattempted]
  unsettled _ := by simp [unattempted, maxAttempts]
  attempted some := by omega
  failed is := by simp [pending] at is

namespace LogInOrder

variable {w : WebhookWorld}

theorem unknown (held : LogInOrder w) {deliveryId : Nat}
    (new : w.tables.deliveries.length ≤ deliveryId) : w.tables.attemptsOf deliveryId = [] :=
  List.filter_eq_nil_iff.mpr fun attempt mem => by
    have old := held.known attempt mem
    simp only [decide_eq_true_eq]
    omega

theorem endpointsKept {rows : List WebhookEndpoint} (held : LogInOrder w)
    (kept : EndpointsKept w.tables.endpoints rows) :
    LogInOrder { w with tables := { w.tables with endpoints := rows } } where
  checked := kept.checked held.checked
  known := held.known
  deliveries deliveryId delivery found :=
    (held.deliveries deliveryId delivery found).kept kept List.prefix_rfl rfl fun _ waits => waits
  runs run mem := (held.runs run mem).imp fun _ order =>
    order.kept kept List.prefix_rfl rfl List.prefix_rfl
  apart := held.apart

theorem grown {t : WebhookTables} {drains : List DrainRun} (held : LogInOrder w)
    (grown : Grown w.tables t) : LogInOrder { w with tables := t, drains } := by
  obtain ⟨new, rows, fresh⟩ := grown.deliveries
  have endpoints : EndpointsKept w.tables.endpoints t.endpoints := grown.endpoints ▸ .refl _
  have attempts : ∀ deliveryId, t.attemptsOf deliveryId = w.tables.attemptsOf deliveryId :=
    fun _ => by rw [attemptsOf, attemptsOf, grown.attempts]
  refine ⟨grown.endpoints ▸ held.checked, fun attempt mem => ?_, fun deliveryId delivery is => ?_,
    fun run mem => (held.runs run mem).imp fun _ order => ?_, held.apart⟩
  · have old := held.known attempt (grown.attempts ▸ mem)
    simp only [rows, List.length_append]
    omega
  · by_cases old : deliveryId < w.tables.deliveries.length
    · simp only [rows, List.getElem?_append_left old] at is
      refine (held.deliveries deliveryId delivery is).kept endpoints grown.prefix
        (attempts deliveryId) fun due waits => ?_
      simpa only [Waits, grown.jobs deliveryId old] using waits
    · simp only [rows, List.getElem?_append_right (not_lt.mp old)] at is
      obtain ⟨pending, unattempted⟩ := fresh delivery (List.mem_of_getElem? is)
      exact .fresh pending unattempted ((attempts deliveryId).trans (held.unknown (not_lt.mp old)))
  · exact order.kept endpoints grown.prefix grown.attempts ⟨new, rows.symm⟩

theorem queued {jobs : Nat → Option Instant} (held : LogInOrder w)
    (kept : ∀ id due, Waits w.clock w.tables.jobs id due → Waits w.clock jobs id due) :
    LogInOrder { w with tables := { w.tables with jobs } } where
  checked := held.checked
  known := held.known
  deliveries deliveryId delivery found :=
    (held.deliveries deliveryId delivery found).kept (.refl _) List.prefix_rfl rfl (kept deliveryId)
  runs run mem := (held.runs run mem).imp fun _ order =>
    order.kept (.refl _) List.prefix_rfl rfl List.prefix_rfl
  apart := held.apart

theorem ticked {ms : Nat} (held : LogInOrder w) : LogInOrder { w with clock := w.clock + ms } where
  checked := held.checked
  known := held.known
  deliveries deliveryId delivery found :=
    (held.deliveries deliveryId delivery found).kept (.refl _) List.prefix_rfl rfl fun _ waits =>
      waits.imp_left fun past => past.trans (Nat.le_add_right _ _)
  runs := held.runs
  apart := held.apart

/-- A new run has read the delivery as it is. -/
theorem loaded {deliveryId : Nat} {context : DeliveryContext} {endpoint : WebhookEndpoint}
    (held : LogInOrder w) (found : loadContext w.tables deliveryId = .ok (context, endpoint)) :
    LogInOrder { w with runs := w.runs ++ [{ context, endpoint }] } := by
  obtain ⟨delivery, there, unsettled, row, inService, event, rfl⟩ := loadContext_eq_ok.mp found
  refine ⟨held.checked, held.known, held.deliveries, ?_, held.apart.append (by
    simp [Table.admits, DeliveryRun.recordedNumber])⟩
  refine List.forall_mem_append.mpr ⟨held.runs, List.forall_mem_singleton.mpr ⟨delivery, ?_⟩⟩
  exact ⟨there, rfl, ⟨⟨endpoint, row, inService⟩, event⟩, le_refl _, fun _ => unsettled⟩

/-- A run that goes on without recording. -/
theorem moved {runId : Nat} {ctx : DeliveryContext} {endpoint : WebhookEndpoint}
    {phase phase' : RunPhase} (held : LogInOrder w)
    (found : w.runs[runId]? = some ⟨ctx, endpoint, phase⟩)
    (before : ∀ t delivery, phase.Behind ctx t delivery → phase'.Behind ctx t delivery)
    (unrecorded : ∀ response, phase' ≠ .recorded response) :
    LogInOrder { w with runs := w.runs.set runId ⟨ctx, endpoint, phase'⟩ } := by
  refine ⟨held.checked, held.known, held.deliveries, fun run mem => ?_, ?_⟩
  · rcases List.mem_or_eq_of_mem_set mem with old | rfl
    · exact held.runs run old
    · obtain ⟨delivery, order⟩ := held.runs _ (List.mem_of_getElem? found)
      exact ⟨delivery, order.found, order.endpoint, order.attemptable, before _ _ order.behind⟩
  · refine held.apart.set fun k is => ?_
    cases phase' with
    | recorded response => exact (unrecorded response rfl).elim
    | _ => cases is

end LogInOrder

/-! ### Recording -/

section Recording

variable {outcome : DeliveryOutcome} {ctx : DeliveryContext} {input : RecordInput}

theorem DeliveryOutcome.nextAt_some {nextAt : Instant}
    (next : outcome.nextAt ctx.attemptNumber input = some nextAt) :
    outcome.isDelivered = false ∧ ctx.attemptNumber < maxAttempts := by
  cases outcome with
  | delivered code => cases next
  | rejected code => cases next
  | retryable code error =>
    obtain ⟨schedule, scheduled, -⟩ := Option.map_eq_some_iff.mp next
    exact ⟨rfl, (nextAttempt_isSome.mp (Option.isSome_of_mem scheduled)).2⟩

/-- Where the outcome leaves a delivery: settled, or failed with its next attempt. -/
theorem DeliveryOutcome.settle_status (outcome : DeliveryOutcome) (ctx : DeliveryContext)
    (input : RecordInput) (row : WebhookDelivery) :
    (outcome.nextAt ctx.attemptNumber input = none ∧
        (outcome.settle ctx input row).status.isSettled = true) ∨
      ∃ nextAt, outcome.nextAt ctx.attemptNumber input = some nextAt ∧
        (outcome.settle ctx input row).status = .failed ∧
        (outcome.settle ctx input row).nextAttemptAt = nextAt := by
  cases next : outcome.nextAt ctx.attemptNumber input with
  | none =>
    refine .inl ⟨rfl, ?_⟩
    cases delivered : outcome.isDelivered <;>
      simp [settle, next, delivered, DeliveryStatus.isSettled]
  | some nextAt =>
    have undelivered := (nextAt_some next).1
    exact .inr ⟨nextAt, rfl, by simp [settle, next, undelivered], by simp [settle, next]⟩

end Recording

@[simp] theorem PostResponse.attempt_deliveryId (response : PostResponse) (ctx : DeliveryContext)
    (durationMs : Nat) : (response.attempt ctx durationMs).deliveryId = ctx.deliveryId := by
  cases response <;> rfl

@[simp] theorem PostResponse.attempt_number (response : PostResponse) (ctx : DeliveryContext)
    (durationMs : Nat) : (response.attempt ctx durationMs).attemptNumber = ctx.attemptNumber := by
  cases response <;> rfl

section Recorded

variable {ctx : DeliveryContext} {response : PostResponse} {input : RecordInput}
  {t : WebhookTables} {clock : Instant} {delivery : WebhookDelivery}

/-- The index admits the number that follows the count, and no lower one. -/
theorem DeliveryInOrder.admits_iff (held : DeliveryInOrder t clock ctx.deliveryId delivery)
    (behind : ctx.attemptCount ≤ delivery.attemptCount) :
    Table.admits sequenceKey t.attempts (response.attempt ctx input.durationMs) = true ↔
      ctx.attemptCount = delivery.attemptCount := by
  have used : ∀ n, (∃ a ∈ t.attempts, a.deliveryId = ctx.deliveryId ∧ a.attemptNumber = n) ↔
      1 ≤ n ∧ n < 1 + delivery.attemptCount := by
    intro n
    rw [← List.mem_range'_1, ← held.numbered]
    simp [attemptsOf, and_assoc]
  have own := used ctx.attemptNumber
  simp only [Table.admits_iff, sequenceKey, PostResponse.attempt_deliveryId,
    PostResponse.attempt_number, Option.some.injEq, forall_eq', Prod.mk.injEq, ne_eq]
  have absent : (∀ a ∈ t.attempts, ¬(a.deliveryId = ctx.deliveryId ∧
      a.attemptNumber = ctx.attemptNumber)) ↔ ¬(1 ≤ ctx.attemptNumber ∧
      ctx.attemptNumber < 1 + delivery.attemptCount) := by
    rw [← own]
    simp
  rw [absent]
  unfold DeliveryContext.attemptNumber
  omega

theorem recorded_attemptsOf (deliveryId : Nat) :
    (ctx.recorded response input t).attemptsOf deliveryId =
      t.attemptsOf deliveryId ++ if ctx.deliveryId = deliveryId then
        [response.attempt ctx input.durationMs] else [] := by
  simp only [attemptsOf, DeliveryContext.recorded, List.filter_append, List.filter_singleton,
    PostResponse.attempt_deliveryId, Bool.cond_decide]

theorem recorded_jobs {deliveryId : Nat} (other : ctx.deliveryId ≠ deliveryId) :
    (ctx.recorded response input t).jobs deliveryId = t.jobs deliveryId := by
  cases next : response.outcome.nextAt ctx.attemptNumber input <;>
    simp [DeliveryContext.recorded, next, Function.update_of_ne (Ne.symm other)]

theorem recorded_endpoints : EndpointsKept t.endpoints
    (ctx.recorded response input t).endpoints := by
  refine .modify (fun row _ checks => EndpointHealth.write_checks checks) fun row inService => ?_
  unfold EndpointHealth.write
  split
  · nofun
  · exact inService

theorem recorded_events : t.events <+: (ctx.recorded response input t).events :=
  List.prefix_append _ _

/-- The recorded delivery is in order again. -/
theorem DeliveryInOrder.recorded (held : DeliveryInOrder t clock ctx.deliveryId delivery)
    (attemptable : Attemptable t delivery.endpointId delivery.eventId)
    (current : ctx.attemptCount = delivery.attemptCount)
    (unsettled : delivery.status.isSettled = false) :
    DeliveryInOrder (ctx.recorded response input t) clock ctx.deliveryId
      (response.outcome.settle ctx input delivery) := by
  have number : ctx.attemptNumber = delivery.attemptCount + 1 := by
    rw [DeliveryContext.attemptNumber, current]
  have count : (response.outcome.settle ctx input delivery).attemptCount =
      delivery.attemptCount + 1 := number
  have below := held.unsettled unsettled
  refine ⟨?_, by omega, fun open' => ?_, fun _ => ?_, fun failed => ?_⟩
  · rw [recorded_attemptsOf, if_pos rfl, List.map_append, held.numbered, List.map_singleton,
      response.attempt_number, number, count, List.range'_concat]
    simp [Nat.add_comm]
  · rcases response.outcome.settle_status ctx input delivery with ⟨-, settled⟩ | ⟨nextAt, next, -⟩
    · simp [settled] at open'
    · have within := (DeliveryOutcome.nextAt_some next).2
      omega
  · exact attemptable.kept recorded_endpoints recorded_events
  · rcases response.outcome.settle_status ctx input delivery with ⟨-, settled⟩ | ⟨nextAt, next, -, time⟩
    · simp [failed, DeliveryStatus.isSettled] at settled
    · refine ⟨by omega, .inr ⟨nextAt, ?_, time.le⟩⟩
      simp [DeliveryContext.recorded, next]

end Recorded

namespace LogInOrder

variable {w : WebhookWorld} {runId : Nat} {ctx : DeliveryContext} {endpoint : WebhookEndpoint}
  {response : PostResponse} {input : RecordInput}

/-- A record that is admitted finds its delivery as the run read it. -/
theorem current (held : LogInOrder w)
    (posted : w.runs[runId]? = some ⟨ctx, endpoint, .posted response⟩)
    (admitted : Table.admits sequenceKey w.tables.attempts
      (response.attempt ctx input.durationMs) = true) :
    ∃ delivery, RunInOrder w.tables ⟨ctx, endpoint, .posted response⟩ delivery ∧
      ctx.attemptCount = delivery.attemptCount ∧ delivery.status.isSettled = false := by
  obtain ⟨delivery, order⟩ := held.runs _ (List.mem_of_getElem? posted)
  have same := ((held.deliveries _ delivery order.found).admits_iff order.behind.1).mp admitted
  exact ⟨delivery, order, same, order.behind.2 same⟩

theorem recorded_found {t : WebhookTables} {delivery : WebhookDelivery}
    (found : t.deliveries[ctx.deliveryId]? = some delivery) (deliveryId : Nat) :
    (ctx.recorded response input t).deliveries[deliveryId]? =
      if ctx.deliveryId = deliveryId then some (response.outcome.settle ctx input delivery)
      else t.deliveries[deliveryId]? := by
  simp only [DeliveryContext.recorded, List.getElem?_modify]
  split
  · rename_i same
    simp [← same, found]
  · simp

theorem recorded (held : LogInOrder w)
    (posted : w.runs[runId]? = some ⟨ctx, endpoint, .posted response⟩)
    (admitted : Table.admits sequenceKey w.tables.attempts
      (response.attempt ctx input.durationMs) = true) :
    LogInOrder { w with
      tables := ctx.recorded response input w.tables
      runs := w.runs.set runId ⟨ctx, endpoint, .recorded response⟩ } := by
  obtain ⟨delivery, order, same, unsettled⟩ := held.current posted admitted
  have found : w.tables.deliveries[ctx.deliveryId]? = some delivery := order.found
  have rows : ∀ deliveryId, (ctx.recorded response input w.tables).deliveries[deliveryId]? =
      if ctx.deliveryId = deliveryId then some (response.outcome.settle ctx input delivery)
      else w.tables.deliveries[deliveryId]? := recorded_found found
  have settled : (ctx.recorded response input w.tables).deliveries[ctx.deliveryId]? =
      some (response.outcome.settle ctx input delivery) := by simp [rows]
  have count : (response.outcome.settle ctx input delivery).attemptCount = ctx.attemptCount + 1 :=
    rfl
  have attempts : ∀ attempt ∈ w.tables.attempts,
      attempt ∈ (ctx.recorded response input w.tables).attempts := fun _ mem =>
    List.mem_append_left _ mem
  have kept : EndpointsKept w.tables.endpoints
      (ctx.recorded response input w.tables).endpoints := recorded_endpoints
  refine ⟨kept.checked held.checked, fun attempt mem => ?_, fun deliveryId row is => ?_,
    fun run mem => ?_, held.apart.set fun k is run mem recordedIs => ?_⟩
  · have length : (ctx.recorded response input w.tables).deliveries.length =
        w.tables.deliveries.length := List.length_modify ..
    rw [length]
    rcases List.mem_append.mp mem with old | new
    · exact held.known attempt old
    · rw [List.mem_singleton.mp new, PostResponse.attempt_deliveryId]
      exact (List.getElem?_eq_some_iff.mp order.found).1
  · rw [rows] at is
    split at is
    · rename_i own
      obtain rfl := Option.some.inj is
      subst own
      exact (held.deliveries _ delivery order.found).recorded order.attemptable same unsettled
    · rename_i other
      refine (held.deliveries deliveryId row is).kept kept recorded_events ?_ fun due waits => ?_
      · rw [recorded_attemptsOf, if_neg other, List.append_nil]
      · rw [Waits, recorded_jobs other]
        exact waits
  · rcases List.mem_or_eq_of_mem_set mem with old | rfl
    · obtain ⟨read, is⟩ := held.runs run old
      by_cases own : ctx.deliveryId = run.context.deliveryId
      · obtain rfl := Option.some.inj (order.found.symm.trans (own ▸ is.found))
        refine ⟨response.outcome.settle ctx input delivery, own ▸ settled, is.endpoint,
          is.attemptable.kept kept recorded_events, ?_⟩
        have behind := is.behind
        cases phase : run.phase <;> simp only [phase, RunPhase.Behind] at behind ⊢
        case recorded => exact ⟨by omega, behind.2.imp fun _ mem => attempts _ mem⟩
        all_goals exact ⟨by omega, fun _ => by omega⟩
      · refine ⟨read, ?_, is.endpoint, is.attemptable.kept kept recorded_events,
          is.behind.kept attempts⟩
        rw [rows, if_neg own]
        exact is.found
    · exact ⟨response.outcome.settle ctx input delivery, settled, order.endpoint,
        order.attemptable.kept kept recorded_events,
        Nat.lt_of_lt_of_eq (Nat.lt_succ_self _) count.symm, input.durationMs, List.mem_append_right _ (List.mem_singleton_self _)⟩
  · -- A run that recorded before is behind the count this run read.
    obtain ⟨other, is'⟩ := held.runs run mem
    have behind := is'.behind
    cases phase : run.phase <;> simp only [phase, DeliveryRun.recordedNumber] at recordedIs
    case recorded answered =>
      simp only [phase, RunPhase.Behind] at behind
      simp only [DeliveryRun.recordedNumber, Option.some.injEq] at is
      subst is
      obtain ⟨own, number⟩ := Prod.mk.inj (Option.some.inj recordedIs)
      obtain rfl := Option.some.inj (order.found.symm.trans (own ▸ is'.found))
      simp only [DeliveryContext.attemptNumber] at number
      omega
    all_goals cases recordedIs

theorem effect {w' : WebhookWorld} (held : LogInOrder w) (effect : WebhookEffect w w') :
    LogInOrder w' := by
  cases effect with
  | endpoints kept => exact held.endpointsKept kept
  | grown grown => exact held.grown grown
  | queued kept => exact held.queued kept
  | loaded kept found => exact (held.queued kept).loaded found
  | posted loaded => exact held.moved loaded (fun _ _ behind => behind) nofun
  | aborted posted => exact held.moved posted (fun _ _ behind => behind) nofun
  | recorded posted admitted => exact held.recorded posted admitted
  | ticked => exact held.ticked

theorem step (held : LogInOrder w) (op : WebhookOp) : LogInOrder (w.step op) :=
  held.effect (w.step_effect op)

theorem reached (endpoints : List WebhookWorld.NewEndpoint) (clock : Instant)
    (ops : List WebhookOp) : LogInOrder (run WebhookWorld.step (.start endpoints clock) ops) :=
  run_invariant (fun _ op held => held.step op) (.start endpoints clock) ops

/-! ### Settled deliveries -/

theorem settled_effect {w' : WebhookWorld} {deliveryId : Nat} {delivery : WebhookDelivery}
    (held : LogInOrder w) (effect : WebhookEffect w w')
    (found : w.tables.deliveries[deliveryId]? = some delivery)
    (settled : delivery.status.isSettled = true) :
    w'.tables.deliveries[deliveryId]? = some delivery := by
  cases effect with
  | grown grown =>
    obtain ⟨new, rows, -⟩ := grown.deliveries
    simp only [rows]
    rw [List.getElem?_append_left (List.getElem?_eq_some_iff.mp found).1]
    exact found
  | recorded posted admitted =>
    obtain ⟨row, order, -, unsettled⟩ := held.current posted admitted
    simp only [recorded_found order.found]
    split
    · rename_i same
      obtain rfl := Option.some.inj (order.found.symm.trans (same ▸ found))
      simp [settled] at unsettled
    · exact found
  | _ => exact found

theorem settled_run {deliveryId : Nat} {delivery : WebhookDelivery} (held : LogInOrder w)
    (found : w.tables.deliveries[deliveryId]? = some delivery)
    (settled : delivery.status.isSettled = true) (ops : List WebhookOp) :
    (run WebhookWorld.step w ops).tables.deliveries[deliveryId]? = some delivery :=
  (run_invariant (I := fun w => LogInOrder w ∧ w.tables.deliveries[deliveryId]? = some delivery)
    (fun w op kept => ⟨kept.1.step op, kept.1.settled_effect (w.step_effect op) kept.2 settled⟩)
    ⟨held, found⟩ ops).2

end LogInOrder

/-! ### Progress -/

namespace WebhookWorld

/-- The next attempt of a delivery: its waiting job once that is due or, where none waits, the job
delivered again; the post; and the record. -/
def nextAttemptOps (w : WebhookWorld) (deliveryId : Nat) (response : PostResponse)
    (input : RecordInput) : List WebhookOp :=
  (match w.tables.jobs deliveryId with
    | some runAt => [.tick (runAt - w.clock), .takeJob deliveryId]
    | none => [.redeliver deliveryId]) ++
  [.post w.runs.length response, .recordOutcome w.runs.length input]

/-- One attempt after the other, with what the endpoint answers each. -/
def attempting (deliveryId : Nat) : List (PostResponse × RecordInput) → WebhookWorld → WebhookWorld
  | [], w => w
  | (response, input) :: rest, w =>
    attempting deliveryId rest (run step w (w.nextAttemptOps deliveryId response input))

theorem recordOutcome_ran {w : WebhookWorld} {runId : Nat} {ctx : DeliveryContext}
    {endpoint : WebhookEndpoint} {response : PostResponse} {input : RecordInput}
    (posted : w.runs[runId]? = some ⟨ctx, endpoint, .posted response⟩)
    (checked : ∀ row ∈ w.tables.endpoints, endpointChecks row = true)
    (admitted : Table.admits sequenceKey w.tables.attempts
      (response.attempt ctx input.durationMs) = true) :
    w.recordOutcome runId input = { w with
      tables := ctx.recorded response input w.tables
      runs := w.runs.set runId ⟨ctx, endpoint, .recorded response⟩ } := by
  obtain ⟨result, committed⟩ := commits_recordOutcome.mpr
    ⟨admitted, fun row found => EndpointHealth.write_checks (checked row
      (List.mem_of_getElem? found)), (rfl : ctx.recorded response input w.tables = _)⟩
  simp [recordOutcome, posted, answer_of_commits committed, after_of_commits committed]

/-- The job of an unsettled delivery starts a run that has read it as it is. -/
theorem nextAttempt_loads {w : WebhookWorld} {deliveryId : Nat} {delivery : WebhookDelivery}
    (found : w.tables.deliveries[deliveryId]? = some delivery)
    (unsettled : delivery.status.isSettled = false)
    (attemptable : Attemptable w.tables delivery.endpointId delivery.eventId) :
    ∃ ctx endpoint jobs clock, ctx.deliveryId = deliveryId ∧
      ctx.attemptCount = delivery.attemptCount ∧
      run step w (match w.tables.jobs deliveryId with
        | some runAt => [.tick (runAt - w.clock), .takeJob deliveryId]
        | none => [.redeliver deliveryId]) =
      { w with
        tables := { w.tables with jobs }
        clock
        runs := w.runs ++ [⟨ctx, endpoint, .loaded⟩] } := by
  obtain ⟨⟨endpoint, row, inService⟩, event⟩ := attemptable
  let ctx : DeliveryContext := ⟨deliveryId, delivery.endpointId, endpoint.url,
    delivery.attemptCount, endpoint.consecutiveFailures⟩
  have context : ∀ jobs, loadContext { w.tables with jobs } deliveryId = .ok (ctx, endpoint) :=
    fun jobs => loadContext_eq_ok.mpr ⟨delivery, found, unsettled, row, inService, event, rfl⟩
  cases waiting : w.tables.jobs deliveryId with
  | none =>
    refine ⟨ctx, endpoint, w.tables.jobs, w.clock, rfl, rfl, ?_⟩
    have own : loadContext w.tables deliveryId = .ok (ctx, endpoint) := context w.tables.jobs
    simp [step, load, own]
  | some runAt =>
    refine ⟨ctx, endpoint, Function.update w.tables.jobs deliveryId none,
      w.clock + (runAt - w.clock), rfl, rfl, ?_⟩
    have due : runAt ≤ w.clock + (runAt - w.clock) := Nat.sub_le_iff_le_add'.mp le_rfl
    simp [step, takeJob, waiting, due, load, context]

theorem nextAttempt_records {w : WebhookWorld} {deliveryId : Nat} {delivery : WebhookDelivery}
    (held : LogInOrder w) (found : w.tables.deliveries[deliveryId]? = some delivery)
    (unsettled : delivery.status.isSettled = false)
    (attemptable : Attemptable w.tables delivery.endpointId delivery.eventId)
    (response : PostResponse) (input : RecordInput) :
    ∃ ctx, ctx.attemptCount = delivery.attemptCount ∧
      (run step w (w.nextAttemptOps deliveryId response input)).tables.deliveries[deliveryId]? =
        some (response.outcome.settle ctx input delivery) := by
  obtain ⟨ctx, endpoint, jobs, clock, rfl, read, loads⟩ :=
    nextAttempt_loads found unsettled attemptable
  refine ⟨ctx, read, ?_⟩
  rw [nextAttemptOps, run_append, loads]
  have admitted : Table.admits sequenceKey w.tables.attempts
      (response.attempt ctx input.durationMs) = true :=
    ((held.deliveries _ delivery found).admits_iff read.le).mpr read
  simp only [run_cons, run_nil, step, post, List.getElem?_concat_length]
  rw [@recordOutcome_ran _ _ ctx endpoint response]
  · exact (LogInOrder.recorded_found (t := { w.tables with jobs }) found _).trans (if_pos rfl)
  · simp
  · exact held.checked
  · exact admitted

theorem attempting_settled {deliveryId : Nat} {delivery : WebhookDelivery}
    (settled : delivery.status.isSettled = true) (answers : List (PostResponse × RecordInput))
    {w : WebhookWorld} (held : LogInOrder w)
    (found : w.tables.deliveries[deliveryId]? = some delivery) :
    (attempting deliveryId answers w).tables.deliveries[deliveryId]? = some delivery := by
  induction answers generalizing w with
  | nil => exact found
  | cons answer rest ih =>
    exact ih (run_invariant (fun _ op held => held.step op) held _)
      (held.settled_run found settled _)

/-- Whatever the endpoint answers, the attempts that are left settle the delivery. -/
theorem attempting_settles {deliveryId : Nat} (answers : List (PostResponse × RecordInput))
    {w : WebhookWorld} {delivery : WebhookDelivery} (held : LogInOrder w)
    (found : w.tables.deliveries[deliveryId]? = some delivery)
    (failed : delivery.status = .failed)
    (enough : maxAttempts - delivery.attemptCount ≤ answers.length) :
    ∃ done, (attempting deliveryId answers w).tables.deliveries[deliveryId]? = some done ∧
      done.status.isSettled = true := by
  have unsettled : delivery.status.isSettled = false := by simp [failed, DeliveryStatus.isSettled]
  have order := held.deliveries deliveryId delivery found
  induction answers generalizing w delivery with
  | nil =>
    have below := order.unsettled unsettled
    simp only [List.length_nil] at enough
    omega
  | cons answer rest ih =>
    obtain ⟨response, input⟩ := answer
    obtain ⟨ctx, read, records⟩ := nextAttempt_records held found unsettled
      (order.attempted (order.failed failed).1) response input
    have next := run_invariant (fun _ op held => held.step op) held
      (w.nextAttemptOps deliveryId response input)
    rcases response.outcome.settle_status ctx input delivery with ⟨-, settled⟩ | ⟨nextAt, -, again, -⟩
    · exact ⟨_, attempting_settled settled rest next records, settled⟩
    · have count : (response.outcome.settle ctx input delivery).attemptCount =
          delivery.attemptCount + 1 := congrArg (· + 1) read
      simp only [List.length_cons] at enough
      exact ih next records again (by omega) (by simp [again, DeliveryStatus.isSettled])
        (next.deliveries deliveryId _ records)

end WebhookWorld

/-! ### The log -/

theorem waits_due {w : WebhookWorld} {deliveryId : Nat} {delivery : WebhookDelivery}
    (found : w.tables.deliveries[deliveryId]? = some delivery)
    (failed : delivery.status = .failed)
    (waits : Waits w.clock w.tables.jobs deliveryId delivery.nextAttemptAt) :
    (w.tables.jobs deliveryId).isSome = true ∨
      deliveryId ∈ dueDeliveries w.tables w.clock w.tables.deliveries.length := by
  rcases waits with due | ⟨runAt, waiting, -⟩
  · right
    have within := (List.getElem?_eq_some_iff.mp found).1
    rw [dueDeliveries, List.take_of_length_le (by
      exact (List.length_filter_le _ _).trans List.length_range.le)]
    refine List.mem_filter.mpr ⟨List.mem_range.mpr within, ?_⟩
    simp only [found, failed, Option.any_some]
    simp [due]
  · exact .inl (by simp [waiting])

/-- A number of a delivery in order is the number of one attempt row. -/
theorem DeliveryInOrder.single {t : WebhookTables} {clock : Instant} {deliveryId : Nat}
    {delivery : WebhookDelivery} (held : DeliveryInOrder t clock deliveryId delivery)
    {attempt : WebhookAttempt} (mem : attempt ∈ t.attemptsOf deliveryId) :
    (t.attemptsOf deliveryId).filter
      (fun a => decide (a.attemptNumber = attempt.attemptNumber)) = [attempt] := by
  have distinct : ((t.attemptsOf deliveryId).map (·.attemptNumber)).Nodup :=
    held.numbered ▸ List.nodup_range'
  exact Table.filter_key_eq_singleton distinct mem

end InrSettle
