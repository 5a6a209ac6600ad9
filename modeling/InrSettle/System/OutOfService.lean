import InrSettle.System.Circuits

/-!
# Endpoints out of service

Deleting leaves the circuit's timestamp, which the pairing check refuses; a record
writes the endpoint it read long ago; a load refuses only `disabled`. Where none of
the three matters, what is out of service stays so and is not posted to.
-/

namespace InrSettle

open Transaction WebhookTables Run

namespace WebhookWorld

/-- The removal of an endpoint goes through, a removed one stays removed, and a post is made by a
run that loaded its context from an endpoint in service. -/
def StaysOut (w : WebhookWorld) (op : WebhookOp) : Prop :=
  (∀ args row, op = .deleteWebhookEndpoint args → "apikey:manage" ∈ args.actorCapabilities →
      w.tables.endpoints[args.endpointId]? = some row → row.status ≠ .deleted →
      (w.step op).tables.statusOf args.endpointId = some .deleted) ∧
    (∀ endpointId, w.tables.statusOf endpointId = some .deleted →
      (w.step op).tables.statusOf endpointId = some .deleted) ∧
    ∀ runId response ctx endpoint, op = .post runId response →
      w.runs[runId]? = some ⟨ctx, endpoint, .loaded⟩ → endpoint.status = .enabled

/-- The endpoint of an unsettled delivery is not deleted and its circuit is closed. -/
def LoadsInService (w : WebhookWorld) (deliveryId : Nat) : Prop :=
  ∀ delivery ∈ w.tables.deliveries[deliveryId]?, delivery.status.isSettled = false →
    w.tables.statusOf delivery.endpointId ≠ some .deleted ∧
      w.tables.statusOf delivery.endpointId ≠ some .circuitOpen

/-- No removal of an endpoint whose circuit is open, no circuit opened on a removed endpoint, and no
load of an unsettled delivery of either. -/
def KeepsOut (w : WebhookWorld) : WebhookOp → Prop
  | .deleteWebhookEndpoint args => w.tables.statusOf args.endpointId ≠ some .circuitOpen
  | .recordOutcome runId _ => ∀ run ∈ w.posted runId, run.2.outcome.isDelivered = false →
    circuitBreakAfter ≤ run.1.consecutiveFailures + 1 →
      w.tables.statusOf run.1.endpointId ≠ some .deleted
  | .takeJob deliveryId => (w.tables.jobs deliveryId).any
      (fun runAt => decide (runAt ≤ w.clock)) = true → w.LoadsInService deliveryId
  | .redeliver deliveryId => w.LoadsInService deliveryId
  | _ => True

instance (w : WebhookWorld) (deliveryId : Nat) : Decidable (w.LoadsInService deliveryId) :=
  inferInstanceAs (Decidable (∀ delivery ∈ w.tables.deliveries[deliveryId]?, _))

instance (w : WebhookWorld) (op : WebhookOp) : Decidable (w.KeepsOut op) :=
  match op with
  | .deleteWebhookEndpoint _ => inferInstanceAs (Decidable (_ ≠ _))
  | .recordOutcome runId _ => inferInstanceAs (Decidable (∀ run ∈ w.posted runId, _))
  | .takeJob deliveryId => inferInstanceAs (Decidable (_ → w.LoadsInService deliveryId))
  | .redeliver deliveryId => inferInstanceAs (Decidable (w.LoadsInService deliveryId))
  | .createWebhookEndpoint _ | .reopenWebhookEndpoint _ | .recordEvent .. | .claimOutbox ..
  | .readEndpoints _ | .commitDrain _ | .abortDrain _ | .replayEvent .. | .sendTestEvent ..
  | .requeue .. | .post .. | .tick _ => inferInstanceAs (Decidable True)

end WebhookWorld

/-! ### Removal -/

/-- A removal goes through where the row has no circuit timestamp. -/
theorem deleteWebhookEndpoint_commits {args : EndpointInput} {t : WebhookTables}
    {row : WebhookEndpoint} (capable : "apikey:manage" ∈ args.actorCapabilities)
    (found : t.endpoints[args.endpointId]? = some row) (live : row.status ≠ .deleted)
    (closed : row.circuitOpenedAt = none) :
    Commits (deleteWebhookEndpoint args) t true { t with
      endpoints := t.endpoints.modify args.endpointId fun row =>
        { row with status := .deleted, disabledAt := some args.now } } := by
  simp only [deleteWebhookEndpoint, commits_require_bind, commits_get_bind, commits_ite]
  refine ⟨capable, .inl ⟨by simp [found, live], ?_⟩⟩
  refine commits_bind.mpr ⟨⟨⟩, _, commits_updateEndpoint.mpr ⟨fun row' is => ?_, rfl⟩, ?_⟩
  · obtain rfl := Option.some.inj (found.symm.trans is)
    simp [endpointChecks, closed]
  · simp

/-- An endpoint that is not removed can be, exactly where its circuit is not open. -/
theorem deletes_iff {w : WebhookWorld} (held : LogInOrder w) {args : EndpointInput}
    {row : WebhookEndpoint} (capable : "apikey:manage" ∈ args.actorCapabilities)
    (found : w.tables.endpoints[args.endpointId]? = some row) (live : row.status ≠ .deleted) :
    (w.step (.deleteWebhookEndpoint args)).tables.statusOf args.endpointId = some .deleted ↔
      row.status ≠ .circuitOpen := by
  have checks := held.checked row (List.mem_of_getElem? found)
  have before : w.tables.statusOf args.endpointId = some row.status := by
    simp [WebhookTables.statusOf, found]
  constructor
  · intro gone open'
    rcases after_cases (deleteWebhookEndpoint args) w.tables with ⟨r, done⟩ | same
    · rcases deleteWebhookEndpoint_spec done with same | ⟨⟨row', found', -, closed⟩, -⟩
      · simp only [WebhookWorld.step, WebhookWorld.onTables, same, before] at gone
        exact live (Option.some.inj gone)
      · obtain rfl := Option.some.inj (found.symm.trans found')
        simp [endpointChecks, open', closed] at checks
    · simp only [WebhookWorld.step, WebhookWorld.onTables, same, before] at gone
      exact live (Option.some.inj gone)
  · intro off
    have closed : row.circuitOpenedAt = none := by
      simpa [endpointChecks, off] using (Bool.and_eq_true_iff.mp checks).1
    have done := deleteWebhookEndpoint_commits capable found live closed
    simp [WebhookWorld.step, WebhookWorld.onTables, after_of_commits done,
      WebhookTables.statusOf, found]

/-! ### What keeps an endpoint out of service -/

/-- Each run loaded its context from an endpoint in service. -/
structure ServiceInOrder (w : WebhookWorld) : Prop where
  log : LogInOrder w
  loaded : ∀ run ∈ w.runs, run.endpoint.status = .enabled

namespace ServiceInOrder

variable {w : WebhookWorld}

theorem start (endpoints : List WebhookWorld.NewEndpoint) (clock : Instant) :
    ServiceInOrder (.start endpoints clock) :=
  ⟨.start endpoints clock, by simp [WebhookWorld.start]⟩

theorem load {deliveryId : Nat} {jobs : Nat → Option Instant}
    (loaded : ∀ run ∈ w.runs, run.endpoint.status = .enabled)
    (inService : w.LoadsInService deliveryId) :
    ∀ run ∈ (WebhookWorld.load { w with tables := { w.tables with jobs } } deliveryId).runs,
      run.endpoint.status = .enabled := by
  unfold WebhookWorld.load
  split
  · rename_i ctx endpoint context
    obtain ⟨delivery, found, unsettled, row, on, -⟩ := loadContext_eq_ok.mp context
    obtain ⟨live, shut⟩ := inService delivery found unsettled
    refine List.forall_mem_append.mpr ⟨loaded, List.forall_mem_singleton.mpr ?_⟩
    have status : w.tables.statusOf delivery.endpointId = some endpoint.status := by
      simpa [WebhookTables.statusOf] using ⟨endpoint, row, rfl⟩
    rw [status] at live shut
    cases is : endpoint.status with
    | enabled => rfl
    | disabled => exact (on is).elim
    | circuitOpen => exact (shut (is ▸ rfl)).elim
    | deleted => exact (live (is ▸ rfl)).elim
  · exact loaded

theorem set {runId : Nat} {ctx : DeliveryContext} {endpoint : WebhookEndpoint}
    {was is : RunPhase} (loaded : ∀ run ∈ w.runs, run.endpoint.status = .enabled)
    (found : w.runs[runId]? = some ⟨ctx, endpoint, was⟩) :
    ∀ run ∈ w.runs.set runId ⟨ctx, endpoint, is⟩, run.endpoint.status = .enabled := by
  intro run mem
  rcases List.mem_or_eq_of_mem_set mem with old | rfl
  · exact loaded run old
  · exact loaded ⟨ctx, endpoint, was⟩ (List.mem_of_getElem? found)

theorem step {op : WebhookOp} (held : ServiceInOrder w) (keeps : w.KeepsOut op) :
    ServiceInOrder (w.step op) := by
  refine ⟨held.log.step op, ?_⟩
  cases op with
  | takeJob deliveryId =>
    simp only [WebhookWorld.step, WebhookWorld.takeJob]
    split
    · rename_i due
      exact load held.loaded (keeps due)
    · exact held.loaded
  | redeliver deliveryId => exact load held.loaded keeps
  | post runId response =>
    simp only [WebhookWorld.step, WebhookWorld.post]
    split
    · rename_i ctx endpoint found
      exact set held.loaded found
    · exact held.loaded
  | recordOutcome runId input =>
    simp only [WebhookWorld.step, WebhookWorld.recordOutcome]
    split
    · rename_i ctx endpoint response found
      exact set held.loaded found
    · exact held.loaded
  | commitDrain drainId =>
    simp only [WebhookWorld.step, WebhookWorld.commitDrain]
    split <;> exact held.loaded
  | readEndpoints drainId =>
    simp only [WebhookWorld.step, WebhookWorld.readEndpoints]
    split <;> exact held.loaded
  | abortDrain drainId =>
    simp only [WebhookWorld.step, WebhookWorld.abortDrain]
    split <;> exact held.loaded
  | requeue deliveryId runAt =>
    simp only [WebhookWorld.step, WebhookWorld.requeue]
    split <;> exact held.loaded
  | _ => exact held.loaded

/-- A removed endpoint stays removed. -/
theorem stays_deleted {op : WebhookOp} (keeps : w.KeepsOut op)
    {endpointId : Nat} (gone : w.tables.statusOf endpointId = some .deleted) :
    (w.step op).tables.statusOf endpointId = some .deleted := by
  obtain ⟨row, found, status⟩ := Option.map_eq_some_iff.mp gone
  have health := w.step_health op
  generalize after : w.step op = w' at health
  cases health with
  | still endpoints events quiet => rw [statusOf_of_endpoints endpoints, gone]
  | created new =>
    simp only [WebhookTables.statusOf]
    rw [List.getElem?_append_left (List.getElem?_eq_some_iff.mp found).1, found]
    exact congrArg some status
  | @deleted args _ _ _ _ =>
    by_cases same : args.endpointId = endpointId <;>
      simp [WebhookTables.statusOf, same, found, status]
  | @reopened args row' found' off live =>
    have other : args.endpointId ≠ endpointId := by
      rintro rfl
      obtain rfl := Option.some.inj (found.symm.trans found')
      exact live status
    simp [WebhookTables.statusOf, other, found, status]
  | @recorded runId input ctx endpoint response posted admitted =>
    have is : (ctx, response) ∈ w.posted runId := by simp [WebhookWorld.posted, posted]
    by_cases same : ctx.endpointId = endpointId
    · subst same
      have written : (ctx.recorded response input w.tables).statusOf ctx.endpointId =
          some ((endpointHealthAfter ctx.consecutiveFailures response.outcome).write input.now
            row).status := by
        simp [WebhookTables.statusOf, DeliveryContext.recorded, found]
      refine written.trans (congrArg some ?_)
      cases success : response.outcome.isDelivered with
      | true =>
        rw [endpointHealthAfter_delivered _ success]
        exact status
      | false =>
        have below : ¬circuitBreakAfter ≤ ctx.consecutiveFailures + 1 := fun reached =>
          keeps (ctx, response) is success reached gone
        rw [endpointHealthAfter_failed _ success, if_neg below]
        exact status
    · simp [WebhookTables.statusOf, DeliveryContext.recorded, same, found, status]

theorem stays_out {op : WebhookOp} (held : ServiceInOrder w) (keeps : w.KeepsOut op) :
    w.StaysOut op := by
  refine ⟨?_, fun endpointId gone => stays_deleted keeps gone, ?_⟩
  · rintro args row rfl capable found live
    refine (deletes_iff held.log capable found live).mpr fun open' => keeps ?_
    simp [WebhookTables.statusOf, found, open']
  · rintro runId response ctx endpoint rfl found
    exact held.loaded ⟨ctx, endpoint, .loaded⟩ (List.mem_of_getElem? found)

end ServiceInOrder

/-- In every state an endpoint can be removed unless its circuit is open; and while no such removal,
no late opening and no load out of service happens, what is out of service stays out of it. -/
theorem endpoints_stay_out (endpoints : List WebhookWorld.NewEndpoint) (clock : Instant)
    (ops : List WebhookOp)
    (keeps : Along WebhookWorld.step WebhookWorld.KeepsOut (.start endpoints clock) ops) :
    Along WebhookWorld.step WebhookWorld.StaysOut (.start endpoints clock) ops ∧
      ∀ args row, "apikey:manage" ∈ args.actorCapabilities →
        (run WebhookWorld.step (.start endpoints clock) ops).tables.endpoints[args.endpointId]? =
          some row → row.status ≠ .deleted →
        (((run WebhookWorld.step (.start endpoints clock) ops).step
            (.deleteWebhookEndpoint args)).tables.statusOf args.endpointId = some .deleted ↔
          row.status ≠ .circuitOpen) := by
  refine ⟨?_, fun args row capable found live => ?_⟩
  · exact keeps.follow (fun w op held keeps => held.step keeps)
      (fun w op held keeps => held.stays_out keeps) (ServiceInOrder.start endpoints clock)
  · exact deletes_iff (.reached endpoints clock ops) capable found live

/-- One endpoint that wants every event. -/
def oneEndpoint : List WebhookWorld.NewEndpoint := [⟨"https://example.test", [], true⟩]

/-- An endpoint that answers one delivery and is then removed. -/
def removing : List WebhookOp := [
  .sendTestEvent 0 0, .takeJob 0, .post 0 (.answered 200 "ok"), .recordOutcome 0 ⟨3, 0, 0⟩,
  .deleteWebhookEndpoint ⟨0, ["apikey:manage"], 60000⟩]

theorem endpoints_stay_out_removing :
    Along WebhookWorld.step WebhookWorld.StaysOut (.start oneEndpoint 0) removing ∧
      ∀ args row, "apikey:manage" ∈ args.actorCapabilities →
        (run WebhookWorld.step (.start oneEndpoint 0) removing).tables.endpoints[args.endpointId]? =
          some row → row.status ≠ .deleted →
        (((run WebhookWorld.step (.start oneEndpoint 0) removing).step
            (.deleteWebhookEndpoint args)).tables.statusOf args.endpointId = some .deleted ↔
          row.status ≠ .circuitOpen) :=
  endpoints_stay_out _ _ _ (by decide +kernel)

/-- Test events that all fail, one attempt each. -/
def failingTests (count : Nat) : List WebhookOp :=
  (List.range count).flatMap fun n => [.sendTestEvent 0 0, .takeJob n,
    .post n (.answered 400 "bad request"), .recordOutcome n ⟨3, 0, 0⟩]

/-- The circuit has opened. -/
def broken : WebhookWorld := run WebhookWorld.step (.start oneEndpoint 0) (failingTests 20)

/-- The endpoint was removed while an attempt was under way. -/
def removedUnderWay : WebhookWorld := run WebhookWorld.step (.start oneEndpoint 0)
  (failingTests 19 ++ [.sendTestEvent 0 0, .takeJob 19, .post 19 (.answered 400 "bad request"),
    .deleteWebhookEndpoint ⟨0, ["apikey:manage"], 60000⟩])

/-- The endpoint was removed before its delivery was attempted. -/
def removedBefore : WebhookWorld := run WebhookWorld.step (.start oneEndpoint 0)
  [.sendTestEvent 0 0, .deleteWebhookEndpoint ⟨0, ["apikey:manage"], 60000⟩, .takeJob 0]

/-- An open circuit keeps an endpoint from being removed, a late record takes a removed one back, and
a removed one is posted to. -/
theorem removal_undone :
    (broken.tables.statusOf 0 = some .circuitOpen ∧
        ¬broken.StaysOut (.deleteWebhookEndpoint ⟨0, ["apikey:manage"], 60000⟩)) ∧
      (removedUnderWay.tables.statusOf 0 = some .deleted ∧
        ¬removedUnderWay.StaysOut (.recordOutcome 19 ⟨3, 0, 0⟩)) ∧
      removedBefore.tables.statusOf 0 = some .deleted ∧
        ¬removedBefore.StaysOut (.post 0 (.answered 200 "ok")) := by
  refine ⟨⟨by decide +kernel, fun stays => ?_⟩, ⟨by decide +kernel, fun stays => ?_⟩,
    by decide +kernel, fun stays => ?_⟩
  · have kept : (broken.step (.deleteWebhookEndpoint
        ⟨0, ["apikey:manage"], 60000⟩)).tables.statusOf 0 = some .circuitOpen := by decide +kernel
    have row : broken.tables.endpoints[0]? = some {
        url := "https://example.test"
        eventTypes := []
        status := .circuitOpen
        consecutiveFailures := 20
        circuitOpenedAt := some 0 } := by decide +kernel
    have gone := stays.1 ⟨0, ["apikey:manage"], 60000⟩ _ rfl (by decide) row nofun
    cases kept.symm.trans gone
  · have back : (removedUnderWay.step (.recordOutcome 19 ⟨3, 0, 0⟩)).tables.statusOf 0 =
        some .circuitOpen := by decide +kernel
    cases back.symm.trans (stays.2.1 0 (by decide +kernel))
  · have run : removedBefore.runs[0]? = some ⟨⟨0, 0, "https://example.test", 0, 0⟩,
        { url := "https://example.test", eventTypes := [], status := .deleted,
          disabledAt := some 60000 }, .loaded⟩ := by decide +kernel
    cases stays.2.2 0 (.answered 200 "ok") _ _ rfl run

end InrSettle
