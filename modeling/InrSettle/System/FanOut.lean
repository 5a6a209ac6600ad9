import InrSettle.System.Webhooks

/-!
# The fan-out of the outbox

Drains run side by side: each holds the rows it claimed locked until it commits or
ends, and marks them in the transaction that inserts their deliveries. So a row is
drained once, by one drain, for the endpoints that drain read.
-/

namespace InrSettle

open Transaction WebhookTables Run

/-! ### What a drain inserts -/

/-- The endpoint is enabled and subscribed to the type. -/
def WebhookTables.Subscribed (t : WebhookTables) (endpointId : Nat) (type : String) : Prop :=
  ∃ e, t.endpoints[endpointId]? = some e ∧ e.status = .enabled ∧
    endpointWantsEvent e.eventTypes type = true

def WebhookTables.HasAutomatic (t : WebhookTables) (endpointId eventId : Nat) : Prop :=
  ∃ d ∈ t.deliveries, automaticKey d = some (endpointId, eventId)

/-- How many outbox deliveries there are of the event to the endpoint. -/
def WebhookTables.automatic (t : WebhookTables) (endpointId eventId : Nat) : Nat :=
  t.deliveries.countP fun d => decide (automaticKey d = some (endpointId, eventId))

theorem mem_wanted {endpoints : List (WebhookEndpoint × Nat)} {type : String} {endpointId : Nat} :
    endpointId ∈ wanted endpoints type ↔
      ∃ row, (row, endpointId) ∈ endpoints ∧ endpointWantsEvent row.eventTypes type = true := by
  cases customer : isCustomerEventType type with
  | false =>
    simp only [wanted, customer, Bool.false_eq_true, if_false, List.map_nil, List.not_mem_nil,
      false_iff, not_exists, not_and]
    exact fun row _ wants => by simp [endpointWantsEvent_customer wants] at customer
  | true => simp [wanted, customer]

theorem mem_wanted_enabled {t : WebhookTables} {type : String} {endpointId : Nat} :
    endpointId ∈ wanted (enabledEndpoints t) type ↔ t.Subscribed endpointId type := by
  simp only [mem_wanted, enabledEndpoints, List.mem_filter, List.mem_zipIdx_iff_getElem?,
    decide_eq_true_eq, Subscribed, and_assoc]

section Drain

variable {endpoints : List (WebhookEndpoint × Nat)} {now : Instant}

theorem insertAutomatic_outbox (eventId : Nat) (t : WebhookTables) (endpointId : Nat) :
    (insertAutomatic eventId now t endpointId).outbox = t.outbox := by
  unfold insertAutomatic
  dsimp only
  split <;> rfl

theorem insertAutomatic_events (eventId : Nat) (t : WebhookTables) (endpointId : Nat) :
    (insertAutomatic eventId now t endpointId).events = t.events := by
  unfold insertAutomatic
  dsimp only
  split <;> rfl

theorem insertAutomatic_unique {eventId : Nat} {t : WebhookTables} (endpointId : Nat)
    (unique : Table.Unique automaticKey t.deliveries) :
    Table.Unique automaticKey (insertAutomatic eventId now t endpointId).deliveries := by
  unfold insertAutomatic
  dsimp only
  split
  · rename_i admitted
    exact unique.append admitted
  · exact unique

theorem insertAutomatic_has {eventId : Nat} {t : WebhookTables} (inserted endpointId v : Nat) :
    (insertAutomatic eventId now t inserted).HasAutomatic endpointId v ↔
      t.HasAutomatic endpointId v ∨ endpointId = inserted ∧ v = eventId := by
  unfold insertAutomatic
  dsimp only
  split
  · simp [HasAutomatic, addDelivery, enqueueDelivery, automaticKey, or_and_right, exists_or,
      eq_comm]
  · rename_i conflict
    refine ⟨.inl, ?_⟩
    rintro (has | ⟨rfl, rfl⟩)
    · exact has
    · simpa [Table.admits_iff, automaticKey, HasAutomatic] using conflict

theorem fanned_outbox (eventId : Nat) (ids : List Nat) (t : WebhookTables) :
    (ids.foldl (insertAutomatic eventId now) t).outbox = t.outbox :=
  run_kept (insertAutomatic_outbox eventId) t ids

theorem fanned_unique {eventId : Nat} (ids : List Nat) {t : WebhookTables}
    (unique : Table.Unique automaticKey t.deliveries) :
    Table.Unique automaticKey (ids.foldl (insertAutomatic eventId now) t).deliveries :=
  run_invariant (I := fun t : WebhookTables => Table.Unique automaticKey t.deliveries)
    (fun _ id unique => insertAutomatic_unique id unique) unique ids

theorem fanned_has (now : Instant) (eventId : Nat) (ids : List Nat) (t : WebhookTables)
    (endpointId v : Nat) :
    (ids.foldl (insertAutomatic eventId now) t).HasAutomatic endpointId v ↔
      t.HasAutomatic endpointId v ∨ endpointId ∈ ids ∧ v = eventId := by
  induction ids generalizing t with
  | nil => simp
  | cons id ids ih =>
    rw [List.foldl_cons, ih, insertAutomatic_has, List.mem_cons, or_assoc, or_and_right]

/-- The row as a drain leaves it. -/
def OutboxRow.drained (row : OutboxRow) (now : Instant) : OutboxRow :=
  { row with status := .delivered, deliveredAt := some now }

theorem drainRow_outbox (t : WebhookTables) (outboxId other : Nat) :
    (drainRow endpoints now t outboxId).outbox[other]? =
      t.outbox[other]?.map fun row => if other = outboxId then row.drained now else row := by
  unfold drainRow
  cases found : t.outbox[outboxId]? with
  | none =>
    by_cases same : other = outboxId
    · simp [same, found]
    · simp [same]
  | some row =>
    dsimp only
    rw [fanned_outbox, List.getElem?_modify]
    by_cases same : other = outboxId
    · simp [same, found, OutboxRow.drained]
    · simp [same, Ne.symm same]

theorem drainRow_unique {t : WebhookTables} (outboxId : Nat)
    (unique : Table.Unique automaticKey t.deliveries) :
    Table.Unique automaticKey (drainRow endpoints now t outboxId).deliveries := by
  unfold drainRow
  split
  · exact unique
  · exact fanned_unique _ unique

theorem drainRow_has (t : WebhookTables) (outboxId endpointId v : Nat) :
    (drainRow endpoints now t outboxId).HasAutomatic endpointId v ↔
      t.HasAutomatic endpointId v ∨ (∃ row, t.outbox[outboxId]? = some row ∧ row.eventId = v) ∧
        endpointId ∈ wanted endpoints (t.eventType v) := by
  unfold drainRow
  cases found : t.outbox[outboxId]? with
  | none => simp
  | some row =>
    have same := fanned_has now row.eventId
      (wanted endpoints (t.eventType row.eventId)) t endpointId v
    simp only [HasAutomatic] at same ⊢
    rw [same]
    simp only [Option.some.injEq, exists_eq_left']
    constructor
    · rintro (has | ⟨mem, rfl⟩)
      · exact .inl has
      · exact .inr ⟨rfl, mem⟩
    · rintro (has | ⟨rfl, mem⟩)
      · exact .inl has
      · exact .inr ⟨mem, rfl⟩

theorem drainRow_events (t : WebhookTables) (outboxId : Nat) :
    (drainRow endpoints now t outboxId).events = t.events := by
  unfold drainRow
  split
  · rfl
  · rename_i row found
    exact run_kept (insertAutomatic_events row.eventId) t _

variable {claimed : List Nat}

theorem drainRows_outbox (endpoints : List (WebhookEndpoint × Nat)) (now : Instant)
    (claimed : List Nat) (t : WebhookTables) (other : Nat) :
    (drainRows endpoints now claimed t).outbox[other]? =
      t.outbox[other]?.map fun row => if other ∈ claimed then row.drained now else row := by
  induction claimed generalizing t with
  | nil => simp [drainRows]
  | cons outboxId rest ih =>
    rw [drainRows, List.foldl_cons]
    refine (ih _).trans ?_
    rw [drainRow_outbox, Option.map_map]
    refine congrArg (Option.map · _) (funext fun row => ?_)
    by_cases same : other = outboxId <;> by_cases later : other ∈ rest <;>
      simp [same, later, OutboxRow.drained]

theorem drainRows_events (t : WebhookTables) :
    (drainRows endpoints now claimed t).events = t.events :=
  run_kept drainRow_events t claimed

theorem drainRows_eventIds (endpoints : List (WebhookEndpoint × Nat)) (now : Instant)
    (claimed : List Nat) (t : WebhookTables) :
    (drainRows endpoints now claimed t).outbox.map (·.eventId) = t.outbox.map (·.eventId) := by
  refine List.ext_getElem? fun outboxId => ?_
  rw [List.getElem?_map, List.getElem?_map, drainRows_outbox, Option.map_map]
  refine congrArg (Option.map · _) (funext fun row => ?_)
  by_cases mem : outboxId ∈ claimed <;> simp [mem, OutboxRow.drained]

theorem drainRows_unique {t : WebhookTables}
    (unique : Table.Unique automaticKey t.deliveries) :
    Table.Unique automaticKey (drainRows endpoints now claimed t).deliveries :=
  run_invariant (I := fun t : WebhookTables => Table.Unique automaticKey t.deliveries)
    (fun _ outboxId unique => drainRow_unique outboxId unique) unique claimed

/-- A drain inserts a delivery for each event it claimed and each endpoint that wants it. -/
theorem drainRows_has (t : WebhookTables) (endpointId v : Nat) :
    (drainRows endpoints now claimed t).HasAutomatic endpointId v ↔
      t.HasAutomatic endpointId v ∨
        (∃ outboxId ∈ claimed, ∃ row, t.outbox[outboxId]? = some row ∧ row.eventId = v) ∧
          endpointId ∈ wanted endpoints (t.eventType v) := by
  induction claimed generalizing t with
  | nil => simp [drainRows]
  | cons first rest ih =>
    have claims : (∃ outboxId ∈ rest, ∃ row,
          (drainRow endpoints now t first).outbox[outboxId]? = some row ∧ row.eventId = v) ↔
        ∃ outboxId ∈ rest, ∃ row, t.outbox[outboxId]? = some row ∧ row.eventId = v := by
      refine exists_congr fun outboxId => and_congr_right fun _ => ?_
      rw [drainRow_outbox]
      cases t.outbox[outboxId]? with
      | none => simp
      | some row => by_cases same : outboxId = first <;> simp [same, OutboxRow.drained]
    rw [drainRows, List.foldl_cons]
    refine (ih _).trans ?_
    have type : (drainRow endpoints now t first).eventType v = t.eventType v := by
      rw [eventType, drainRow_events, eventType]
    rw [claims, drainRow_has, type, List.exists_mem_cons_iff, or_and_right, or_assoc]

end Drain

/-! ### The invariant -/

/-- The endpoints the drain read, where it committed and had claimed the row. -/
def DrainRun.committedOver (drain : DrainRun) (outboxId : Nat) :
    Option (List (WebhookEndpoint × Nat)) :=
  match drain.phase with
  | .committed endpoints => if outboxId ∈ drain.claimed then some endpoints else none
  | _ => none

theorem DrainRun.committedOver_eq_some {drain : DrainRun} {outboxId : Nat}
    {endpoints : List (WebhookEndpoint × Nat)} :
    drain.committedOver outboxId = some endpoints ↔
      drain.phase = .committed endpoints ∧ outboxId ∈ drain.claimed := by
  unfold committedOver
  split
  · rename_i read phase
    simp [phase, and_comm]
  · rename_i other
    simpa using fun is _ => other _ is

/-- The drains that drained the row, each by the endpoints it read. -/
def WebhookWorld.drainsOf (w : WebhookWorld) (outboxId : Nat) :
    List (List (WebhookEndpoint × Nat)) :=
  w.drains.filterMap (·.committedOver outboxId)

/-- A row waits undrained, or was drained once, with its deliveries. -/
def RowFanned (t : WebhookTables) (drains : List (List (WebhookEndpoint × Nat)))
    (row : OutboxRow) : Prop :=
  (row.status = .pending ∧ drains = []) ∨
    (row.status = .delivered ∧ ∃ endpoints, drains = [endpoints] ∧ ∀ endpointId,
      t.HasAutomatic endpointId row.eventId ↔
        endpointId ∈ wanted endpoints (t.eventType row.eventId))

structure FannedOut (w : WebhookWorld) : Prop where
  rows : ∀ (outboxId : Nat) (row : OutboxRow), w.tables.outbox[outboxId]? = some row →
    RowFanned w.tables (w.drainsOf outboxId) row
  accounted : ∀ endpointId eventId, w.tables.HasAutomatic endpointId eventId →
    ∃ row ∈ w.tables.outbox, row.eventId = eventId ∧ row.status = .delivered
  distinct : (w.tables.outbox.map (·.eventId)).Nodup
  logged : ∀ row ∈ w.tables.outbox, row.eventId < w.tables.events.length
  unique : Table.Unique automaticKey w.tables.deliveries
  claims : ∀ drain ∈ w.drains, ∀ outboxId ∈ drain.claimed, outboxId < w.tables.outbox.length
  locks : ∀ outboxId ∈ w.locked, ∃ row, w.tables.outbox[outboxId]? = some row ∧
    row.status = .pending
  apart : w.locked.Nodup

theorem FannedOut.start (endpoints : List WebhookWorld.NewEndpoint) (clock : Instant) :
    FannedOut (.start endpoints clock) where
  rows := by simp [WebhookWorld.start]
  accounted := by simp [WebhookWorld.start, HasAutomatic]
  distinct := List.nodup_nil
  logged := by simp [WebhookWorld.start]
  unique := List.Pairwise.nil
  claims := by simp [WebhookWorld.start]
  locks := by simp [WebhookWorld.start, WebhookWorld.locked]
  apart := List.nodup_nil

theorem eventType_of_prefix {t t' : WebhookTables} (events : t.events <+: t'.events)
    {eventId : Nat} (logged : eventId < t.events.length) :
    t'.eventType eventId = t.eventType eventId := by
  obtain ⟨more, rows⟩ := events
  simp only [eventType, ← rows, List.getElem?_append_left logged]

theorem hasAutomatic_iff {t : WebhookTables} {endpointId eventId : Nat} :
    t.HasAutomatic endpointId eventId ↔
      some (endpointId, eventId) ∈ t.deliveries.map automaticKey := by
  simp only [HasAutomatic, List.mem_map]

/-- The place of a drain among the others. -/
theorem exists_split {α : Type} {l : List α} {i : Nat} {a : α} (found : l[i]? = some a) :
    ∃ before after, l = before ++ a :: after ∧ ∀ b, l.set i b = before ++ b :: after := by
  obtain ⟨within, rfl⟩ := List.getElem?_eq_some_iff.mp found
  refine ⟨l.take i, l.drop (i + 1), ?_, fun b => List.set_eq_take_append_cons_drop.trans
    (if_pos within)⟩
  rw [← List.drop_eq_getElem_cons within, List.take_append_drop]

namespace FannedOut

variable {w : WebhookWorld}

/-- A step that leaves the outbox, the drains and their deliveries alone. -/
theorem kept {t : WebhookTables} {runs : List DeliveryRun} {clock : Instant} (held : FannedOut w)
    (outbox : t.outbox = w.tables.outbox) (events : w.tables.events <+: t.events)
    (has : ∀ endpointId eventId,
      t.HasAutomatic endpointId eventId ↔ w.tables.HasAutomatic endpointId eventId)
    (unique : Table.Unique automaticKey t.deliveries) :
    FannedOut { w with tables := t, runs, clock } where
  rows outboxId row found := by
    have found' : w.tables.outbox[outboxId]? = some row := outbox ▸ found
    have type := eventType_of_prefix events (held.logged row (List.mem_of_getElem? found'))
    have fanned := held.rows outboxId row found'
    simp only [RowFanned, has, type] at fanned ⊢
    exact fanned
  accounted endpointId eventId is := by
    simp only [outbox]
    exact held.accounted endpointId eventId ((has endpointId eventId).mp is)
  distinct := by simpa only [outbox] using held.distinct
  logged row mem :=
    (held.logged row (outbox ▸ mem)).trans_le events.length_le
  unique := unique
  claims := by simpa only [outbox] using held.claims
  locks outboxId mem := by simpa only [outbox] using held.locks outboxId mem
  apart := held.apart

/-- A step on the tables by which no key of a delivery changes. -/
theorem keptKeys {t : WebhookTables} {runs : List DeliveryRun} {clock : Instant}
    (held : FannedOut w) (outbox : t.outbox = w.tables.outbox)
    (events : w.tables.events <+: t.events)
    (keys : t.deliveries.map automaticKey = w.tables.deliveries.map automaticKey) :
    FannedOut { w with tables := t, runs, clock } :=
  held.kept outbox events (fun _ _ => by rw [hasAutomatic_iff, hasAutomatic_iff, keys])
    (held.unique.of_map_eq keys)

/-- A delivery that is no outbox delivery was added. -/
theorem added {t : WebhookTables} {row : WebhookDelivery} {now : Instant} (held : FannedOut w)
    (outbox : t.outbox = w.tables.outbox) (events : w.tables.events <+: t.events)
    (deliveries : t.deliveries = w.tables.deliveries) (manual : row.origin ≠ .outbox) :
    FannedOut { w with tables := addDelivery row now t } := by
  have key : automaticKey row = none := if_neg manual
  refine held.kept outbox events (fun endpointId eventId => ?_) ?_
  · simp [HasAutomatic, addDelivery, enqueueDelivery, deliveries, key]
  · simp only [addDelivery, enqueueDelivery, deliveries]
    exact held.unique.append (by simp [Table.admits, key])

/-- No drain claimed a row that is not there yet. -/
theorem drainsOf_new (held : FannedOut w) {outboxId : Nat}
    (new : w.tables.outbox.length ≤ outboxId) : w.drainsOf outboxId = [] := by
  refine List.filterMap_eq_nil_iff.mpr fun drain mem => ?_
  unfold DrainRun.committedOver
  split
  · exact if_neg fun claimed => absurd (held.claims drain mem outboxId claimed) (by omega)
  · rfl

theorem recordEvent (held : FannedOut w) (event : LoggedEvent) (deliver : Bool) (now : Instant) :
    FannedOut (w.recordEvent event deliver now) := by
  have logged : FannedOut (w.recordEvent event false now) :=
    held.keptKeys (by simp) (List.prefix_append _ _) rfl
  cases deliver with
  | false => exact logged
  | true =>
    let row : OutboxRow :=
      { eventId := w.tables.events.length, nextAttemptAt := now, createdAt := now }
    have outbox : (w.recordEvent event true now).tables.outbox = w.tables.outbox ++ [row] := rfl
    have old : ∀ outboxId < w.tables.outbox.length, (w.tables.outbox ++ [row])[outboxId]? =
        w.tables.outbox[outboxId]? := fun _ within => List.getElem?_append_left within
    have before : (w.recordEvent event false now).tables.outbox = w.tables.outbox := by
      simp [WebhookWorld.recordEvent]
    refine ⟨fun outboxId found is => ?_, fun endpointId eventId is => ?_, ?_, ?_, held.unique,
      fun drain mem outboxId claimed => ?_, fun outboxId mem => ?_, held.apart⟩
    · rw [outbox] at is
      by_cases within : outboxId < w.tables.outbox.length
      · exact logged.rows outboxId found (before ▸ old outboxId within ▸ is)
      · rw [List.getElem?_append_right (not_lt.mp within)] at is
        obtain rfl := List.mem_singleton.mp (List.mem_of_getElem? is)
        exact .inl ⟨rfl, held.drainsOf_new (not_lt.mp within)⟩
    · obtain ⟨known, mem, has⟩ := held.accounted endpointId eventId is
      exact ⟨known, List.mem_append_left _ mem, has⟩
    · rw [outbox, List.map_append, List.map_singleton]
      refine List.nodup_append.mpr ⟨held.distinct, by simp, fun eventId is _ new => ?_⟩
      obtain ⟨known, mem, rfl⟩ := List.mem_map.mp is
      rw [List.mem_singleton.mp new]
      exact (held.logged known mem).ne
    · rw [outbox]
      refine List.forall_mem_append.mpr ⟨fun known mem => ?_, by
        simp [row, WebhookWorld.recordEvent]⟩
      have within := held.logged known mem
      simp only [WebhookWorld.recordEvent, List.length_append]
      omega
    · have within := held.claims drain mem outboxId claimed
      simp only [outbox, List.length_append]
      omega
    · obtain ⟨known, found, pending⟩ := held.locks outboxId mem
      exact ⟨known, (old outboxId (List.getElem?_eq_some_iff.mp found).1).trans found, pending⟩

/-! ### Drains -/

theorem claimable_spec {t : WebhookTables} {locked : List Nat} {now : Instant}
    {batchSize outboxId : Nat} (mem : outboxId ∈ claimable t locked now batchSize) :
    outboxId ∉ locked ∧ ∃ row, t.outbox[outboxId]? = some row ∧ row.status = .pending := by
  have due := (List.perm_insertionSort _ _).mem_iff.mp (List.mem_of_mem_take mem)
  obtain ⟨-, due⟩ := List.mem_filter.mp due
  obtain ⟨waits, unlocked⟩ := Bool.and_eq_true_iff.mp due
  obtain ⟨row, found, pending⟩ := (Option.any_eq_true _ _).mp waits
  exact ⟨of_decide_eq_true unlocked, row, found, (of_decide_eq_true pending).1⟩

theorem claimable_nodup (t : WebhookTables) (locked : List Nat) (now : Instant)
    (batchSize : Nat) : (claimable t locked now batchSize).Nodup :=
  (List.take_sublist _ _).nodup
    ((List.perm_insertionSort _ _).nodup_iff.mpr (List.nodup_range.filter _))

theorem claimOutbox (held : FannedOut w) (batchSize : Nat) (now : Instant) :
    FannedOut (w.claimOutbox batchSize now) := by
  have drains : ∀ outboxId,
      (w.claimOutbox batchSize now).drainsOf outboxId = w.drainsOf outboxId := fun outboxId => by
    simp [WebhookWorld.drainsOf, WebhookWorld.claimOutbox, DrainRun.committedOver]
  have locked : (w.claimOutbox batchSize now).locked =
      w.locked ++ claimable w.tables w.locked now batchSize := by
    simp [WebhookWorld.locked, WebhookWorld.claimOutbox, DrainRun.locks]
  refine ⟨fun outboxId row found => drains outboxId ▸ held.rows outboxId row found,
    held.accounted, held.distinct, held.logged, held.unique, ?_, ?_, ?_⟩
  · refine List.forall_mem_append.mpr ⟨held.claims, List.forall_mem_singleton.mpr ?_⟩
    intro outboxId claimed
    obtain ⟨-, row, found, -⟩ := claimable_spec claimed
    exact (List.getElem?_eq_some_iff.mp found).1
  · rw [locked]
    exact List.forall_mem_append.mpr ⟨held.locks, fun outboxId claimed =>
      (claimable_spec claimed).2⟩
  · rw [locked]
    refine List.nodup_append.mpr ⟨held.apart, claimable_nodup .., fun a was b is same => ?_⟩
    exact (claimable_spec is).1 (same ▸ was)

/-- A drain that goes on without committing, with no more locks than it held. -/
theorem phase {drainId : Nat} {claimed : List Nat} {now : Instant} {was is : DrainPhase}
    (held : FannedOut w) (found : w.drains[drainId]? = some ⟨claimed, now, was⟩)
    (before : ∀ outboxId, DrainRun.committedOver ⟨claimed, now, was⟩ outboxId = none)
    (after : ∀ outboxId, DrainRun.committedOver ⟨claimed, now, is⟩ outboxId = none)
    (locks : (DrainRun.locks ⟨claimed, now, is⟩).Sublist (DrainRun.locks ⟨claimed, now, was⟩)) :
    FannedOut { w with drains := w.drains.set drainId ⟨claimed, now, is⟩ } := by
  obtain ⟨first, last, rows, set⟩ := exists_split found
  have drains : ∀ outboxId, WebhookWorld.drainsOf
      { w with drains := w.drains.set drainId ⟨claimed, now, is⟩ } outboxId =
      w.drainsOf outboxId := fun outboxId => by
    simp only [WebhookWorld.drainsOf, set]
    simp only [rows, List.filterMap_append, List.filterMap_cons, before, after]
  have locked : (WebhookWorld.locked
      { w with drains := w.drains.set drainId ⟨claimed, now, is⟩ }).Sublist w.locked := by
    simp only [WebhookWorld.locked, set]
    simp only [rows, List.flatMap_append, List.flatMap_cons]
    exact (List.Sublist.refl _).append (locks.append (.refl _))
  have drainAt : ⟨claimed, now, was⟩ ∈ w.drains := List.mem_of_getElem? found
  refine ⟨fun outboxId row found => drains outboxId ▸ held.rows outboxId row found,
    held.accounted, held.distinct, held.logged, held.unique, fun drain mem => ?_,
    fun outboxId mem => held.locks outboxId (locked.mem mem), locked.nodup held.apart⟩
  rcases List.mem_or_eq_of_mem_set mem with old | rfl
  · exact held.claims drain old
  · exact held.claims ⟨claimed, now, was⟩ drainAt

theorem readEndpoints (held : FannedOut w) (drainId : Nat) :
    FannedOut (w.readEndpoints drainId) := by
  unfold WebhookWorld.readEndpoints
  split
  · rename_i claimed now found
    exact held.phase found (fun _ => rfl) (fun _ => rfl) (.refl _)
  · exact held

theorem abortDrain (held : FannedOut w) (drainId : Nat) : FannedOut (w.abortDrain drainId) := by
  unfold WebhookWorld.abortDrain
  split
  · rename_i claimed now found
    exact held.phase found (fun _ => rfl) (fun _ => rfl) (List.nil_sublist _)
  · rename_i claimed now endpoints found
    exact held.phase found (fun _ => rfl) (fun _ => rfl) (List.nil_sublist _)
  · exact held

/-- An event has one outbox row. -/
theorem outboxId_eq (held : FannedOut w) {a b : Nat} {row row' : OutboxRow}
    (ha : w.tables.outbox[a]? = some row) (hb : w.tables.outbox[b]? = some row')
    (same : row.eventId = row'.eventId) : a = b := by
  have within : a < (w.tables.outbox.map (·.eventId)).length := by
    rw [List.length_map]
    exact (List.getElem?_eq_some_iff.mp ha).1
  refine (List.getElem?_inj within held.distinct).mp ?_
  rw [List.getElem?_map, List.getElem?_map, ha, hb, Option.map_some, Option.map_some, same]

/-- A row no drain drained has no deliveries. -/
theorem pending_unfanned (held : FannedOut w) {outboxId : Nat} {row : OutboxRow}
    (found : w.tables.outbox[outboxId]? = some row) (pending : row.status = .pending) :
    w.drainsOf outboxId = [] ∧ ∀ endpointId, ¬w.tables.HasAutomatic endpointId row.eventId := by
  refine ⟨?_, fun endpointId has => ?_⟩
  · rcases held.rows outboxId row found with ⟨-, none⟩ | ⟨delivered, -⟩
    · exact none
    · simp [pending] at delivered
  · obtain ⟨known, mem, same, delivered⟩ := held.accounted endpointId row.eventId has
    obtain rfl := Table.eq_of_key held.distinct mem (List.mem_of_getElem? found) same
    simp [pending] at delivered

theorem commitDrain (held : FannedOut w) (drainId : Nat) : FannedOut (w.commitDrain drainId) := by
  unfold WebhookWorld.commitDrain
  split
  case h_2 => exact held
  rename_i claimed now endpoints found
  rw [after_drainOutbox]
  obtain ⟨first, last, drains, set⟩ := exists_split found
  have locked : w.locked = first.flatMap (·.locks) ++ (claimed ++ last.flatMap (·.locks)) := by
    simp only [WebhookWorld.locked]
    rw [drains, List.flatMap_append, List.flatMap_cons]
    rfl
  have waits : ∀ outboxId ∈ claimed, ∃ row, w.tables.outbox[outboxId]? = some row ∧
      row.status = .pending := fun outboxId mem => held.locks outboxId (by simp [locked, mem])
  have before : ∀ outboxId, w.drainsOf outboxId = first.filterMap (·.committedOver outboxId) ++
      last.filterMap (·.committedOver outboxId) := fun outboxId => by
    simp only [WebhookWorld.drainsOf]
    rw [drains, List.filterMap_append]
    rfl
  have drainsOf : ∀ outboxId, WebhookWorld.drainsOf { w with
        tables := drainRows endpoints now claimed w.tables
        drains := w.drains.set drainId ⟨claimed, now, .committed endpoints⟩ } outboxId =
      first.filterMap (·.committedOver outboxId) ++ ((if outboxId ∈ claimed then [endpoints]
        else []) ++ last.filterMap (·.committedOver outboxId)) := fun outboxId => by
    have decides : DrainRun.committedOver ⟨claimed, now, .committed endpoints⟩ outboxId =
        if outboxId ∈ claimed then some endpoints else none := rfl
    simp only [WebhookWorld.drainsOf, set, List.filterMap_append, List.filterMap_cons, decides]
    by_cases mem : outboxId ∈ claimed <;> simp [mem]
  have stillLocked : WebhookWorld.locked { w with
        tables := drainRows endpoints now claimed w.tables
        drains := w.drains.set drainId ⟨claimed, now, .committed endpoints⟩ } =
      first.flatMap (·.locks) ++ last.flatMap (·.locks) := by
    simp only [WebhookWorld.locked, set, List.flatMap_append, List.flatMap_cons]
    rfl
  have apart := locked ▸ held.apart
  have unclaimed : ∀ outboxId ∈ first.flatMap (·.locks) ++ last.flatMap (·.locks),
      outboxId ∉ claimed := by
    obtain ⟨-, rest, differ⟩ := List.nodup_append.mp apart
    obtain ⟨-, -, differ'⟩ := List.nodup_append.mp rest
    refine List.forall_mem_append.mpr ⟨fun o mem is => ?_, fun o mem is => ?_⟩
    · exact differ o mem o (List.mem_append_left _ is) rfl
    · exact differ' o is o mem rfl
  have length : (drainRows endpoints now claimed w.tables).outbox.length =
      w.tables.outbox.length := by
    simpa using congrArg List.length (drainRows_eventIds endpoints now
      claimed w.tables)
  have type : ∀ v, (drainRows endpoints now claimed w.tables).eventType v =
      w.tables.eventType v := fun v => by rw [eventType, drainRows_events, eventType]
  refine ⟨fun outboxId row' is => ?_, fun endpointId eventId has => ?_, ?_, fun row mem => ?_,
    drainRows_unique held.unique, fun drain mem => ?_, fun outboxId mem => ?_, ?_⟩
  · rw [drainsOf]
    simp only [drainRows_outbox] at is
    obtain ⟨row, there, rfl⟩ := Option.map_eq_some_iff.mp is
    by_cases mem : outboxId ∈ claimed
    · -- The rows this drain claimed were pending until now.
      obtain ⟨row₂, there₂, pending⟩ := waits outboxId mem
      obtain rfl := Option.some.inj (there.symm.trans there₂)
      obtain ⟨none, unfanned⟩ := held.pending_unfanned there pending
      rw [before, List.append_eq_nil_iff] at none
      refine .inr ⟨by simp [mem, OutboxRow.drained], endpoints, by simp [mem, none],
        fun endpointId => ?_⟩
      have own : (if outboxId ∈ claimed then row.drained now else row).eventId = row.eventId := by
        simp [mem, OutboxRow.drained]
      rw [own, drainRows_has, type]
      constructor
      · rintro (has | ⟨-, wants⟩)
        · exact (unfanned endpointId has).elim
        · exact wants
      · exact fun wants => .inr ⟨⟨outboxId, mem, row, there, rfl⟩, wants⟩
    · have others : ∀ endpointId, (drainRows endpoints now claimed w.tables).HasAutomatic endpointId
          row.eventId ↔ w.tables.HasAutomatic endpointId row.eventId := fun endpointId => by
        rw [drainRows_has]
        refine or_iff_left ?_
        rintro ⟨⟨other, claims, row₂, there₂, same⟩, -⟩
        exact mem (held.outboxId_eq there there₂ same.symm ▸ claims)
      have fanned := held.rows outboxId row there
      simp only [RowFanned, mem, if_false, List.nil_append, others, type, ← before] at fanned ⊢
      exact fanned
  · rw [drainRows_has] at has
    have delivered : ∀ outboxId row, w.tables.outbox[outboxId]? = some row →
        row.eventId = eventId → row.status = .delivered ∨ outboxId ∈ claimed →
        ∃ row ∈ (drainRows endpoints now claimed w.tables).outbox, row.eventId = eventId ∧
          row.status = .delivered := by
      intro outboxId row there same done
      have now' := drainRows_outbox endpoints now claimed w.tables outboxId
      rw [there, Option.map_some] at now'
      refine ⟨_, List.mem_of_getElem? now', ?_⟩
      by_cases mem : outboxId ∈ claimed
      · simp [mem, OutboxRow.drained, same]
      · simpa [mem, same] using done.resolve_right mem
    rcases has with has | ⟨⟨outboxId, mem, row, there, same⟩, -⟩
    · obtain ⟨row, mem, same, done⟩ := held.accounted endpointId eventId has
      obtain ⟨outboxId, there⟩ := List.mem_iff_getElem?.mp mem
      exact delivered outboxId row there same (.inl done)
    · exact delivered outboxId row there same (.inr mem)
  · rw [drainRows_eventIds]
    exact held.distinct
  · have mem' := List.mem_map_of_mem (f := (·.eventId)) mem
    rw [drainRows_eventIds] at mem'
    obtain ⟨old, was, same⟩ := List.mem_map.mp mem'
    rw [drainRows_events, ← same]
    exact held.logged old was
  · rw [length]
    rcases List.mem_or_eq_of_mem_set mem with old | rfl
    · exact held.claims drain old
    · exact held.claims ⟨claimed, now, .read endpoints⟩ (List.mem_of_getElem? found)
  · rw [stillLocked] at mem
    obtain ⟨row, there, pending⟩ := held.locks outboxId (by
      rw [locked]
      rcases List.mem_append.mp mem with left | right
      · exact List.mem_append_left _ left
      · exact List.mem_append_right _ (List.mem_append_right _ right))
    exact ⟨row, by simp [drainRows_outbox, there, unclaimed outboxId mem], pending⟩
  · rw [stillLocked]
    exact ((List.Sublist.refl _).append (List.sublist_append_right _ _)).nodup apart

/-! ### Every step -/

theorem onTables {α : Type} {m : WebhookTx α} (held : FannedOut w)
    (each : ∀ r t, Commits m w.tables r t → FannedOut { w with tables := t }) :
    FannedOut (w.onTables m) :=
  after_induction (P := fun t => FannedOut { w with tables := t }) held each

theorem load (held : FannedOut w) (deliveryId : Nat) : FannedOut (w.load deliveryId) := by
  unfold WebhookWorld.load
  split
  · exact held.keptKeys rfl List.prefix_rfl rfl
  · exact held

theorem recordOutcome (held : FannedOut w) (runId : Nat) (input : RecordInput) :
    FannedOut (w.recordOutcome runId input) := by
  unfold WebhookWorld.recordOutcome
  split
  case h_2 => exact held
  rename_i ctx endpoint response posted
  dsimp only
  cases answered : answer (InrSettle.recordOutcome ctx response input) w.tables with
  | none =>
    rw [after_of_answer_none answered]
    exact held.keptKeys rfl List.prefix_rfl rfl
  | some result =>
    obtain ⟨-, -, same⟩ := commits_recordOutcome.mp ⟨result, answer_some answered⟩
    rw [same]
    refine held.keptKeys rfl (List.prefix_append _ _) (List.ext_getElem? fun deliveryId => ?_)
    simp only [DeliveryContext.recorded, List.getElem?_map, List.getElem?_modify]
    cases w.tables.deliveries[deliveryId]? with
    | none => rfl
    | some row =>
      by_cases own : ctx.deliveryId = deliveryId
      · simp only [own, if_true]
        rfl
      · simp [own]

theorem replayEvent {eventId endpointId : Nat} {now : Instant} {t : WebhookTables}
    {r : Option Nat} (held : FannedOut w)
    (h : Commits (replayEvent eventId endpointId now) w.tables r t) :
    FannedOut { w with tables := t } := by
  simp only [InrSettle.replayEvent, commits_get_bind, commits_ite, commits_modify_bind,
    commits_pure] at h
  rcases h with ⟨-, -, rfl⟩ | ⟨-, -, rfl⟩
  · refine held.added rfl List.prefix_rfl rfl fun same => ?_
    cases same
  · exact held

theorem sendTestEvent {endpointId : Nat} {now : Instant} {t : WebhookTables}
    {r : Option (Nat × Nat)} (held : FannedOut w)
    (h : Commits (sendTestEvent endpointId now) w.tables r t) :
    FannedOut { w with tables := t } := by
  simp only [InrSettle.sendTestEvent, commits_get_bind, commits_ite, commits_modify_bind,
    commits_pure] at h
  rcases h with ⟨-, -, rfl⟩ | ⟨-, -, rfl⟩
  · refine held.added rfl (List.prefix_append _ _) rfl fun same => ?_
    cases same
  · exact held

theorem step (held : FannedOut w) (op : WebhookOp) : FannedOut (w.step op) := by
  cases op with
  | createWebhookEndpoint args =>
    refine held.onTables fun r t h => ?_
    obtain rfl := createWebhookEndpoint_spec h
    exact held.keptKeys rfl List.prefix_rfl rfl
  | deleteWebhookEndpoint args =>
    refine held.onTables fun r t h => ?_
    rcases deleteWebhookEndpoint_spec h with rfl | ⟨-, rfl⟩
    · exact held
    · exact held.keptKeys rfl List.prefix_rfl rfl
  | reopenWebhookEndpoint args =>
    refine held.onTables fun r t h => ?_
    rcases reopenWebhookEndpoint_spec h with rfl | ⟨-, rfl⟩
    · exact held
    · exact held.keptKeys rfl List.prefix_rfl rfl
  | recordEvent event deliver now apart => exact held.recordEvent event deliver now
  | claimOutbox batchSize now => exact held.claimOutbox batchSize now
  | readEndpoints drainId => exact held.readEndpoints drainId
  | commitDrain drainId => exact held.commitDrain drainId
  | abortDrain drainId => exact held.abortDrain drainId
  | replayEvent eventId endpointId now => exact held.onTables fun r t h => held.replayEvent h
  | sendTestEvent endpointId now => exact held.onTables fun r t h => held.sendTestEvent h
  | takeJob deliveryId =>
    simp only [WebhookWorld.step, WebhookWorld.takeJob]
    split
    · have taken : FannedOut { w with tables := { w.tables with
          jobs := Function.update w.tables.jobs deliveryId none } } :=
        held.keptKeys rfl List.prefix_rfl rfl
      exact taken.load deliveryId
    · exact held
  | redeliver deliveryId => exact held.load deliveryId
  | requeue deliveryId runAt =>
    simp only [WebhookWorld.step, WebhookWorld.requeue]
    split
    · exact held
    · exact held.keptKeys rfl List.prefix_rfl rfl
  | post runId response =>
    simp only [WebhookWorld.step, WebhookWorld.post]
    split
    · exact held.keptKeys rfl List.prefix_rfl rfl
    · exact held
  | recordOutcome runId input => exact held.recordOutcome runId input
  | tick ms => exact held.keptKeys rfl List.prefix_rfl rfl

theorem reached (endpoints : List WebhookWorld.NewEndpoint) (clock : Instant)
    (ops : List WebhookOp) : FannedOut (run WebhookWorld.step (.start endpoints clock) ops) :=
  run_invariant (fun _ op held => held.step op) (.start endpoints clock) ops

end FannedOut

/-! ### When a drain read the endpoints -/

/-- The drain's list of endpoints, once it has one. -/
def DrainRun.Reads (drain : DrainRun) (endpoints : List (WebhookEndpoint × Nat)) : Prop :=
  drain.phase = .read endpoints ∨ drain.phase = .committed endpoints

/-- A drain that has read has the list it had, or reads the endpoints now, its rows locked. -/
def ReadNow (w : WebhookWorld) (drain : DrainRun) : Prop :=
  ∀ endpoints, drain.Reads endpoints →
    (∃ earlier ∈ w.drains, earlier.claimed = drain.claimed ∧ earlier.Reads endpoints) ∨
      endpoints = enabledEndpoints w.tables ∧ ∀ outboxId ∈ drain.claimed, outboxId ∈ w.locked

namespace ReadNow

variable {w : WebhookWorld}

theorem same {drain : DrainRun} (mem : drain ∈ w.drains) : ReadNow w drain :=
  fun _ reads => .inl ⟨drain, mem, rfl, reads⟩

theorem set {drainId : Nat} {is : DrainRun} (changed : ReadNow w is) {drain : DrainRun}
    (mem : drain ∈ w.drains.set drainId is) : ReadNow w drain := by
  rcases List.mem_or_eq_of_mem_set mem with old | rfl
  · exact same old
  · exact changed

theorem step (w : WebhookWorld) (op : WebhookOp) : ∀ drain ∈ (w.step op).drains,
    ReadNow w drain := by
  have still : ∀ w' : WebhookWorld, w'.drains = w.drains → ∀ drain ∈ w'.drains,
      ReadNow w drain := fun _ kept drain mem => same (kept ▸ mem)
  cases op with
  | claimOutbox batchSize now =>
    refine List.forall_mem_append.mpr ⟨fun _ => same, List.forall_mem_singleton.mpr ?_⟩
    rintro endpoints (reads | reads) <;> cases reads
  | readEndpoints drainId =>
    simp only [WebhookWorld.step, WebhookWorld.readEndpoints]
    split
    · rename_i claimed now found
      refine fun drain mem => set (fun endpoints reads => .inr ⟨?_, fun outboxId held => ?_⟩) mem
      · rcases reads with reads | reads <;> cases reads
        rfl
      · exact List.mem_flatMap.mpr ⟨_, List.mem_of_getElem? found, held⟩
    · exact fun _ => same
  | commitDrain drainId =>
    simp only [WebhookWorld.step, WebhookWorld.commitDrain]
    split
    · rename_i claimed now read found
      refine fun drain mem => set ?_ mem
      refine fun endpoints reads => .inl ⟨_, List.mem_of_getElem? found, rfl, ?_⟩
      rcases reads with reads | reads <;> cases reads
      exact .inl rfl
    · exact fun _ => same
  | abortDrain drainId =>
    simp only [WebhookWorld.step, WebhookWorld.abortDrain]
    split
    · refine fun drain => set fun endpoints reads => ?_
      rcases reads with reads | reads <;> cases reads
    · refine fun drain => set fun endpoints reads => ?_
      rcases reads with reads | reads <;> cases reads
    · exact fun _ => same
  | takeJob deliveryId =>
    simp only [WebhookWorld.step, WebhookWorld.takeJob]
    split
    · exact still _ (WebhookWorld.load_drains _ deliveryId)
    · exact fun _ => same
  | redeliver deliveryId => exact still _ (WebhookWorld.load_drains w deliveryId)
  | requeue deliveryId runAt =>
    simp only [WebhookWorld.step, WebhookWorld.requeue]
    split <;> exact fun _ => same
  | post runId response =>
    simp only [WebhookWorld.step, WebhookWorld.post]
    split <;> exact fun _ => same
  | recordOutcome runId input =>
    simp only [WebhookWorld.step, WebhookWorld.recordOutcome]
    split <;> exact still _ rfl
  | _ => exact still _ rfl

end ReadNow

/-- A drain read the enabled endpoints at one time of the run, holding its rows locked. -/
theorem reads_once {start : WebhookWorld} (none : start.drains = []) (ops : List WebhookOp) :
    ∀ drain ∈ (run WebhookWorld.step start ops).drains, ∀ endpoints, drain.Reads endpoints →
      ∃ earlier, earlier <+: ops ∧
        endpoints = enabledEndpoints (run WebhookWorld.step start earlier).tables ∧
        ∀ outboxId ∈ drain.claimed, outboxId ∈ (run WebhookWorld.step start earlier).locked := by
  induction ops using List.reverseRecOn with
  | nil => simp [none]
  | append_singleton ops op ih =>
    intro drain mem endpoints reads
    rw [run_append] at mem
    rcases ReadNow.step _ op drain mem endpoints reads with ⟨before, was, same, had⟩ | ⟨now, held⟩
    · obtain ⟨earlier, is, read, locked⟩ := ih before was endpoints had
      exact ⟨earlier, is.trans (List.prefix_append _ _), read, same ▸ locked⟩
    · exact ⟨ops, List.prefix_append _ _, now, held⟩

/-! ### Progress -/

namespace WebhookWorld

/-- One drain from its claim to its commit. -/
def drainOnce (w : WebhookWorld) (batchSize : Nat) (now : Instant) : WebhookWorld :=
  run step w [.claimOutbox batchSize now, .readEndpoints w.drains.length,
    .commitDrain w.drains.length]

theorem drainOnce_eq (w : WebhookWorld) (batchSize : Nat) (now : Instant) :
    w.drainOnce batchSize now = { w with
      tables := drainRows (enabledEndpoints w.tables) now
        (claimable w.tables w.locked now batchSize) w.tables
      drains := w.drains ++ [⟨claimable w.tables w.locked now batchSize, now,
        .committed (enabledEndpoints w.tables)⟩] } := by
  simp [drainOnce, step, claimOutbox, readEndpoints, commitDrain]

/-- A drain leaves due what was due and it did not claim. -/
theorem drainOnce_due (w : WebhookWorld) (batchSize : Nat) (now : Instant) :
    dueRows (w.drainOnce batchSize now).tables (w.drainOnce batchSize now).locked now =
      (dueRows w.tables w.locked now).filter fun outboxId =>
        decide (outboxId ∉ claimable w.tables w.locked now batchSize) := by
  have locked : (w.drainOnce batchSize now).locked = w.locked := by
    simp [drainOnce_eq, WebhookWorld.locked, DrainRun.locks]
  have length : (w.drainOnce batchSize now).tables.outbox.length = w.tables.outbox.length := by
    rw [drainOnce_eq]
    simpa using congrArg List.length (drainRows_eventIds
      (enabledEndpoints w.tables) now (claimable w.tables w.locked now batchSize) w.tables)
  simp only [dueRows, length, locked, List.filter_filter]
  refine List.filter_congr fun outboxId _ => ?_
  rw [drainOnce_eq]
  simp only [drainRows_outbox]
  cases w.tables.outbox[outboxId]? with
  | none => simp
  | some row =>
    by_cases mem : outboxId ∈ claimable w.tables w.locked now batchSize <;>
      simp [mem, OutboxRow.drained]

/-- Drains one after the other reach every row that is due and that no other drain holds. -/
theorem drains_reach {batchSize outboxId : Nat} (positive : 0 < batchSize) (now : Instant)
    {w : WebhookWorld} (due : outboxId ∈ dueRows w.tables w.locked now) :
    ∃ n row, ((fun w => drainOnce w batchSize now)^[n] w).tables.outbox[outboxId]? = some row ∧
      row.status = .delivered := by
  induction size : (dueRows w.tables w.locked now).length using Nat.strong_induction_on
    generalizing w with
  | _ count ih =>
    by_cases mem : outboxId ∈ claimable w.tables w.locked now batchSize
    · obtain ⟨-, row, found, -⟩ := FannedOut.claimable_spec mem
      refine ⟨1, row.drained now, ?_, rfl⟩
      simp [drainOnce_eq, drainRows_outbox, found, mem]
    · have still : outboxId ∈ dueRows (w.drainOnce batchSize now).tables
          (w.drainOnce batchSize now).locked now := by
        rw [drainOnce_due]
        exact List.mem_filter.mpr ⟨due, by simpa using mem⟩
      have fewer : (dueRows (w.drainOnce batchSize now).tables
          (w.drainOnce batchSize now).locked now).length < count := by
        rw [drainOnce_due, ← size, List.length_filter_lt_length_iff_exists]
        obtain ⟨first, claimed⟩ : ∃ first, first ∈ claimable w.tables w.locked now batchSize := by
          refine List.exists_mem_of_length_pos ?_
          have some := List.length_pos_of_mem due
          simp only [claimable, List.length_take, List.length_insertionSort]
          omega
        refine ⟨first, ?_, by simpa using claimed⟩
        exact (List.perm_insertionSort _ _).mem_iff.mp (List.mem_of_mem_take claimed)
      obtain ⟨n, row, found, delivered⟩ := ih _ fewer still rfl
      exact ⟨n + 1, row, found, delivered⟩

end WebhookWorld

theorem automatic_eq {t : WebhookTables} (unique : Table.Unique automaticKey t.deliveries)
    (endpointId eventId : Nat) :
    (t.HasAutomatic endpointId eventId → t.automatic endpointId eventId = 1) ∧
      (¬t.HasAutomatic endpointId eventId → t.automatic endpointId eventId = 0) := by
  refine ⟨fun ⟨d, mem, is⟩ => unique.countP_eq_one mem is, fun none => ?_⟩
  exact List.countP_eq_zero.mpr fun d mem => by simpa using fun is => none ⟨d, mem, is⟩

/-- An outbox row is drained once, into one delivery for each endpoint that was enabled and
subscribed when the drain read the endpoints; until then it has none, and drains reach it. -/
theorem outbox_fanned_out (endpoints : List WebhookWorld.NewEndpoint) (clock : Instant)
    (ops : List WebhookOp) :
    let w := run WebhookWorld.step (.start endpoints clock) ops
    (∀ (outboxId : Nat) (row : OutboxRow), w.tables.outbox[outboxId]? = some row →
      (row.status = .pending ∧ w.drainsOf outboxId = [] ∧
          ∀ endpointId, w.tables.automatic endpointId row.eventId = 0) ∨
        (row.status = .delivered ∧ (w.drainsOf outboxId).length = 1 ∧
          ∃ earlier, earlier <+: ops ∧
            outboxId ∈ (run WebhookWorld.step (.start endpoints clock) earlier).locked ∧
            ∀ endpointId,
              ((run WebhookWorld.step (.start endpoints clock) earlier).tables.Subscribed endpointId
                  (w.tables.eventType row.eventId) →
                w.tables.automatic endpointId row.eventId = 1) ∧
              (¬(run WebhookWorld.step (.start endpoints clock) earlier).tables.Subscribed
                  endpointId (w.tables.eventType row.eventId) →
                w.tables.automatic endpointId row.eventId = 0))) ∧
      (∀ endpointId eventId, 0 < w.tables.automatic endpointId eventId →
        isCustomerEventType (w.tables.eventType eventId) = true ∧
          ∃ row ∈ w.tables.outbox, row.eventId = eventId ∧ row.status = .delivered) ∧
      ∀ (outboxId : Nat) (row : OutboxRow) (batchSize : Nat) (now : Instant),
        w.tables.outbox[outboxId]? = some row → row.status = .pending →
        row.nextAttemptAt ≤ now → outboxId ∉ w.locked → 0 < batchSize →
        ∃ n done, ((fun w => w.drainOnce batchSize now)^[n] w).tables.outbox[outboxId]? =
          some done ∧ done.status = .delivered := by
  intro w
  have held : FannedOut w := .reached endpoints clock ops
  refine ⟨fun outboxId row found => ?_, fun endpointId eventId some => ?_,
    fun outboxId row batchSize now found pending due unlocked positive => ?_⟩
  · rcases held.rows outboxId row found with ⟨pending, none⟩ | ⟨delivered, read, drained, has⟩
    · have unfanned := (held.pending_unfanned found pending).2
      exact .inl ⟨pending, none, fun endpointId =>
        (automatic_eq held.unique endpointId row.eventId).2 (unfanned endpointId)⟩
    · have known : read ∈ w.drainsOf outboxId := by simp [drained]
      obtain ⟨drain, mem, decides⟩ := List.mem_filterMap.mp known
      obtain ⟨reads, claimed⟩ := drain.committedOver_eq_some.mp decides
      obtain ⟨earlier, is, rfl, locked⟩ := reads_once rfl ops drain mem read (.inr reads)
      refine .inr ⟨delivered, by simp [drained], earlier, is, locked outboxId claimed,
        fun endpointId => ?_⟩
      rw [← mem_wanted_enabled, ← has]
      exact automatic_eq held.unique endpointId row.eventId
  · have has : w.tables.HasAutomatic endpointId eventId := by
      by_contra none
      have zero := (automatic_eq held.unique endpointId eventId).2 none
      omega
    obtain ⟨row, mem, same, delivered⟩ := held.accounted endpointId eventId has
    refine ⟨?_, row, mem, same, delivered⟩
    obtain ⟨outboxId, found⟩ := List.mem_iff_getElem?.mp mem
    rcases held.rows outboxId row found with ⟨pending, -⟩ | ⟨-, read, -, fanned⟩
    · simp [pending] at delivered
    · obtain ⟨e, -, wants⟩ := mem_wanted.mp ((fanned endpointId).mp (same ▸ has))
      exact same ▸ endpointWantsEvent_customer wants
  · refine WebhookWorld.drains_reach positive now (List.mem_filter.mpr ⟨?_, ?_⟩)
    · exact List.mem_range.mpr (List.getElem?_eq_some_iff.mp found).1
    · simp [found, pending, due, unlocked]

end InrSettle
