import InrSettle.Store.Case

/-!
# One status event for a change of status

The constraint trigger that pairs status changes with status events. It is
deferred: every row a transaction inserts into or updates in `settlements`
queues an image of the row, and the commit checks each image against the events
the transaction wrote.
-/

namespace InrSettle.StatusEvents

open Transaction

/-! ### The tables and what a transaction does to them -/

/-- The rows of `settlement_status_events`. -/
def settlementStatusEvents : List EventType :=
  [.status .created, .status .preflightStarted, .status .ready, .status .actionRequired,
    .status .quoted, .status .authorized, .status .liquidityReservationStarted,
    .status .liquidityReserved, .status .drawdownRequested, .status .drawdownConfirmed,
    .status .payoutSubmitted, .status .payoutConfirmed, .status .reconciliationStarted,
    .status .settled, .status .exceptionOpened, .status .exceptionResolved, .status .failed,
    .status .cancelled]

theorem mem_settlementStatusEvents {type : EventType} :
    type ∈ settlementStatusEvents ↔ ∃ event, type = .status event := by
  constructor
  · intro listed
    cases type with
    | status event => exact ⟨event, rfl⟩
    | _ => simp [settlementStatusEvents] at listed
  · rintro ⟨event, rfl⟩
    cases event <;> decide

/-- A row of `events`, with the transaction that wrote it. -/
structure StampedEvent where
  event : EventRow
  txid : Nat
  deriving DecidableEq

/-- What is committed. No event carries the id of a transaction that has not begun. -/
structure Database where
  settlements : List SettlementRow := []
  events : List StampedEvent := []
  nextTxid : Nat := 0
  earlier : ∀ e ∈ events, e.txid < nextTxid := by simp

/-- One statement of a transaction, for the row it writes. -/
inductive Write where
  | insertSettlement (row : SettlementRow)
  | updateSettlement (new : SettlementRow)
  | insertEvent (event : EventRow)
  deriving DecidableEq

/-- `OLD` and `NEW` of a row the trigger is queued for; an insert has no `OLD`. -/
structure RowImage where
  old : Option SettlementRow
  new : SettlementRow
  deriving DecidableEq

/-- `TG_OP = 'INSERT' OR NEW.status IS DISTINCT FROM OLD.status`. -/
def RowImage.changesStatus (image : RowImage) : Bool :=
  image.old.all fun old => decide (image.new.status ≠ old.status)

/-- The tables as the transaction sees them, and the row images its commit will check. -/
structure Working where
  settlements : List SettlementRow
  events : List StampedEvent
  queue : List RowImage := []
  deriving DecidableEq

abbrev WorkingTx := Tx Working DbError

def perform (txid : Nat) : Write → WorkingTx PUnit
  | .insertSettlement row => do
    let w ← get
    require (∀ s ∈ w.settlements, s.id ≠ row.id) (.uniqueViolation "settlements_pkey")
    require (CaseTables.settlementChecks row = true) (.checkViolation "settlements")
    modify fun w => { w with
      settlements := w.settlements ++ [row]
      queue := w.queue ++ [⟨none, row⟩] }
  | .updateSettlement new => do
    let w ← get
    match w.settlements.find? fun s => decide (s.id = new.id) with
    -- An update that finds no row fires no row trigger.
    | none => return ⟨⟩
    | some old =>
      let stamped := CaseTables.stampSettlement old new
      require (CaseTables.settlementMayBecome old new = true)
        (.restrictViolation "protect_settlement_row")
      require (CaseTables.settlementChecks new = true) (.checkViolation "settlements")
      modify fun w => { w with
        settlements := Table.setWhere (fun s => decide (s.id = new.id)) (fun _ => stamped)
          w.settlements
        queue := w.queue ++ [⟨some old, stamped⟩] }
  | .insertEvent event =>
    modify fun w => { w with events := w.events ++ [⟨event, txid⟩] }

def performAll (txid : Nat) : List Write → WorkingTx PUnit
  | [] => return ⟨⟩
  | write :: writes => do
    perform txid write
    performAll txid writes

/-! ### The trigger -/

/-- The rows of the join that are about the settlement. -/
def isStatusEventOf (settlementId : String) (event : EventRow) : Bool :=
  decide (event.type ∈ settlementStatusEvents) && event.subjectType == .settlement &&
    event.subjectId == settlementId

/-- `SELECT count(*) … AND e.txid = pg_current_xact_id()`. -/
def countStatusEvents (txid : Nat) (settlementId : String) (events : List StampedEvent) : Nat :=
  events.countP fun e => isStatusEventOf settlementId e.event && decide (e.txid = txid)

/-- `assert_status_event_pairing`. -/
def assertStatusEventPairing (txid : Nat) (image : RowImage) : WorkingTx PUnit := do
  let w ← get
  let statusEvents := countStatusEvents txid image.new.id w.events
  if image.changesStatus = true then
    require (statusEvents = 1) (.restrictViolation
      (s!"settlement {image.new.id} changed status but this transaction wrote " ++
        s!"{statusEvents} status events, not exactly 1 (INV-32)"))
  else
    require (statusEvents = 0) (.restrictViolation
      (s!"settlement {image.new.id} did not change status but this transaction wrote " ++
        s!"{statusEvents} status events (INV-32)"))

def assertAll (txid : Nat) : List RowImage → WorkingTx PUnit
  | [] => return ⟨⟩
  | image :: queue => do
    assertStatusEventPairing txid image
    assertAll txid queue

/-- The transaction to its end: its statements, and at commit the deferred trigger. -/
def transaction (txid : Nat) (writes : List Write) : WorkingTx PUnit := do
  performAll txid writes
  let w ← get
  assertAll txid w.queue

def Database.begin (db : Database) : Working where
  settlements := db.settlements
  events := db.events

/-- The statements of the transaction go through, and leave `w` for the commit to check. -/
def Database.Performs (db : Database) (writes : List Write) (w : Working) : Prop :=
  Commits (performAll db.nextTxid writes) db.begin ⟨⟩ w

/-- The transaction commits, and leaves `w`. -/
def Database.Accepts (db : Database) (writes : List Write) (w : Working) : Prop :=
  Commits (transaction db.nextTxid writes) db.begin ⟨⟩ w

/-! ### The events of a transaction -/

def Write.event : Write → Option EventRow
  | .insertEvent event => some event
  | _ => none

/-- The status events the transaction writes for the settlement, in order. -/
def announcedFor (settlementId : String) (writes : List Write) : List EventRow :=
  (writes.filterMap Write.event).filter (isStatusEventOf settlementId)

theorem perform_events {txid : Nat} {write : Write} {w w' : Working}
    (h : Commits (perform txid write) w ⟨⟩ w') :
    w'.events = w.events ++ write.event.toList.map (⟨·, txid⟩) := by
  cases write with
  | insertSettlement row =>
    simp only [perform, commits_get_bind, commits_require_bind, commits_modify] at h
    obtain ⟨-, -, rfl⟩ := h
    simp [Write.event]
  | updateSettlement new =>
    simp only [perform, commits_get_bind] at h
    split at h
    · obtain ⟨-, rfl⟩ := commits_pure.mp h
      simp [Write.event]
    · simp only [commits_require_bind, commits_modify] at h
      obtain ⟨-, -, rfl⟩ := h
      simp [Write.event]
  | insertEvent event =>
    obtain rfl := commits_modify.mp h
    simp [Write.event]

theorem performAll_events {txid : Nat} {writes : List Write} {w w' : Working}
    (h : Commits (performAll txid writes) w ⟨⟩ w') :
    w'.events = w.events ++ (writes.filterMap Write.event).map (⟨·, txid⟩) := by
  induction writes generalizing w with
  | nil =>
    obtain ⟨-, rfl⟩ := commits_pure.mp h
    simp
  | cons write writes ih =>
    obtain ⟨⟨⟩, t, first, rest⟩ := commits_bind.mp h
    rw [ih rest, perform_events first, List.append_assoc, ← List.map_append]
    cases event : write.event <;> simp [event]

/-- No earlier transaction's event is counted: the count is of what this one wrote. -/
theorem countStatusEvents_own {db : Database} {writes : List Write} {w : Working}
    (performed : db.Performs writes w) (settlementId : String) :
    countStatusEvents db.nextTxid settlementId w.events =
      (announcedFor settlementId writes).length := by
  have before : countStatusEvents db.nextTxid settlementId db.events = 0 :=
    List.countP_eq_zero.mpr fun e mem => by simp [(db.earlier e mem).ne]
  rw [performAll_events performed]
  simp only [countStatusEvents, Database.begin, List.countP_append, List.countP_map,
    Function.comp_def, decide_true, Bool.and_true, announcedFor,
    ← List.countP_eq_length_filter] at before ⊢
  rw [before, Nat.zero_add]

theorem performAll_earlier {db : Database} {writes : List Write} {w : Working}
    (performed : db.Performs writes w) : ∀ e ∈ w.events, e.txid < db.nextTxid + 1 := by
  intro e mem
  rw [performAll_events performed] at mem
  rcases List.mem_append.mp mem with old | own
  · exact (db.earlier e old).trans (Nat.lt_succ_self _)
  · obtain ⟨event, -, rfl⟩ := List.mem_map.mp own
    exact Nat.lt_succ_self _

/-! ### What the commit checks -/

/-- What the trigger asks of one row image. -/
def RowImage.Paired (image : RowImage) (statusEvents : Nat) : Prop :=
  if image.changesStatus = true then statusEvents = 1 else statusEvents = 0

theorem commits_assertAll {txid : Nat} {queue : List RowImage} {w w' : Working} :
    Commits (assertAll txid queue) w ⟨⟩ w' ↔
      (∀ image ∈ queue, image.Paired (countStatusEvents txid image.new.id w.events)) ∧
        w' = w := by
  induction queue with
  | nil => simp [assertAll]
  | cons image queue ih =>
    have one : ∀ t, Commits (assertStatusEventPairing txid image) w ⟨⟩ t ↔
        image.Paired (countStatusEvents txid image.new.id w.events) ∧ t = w := by
      intro t
      simp only [assertStatusEventPairing, commits_get_bind, RowImage.Paired]
      split <;> exact commits_require
    rw [assertAll, commits_bind, List.forall_mem_cons, and_assoc, ← ih]
    constructor
    · rintro ⟨⟨⟩, t, first, rest⟩
      obtain ⟨paired, rfl⟩ := (one t).mp first
      exact ⟨paired, rest⟩
    · rintro ⟨paired, rest⟩
      exact ⟨⟨⟩, w, (one w).mpr ⟨paired, rfl⟩, rest⟩

theorem accepts_iff {db : Database} {writes : List Write} {w : Working} :
    db.Accepts writes w ↔ db.Performs writes w ∧
      ∀ image ∈ w.queue, image.Paired (announcedFor image.new.id writes).length := by
  unfold Database.Accepts Database.Performs transaction
  rw [commits_bind]
  constructor
  · rintro ⟨⟨⟩, t, performed, checked⟩
    obtain ⟨paired, rfl⟩ := commits_assertAll.mp (commits_get_bind.mp checked)
    exact ⟨performed, fun image mem => countStatusEvents_own performed _ ▸ paired image mem⟩
  · rintro ⟨performed, paired⟩
    refine ⟨⟨⟩, w, performed, commits_get_bind.mpr (commits_assertAll.mpr ⟨?_, rfl⟩)⟩
    exact fun image mem => (countStatusEvents_own performed _).symm ▸ paired image mem

/-- The tables once the transaction has ended; an aborted one has used up its id. -/
def Database.next (db : Database) (writes : List Write) : Database where
  settlements := (after (transaction db.nextTxid writes) db.begin).settlements
  events := (after (transaction db.nextTxid writes) db.begin).events
  nextTxid := db.nextTxid + 1
  earlier := after_induction (P := fun w => ∀ e ∈ w.events, e.txid < db.nextTxid + 1)
    (fun e mem => (db.earlier e mem).trans (Nat.lt_succ_self _))
    fun _ _ committed => performAll_earlier (accepts_iff.mp committed).1

/-! ### What an accepted transaction says of each settlement -/

def imagesOf (settlementId : String) (w : Working) : List RowImage :=
  w.queue.filter fun image => decide (image.new.id = settlementId)

/-- The status changes made to the settlement, in order; its insert is one. -/
def changesOf (settlementId : String) (w : Working) : List RowImage :=
  (imagesOf settlementId w).filter RowImage.changesStatus

/-- Every write of the settlement changes its status and one status event is written for it, or
none does and none is. -/
def PairedFor (writes : List Write) (w : Working) (settlementId : String) : Prop :=
  imagesOf settlementId w = [] ∨
    (∀ image ∈ imagesOf settlementId w, image.changesStatus = true) ∧
      (announcedFor settlementId writes).length = 1 ∨
    changesOf settlementId w = [] ∧ announcedFor settlementId writes = []

theorem mem_imagesOf {settlementId : String} {w : Working} {image : RowImage} :
    image ∈ imagesOf settlementId w ↔ image ∈ w.queue ∧ image.new.id = settlementId := by
  simp [imagesOf]

theorem changesOf_eq_nil {settlementId : String} {w : Working} :
    changesOf settlementId w = [] ↔
      ∀ image ∈ imagesOf settlementId w, ¬image.changesStatus = true :=
  List.filter_eq_nil_iff

/-- The trigger's answers about the images of one settlement agree on how many events there are. -/
theorem pairedFor_iff {writes : List Write} {w : Working} {settlementId : String} :
    PairedFor writes w settlementId ↔ ∀ image ∈ imagesOf settlementId w,
      image.Paired (announcedFor settlementId writes).length := by
  unfold PairedFor RowImage.Paired
  rw [changesOf_eq_nil, ← List.length_eq_zero_iff (l := announcedFor settlementId writes)]
  constructor
  · rintro (none | ⟨change, one⟩ | ⟨still, zero⟩) image mem
    · simp [none] at mem
    · rw [if_pos (change image mem)]
      exact one
    · rw [if_neg (still image mem)]
      exact zero
  · intro paired
    rcases images : imagesOf settlementId w with _ | ⟨first, rest⟩
    · exact .inl rfl
    refine .inr ?_
    rw [images] at paired
    have head := paired first List.mem_cons_self
    by_cases change : first.changesStatus = true
    · rw [if_pos change] at head
      refine .inl ⟨fun image mem => ?_, head⟩
      by_contra still
      have none := paired image mem
      rw [if_neg still] at none
      omega
    · rw [if_neg change] at head
      refine .inr ⟨fun image mem moves => ?_, head⟩
      have one := paired image mem
      rw [if_pos moves] at one
      omega

/-- The trigger accepts exactly the transactions that pair each settlement they write, and one
written once has as many status events as status changes. -/
theorem accepted_iff_paired (db : Database) (writes : List Write) (w : Working) :
    (db.Accepts writes w ↔ db.Performs writes w ∧ ∀ settlementId, PairedFor writes w settlementId) ∧
      (db.Accepts writes w → ∀ settlementId, (imagesOf settlementId w).length = 1 →
        (changesOf settlementId w).length = (announcedFor settlementId writes).length) := by
  have exact : db.Accepts writes w ↔
      db.Performs writes w ∧ ∀ settlementId, PairedFor writes w settlementId := by
    simp only [accepts_iff, pairedFor_iff, mem_imagesOf]
    exact and_congr_right fun _ =>
      ⟨fun paired _ image found => found.2 ▸ paired image found.1,
        fun paired image mem => paired _ image ⟨mem, rfl⟩⟩
  refine ⟨exact, fun accepted settlementId once => ?_⟩
  obtain ⟨image, only⟩ := List.length_eq_one_iff.mp once
  have paired := (exact.mp accepted).2 settlementId
  simp only [PairedFor, changesOf, only, List.mem_singleton, forall_eq] at paired ⊢
  rcases paired with none | ⟨change, one⟩ | ⟨still, none⟩
  · cases none
  · simp [change, one]
  · rw [still, none]
    rfl

/-! ### Transactions the trigger accepts -/

/-- The statuses a change goes from and to, as the wire names them. -/
def RowImage.moved (image : RowImage) : Option String × Option String :=
  (image.old.map (·.status.wire), some image.new.status.wire)

/-- The statuses a status event names in its payload. -/
def namedIn (event : EventRow) : Option String × Option String :=
  (event.payload.lookup "from", event.payload.lookup "to")

/-- The status changes of each settlement and the status events written for it, one to one. -/
def Corresponds (writes : List Write) (w : Working) : Prop :=
  ∀ settlementId, ((changesOf settlementId w).map RowImage.moved).Perm
    ((announcedFor settlementId writes).map namedIn)

def draftRow : SettlementRow where
  id := "s"
  beneficiaryId := "b"
  recipientAmountMinor := 100
  fundingCurrency := "USD"
  createdBy := "u"

/-- A status event about the settlement `s`, naming the statuses it is given. -/
def naming (event : SettlementStatusEvent) (payload : List (String × String)) : Write :=
  .insertEvent ⟨.status event, .settlement, "s", ⟨.user, "u"⟩, payload⟩

/-- Created and moved on within one transaction, with the event of the creation only. -/
def createdAndMoved : List Write :=
  [.insertSettlement draftRow, naming .created [("to", "DRAFT")],
    .updateSettlement { draftRow with status := .preflighting }]

/-- Created as a draft, with an event that says it is settled. -/
def createdAsSettled : List Write :=
  [.insertSettlement draftRow, naming .settled [("from", "RECONCILING"), ("to", "SETTLED")]]

/-- Two changes share one event, and an event may name statuses the row never had. -/
theorem accepted_without_correspondence :
    (∃ w, ({} : Database).Accepts createdAndMoved w ∧ (changesOf "s" w).length = 2 ∧
      (announcedFor "s" createdAndMoved).length = 1 ∧ ¬Corresponds createdAndMoved w) ∧
    ∃ w, ({} : Database).Accepts createdAsSettled w ∧ ¬Corresponds createdAsSettled w := by
  refine ⟨⟨_, answer_some (by decide +kernel), ?_, ?_, fun h => ?_⟩,
    ⟨_, answer_some (by decide +kernel), fun h => ?_⟩⟩
  · decide +kernel
  · decide +kernel
  · exact absurd (h "s") (by decide +kernel)
  · exact absurd (h "s") (by decide +kernel)

end InrSettle.StatusEvents
