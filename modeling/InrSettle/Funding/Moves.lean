import InrSettle.Service.Liquidity

/-!
# What a committed funding transaction did

One lemma for each function of the liquidity service, saying what it leaves of
the store it started in. Later results cite these and never unfold a service.
-/

namespace InrSettle

open Transaction FundingTables

/-! ### Posting -/

/-- The store after a movement: two more ledger entries and the facility's projection moved. -/
def posted (m : Movement) (l : Liquidity) : Liquidity :=
  { l with
    ledger := l.ledger ++ [m.entry (ledgerPairFor m.movement).1 .debit,
      m.entry (ledgerPairFor m.movement).2 .credit]
    facilities := Table.setWhere (fun f => decide (f.id = m.facilityId))
      (fun f => stampFacility f (m.apply f)) l.facilities }

@[simp] theorem posted_reservations (m : Movement) (l : Liquidity) :
    (posted m l).reservations = l.reservations := rfl

@[simp] theorem posted_repayments (m : Movement) (l : Liquidity) :
    (posted m l).repayments = l.repayments := rfl

@[simp] theorem posted_events (m : Movement) (l : Liquidity) :
    (posted m l).events = l.events := rfl

/-- What the database checked before it let a movement through. -/
structure PostAllowed (m : Movement) (l : Liquidity) : Prop where
  positive : 0 < m.amount.minorUnits
  fresh : ∀ e ∈ l.ledger, e.transferId ≠ m.transferId
  references : referencesFacility l m.facilityId m.amount.currency
  checked : ∀ f ∈ l.facilities, f.id = m.facilityId → facilityChecks (m.apply f) = true

@[simp] theorem stampFacility_id (old new : FacilityRow) : (stampFacility old new).id = new.id := by
  unfold stampFacility; split <;> rfl

@[simp] theorem stampFacility_currency (old new : FacilityRow) :
    (stampFacility old new).currency = new.currency := by
  unfold stampFacility; split <;> rfl

@[simp] theorem stampFacility_limitMinor (old new : FacilityRow) :
    (stampFacility old new).limitMinor = new.limitMinor := by
  unfold stampFacility; split <;> rfl

@[simp] theorem stampFacility_drawnMinor (old new : FacilityRow) :
    (stampFacility old new).drawnMinor = new.drawnMinor := by
  unfold stampFacility; split <;> rfl

@[simp] theorem stampFacility_reservedMinor (old new : FacilityRow) :
    (stampFacility old new).reservedMinor = new.reservedMinor := by
  unfold stampFacility; split <;> rfl

@[simp] theorem stampFacility_status (old new : FacilityRow) :
    (stampFacility old new).status = new.status := by
  unfold stampFacility; split <;> rfl

@[simp] theorem facilityChecks_stampFacility (old new : FacilityRow) :
    facilityChecks (stampFacility old new) = facilityChecks new := by
  simp [facilityChecks]

/-- A transfer of exactly two entries, the two just written, had none before. -/
theorem fresh_of_isBalanced {ledger : List LedgerEntry} {a b : LedgerEntry} {transferId : String}
    (ha : a.transferId = transferId) (hb : b.transferId = transferId)
    (balanced : isBalanced ((ledger ++ [a, b]).filter fun e =>
      decide (e.transferId = transferId)) = true) :
    ∀ e ∈ ledger, e.transferId ≠ transferId := by
  intro e he same
  have inFilter : e ∈ ledger.filter fun e => decide (e.transferId = transferId) := by
    simp [he, same]
  rw [List.filter_append] at balanced
  have tail : ([a, b].filter fun e => decide (e.transferId = transferId)) = [a, b] := by
    simp [ha, hb]
  rw [tail] at balanced
  cases rest : ledger.filter fun e => decide (e.transferId = transferId) with
  | nil => simp [rest] at inFilter
  | cons first others =>
    rw [rest] at balanced
    cases others <;> simp [isBalanced] at balanced

theorem postMovement_spec {m : Movement} {l l' : Liquidity} {t : String}
    (h : Commits (postMovement m) l t l') :
    t = m.transferId ∧ l' = posted m l ∧ PostAllowed m l := by
  simp only [postMovement, insertLedgerEntry, updateFacility, assertLedgerBalanced, bind_assoc,
    commits_get_bind, commits_require_bind, commits_modify_bind, commits_pure] at h
  obtain ⟨positive, -, references, -, -, -, -, checked, balanced, rfl, rfl⟩ := h
  refine ⟨rfl, by simp [posted], ⟨positive, ?_, references, checked⟩⟩
  simp only [List.append_assoc, List.cons_append, List.nil_append] at balanced
  exact fresh_of_isBalanced rfl rfl balanced

theorem lockFacility_spec {facilityId : String} {l l' : Liquidity} {v : Option FacilityView}
    (h : Commits (lockFacility facilityId) l v l') :
    l' = l ∧ (v = none ∧ facilityOf l facilityId = none ∨
      ∃ f, facilityOf l facilityId = some f ∧ 0 ≤ f.limitMinor - f.drawnMinor - f.reservedMinor ∧
        v = some ⟨f, f.limitMinor - f.drawnMinor - f.reservedMinor⟩) := by
  simp only [lockFacility, commits_get_bind] at h
  split at h
  case h_1 absent =>
    obtain ⟨rfl, rfl⟩ := commits_pure.mp h
    exact ⟨rfl, .inl ⟨rfl, absent⟩⟩
  case h_2 f found =>
    by_cases negative : f.limitMinor - f.drawnMinor - f.reservedMinor < 0
    · simp [availableToSettle, FacilityRow.position, negative] at h
    · simp [availableToSettle, FacilityRow.position, negative] at h
      exact ⟨h.2, .inr ⟨f, found, Int.not_lt.mp negative, h.1⟩⟩

theorem facilityOf_some {l : Liquidity} {facilityId : String} {f : FacilityRow}
    (h : facilityOf l facilityId = some f) : f ∈ l.facilities ∧ f.id = facilityId :=
  ⟨List.mem_of_find?_eq_some h, by simpa using List.find?_some h⟩

theorem PostAllowed.congr {m : Movement} {l l' : Liquidity} (allowed : PostAllowed m l')
    (facilities : l'.facilities = l.facilities) (ledger : l'.ledger = l.ledger) :
    PostAllowed m l := by
  obtain ⟨positive, fresh, references, checked⟩ := allowed
  simp only [referencesFacility, facilities, ledger] at fresh references checked
  exact ⟨positive, fresh, references, checked⟩

/-! ### Reservations -/

def ReserveInput.row (input : ReserveInput) : ReservationRow where
  id := input.reservationId
  facilityId := input.facilityId
  settlementId := input.settlementId
  amountMinor := input.amount.minorUnits
  amountCurrency := input.amount.currency
  status := .active
  expiresAt := input.now + input.ttlSeconds.toNat * 1000
  createdAt := input.now

def ReserveInput.movement (input : ReserveInput) : Movement where
  facilityId := input.facilityId
  movement := .reservationCreated
  amount := input.amount
  subjectType := .liquidityReservation
  subjectId := input.reservationId
  actor := input.actor
  transferId := input.transferId

/-- The store with one more ACTIVE reservation and the movement that funds it. -/
def reserving (input : ReserveInput) (l : Liquidity) : Liquidity :=
  posted input.movement { l with reservations := l.reservations ++ [input.row] }

/-- What was checked before a reservation was inserted. -/
structure ReserveAllowed (input : ReserveInput) (l : Liquidity) : Prop where
  freshId : ∀ q ∈ l.reservations, q.id ≠ input.reservationId
  noneActive : ∀ q ∈ l.reservations, q.settlementId = input.settlementId → q.status ≠ .active
  posts : PostAllowed input.movement l

theorem reserveLiquidity_spec {input : ReserveInput} {l l' : Liquidity}
    {r : Except ReserveRefusal Reserved} (h : Commits (reserveLiquidity input) l r l') :
    (∃ refusal, r = .error refusal ∧ l' = l) ∨
      ∃ available, r = .ok ⟨input.reservationId, available, input.row.expiresAt⟩ ∧
        ReserveAllowed input l ∧ ∃ events, l' = { reserving input l with events := events } := by
  unfold reserveLiquidity at h
  split at h
  · simp at h
  obtain ⟨v, _, locked, h⟩ := commits_bind.mp h
  obtain ⟨rfl, ⟨rfl, -⟩ | ⟨f, found, available, rfl⟩⟩ := lockFacility_spec locked
  · obtain ⟨rfl, rfl⟩ := commits_pure.mp h
    exact .inl ⟨_, rfl, rfl⟩
  simp only [(facilityOf_some found).2] at h
  split at h
  case h_1 refusal _ =>
    obtain ⟨rfl, rfl⟩ := commits_pure.mp h
    exact .inl ⟨_, rfl, rfl⟩
  case h_2 permitted =>
    simp only [commits_get_bind] at h
    split at h
    · obtain ⟨rfl, rfl⟩ := commits_pure.mp h
      exact .inl ⟨_, rfl, rfl⟩
    rename_i noActive
    simp only [insertReservation, emit, bind_assoc, commits_get_bind, commits_require_bind,
      commits_modify_bind] at h
    obtain ⟨freshId, -, -, -, h⟩ := h
    obtain ⟨_, _, moved, h⟩ := commits_bind.mp h
    obtain ⟨v, _, locked, h⟩ := commits_bind.mp (commits_modify_bind.mp h)
    obtain ⟨-, rfl, allowed⟩ := postMovement_spec moved
    obtain ⟨rfl, ⟨rfl, -⟩ | ⟨after, found', bound, rfl⟩⟩ := lockFacility_spec locked
    · simp at h
    obtain ⟨rfl, rfl⟩ := commits_pure.mp h
    refine .inr ⟨_, rfl, ⟨freshId, ?_, allowed.congr rfl rfl⟩, _, rfl⟩
    simpa using noActive

/-- The store with a reservation out of ACTIVE and the movement that follows it. -/
def leaving (reservationId : String) (target : ReservationStatus) (now : Instant)
    (reason : Option String) (m : Movement) (l : Liquidity) : Liquidity :=
  posted m { l with
    reservations := l.reservations.map (leaveActive reservationId target now reason) }

/-- The movement of a reservation's own amount on its own facility. -/
def ReservationRow.movement (res : ReservationRow) (movement : LedgerMovement)
    (actor : PrincipalRef) (transferId : String) : Movement where
  facilityId := res.facilityId
  movement := movement
  amount := ⟨res.amountCurrency, res.amountMinor⟩
  subjectType := .liquidityReservation
  subjectId := res.id
  actor := actor
  transferId := transferId

/-- Releasing and expiring are both open to an ACTIVE reservation. -/
theorem evaluateReservationTransition_active (expired : Bool) :
    ∃ row, evaluateReservationTransition (some .active)
      (if expired then .expire else .release) = .ok row := by
  cases expired <;> exact ⟨_, rfl⟩

theorem releaseReservation_spec {input : ReleaseInput} {l l' : Liquidity}
    {r : Except ReservationRefusal ReservationDone}
    (h : Commits (releaseReservation input) l r l') :
    (l' = l ∧ (∃ refusal, r = .error refusal) ∧ ∀ res,
        lockReservation l input.settlementId = some res → res.status = .active →
          facilityOf l res.facilityId = none) ∨
      (l' = l ∧ ∃ res, lockReservation l input.settlementId = some res ∧
        r = .ok ⟨res.id, true⟩ ∧ (res.status = .released ∨ res.status = .expired)) ∨
      ∃ res row events, lockReservation l input.settlementId = some res ∧ res.status = .active ∧
        row ∈ reservationMachine.rows ∧
        row.trigger = (if input.expired then .expire else .release) ∧
        r = .ok ⟨res.id, false⟩ ∧
        PostAllowed (res.movement row.movement input.actor input.transferId) l ∧
        l' = { leaving res.id row.target input.now (some input.reason.wire)
                (res.movement row.movement input.actor input.transferId) l with
                events := events } := by
  simp only [releaseReservation, commits_get_bind] at h
  cases found : lockReservation l input.settlementId with
  | none =>
    simp only [found, commits_pure] at h
    obtain ⟨rfl, rfl⟩ := h
    exact .inl ⟨rfl, ⟨_, rfl⟩, by simp⟩
  | some res =>
    simp only [found] at h
    by_cases active : res.status = .active
    · obtain ⟨row, evaluated⟩ := evaluateReservationTransition_active input.expired
      obtain ⟨-, mem, answers⟩ := evaluateReservationTransition_ok evaluated
      simp only [active, evaluated] at h
      obtain ⟨v, _, locked, h⟩ := commits_bind.mp h
      obtain ⟨rfl, ⟨rfl, absent⟩ | ⟨f, -, -, rfl⟩⟩ := lockFacility_spec locked
      · obtain ⟨rfl, rfl⟩ := commits_pure.mp h
        refine .inl ⟨rfl, ⟨_, rfl⟩, fun res' same _ => ?_⟩
        rwa [← Option.some.inj same]
      · simp only [updateReservation, emit, commits_modify_bind] at h
        obtain ⟨_, _, moved, h⟩ := commits_bind.mp h
        simp only [commits_modify_bind, commits_pure] at h
        obtain ⟨rfl, rfl⟩ := h
        obtain ⟨-, rfl, allowed⟩ := postMovement_spec moved
        exact .inr (.inr ⟨res, row, _, rfl, active, mem, answers, rfl, allowed.congr rfl rfl, rfl⟩)
    · have never : ∀ res', some res = some res' → res'.status = .active →
          facilityOf l res'.facilityId = none :=
        fun res' same now => (active ((Option.some.inj same).symm ▸ now)).elim
      split at h
      · obtain ⟨rfl, rfl⟩ := commits_pure.mp h
        exact .inl ⟨rfl, ⟨_, rfl⟩, never⟩
      · split at h
        · rename_i gone
          obtain ⟨rfl, rfl⟩ := commits_pure.mp h
          exact .inr (.inl ⟨rfl, res, rfl, rfl, gone⟩)
        · obtain ⟨rfl, rfl⟩ := commits_pure.mp h
          exact .inl ⟨rfl, ⟨_, rfl⟩, never⟩
      · rename_i evaluated
        exact (active (evaluateReservationTransition_ok evaluated).1).elim

/-- V02, the row a confirmed drawdown takes its reservation along. -/
def consuming : ReservationTransition :=
  ⟨.v02, [.active], .consume, .consumed, .reservationConsumed⟩

theorem consuming_mem : consuming ∈ reservationMachine.rows := by decide

theorem consumeReservation_spec {input : ConsumeInput} {l l' : Liquidity}
    {r : Except ReservationRefusal ReservationDone}
    (h : Commits (consumeReservation input) l r l') :
    (l' = l ∧ (∃ refusal, r = .error refusal) ∧
        ∀ res, lockReservation l input.settlementId = some res → res.status ≠ .active) ∨
      ∃ res, lockReservation l input.settlementId = some res ∧ res.status = .active ∧
        r = .ok ⟨res.id, false⟩ ∧
        PostAllowed (res.movement consuming.movement input.actor input.transferId) l ∧
        l' = leaving res.id consuming.target input.now none
          (res.movement consuming.movement input.actor input.transferId) l := by
  simp only [consumeReservation, commits_get_bind] at h
  cases found : lockReservation l input.settlementId with
  | none =>
    simp only [found, commits_pure] at h
    obtain ⟨rfl, rfl⟩ := h
    exact .inl ⟨rfl, ⟨_, rfl⟩, by simp⟩
  | some res =>
    simp only [found] at h
    by_cases active : res.status = .active
    · have evaluated : evaluateReservationTransition (some .active) .consume =
          .ok ⟨.v02, [.active], .consume, .consumed, .reservationConsumed⟩ := rfl
      simp only [active, evaluated, updateReservation, commits_modify_bind] at h
      obtain ⟨v, _, locked, h⟩ := commits_bind.mp h
      obtain ⟨rfl, -⟩ := lockFacility_spec locked
      obtain ⟨_, _, moved, h⟩ := commits_bind.mp h
      obtain ⟨rfl, rfl⟩ := commits_pure.mp h
      obtain ⟨-, rfl, allowed⟩ := postMovement_spec moved
      exact .inr ⟨res, rfl, active, rfl, allowed.congr rfl rfl, rfl⟩
    · have never : ∀ res', some res = some res' → res'.status ≠ .active :=
        fun res' same now => active ((Option.some.inj same).symm ▸ now)
      split at h
      · obtain ⟨rfl, rfl⟩ := commits_pure.mp h
        exact .inl ⟨rfl, ⟨_, rfl⟩, never⟩
      · obtain ⟨rfl, rfl⟩ := commits_pure.mp h
        exact .inl ⟨rfl, ⟨_, rfl⟩, never⟩
      · rename_i evaluated
        exact (active (evaluateReservationTransition_ok evaluated).1).elim

/-! ### Repayments -/

def RepayInput.row (input : RepayInput) (fingerprint : String) : RepaymentRow where
  id := input.repaymentId
  facilityId := input.facilityId
  amountMinor := input.amount.minorUnits
  amountCurrency := input.amount.currency
  source := input.source
  settlementId := input.settlementId
  returnId := input.returnId
  status := .requested
  attempt := 1
  requestFingerprint := fingerprint

/-- What was checked before a repayment was inserted. -/
structure RepayAllowed (input : RepayInput) (l : Liquidity) : Prop where
  freshId : ∀ q ∈ l.repayments, q.id ≠ input.repaymentId
  positive : 0 < input.amount.minorUnits
  withinOutstanding : input.amount.minorUnits ≤ eligibleOutstanding l input.facilityId
  references : referencesFacility l input.facilityId input.amount.currency

theorem requestRepayment_spec {input : RepayInput} {l l' : Liquidity}
    {r : Except RepaymentRefusal RepaymentDone} (h : Commits (requestRepayment input) l r l') :
    (∃ refusal, r = .error refusal ∧ l' = l) ∨
      (r = .ok ⟨input.repaymentId, .requested, false⟩ ∧ RepayAllowed input l ∧
        ∃ fingerprint events, Table.admits liveCause l.repayments (input.row fingerprint) = true ∧
          l' = { l with repayments := l.repayments ++ [input.row fingerprint], events := events }) := by
  have first : repaymentMachine.evaluate none .request =
      some { id := .y01, source := [], trigger := .request, target := .requested } := rfl
  simp only [requestRepayment, first] at h
  obtain ⟨v, _, locked, h⟩ := commits_bind.mp h
  obtain ⟨rfl, ⟨rfl, -⟩ | ⟨f, -, -, rfl⟩⟩ := lockFacility_spec locked
  · obtain ⟨rfl, rfl⟩ := commits_pure.mp h
    exact .inl ⟨_, rfl, rfl⟩
  simp only at h
  split at h
  · obtain ⟨rfl, rfl⟩ := commits_pure.mp h
    exact .inl ⟨_, rfl, rfl⟩
  split at h
  · obtain ⟨rfl, rfl⟩ := commits_pure.mp h
    exact .inl ⟨_, rfl, rfl⟩
  simp only [commits_get_bind] at h
  split at h
  · obtain ⟨rfl, rfl⟩ := commits_pure.mp h
    exact .inl ⟨_, rfl, rfl⟩
  rename_i positive within
  simp only [orThrow, repaymentFingerprint, insertRepayment, emit, bind_assoc,
    Nat.lt_irrefl, if_false, commits_pure_bind, commits_get_bind, commits_require_bind,
    commits_modify_bind, commits_pure] at h
  obtain ⟨freshId, -, -, -, references, admitted, rfl, rfl⟩ := h
  exact .inr ⟨rfl, ⟨freshId, Int.not_le.mp positive, Int.not_lt.mp within, references⟩, _, _,
    admitted, rfl⟩

theorem advancedRepayment_status (current : RepaymentRow) (row : RepaymentTransition)
    (input : AdvanceInput) (fingerprint : String) :
    (advancedRepayment current row input fingerprint).status = row.target := by
  cases fresh : row.requiresNewFingerprint <;> simp [advancedRepayment, fresh]

/-- What a repayment keeps through every transition. -/
theorem advancedRepayment_kept (current : RepaymentRow) (row : RepaymentTransition)
    (input : AdvanceInput) (fingerprint : String) :
    (advancedRepayment current row input fingerprint).id = current.id ∧
      (advancedRepayment current row input fingerprint).facilityId = current.facilityId ∧
      (advancedRepayment current row input fingerprint).amountMinor = current.amountMinor ∧
      (advancedRepayment current row input fingerprint).amountCurrency = current.amountCurrency ∧
      (advancedRepayment current row input fingerprint).settlementId = current.settlementId ∧
      (advancedRepayment current row input fingerprint).returnId = current.returnId := by
  cases fresh : row.requiresNewFingerprint <;> simp [advancedRepayment, fresh]

def RepaymentRow.movement (current : RepaymentRow) (input : AdvanceInput) : Movement where
  facilityId := current.facilityId
  movement := .repaymentConfirmed
  amount := ⟨current.amountCurrency, current.amountMinor⟩
  subjectType := .repayment
  subjectId := current.id
  actor := input.actor
  transferId := input.transferId

/-- The store with one repayment row replaced by its successor. -/
def advancing (current next : RepaymentRow) (l : Liquidity) : Liquidity :=
  { l with repayments :=
      Table.setWhere (fun q => decide (q.id = current.id)) (fun _ => next) l.repayments }

@[simp] theorem advancing_reservations (current next : RepaymentRow) (l : Liquidity) :
    (advancing current next l).reservations = l.reservations := rfl

@[simp] theorem advancing_facilities (current next : RepaymentRow) (l : Liquidity) :
    (advancing current next l).facilities = l.facilities := rfl

theorem advanceRepayment_spec {input : AdvanceInput} {l l' : Liquidity}
    {r : Except RepaymentRefusal RepaymentDone} (h : Commits (advanceRepayment input) l r l') :
    (∃ refusal, r = .error refusal ∧ l' = l) ∨
      ∃ current row fingerprint,
        l.repayments.find? (fun q => decide (q.id = input.repaymentId)) = some current ∧
        repaymentMachine.evaluate (some current.status) input.trigger = some row ∧
        r = .ok ⟨current.id, row.target, row.restoresCapacity⟩ ∧
        (row.restoresCapacity = true → PostAllowed (current.movement input) l) ∧
        Table.admits liveCause (l.repayments.filter fun q => decide (q.id ≠ current.id))
          (advancedRepayment current row input fingerprint) = true ∧
        ∃ events audits, l' = { (if row.restoresCapacity then posted (current.movement input)
                  (advancing current (advancedRepayment current row input fingerprint) l)
                else advancing current (advancedRepayment current row input fingerprint) l) with
                events := events, audits := audits } := by
  simp only [advanceRepayment, commits_get_bind] at h
  cases found : l.repayments.find? fun q => decide (q.id = input.repaymentId) with
  | none =>
    simp only [found, commits_pure] at h
    exact .inl ⟨_, h.1, h.2⟩
  | some current =>
    simp only [found] at h
    cases evaluated : repaymentMachine.evaluate (some current.status) input.trigger with
    | none =>
      simp only [evaluated, commits_pure] at h
      exact .inl ⟨_, h.1, h.2⟩
    | some row =>
      simp only [evaluated, orThrow, repaymentFingerprint, updateRepayment, emit, audit,
        bind_assoc, Nat.not_lt.mpr (Nat.le_add_left 1 current.attempt), if_false,
        commits_pure_bind, commits_get_bind, commits_require_bind, commits_modify_bind] at h
      obtain ⟨-, -, admitted, h⟩ := h
      right
      by_cases restores : row.restoresCapacity = true
      · simp only [restores, if_true] at h
        obtain ⟨v, _, locked, h⟩ := commits_bind.mp h
        obtain ⟨rfl, -⟩ := lockFacility_spec locked
        obtain ⟨_, _, moved, h⟩ := commits_bind.mp h
        obtain ⟨-, rfl, allowed⟩ := postMovement_spec moved
        simp only [commits_modify_bind, commits_pure] at h
        obtain ⟨rfl, rfl⟩ := h
        refine ⟨current, row, _, rfl, evaluated, by rw [restores],
          fun _ => allowed.congr rfl rfl, admitted, ?_⟩
        simp only [restores, if_true]
        exact ⟨_, _, rfl⟩
      · simp only [Bool.not_eq_true] at restores
        simp only [restores, Bool.false_eq_true, if_false, commits_modify_bind,
          commits_pure] at h
        obtain ⟨rfl, rfl⟩ := h
        refine ⟨current, row, _, rfl, evaluated, by rw [restores],
          fun contra => by simp [restores] at contra, admitted, ?_⟩
        simp only [restores, Bool.false_eq_true, if_false]
        exact ⟨_, _, rfl⟩

/-! ### Facilities -/

def FacilityInput.row (input : FacilityInput) : FacilityRow where
  id := input.facilityId
  providerId := input.providerId
  currency := input.currency
  limitMinor := input.limit.minorUnits
  status := .active

theorem createFacility_spec {input : FacilityInput} {l l' : Liquidity} {r : String}
    (h : Commits (createFacility input) l r l') :
    (∀ g ∈ l.facilities, g.id ≠ input.facilityId) ∧ facilityChecks input.row = true ∧
      ∃ audits, l' = { l with facilities := l.facilities ++ [input.row], audits := audits } := by
  unfold createFacility at h
  split at h
  · simp at h
  simp only [insertFacility, audit, bind_assoc, commits_get_bind, commits_require_bind,
    commits_modify_bind, commits_pure] at h
  obtain ⟨fresh, checked, -, rfl⟩ := h
  exact ⟨fresh, checked, _, rfl⟩

/-- A change of facility terms that leaves what is drawn and reserved alone. -/
structure KeepsPosition (set : FacilityRow → FacilityRow) : Prop where
  id : ∀ f, (set f).id = f.id
  currency : ∀ f, (set f).currency = f.currency
  drawn : ∀ f, (set f).drawnMinor = f.drawnMinor
  reserved : ∀ f, (set f).reservedMinor = f.reservedMinor

/-- The store with the terms of one facility changed. -/
def adjusting (facilityId : String) (set : FacilityRow → FacilityRow) (l : Liquidity) :
    Liquidity :=
  { l with
    facilities := Table.setWhere (fun f => decide (f.id = facilityId))
      (fun f => stampFacility f (set f)) l.facilities }

theorem setFacilityLimit_spec {ctx : OperatorContext} {facilityId : String} {limit : Money}
    {l l' : Liquidity} {r : Except FacilityRefusal Money}
    (h : Commits (setFacilityLimit ctx facilityId limit) l r l') :
    (∃ refusal, r = .error refusal ∧ l' = l) ∨
      ∃ set audits, KeepsPosition set ∧
        (∀ f ∈ l.facilities, f.id = facilityId → facilityChecks (set f) = true) ∧
        (∀ f, (set f).status = f.status) ∧
        l' = { adjusting facilityId set l with audits := audits } := by
  simp only [setFacilityLimit, requireCapability, bind_assoc, commits_require_bind,
    commits_get_bind] at h
  obtain ⟨-, -, h⟩ := h
  split at h
  · exact .inl ⟨_, commits_pure.mp h⟩
  split at h
  · exact .inl ⟨_, commits_pure.mp h⟩
  split at h
  · exact .inl ⟨_, commits_pure.mp h⟩
  split at h
  · exact .inl ⟨_, commits_pure.mp h⟩
  simp only [updateFacility, auditOperator, audit, bind_assoc, commits_get_bind,
    commits_require_bind, commits_modify_bind, commits_pure] at h
  obtain ⟨-, checked, -, rfl⟩ := h
  exact .inr ⟨fun f => { f with limitMinor := limit.minorUnits, version := f.version + 1 }, _,
    ⟨fun _ => rfl, fun _ => rfl, fun _ => rfl, fun _ => rfl⟩, checked, fun _ => rfl, rfl⟩

theorem setFacilityStatus_spec {ctx : OperatorContext} {facilityId : String} {suspend : Bool}
    {l l' : Liquidity} {r : Except FacilityRefusal FacilityStatus}
    (h : Commits (setFacilityStatus ctx facilityId suspend) l r l') :
    (∃ refusal, r = .error refusal ∧ l' = l) ∨
      ∃ set audits, KeepsPosition set ∧
        (∀ f ∈ l.facilities, f.id = facilityId → facilityChecks (set f) = true) ∧
        (∀ f, (set f).status = if suspend then .suspended else .active) ∧
        l' = { adjusting facilityId set l with audits := audits } := by
  simp only [setFacilityStatus, requireCapability, bind_assoc, commits_require_bind,
    commits_get_bind] at h
  obtain ⟨-, -, h⟩ := h
  generalize (if suspend then FacilityStatus.suspended else .active) = target at h ⊢
  split at h
  · exact .inl ⟨_, commits_pure.mp h⟩
  split at h
  · exact .inl ⟨_, commits_pure.mp h⟩
  split at h
  · exact .inl ⟨_, commits_pure.mp h⟩
  simp only [updateFacility, auditOperator, audit, bind_assoc, commits_get_bind,
    commits_require_bind, commits_modify_bind, commits_pure] at h
  obtain ⟨-, checked, -, rfl⟩ := h
  exact .inr ⟨fun f => { f with status := target, version := f.version + 1 }, _,
    ⟨fun _ => rfl, fun _ => rfl, fun _ => rfl, fun _ => rfl⟩, checked, fun _ => rfl, rfl⟩

end InrSettle
