import InrSettle.Funding.Books

/-!
# What the funding tables announce

A reservation that is released says so once, in the transaction that releases it, and one that is
consumed leaves one movement in the ledger. No other function of the liquidity service speaks of
either.
-/

namespace InrSettle

open Transaction FundingTables

/-! ### Counting -/

/-- The events that speak of a reservation released, or of a drawdown. -/
def announcements : List EventType :=
  [.companion .reservationReleased, .status .drawdownRequested, .status .drawdownConfirmed,
    .companion .drawdownConfirmed]

/-- How often the funding tables' events of a type are about a settlement. -/
def Liquidity.told (l : Liquidity) (type : EventType) (settlementId : String) : Nat :=
  l.events.countP fun e => decide (e.type = type) && decide (e.subjectType = .settlement) &&
    decide (e.subjectId = settlementId)

/-- A settlement's reservations in a status. -/
def Liquidity.standing (l : Liquidity) (status : ReservationStatus) (settlementId : String) : Nat :=
  l.reservations.countP fun r =>
    decide (r.settlementId = settlementId) && decide (r.status = status)

/-- The `reservation_consumed` movements of a reservation, by their debit entries. -/
def Liquidity.consumptions (l : Liquidity) (reservationId : String) : Nat :=
  l.ledger.countP fun e => decide (e.movement = .reservationConsumed) &&
    decide (e.direction = .debit) && decide (e.subjectId = reservationId)

def Liquidity.consumed (l : Liquidity) (reservationId : String) : Nat :=
  l.reservations.countP fun r => decide (r.id = reservationId) && decide (r.status = .consumed)

/-- Every release was announced once, every consumption moved the ledger once, and nothing was said
of drawdowns. -/
structure Announced (l : Liquidity) : Prop where
  released : ∀ settlementId,
    l.told (.companion .reservationReleased) settlementId = l.standing .released settlementId
  drawdowns : ∀ type ∈ announcements, type ≠ .companion .reservationReleased →
    ∀ settlementId, l.told type settlementId = 0
  consumed : ∀ reservationId, l.consumptions reservationId = l.consumed reservationId

theorem announced_empty : Announced Liquidity.empty :=
  ⟨fun _ => rfl, fun _ _ _ _ => rfl, fun _ => rfl⟩

/-! ### Functions that announce nothing -/

/-- Nothing more was said of releases and drawdowns. -/
def Untold (l l' : Liquidity) : Prop :=
  ∀ type ∈ announcements, ∀ settlementId, l'.told type settlementId = l.told type settlementId

instance : Std.Refl Untold := ⟨fun _ _ _ _ => rfl⟩

instance : IsTrans Liquidity Untold :=
  ⟨fun _ _ _ first second type mem settlementId =>
    (second type mem settlementId).trans (first type mem settlementId)⟩

theorem untold_of_events {l l' : Liquidity} (events : l'.events = l.events) : Untold l l' :=
  fun _ _ _ => congrArg (List.countP _) events

theorem untold_emit {event : EventRow} (type : EventType) (is : event.type = type)
    (other : type ∉ announcements) : Keeps Untold (emit event) := by
  refine .modify fun l counted mem settlementId => ?_
  have apart : event.type ≠ counted := fun same => other (is ▸ same ▸ mem)
  simp [Liquidity.told, apart]

theorem untold_audit (row : AuditRow) : Keeps Untold (audit row) :=
  .modify fun _ => untold_of_events rfl

theorem untold_lockFacility (facilityId : String) : Keeps Untold (lockFacility facilityId) :=
  fun _ _ _ h => untold_of_events (congrArg Liquidity.events (lockFacility_spec h).1)

theorem untold_postMovement (m : Movement) : Keeps Untold (postMovement m) :=
  fun l _ _ h => untold_of_events ((congrArg Liquidity.events (postMovement_spec h).2.1).trans
    (posted_events m l))

theorem untold_orThrow {α : Type} (message : String) (value : Option α) :
    Keeps Untold (orThrow message value : LiquidityTx α) := by
  cases value with
  | none => exact .abort _
  | some a => exact .pure a

theorem untold_reserveLiquidity (input : ReserveInput) : Keeps Untold (reserveLiquidity input) := by
  unfold reserveLiquidity
  split
  · exact .abort _
  refine .bind (untold_lockFacility _) fun facility => ?_
  cases facility with
  | none => exact .pure _
  | some facility =>
    dsimp only
    split
    · exact .pure _
    refine .bind .get fun l => ?_
    split
    · exact .pure _
    have inserted : ∀ r, Keeps Untold (insertReservation r) := fun r =>
      .bind .get fun _ => .bind (.require _ _) fun _ => .bind (.require _ _) fun _ =>
        .bind (.require _ _) fun _ => .bind (.require _ _) fun _ =>
          .modify fun _ => untold_of_events rfl
    refine .bind (inserted _) fun _ => .bind (untold_postMovement _) fun _ =>
      .bind (untold_emit (.companion .reservationCreated) rfl (by decide)) fun _ =>
        .bind (untold_lockFacility _) fun after => ?_
    cases after with
    | none => exact .abort _
    | some => exact .pure _

theorem untold_requestRepayment (input : RepayInput) :
    Keeps Untold (requestRepayment input) := by
  unfold requestRepayment
  split
  · exact .pure _
  refine .bind (untold_lockFacility _) fun facility => ?_
  cases facility with
  | none => exact .pure _
  | some facility =>
    dsimp only
    split
    · exact .pure _
    split
    · exact .pure _
    refine .bind .get fun l => ?_
    split
    · exact .pure _
    have inserted : ∀ r, Keeps Untold (insertRepayment r) := fun r =>
      .bind .get fun _ => .bind (.require _ _) fun _ => .bind (.require _ _) fun _ =>
        .bind (.require _ _) fun _ => .bind (.require _ _) fun _ => .bind (.require _ _) fun _ =>
          .bind (.require _ _) fun _ => .modify fun _ => untold_of_events rfl
    exact .bind (untold_orThrow _ _) fun _ => .bind (inserted _) fun _ =>
      .bind (untold_emit (.companion .repaymentRequested) rfl (by decide)) fun _ => .pure _

theorem untold_advanceRepayment (input : AdvanceInput) :
    Keeps Untold (advanceRepayment input) := by
  refine .bind .get fun l => ?_
  split
  · exact .pure _
  split
  · exact .pure _
  have updated : ∀ old new, Keeps Untold (updateRepayment old new) := fun old new =>
    .bind .get fun _ => .bind (.require _ _) fun _ => .bind (.require _ _) fun _ =>
      .bind (.require _ _) fun _ => .modify fun _ => untold_of_events rfl
  refine .bind (untold_orThrow _ _) fun _ => .bind (updated _ _) fun _ => ?_
  split
  · exact .bind (untold_lockFacility _) fun _ => .bind (untold_postMovement _) fun _ =>
      .bind (untold_emit .repaymentConfirmed rfl (by decide)) fun _ =>
        .bind (untold_audit _) fun _ => .pure _
  · exact .bind (untold_emit .repaymentUpdated rfl (by decide)) fun _ =>
      .bind (untold_audit _) fun _ => .pure _

/-! ### Leaving ACTIVE -/

section Leaving

variable {l l' : Liquidity}

/-- A release that moves the reservation announces it. -/
theorem releaseReservation_announces {input : ReleaseInput} {reservationId : String}
    (h : Commits (releaseReservation input) l (.ok ⟨reservationId, false⟩) l') :
    ∃ event, event.type =
        .companion (if input.expired then .reservationExpired else .reservationReleased) ∧
      event.subjectType = .settlement ∧ event.subjectId = input.settlementId ∧
      l'.events = l.events ++ [event] := by
  simp only [releaseReservation, commits_get_bind] at h
  split at h
  · cases (commits_pure.mp h).1
  split at h
  · cases (commits_pure.mp h).1
  · split at h <;> cases (commits_pure.mp h).1
  · obtain ⟨facility, l₁, locked, h⟩ := commits_bind.mp h
    obtain ⟨rfl, -⟩ := lockFacility_spec locked
    cases facility with
    | none => cases (commits_pure.mp h).1
    | some facility =>
      simp only [updateReservation, emit, commits_modify_bind] at h
      obtain ⟨_, l₂, posting, h⟩ := commits_bind.mp h
      obtain ⟨-, rfl, -⟩ := postMovement_spec posting
      simp only [commits_modify_bind, commits_pure] at h
      obtain ⟨-, rfl⟩ := h
      exact ⟨_, rfl, rfl, rfl, rfl⟩

/-- What leaving ACTIVE does to a count of reservations that no ACTIVE one is in. -/
theorem countP_leaveActive {res : ReservationRow} {target : ReservationStatus} {now : Instant}
    {reason : Option String} {counted : ReservationRow → Bool}
    (distinct : (l.reservations.map (·.id)).Nodup) (mem : res ∈ l.reservations)
    (before : counted res = false) :
    (l.reservations.map (leaveActive res.id target now reason)).countP counted =
      l.reservations.countP counted +
        if counted (leaveActive res.id target now reason res) then 1 else 0 := by
  have moved := Table.countP_setWhere (q := counted) (f := leaveActive res.id target now reason)
    distinct mem
  rw [before, ← map_leaveActive] at moved
  simpa using moved

theorem consumptions_posted (m : Movement) (reservationId : String) :
    (posted m l).consumptions reservationId = l.consumptions reservationId +
      if m.movement = .reservationConsumed ∧ m.subjectId = reservationId then 1 else 0 := by
  by_cases consumes : m.movement = .reservationConsumed <;>
    by_cases own : m.subjectId = reservationId <;>
      simp [Liquidity.consumptions, posted, Movement.entry, consumes, own]

/-- What a reservation out of ACTIVE does to the counts. -/
theorem Announced.left {res : ReservationRow} {row : ReservationTransition} {now : Instant}
    {reason : Option String} {actor : PrincipalRef} {transferId : String} {events : List EventRow}
    (announced : Announced l) (books : Books l) (mem : res ∈ l.reservations)
    (active : res.status = .active) (inTable : row ∈ reservationMachine.rows)
    (leaves : row.trigger ≠ .reserve)
    (released : ∀ settlementId, (events.countP fun e =>
        decide (e.type = .companion .reservationReleased) && decide (e.subjectType = .settlement) &&
          decide (e.subjectId = settlementId)) =
      l.told (.companion .reservationReleased) settlementId +
        if res.settlementId = settlementId ∧ row.target = .released then 1 else 0)
    (others : ∀ type ∈ announcements, type ≠ .companion .reservationReleased → ∀ settlementId,
      (events.countP fun e => decide (e.type = type) && decide (e.subjectType = .settlement) &&
        decide (e.subjectId = settlementId)) = l.told type settlementId) :
    Announced { leaving res.id row.target now reason (res.movement row.movement actor transferId) l
      with events := events } := by
  have kept := leaveActive_kept res.id row.target now reason res
  have status : (leaveActive res.id row.target now reason res).status = row.target :=
    leaveActive_status rfl active
  constructor
  · intro settlementId
    refine (released settlementId).trans ?_
    rw [announced.released settlementId, Liquidity.standing, Liquidity.standing]
    refine ((countP_leaveActive books.reservationIds mem (by simp [active])).trans ?_).symm
    simp [kept.2.2.1, status]
  · intro type counted other settlementId
    exact (others type counted other settlementId).trans
      (announced.drawdowns type counted other settlementId)
  · intro reservationId
    refine (consumptions_posted (l := { l with reservations := _ }) _ reservationId).trans ?_
    have moves : row.movement = .reservationConsumed ↔ row.target = .consumed := by
      have table : ∀ row ∈ reservationMachine.rows, row.trigger ≠ .reserve →
          (row.movement = .reservationConsumed ↔ row.target = .consumed) := by decide
      exact table row inTable leaves
    have before : l.consumptions reservationId = l.consumed reservationId :=
      announced.consumed reservationId
    refine (congrArg (· + _) before).trans (Eq.symm ?_)
    rw [Liquidity.consumed, Liquidity.consumed]
    refine (countP_leaveActive books.reservationIds mem (by simp [active])).trans ?_
    simp [kept.1, status, ReservationRow.movement, moves, and_comm]

end Leaving

/-! ### What each function does to the counts -/

section Steps

variable {l l' : Liquidity}

/-- Nothing was said, no reservation moved and none was consumed. -/
theorem Announced.still (announced : Announced l) (untold : Untold l l')
    (reservations : l'.reservations = l.reservations)
    (consumptions : ∀ reservationId, l'.consumptions reservationId = l.consumptions reservationId) :
    Announced l' where
  released := fun settlementId => by
    rw [untold _ (by decide), announced.released, Liquidity.standing, Liquidity.standing,
      reservations]
  drawdowns := fun type counted other settlementId =>
    (untold type counted settlementId).trans (announced.drawdowns type counted other settlementId)
  consumed := fun reservationId => by
    rw [consumptions, announced.consumed, Liquidity.consumed, Liquidity.consumed, reservations]

theorem Announced.reserves {input : ReserveInput} {r : Except ReserveRefusal Reserved}
    (announced : Announced l) (h : Commits (reserveLiquidity input) l r l') : Announced l' := by
  have untold : Untold l l' := untold_reserveLiquidity input h
  rcases reserveLiquidity_spec h with ⟨_, -, rfl⟩ | ⟨_, -, -, events, rfl⟩
  · exact announced
  refine ⟨fun settlementId => ?_, fun type counted other settlementId => ?_,
    fun reservationId => ?_⟩
  · rw [untold _ (by decide), announced.released]
    simp [Liquidity.standing, reserving, ReserveInput.row]
  · exact (untold type counted settlementId).trans
      (announced.drawdowns type counted other settlementId)
  · refine (consumptions_posted (l := { l with reservations := _ }) _ reservationId).trans ?_
    have before : l.consumptions reservationId = l.consumed reservationId :=
      announced.consumed reservationId
    refine (congrArg (· + _) before).trans ?_
    simp [Liquidity.consumed, reserving, ReserveInput.row, ReserveInput.movement]

theorem Announced.releases {input : ReleaseInput} {r : Except ReservationRefusal ReservationDone}
    (announced : Announced l) (books : Books l)
    (h : Commits (releaseReservation input) l r l') : Announced l' := by
  rcases releaseReservation_spec h with ⟨rfl, -⟩ | ⟨rfl, -⟩ |
    ⟨res, row, _, locked, active, inTable, answers, rfl, -, rfl⟩
  · exact announced
  · exact announced
  obtain ⟨event, type, subject, about, is⟩ := releaseReservation_announces h
  obtain ⟨mem, own⟩ := lockReservation_some locked
  have target : row.target = if input.expired then .expired else .released := by
    have table : ∀ row ∈ reservationMachine.rows,
        (row.trigger = .expire → row.target = .expired) ∧
          (row.trigger = .release → row.target = .released) := by decide
    cases expired : input.expired with
    | true => exact (table row inTable).1 (by simpa [expired] using answers)
    | false => exact (table row inTable).2 (by simpa [expired] using answers)
  refine announced.left books mem active inTable ?_ (fun settlementId => ?_)
    fun counted of other settlementId => ?_
  · rw [answers]
    cases input.expired <;> decide
  · have events := congrArg (List.countP fun e : EventRow =>
      decide (e.type = .companion .reservationReleased) && decide (e.subjectType = .settlement) &&
        decide (e.subjectId = settlementId)) is
    refine events.trans ?_
    rw [List.countP_append, List.countP_singleton, target, own]
    cases expired : input.expired <;> simp [Liquidity.told, type, subject, about, expired]
  · have events := congrArg (List.countP fun e : EventRow =>
      decide (e.type = counted) && decide (e.subjectType = .settlement) &&
        decide (e.subjectId = settlementId)) is
    have apart : event.type ≠ counted := by
      rw [type]
      rintro rfl
      cases expired : input.expired with
      | true => rw [expired] at of; exact absurd of (by decide)
      | false => exact other (by rw [expired]; rfl)
    refine events.trans ?_
    simp [Liquidity.told, apart]

theorem Announced.consumes {input : ConsumeInput} {r : Except ReservationRefusal ReservationDone}
    (announced : Announced l) (books : Books l)
    (h : Commits (consumeReservation input) l r l') : Announced l' := by
  rcases consumeReservation_spec h with ⟨rfl, -⟩ | ⟨res, locked, active, -, -, rfl⟩
  · exact announced
  · have moved : Announced { leaving res.id consuming.target input.now none
        (res.movement consuming.movement input.actor input.transferId) l with
          events := l.events } :=
      announced.left books (lockReservation_some locked).1 active consuming_mem (by decide)
        (fun settlementId => by simp [Liquidity.told, consuming]) fun _ _ _ _ => rfl
    exact moved

theorem Announced.requests {input : RepayInput} {r : Except RepaymentRefusal RepaymentDone}
    (announced : Announced l) (h : Commits (requestRepayment input) l r l') : Announced l' := by
  have untold : Untold l l' := untold_requestRepayment input h
  rcases requestRepayment_spec h with ⟨_, -, rfl⟩ | ⟨-, -, _, _, -, rfl⟩
  · exact announced
  · exact announced.still untold rfl fun _ => rfl

theorem Announced.advances {input : AdvanceInput} {r : Except RepaymentRefusal RepaymentDone}
    (announced : Announced l) (h : Commits (advanceRepayment input) l r l') : Announced l' := by
  have untold : Untold l l' := untold_advanceRepayment input h
  rcases advanceRepayment_spec h with ⟨_, -, rfl⟩ |
    ⟨current, row, _, -, -, -, -, -, _, _, rfl⟩
  · exact announced
  cases restores : row.restoresCapacity with
  | false =>
    simp only [restores, Bool.false_eq_true, if_false] at untold ⊢
    exact announced.still untold rfl fun _ => rfl
  | true =>
    simp only [restores, if_true] at untold ⊢
    refine announced.still untold rfl fun reservationId => ?_
    refine (consumptions_posted (l := advancing current _ l) _ reservationId).trans ?_
    simp [RepaymentRow.movement, Liquidity.consumptions, advancing]

theorem Announced.step (announced : Announced l) (books : Books l) (op : LiquidityOp) :
    Announced (liquidityStep l op) := by
  cases op with
  | createFacility input =>
    refine after_induction announced fun _ _ done => ?_
    obtain ⟨-, -, _, rfl⟩ := createFacility_spec done
    exact announced.still (untold_of_events rfl) rfl fun _ => rfl
  | setFacilityLimit ctx facilityId limit =>
    refine after_induction announced fun _ _ done => ?_
    rcases setFacilityLimit_spec done with ⟨_, -, rfl⟩ | ⟨_, _, -, -, -, rfl⟩
    · exact announced
    · exact announced.still (untold_of_events rfl) rfl fun _ => rfl
  | setFacilityStatus ctx facilityId suspend =>
    refine after_induction announced fun _ _ done => ?_
    rcases setFacilityStatus_spec done with ⟨_, -, rfl⟩ | ⟨_, _, -, -, -, rfl⟩
    · exact announced
    · exact announced.still (untold_of_events rfl) rfl fun _ => rfl
  | reserveLiquidity input =>
    exact after_induction announced fun _ _ done => announced.reserves done
  | releaseReservation input =>
    exact after_induction announced fun _ _ done => announced.releases books done
  | consumeReservation input =>
    exact after_induction announced fun _ _ done => announced.consumes books done
  | requestRepayment input =>
    exact after_induction announced fun _ _ done => announced.requests done
  | advanceRepayment input =>
    exact after_induction announced fun _ _ done => announced.advances done

end Steps

end InrSettle
