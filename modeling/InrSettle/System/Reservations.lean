import InrSettle.System.Holdings

/-!
# The reservation behind a drawdown

A settlement reserves once. Which operations take that reservation out of ACTIVE, and
when the capacity behind a drawdown that may already have left the lender stays held.
-/

namespace InrSettle

open Transaction CaseTables FundingTables Run

/-! ### The reservations of one settlement -/

def reservationsOf (l : Liquidity) (settlementId : String) : List ReservationRow :=
  l.reservations.filter fun r => decide (r.settlementId = settlementId)

theorem mem_reservationsOf {l : Liquidity} {settlementId : String} {r : ReservationRow} :
    r ∈ reservationsOf l settlementId ↔ r ∈ l.reservations ∧ r.settlementId = settlementId := by
  simp [reservationsOf]

/-- An ACTIVE reservation moved to a status it leaves ACTIVE for. -/
structure Leaves (l l' : Liquidity) (res : ReservationRow) (target : ReservationStatus) :
    Prop where
  mem : res ∈ l.reservations
  active : res.status = .active
  ended : target ≠ .active
  rows : ∃ now reason, l'.reservations = l.reservations.map (leaveActive res.id target now reason)

section Rows

variable {l l' : Liquidity} {settlementId : String} {res : ReservationRow}
  {target : ReservationStatus}

theorem reservationsOf_congr (same : l'.reservations = l.reservations) :
    reservationsOf l' settlementId = reservationsOf l settlementId := by
  rw [reservationsOf, same, reservationsOf]

theorem reservationsOf_map (reservationId : String) (now : Instant) (reason : Option String)
    (rows : l'.reservations = l.reservations.map (leaveActive reservationId target now reason)) :
    reservationsOf l' settlementId =
      (reservationsOf l settlementId).map (leaveActive reservationId target now reason) := by
  rw [reservationsOf, rows, List.filter_map]
  refine congrArg _ (List.filter_congr fun r _ => ?_)
  have kept := leaveActive_kept reservationId target now reason r
  simp [kept.2.2.1]

/-- Another settlement's reservations stand. -/
theorem Leaves.others (leaves : Leaves l l' res target) (books : Books l)
    (other : settlementId ≠ res.settlementId) :
    reservationsOf l' settlementId = reservationsOf l settlementId := by
  obtain ⟨now, reason, rows⟩ := leaves.rows
  rw [reservationsOf_map res.id now reason rows]
  refine (List.map_congr_left fun r mem => ?_).trans (List.map_id _)
  obtain ⟨inRows, own⟩ := mem_reservationsOf.mp mem
  refine leaveActive_of_ne (.inl fun same => other ?_)
  rw [← own, Table.eq_of_key books.reservationIds inRows leaves.mem same]

/-- The settlement's one reservation is the one that left. -/
theorem Leaves.single (leaves : Leaves l l' res target) {r : ReservationRow}
    (own : res.settlementId = settlementId) (one : reservationsOf l settlementId = [r]) :
    res = r ∧ ∃ r', reservationsOf l' settlementId = [r'] ∧ r'.id = r.id ∧ r'.status = target ∧
      r'.amountMinor = r.amountMinor ∧ r'.amountCurrency = r.amountCurrency := by
  have is : res = r := by
    have mem : res ∈ reservationsOf l settlementId := mem_reservationsOf.mpr ⟨leaves.mem, own⟩
    rwa [one, List.mem_singleton] at mem
  obtain ⟨now, reason, rows⟩ := leaves.rows
  refine ⟨is, _, by rw [reservationsOf_map res.id now reason rows, one, List.map_singleton], ?_⟩
  subst is
  obtain ⟨id, -, -, amount, currency, -⟩ := leaveActive_kept res.id target now reason res
  exact ⟨id, leaveActive_status rfl leaves.active, amount, currency⟩

theorem releaseReservation_leaves {input : ReleaseInput}
    {r : Except ReservationRefusal ReservationDone} (h : Commits (releaseReservation input) l r l') :
    l'.reservations = l.reservations ∨
      ∃ res target, res.settlementId = input.settlementId ∧ Leaves l l' res target ∧
        target ≠ .consumed := by
  rcases releaseReservation_spec h with ⟨rfl, -⟩ | ⟨rfl, -⟩ |
    ⟨res, row, _, locked, active, mem, answers, -, -, rfl⟩
  · exact .inl rfl
  · exact .inl rfl
  · obtain ⟨inRows, own⟩ := lockReservation_some locked
    have ends : row.target ≠ .active ∧ row.target ≠ .consumed := by
      have table : ∀ row ∈ reservationMachine.rows, row.trigger = .expire ∨ row.trigger = .release →
          row.target ≠ .active ∧ row.target ≠ .consumed := by decide
      refine table row mem ?_
      rw [answers]
      cases input.expired <;> simp
    exact .inr ⟨res, row.target, own, ⟨inRows, active, ends.1, _, _, rfl⟩, ends.2⟩

theorem consumeReservation_leaves {input : ConsumeInput}
    {r : Except ReservationRefusal ReservationDone} (h : Commits (consumeReservation input) l r l') :
    (l' = l ∧ (∃ refusal, r = .error refusal) ∧
        ∀ res, lockReservation l input.settlementId = some res → res.status ≠ .active) ∨
      ∃ res, lockReservation l input.settlementId = some res ∧ Leaves l l' res .consumed := by
  rcases consumeReservation_spec h with ⟨rfl, refused, never⟩ | ⟨res, locked, active, -, -, rfl⟩
  · exact .inl ⟨rfl, refused, never⟩
  · exact .inr ⟨res, locked, (lockReservation_some locked).1, active, by decide, _, _, rfl⟩

theorem followReservation_leaves {input : ResolveDrawdownInput} {target : DrawdownStatus}
    {r : Except ReservationRefusal PUnit} (h : Commits (followReservation input target) l r l') :
    l'.reservations = l.reservations ∨
      ∃ res left, res.settlementId = input.settlementId ∧ Leaves l l' res left := by
  unfold followReservation at h
  split at h
  · obtain ⟨_, _, consumed, h⟩ := commits_bind.mp h
    obtain ⟨-, rfl⟩ := commits_pure.mp h
    rcases consumeReservation_leaves consumed with ⟨rfl, -⟩ | ⟨res, locked, leaves⟩
    · exact .inl rfl
    · exact .inr ⟨res, _, (lockReservation_some locked).2, leaves⟩
  · obtain ⟨_, _, released, h⟩ := commits_bind.mp h
    obtain ⟨-, rfl⟩ := commits_pure.mp h
    rcases releaseReservation_leaves released with same | ⟨res, left, own, leaves, -⟩
    · exact .inl same
    · exact .inr ⟨res, left, own, leaves⟩
  · exact .inl (congrArg Liquidity.reservations (commits_pure.mp h).2)

theorem requestRepayment_reservations {input : RepayInput}
    {r : Except RepaymentRefusal RepaymentDone} (h : Commits (requestRepayment input) l r l') :
    l'.reservations = l.reservations := by
  rcases requestRepayment_spec h with ⟨_, -, rfl⟩ | ⟨-, -, _, _, -, rfl⟩ <;> rfl

theorem fundingStep_reservations (l : Liquidity) (op : FundingOp) :
    (liquidityStep l op.op).reservations = l.reservations := by
  cases op with
  | createFacility input =>
    refine after_induction (P := fun l' : Liquidity => l'.reservations = l.reservations) rfl fun _ _ done => ?_
    obtain ⟨-, -, _, rfl⟩ := createFacility_spec done
    rfl
  | setFacilityLimit ctx facilityId limit =>
    refine after_induction (P := fun l' : Liquidity => l'.reservations = l.reservations) rfl fun _ _ done => ?_
    rcases setFacilityLimit_spec done with ⟨_, -, rfl⟩ | ⟨_, _, -, -, -, rfl⟩ <;> rfl
  | setFacilityStatus ctx facilityId suspend =>
    refine after_induction (P := fun l' : Liquidity => l'.reservations = l.reservations) rfl fun _ _ done => ?_
    rcases setFacilityStatus_spec done with ⟨_, -, rfl⟩ | ⟨_, _, -, -, -, rfl⟩ <;> rfl
  | requestRepayment input =>
    exact after_induction (P := fun l' : Liquidity => l'.reservations = l.reservations) rfl
      fun _ _ done => requestRepayment_reservations done
  | advanceRepayment input =>
    refine after_induction (P := fun l' : Liquidity => l'.reservations = l.reservations) rfl fun _ _ done => ?_
    rcases advanceRepayment_spec done with ⟨_, -, rfl⟩ |
      ⟨_, row, _, -, -, -, -, -, _, _, rfl⟩
    · rfl
    · cases row.restoresCapacity <;> rfl

end Rows

/-! ### What a step does to them -/

section Step

variable {digest : AuthorizedInstruction → String} {w : World} {asOf : Nat} {op : SettlementOp}

/-- The operations that take a reservation out of ACTIVE. -/
def SettlementOp.MayFree (op : SettlementOp) : Prop :=
  (∃ input, op.releases = some input) ∨ ∃ input, op = .resolveDrawdown input

/-- A step adds to the reservations of its settlement, takes one of them out of ACTIVE, or does
nothing to them. -/
inductive OwnMove (w : World) (op : SettlementOp) (l' : Liquidity) : Prop where
  | still : l'.reservations = w.now.liquidity.reservations → OwnMove w op l'
  | added {settlementId : String} {stamp : ReserveStamp} {input : ReserveForInput} :
    op = .completeReservation settlementId stamp → w.pending settlementId = some input →
    (∀ q ∈ w.now.liquidity.reservations, q.settlementId = input.settlementId →
      q.status ≠ .active) →
    l'.reservations = w.now.liquidity.reservations ++ [(input.reserve stamp).row] →
    OwnMove w op l'
  | left {res : ReservationRow} {target : ReservationStatus} : op.MayFree →
    res.settlementId = op.subject → Leaves w.now.liquidity l' res target → OwnMove w op l'

theorem step_own : OwnMove w op (w.step digest (.settlement asOf op)).now.liquidity := by
  have moved : StoreMove digest (w.read asOf op) (w.now.store op.subject) op _ :=
    settlementStep_move op
  rw [step_liquidity]
  cases moved.holds with
  | still _ liquidity => exact .still (congrArg Liquidity.reservations liquidity)
  | reserved is pending allowed _ liquidity =>
    subst is
    exact .added rfl pending allowed.noneActive (congrArg Liquidity.reservations liquidity)
  | drawn _ _ _ _ _ _ _ liquidity => exact .still (congrArg Liquidity.reservations liquidity)
  | resolved is _ _ _ followed =>
    subst is
    rcases followReservation_leaves followed with same | ⟨res, target, own, leaves⟩
    · exact .still same
    · exact .left (.inr ⟨_, rfl⟩) own leaves
  | released releases done _ =>
    rcases releaseReservation_leaves done with same | ⟨res, target, own, leaves, -⟩
    · exact .still same
    · exact .left (.inl ⟨_, releases⟩) (own.trans (releases_subject releases).symm) leaves
  | asked _ done _ => exact .still (requestRepayment_reservations done)

/-- The reservations of every other settlement stand. -/
theorem OwnMove.others {l' : Liquidity} {settlementId : String} (moved : OwnMove w op l')
    (books : Books w.now.liquidity)
    (pending : ∀ input, w.pending op.subject = some input → input.settlementId = op.subject)
    (other : settlementId ≠ op.subject) :
    reservationsOf l' settlementId = reservationsOf w.now.liquidity settlementId := by
  cases moved with
  | still same => exact reservationsOf_congr same
  | added is begun _ rows =>
    subst is
    have own := pending _ begun
    rw [reservationsOf, rows, List.filter_append, reservationsOf]
    simp [ReserveInput.row, ReserveForInput.reserve, own, other.symm]
  | left _ own leaves => exact leaves.others books (own ▸ other)

end Step

/-! ### Reserving once -/

/-- The statuses of a settlement that has begun to reserve. -/
def begunStatuses : List SettlementStatus :=
  [.liquidityReserving, .liquidityReserved, .drawdownRequested, .drawdownConfirmed,
    .payoutSubmitted, .payoutConfirmed, .reconciling, .exception, .settled, .failed, .cancelled]

/-- Where such a settlement enters an exception from. -/
def begunOrigins : List SettlementStatus :=
  [.liquidityReserving, .liquidityReserved, .drawdownRequested, .payoutSubmitted, .reconciling]

theorem begunStatuses_closed : Closed begunStatuses begunOrigins where
  leads trigger _ := by cases trigger <;> decide
  resumes := by decide

/-- The settlement has begun to reserve. -/
def HasBegun (c : Case) : Prop :=
  ∃ row, c.settlement = some row ∧ StaysIn begunStatuses begunOrigins row

theorem RowMove.begun {op : SettlementOp} {c c' : Case} (moved : RowMove op c c')
    (held : HasBegun c) : HasBegun c' := by
  obtain ⟨row, found, stays⟩ := held
  cases moved with
  | still settlement => exact ⟨row, settlement.trans found, stays⟩
  | created absent => rw [absent] at found; cases found
  | taken was is takes =>
    obtain rfl := Option.some.inj (found.symm.trans was)
    exact ⟨_, is, takes.staysIn begunStatuses_closed stays (fun _ => by decide) fun _ => by decide⟩

/-- What a settlement has reserved: nothing, or what it once began to reserve. -/
structure ReservesOnce (w : World) (settlementId : String) : Prop where
  pending : ∀ input, w.pending settlementId = some input → input.settlementId = settlementId ∧
    reservationsOf w.now.liquidity settlementId = [] ∧ HasBegun (w.now.cases settlementId)
  single : reservationsOf w.now.liquidity settlementId = [] ∨
    ∃ r, reservationsOf w.now.liquidity settlementId = [r] ∧ HasBegun (w.now.cases settlementId)

section ReservesOnce

variable {digest : AuthorizedInstruction → String} {w : World} {asOf : Nat} {op : SettlementOp}
  {settlementId : String}

theorem reservesOnce_empty (settlementId : String) : ReservesOnce World.empty settlementId :=
  ⟨nofun, .inl rfl⟩

/-- Beginning to reserve took the settlement out of AUTHORIZED. -/
theorem beginReservation_done {facility : Option FacilityView} {input : ReserveForInput}
    {s s' : Store} {done : FundingDone}
    (h : Commits (beginReservation facility input) s (.ok done) s') :
    ∃ asked, asked.trigger = .beginReservation ∧ Moved asked s.case s'.case := by
  simp only [beginReservation, commits_get_bind] at h
  split at h
  · cases (commits_pure.mp h).1
  split at h
  · cases (commits_pure.mp h).1
  obtain ⟨outcome, s₁, ran, h⟩ := commits_bind.mp h
  obtain ⟨c, applied, rfl⟩ := commits_onCase.mp ran
  rcases applyTransition_moved applied with ⟨⟨_, rfl⟩, -⟩ | ⟨⟨_, rfl⟩, moved⟩
  · cases (commits_pure.mp h).1
  · obtain ⟨-, rfl⟩ := commits_pure.mp h
    exact ⟨_, rfl, moved⟩

theorem begins {asked : ApplyTransitionInput} {c c' : Case} (moved : Moved asked c c')
    (trigger : asked.trigger = .beginReservation) : ¬ HasBegun c ∧ HasBegun c' := by
  obtain ⟨old, new, t, found, takes, rfl⟩ := moved
  have source := takes.source
  have status := takes.status
  rw [trigger] at source status
  have status : new.status = .liquidityReserving := status
  refine ⟨?_, new, rfl, by rw [status]; decide, fun is => by rw [status] at is; cases is⟩
  rintro ⟨row, found', stays, -⟩
  obtain rfl := Option.some.inj (found.symm.trans found')
  rw [List.mem_singleton.mp source] at stays
  exact absurd stays (by decide)

theorem nextPending_begins (read : Reads) (s : Store)
    (pending : String → Option ReserveForInput) (input : ReserveForInput) :
    nextPending read s pending (.beginReservation input) = pending ∨
      (∃ done, answer (beginReservation read.facility input) s = some (.ok done)) ∧
        nextPending read s pending (.beginReservation input) =
          Function.update pending input.settlementId (some input) := by
  simp only [nextPending]
  split
  · rename_i done answered
    exact .inr ⟨⟨done, answered⟩, rfl⟩
  · exact .inl rfl

/-- A step leaves the reservation a settlement has begun as it is, ends it, or begins it. -/
theorem step_pending :
    (w.step digest (.settlement asOf op)).pending settlementId = w.pending settlementId ∨
      settlementId = op.subject ∧
        ((w.step digest (.settlement asOf op)).pending settlementId = none ∨
          ∃ input, op = .beginReservation input ∧
            (w.step digest (.settlement asOf op)).pending settlementId = some input ∧
            ¬ HasBegun (w.now.cases settlementId) ∧
            HasBegun ((w.step digest (.settlement asOf op)).now.cases settlementId)) := by
  have next : (w.step digest (.settlement asOf op)).pending =
      nextPending (w.read asOf op) (w.now.store op.subject) w.pending op := rfl
  by_cases subject : settlementId = op.subject
  · subst subject
    cases op with
    | beginReservation input =>
      rw [step_case_subject, next]
      rcases nextPending_begins (w.read asOf (.beginReservation input))
        (w.now.store input.settlementId) w.pending input with same | ⟨⟨done, answered⟩, begun⟩
      · exact .inl (congrFun same _)
      · obtain ⟨asked, trigger, moved⟩ := beginReservation_done (answer_some answered)
        obtain ⟨before, after⟩ := begins moved trigger
        exact .inr ⟨rfl, .inr ⟨input, rfl, (congrFun begun _).trans (Function.update_self ..),
          before, after⟩⟩
    | completeReservation own stamp => exact .inr ⟨rfl, .inl (Function.update_self ..)⟩
    | _ => exact .inl rfl
  · refine .inl ?_
    cases op with
    | beginReservation input =>
      rcases nextPending_begins (w.read asOf (.beginReservation input))
        (w.now.store input.settlementId) w.pending input with same | ⟨-, begun⟩
      · exact congrFun same _
      · exact (congrFun begun _).trans (Function.update_of_ne subject _ _)
    | completeReservation own stamp => exact Function.update_of_ne subject _ _
    | _ => rfl

/-- The funding tables are in order, and each settlement reserves once. -/
structure ReservationsInOrder (w : World) : Prop where
  funding : FundingInOrder w.now.liquidity
  once : ∀ settlementId, ReservesOnce w settlementId

theorem reservationsInOrder_empty : ReservationsInOrder World.empty :=
  ⟨fundingInOrder_empty, reservesOnce_empty⟩

/-- What a step does to the one reservation of a settlement. -/
inductive OneMove (w : World) (op : SettlementOp) (l' : Liquidity) (settlementId : String) :
    Prop where
  | still : reservationsOf l' settlementId = reservationsOf w.now.liquidity settlementId →
    OneMove w op l' settlementId
  | added {stamp : ReserveStamp} {input : ReserveForInput} :
    op = .completeReservation settlementId stamp → w.pending settlementId = some input →
    HasBegun (w.now.cases settlementId) → reservationsOf w.now.liquidity settlementId = [] →
    reservationsOf l' settlementId = [(input.reserve stamp).row] → OneMove w op l' settlementId
  | left {r r' : ReservationRow} : op.MayFree → settlementId = op.subject →
    reservationsOf w.now.liquidity settlementId = [r] → r.status = .active →
    reservationsOf l' settlementId = [r'] → r'.id = r.id → r'.status ≠ .active →
    OneMove w op l' settlementId

theorem OwnMove.one {l' : Liquidity} (moved : OwnMove w op l') (held : ReservationsInOrder w)
    (settlementId : String) : OneMove w op l' settlementId := by
  by_cases subject : settlementId = op.subject
  · cases moved with
    | still same => exact .still (reservationsOf_congr same)
    | @added own stamp input is begun _ rows =>
      subst is
      obtain rfl : settlementId = own := subject
      obtain ⟨same, none, begins⟩ := (held.once settlementId).pending input begun
      refine .added rfl begun begins none ?_
      rw [reservationsOf, rows, List.filter_append, ← reservationsOf, none]
      simp [ReserveInput.row, ReserveForInput.reserve, same]
    | left frees own leaves =>
      have mem := mem_reservationsOf.mpr ⟨leaves.mem, own.trans subject.symm⟩
      rcases (held.once settlementId).single with none | ⟨r, one, -⟩
      · rw [none] at mem
        cases mem
      · obtain ⟨rfl, r', one', id, status, -⟩ := leaves.single (own.trans subject.symm) one
        exact .left frees subject one leaves.active one' id (status ▸ leaves.ended)
  · exact .still (moved.others held.funding.books
      (fun input begun => ((held.once op.subject).pending input begun).1) subject)

theorem step_begun (op : WorldOp) (held : HasBegun (w.now.cases settlementId)) :
    HasBegun ((w.step digest op).now.cases settlementId) := by
  rcases step_row digest w op settlementId with same | ⟨_, _, -, -, moved⟩
  · obtain ⟨row, found, stays⟩ := held
    exact ⟨row, same.trans found, stays⟩
  · exact moved.begun held

theorem ReservesOnce.begun {r : ReservationRow} (held : ReservesOnce w settlementId)
    (one : reservationsOf w.now.liquidity settlementId = [r]) :
    HasBegun (w.now.cases settlementId) := by
  rcases held.single with none | ⟨_, -, begun⟩
  · rw [none] at one
    cases one
  · exact begun

theorem OneMove.single
    (moved : OneMove w op (w.step digest (.settlement asOf op)).now.liquidity settlementId)
    (held : ReservesOnce w settlementId) :
    reservationsOf (w.step digest (.settlement asOf op)).now.liquidity settlementId = [] ∨
      ∃ r, reservationsOf (w.step digest (.settlement asOf op)).now.liquidity settlementId = [r] ∧
        HasBegun ((w.step digest (.settlement asOf op)).now.cases settlementId) := by
  cases moved with
  | still same =>
    rcases held.single with none | ⟨r, one, begun⟩
    · exact .inl (same.trans none)
    · exact .inr ⟨r, same.trans one, step_begun _ begun⟩
  | added _ _ begun _ one => exact .inr ⟨_, one, step_begun _ begun⟩
  | left _ _ one _ one' => exact .inr ⟨_, one', step_begun _ (held.begun one)⟩

theorem OneMove.pending
    (moved : OneMove w op (w.step digest (.settlement asOf op)).now.liquidity settlementId)
    (held : ReservesOnce w settlementId) {input : ReserveForInput}
    (waiting : (w.step digest (.settlement asOf op)).pending settlementId = some input) :
    input.settlementId = settlementId ∧
      reservationsOf (w.step digest (.settlement asOf op)).now.liquidity settlementId = [] ∧
      HasBegun ((w.step digest (.settlement asOf op)).now.cases settlementId) := by
  have none : reservationsOf w.now.liquidity settlementId = [] →
      reservationsOf (w.step digest (.settlement asOf op)).now.liquidity settlementId = [] := by
    intro none
    cases moved with
    | still same => exact same.trans none
    | added is =>
      subst is
      cases (Function.update_self ..).symm.trans waiting
    | left _ _ one => rw [none] at one; cases one
  obtain kept | ⟨subject, ended | ⟨asked, is, now, before, after⟩⟩ :
      (w.step digest (.settlement asOf op)).pending settlementId = w.pending settlementId ∨ _ :=
    step_pending
  · obtain ⟨own, old, begun⟩ := held.pending input (kept.symm.trans waiting)
    exact ⟨own, none old, step_begun _ begun⟩
  · cases ended.symm.trans waiting
  · obtain rfl := Option.some.inj (now.symm.trans waiting)
    subst is
    refine ⟨subject.symm, none ?_, after⟩
    exact held.single.resolve_right fun ⟨_, _, begun⟩ => before begun

theorem step_reservationsInOrder (op : WorldOp) (held : ReservationsInOrder w) :
    ReservationsInOrder (w.step digest op) := by
  refine ⟨step_fundingInOrder w op held.funding, fun settlementId => ?_⟩
  cases op with
  | funding op =>
    have same := fundingStep_reservations w.now.liquidity op
    obtain ⟨pending, single⟩ := held.once settlementId
    rw [← reservationsOf_congr same] at pending single
    exact ⟨pending, single⟩
  | settlement asOf op =>
    have own : OwnMove w op (w.step digest (.settlement asOf op)).now.liquidity := step_own
    have moved := own.one held settlementId
    exact ⟨fun _ waiting => moved.pending (held.once settlementId) waiting,
      moved.single (held.once settlementId)⟩

end ReservesOnce

/-! ### Giving a reservation back -/

/-- A compensation would release: the settlement is there, and its latest reservation is ACTIVE. -/
def holdsActive (s : Store) (settlementId : String) : Bool :=
  s.case.settlement.isSome &&
    (latestReservation s.liquidity settlementId).any fun r => decide (r.status = .active)

/-- The operator's resolution ends the settlement: it passes every check before the compensation. -/
def OperatorResolveInput.ends (input : OperatorResolveInput) (ctx : OperatorContext) (c : Case) :
    Bool :=
  decide (input.resolution ≠ .resume) &&
    decide (InternalCapability.exceptionResolve ∈ ctx.capabilities) &&
    (validateReason ctx.reason).isNone && (openExceptionFor c).isSome &&
    c.settlement.any fun row => row.pointOfNoReturnAt.isNone

/-- The operation gives an ACTIVE reservation of its settlement back to the facility. -/
def SettlementOp.givesBack (s : Store) : SettlementOp → Bool
  | releaseReservation _ => true
  | compensateCancellation input => holdsActive s input.settlementId
  | resolveExceptionAsOperator ctx input =>
    input.ends ctx s.case && holdsActive s input.settlementId
  | _ => false

section GivesBack

variable {digest : AuthorizedInstruction → String} {read : Reads} {s s' : Store}
  {op : SettlementOp}

theorem compensateCancellation_keeps {input : CompensateInput}
    {r : Except FundingRefusal Compensation} (h : Commits (compensateCancellation input) s r s')
    (keeps : holdsActive s input.settlementId = false) :
    s'.liquidity.reservations = s.liquidity.reservations := by
  simp only [compensateCancellation, commits_get_bind] at h
  split at h
  · rw [(commits_pure.mp h).2]
  rename_i row found
  split at h
  · rw [(commits_pure.mp h).2]
  rename_i reservation latest
  split at h
  · rename_i active
    simp [holdsActive, found, latest, active] at keeps
  · obtain ⟨repayment, s₁, repaying, h⟩ := commits_bind.mp h
    obtain ⟨l, asked, rfl⟩ := commits_onLiquidity.mp repaying
    have same := requestRepayment_reservations asked
    split at h <;> rwa [(commits_pure.mp h).2]
  · rw [(commits_pure.mp h).2]
  · rw [(commits_pure.mp h).2]

theorem resolveExceptionAsOperator_keeps {ctx : OperatorContext} {input : OperatorResolveInput}
    {r : Except OperatorRefusal OperatorDone}
    (h : Commits (resolveExceptionAsOperator ctx input) s r s')
    (keeps : (input.ends ctx s.case && holdsActive s input.settlementId) = false) :
    s'.liquidity.reservations = s.liquidity.reservations := by
  simp only [resolveExceptionAsOperator, requireCapability, bind_assoc, commits_require_bind,
    commits_get_bind] at h
  obtain ⟨capable, reasoned, h⟩ := h
  split at h
  · rw [(commits_pure.mp h).2]
  rename_i row found
  split at h
  · rw [(commits_pure.mp h).2]
  rename_i e isOpen
  split at h
  · rw [(commits_pure.mp h).2]
  split at h
  · rw [(commits_pure.mp h).2]
  rename_i failing cancelling
  obtain ⟨given, s₁, giving, h⟩ := commits_bind.mp h
  have same : s₁.liquidity.reservations = s.liquidity.reservations := by
    unfold OperatorResolveInput.giveBack at giving
    split at giving
    · rw [(commits_pure.mp giving).2]
    rename_i ends
    refine compensateCancellation_keeps giving ?_
    have before : row.pointOfNoReturnAt.isNone = true := by
      cases resolution : input.resolution <;> simp_all
    have passed : input.ends ctx s.case = true := by
      simp [OperatorResolveInput.ends, ends, capable, reasoned, isOpen, found, before]
    rw [passed, Bool.true_and] at keeps
    exact keeps
  split at h
  · rwa [(commits_pure.mp h).2]
  · obtain ⟨outcome, s₂, applied, h⟩ := commits_bind.mp h
    obtain ⟨c, -, rfl⟩ := commits_onCase.mp applied
    split at h
    · rwa [(commits_pure.mp h).2]
    · obtain ⟨_, s₃, resolves, h⟩ := commits_bind.mp h
      obtain ⟨c₁, -, rfl⟩ := commits_onCase.mp resolves
      obtain ⟨_, s₄, recorded, h⟩ := commits_bind.mp h
      obtain ⟨c₂, -, rfl⟩ := commits_onCase.mp recorded
      rwa [(commits_pure.mp h).2]

/-- An operation that gives nothing back leaves the reservations a release would change. -/
theorem settlementStep_keeps {input : ReleaseInput} (releases : op.releases = some input)
    (keeps : op.givesBack s = false) :
    (settlementStep digest read s op).liquidity.reservations = s.liquidity.reservations := by
  cases op with
  | releaseReservation asked => cases keeps
  | compensateCancellation asked =>
    exact after_induction (P := fun s' : Store => s'.liquidity.reservations = _) rfl
      fun _ _ done => compensateCancellation_keeps done keeps
  | resolveExceptionAsOperator ctx asked =>
    exact after_induction (P := fun s' : Store => s'.liquidity.reservations = _) rfl
      fun _ _ done => resolveExceptionAsOperator_keeps done keeps
  | _ => cases releases

end GivesBack

/-! ### The reservation behind a drawdown -/

/-- The status of the reservation a drawdown stands on. -/
def DrawdownStatus.standsOn : DrawdownStatus → Option ReservationStatus
  | requested | unknown => some .active
  | confirmed => some .consumed
  | failed => none

/-- The drawdown's reservation is held for it while it may still be drawn, and spent by it once
it is. -/
def Backed (l : Liquidity) (d : DrawdownRow) : Prop :=
  ∀ status, d.status.standsOn = some status →
    ∃ r ∈ l.reservations, r.id = d.reservationId ∧ r.status = status

instance (l : Liquidity) (d : DrawdownRow) : Decidable (Backed l d) :=
  inferInstanceAs (Decidable (∀ status ∈ d.status.standsOn,
    ∃ r ∈ l.reservations, r.id = d.reservationId ∧ r.status = status))

/-- The one reservation of the settlement is the drawdown's. -/
def OwnBacked (l : Liquidity) (settlementId : String) (d : DrawdownRow) : Prop :=
  ∀ status, d.status.standsOn = some status →
    ∃ r, reservationsOf l settlementId = [r] ∧ r.id = d.reservationId ∧ r.status = status

/-- No step gives back the reservation of a drawdown that is REQUESTED or UNKNOWN. -/
def HoldsBack (w : World) : WorldOp → Prop
  | .funding _ => True
  | .settlement _ op => op.givesBack (w.now.store op.subject) = true →
      ∀ d ∈ (w.now.cases op.subject).drawdowns, d.status.isTerminal = true

instance (w : World) : (op : WorldOp) → Decidable (HoldsBack w op)
  | .funding _ => isTrue trivial
  | .settlement _ op => inferInstanceAs (Decidable (op.givesBack (w.now.store op.subject) = true →
      ∀ d ∈ (w.now.cases op.subject).drawdowns, d.status.isTerminal = true))

section Backed

variable {digest : AuthorizedInstruction → String} {w : World} {asOf : Nat} {op : SettlementOp}
  {l l' : Liquidity} {settlementId : String} {d : DrawdownRow}

theorem OwnBacked.backed (held : OwnBacked l settlementId d) : Backed l d := by
  intro status stands
  obtain ⟨r, one, id, is⟩ := held status stands
  have mem : r ∈ reservationsOf l settlementId := by rw [one]; exact List.mem_singleton_self r
  exact ⟨r, (mem_reservationsOf.mp mem).1, id, is⟩

theorem lockReservation_single {r : ReservationRow} (one : reservationsOf l settlementId = [r]) :
    lockReservation l settlementId = some r := by
  have mine : (l.reservations.filter fun r => decide (r.settlementId = settlementId)) = [r] := one
  by_cases active : r.status = .active <;> simp [lockReservation, mine, active, Table.latestBy]

theorem drawdownMachine_rows {row : DrawdownTransition} {source : DrawdownStatus}
    {trigger : DrawdownTrigger} (evaluated : drawdownMachine.evaluate (some source) trigger = some row) :
    source.isTerminal = false ∧
      (row.target = .confirmed ∨ row.target = .failed ∨ row.target = .unknown) := by
  obtain ⟨inTable, -, leaves⟩ := Machine.evaluate_some evaluated
  have table : ∀ row ∈ drawdownMachine.rows, ∀ source ∈ row.source, source.isTerminal = false ∧
      (row.target = .confirmed ∨ row.target = .failed ∨ row.target = .unknown) := by decide
  exact table row inTable source leaves

theorem standsOn_active {status : DrawdownStatus} :
    status.standsOn = some .active ↔ status.isTerminal = false := by
  cases status <;> decide

/-- A drawdown left as it is stays backed, unless its reservation is taken from under it. -/
theorem OwnBacked.kept (held : OwnBacked w.now.liquidity settlementId d)
    (moved : OneMove w op l' settlementId)
    (keeps : op.MayFree → reservationsOf l' settlementId =
      reservationsOf w.now.liquidity settlementId ∨ d.status.isTerminal = true) :
    OwnBacked l' settlementId d := by
  intro status stands
  obtain ⟨r, one, id, is⟩ := held status stands
  cases moved with
  | still same => exact ⟨r, same.trans one, id, is⟩
  | added _ _ _ none => rw [none] at one; cases one
  | left frees _ one₁ active =>
    rcases keeps frees with same | terminal
    · exact ⟨r, same.trans one, id, is⟩
    · obtain rfl := List.singleton_inj.mp (one₁.symm.trans one)
      rw [standsOn_active.mp (stands.trans (congrArg some (is.symm.trans active)))] at terminal
      cases terminal

/-- What holds of every settlement's drawdown while none is deprived of its reservation. -/
structure DrawdownsBacked (w : World) : Prop where
  inOrder : ReservationsInOrder w
  draws : ∀ settlementId, DrawsOnce (w.now.cases settlementId)
  backed : ∀ settlementId, ∀ d ∈ (w.now.cases settlementId).drawdowns,
    OwnBacked w.now.liquidity settlementId d

theorem drawdownsBacked_empty : DrawdownsBacked World.empty :=
  ⟨reservationsInOrder_empty, fun _ => drawsOnce_empty, fun _ d mem => by cases mem⟩

/-- A drawdown asked for on the settlement's ACTIVE reservation. -/
theorem ownBacked_drawn {input : DrawInput} {reservation : ReservationRow}
    (active : activeReservation l input.settlementId = some reservation)
    (single : reservationsOf l input.settlementId = [] ∨
      ∃ r, reservationsOf l input.settlementId = [r]) :
    OwnBacked l input.settlementId (input.row reservation) := by
  intro status stands
  obtain rfl := Option.some.inj stands
  have found := List.find?_some active
  simp only [Bool.and_eq_true, decide_eq_true_eq] at found
  have mem : reservation ∈ reservationsOf l input.settlementId :=
    mem_reservationsOf.mpr ⟨List.mem_of_find?_eq_some active, found.1⟩
  rcases single with none | ⟨r, one⟩
  · rw [none] at mem
    cases mem
  · rw [one] at mem
    obtain rfl := List.mem_singleton.mp mem
    exact ⟨_, one, rfl, found.2⟩

/-- A drawdown resolved on its own reservation. -/
theorem OwnBacked.resolved {input : ResolveDrawdownInput} {row : DrawdownTransition}
    {r : Except ReservationRefusal PUnit} (held : OwnBacked l input.settlementId d)
    (evaluated : drawdownMachine.evaluate (some d.status) input.trigger.trigger = some row)
    (followed : Commits (followReservation input row.target) l r l') :
    OwnBacked l' input.settlementId (movedDrawdown row.target input.now input.providerReference d) := by
  obtain ⟨flying, lands⟩ := drawdownMachine_rows evaluated
  obtain ⟨res, one, id, active⟩ := held .active (standsOn_active.mpr flying)
  intro status stands
  rcases lands with target | target | target
  · rw [target] at followed stands
    obtain rfl := Option.some.inj stands
    obtain ⟨_, _, consumed, followed⟩ := commits_bind.mp followed
    obtain ⟨-, rfl⟩ := commits_pure.mp followed
    rcases consumeReservation_leaves consumed with ⟨-, -, never⟩ | ⟨res', locked, leaves⟩
    · exact (never res (lockReservation_single one) active).elim
    · obtain ⟨rfl, r', one', id', is, -⟩ := leaves.single (lockReservation_some locked).2 one
      exact ⟨r', one', id'.trans id, is⟩
  · rw [target] at stands
    cases stands
  · rw [target] at followed stands
    obtain rfl := Option.some.inj stands
    obtain ⟨-, rfl⟩ := commits_pure.mp followed
    exact ⟨res, one, id, active⟩

theorem DrawsOnce.latest {c : Case} (held : DrawsOnce c) (latest : latestDrawdown c = some d) :
    c.drawdowns = [d] := by
  rcases held with none | ⟨d', _, one, -⟩
  · rw [latestDrawdown, none] at latest
    cases latest
  · rw [latestDrawdown, one] at latest
    rw [one, Option.some.inj latest]

theorem withDrawdown_single {c : Case} {target : DrawdownStatus} {now : Instant}
    {providerReference : Option String} (alone : c.drawdowns = [d]) :
    (withDrawdown c d.id target now providerReference).drawdowns =
      [movedDrawdown target now providerReference d] := by
  simp [withDrawdown, alone, Table.setWhere]

/-- One step, for the settlement it is about. -/
theorem DrawdownsBacked.subject (held : DrawdownsBacked w) (allowed : HoldsBack w (.settlement asOf op)) :
    ∀ d ∈ ((w.step digest (.settlement asOf op)).now.cases op.subject).drawdowns,
      OwnBacked (w.step digest (.settlement asOf op)).now.liquidity op.subject d := by
  have moved : StoreMove digest (w.read asOf op) (w.now.store op.subject) op _ :=
    settlementStep_move op
  have own : OwnMove w op (w.step digest (.settlement asOf op)).now.liquidity := step_own
  have one := own.one held.inOrder op.subject
  have kept : (op.MayFree → reservationsOf (w.step digest (.settlement asOf op)).now.liquidity
      op.subject = reservationsOf w.now.liquidity op.subject ∨
        ∀ d ∈ (w.now.cases op.subject).drawdowns, d.status.isTerminal = true) →
      ∀ d ∈ (w.now.cases op.subject).drawdowns,
        OwnBacked (w.step digest (.settlement asOf op)).now.liquidity op.subject d :=
    fun keeps d mem => (held.backed op.subject d mem).kept one fun frees =>
      (keeps frees).imp_right fun all => all d mem
  rw [step_case_subject]
  rw [step_liquidity] at kept ⊢
  cases moved.holds with
  | still drawdowns liquidity =>
    rw [drawdowns]
    exact kept fun _ => .inl (congrArg (reservationsOf · op.subject) liquidity)
  | reserved is _ _ drawdowns =>
    rw [drawdowns]
    refine kept fun frees => ?_
    subst is
    rcases frees with ⟨_, releases⟩ | ⟨_, resolves⟩
    · cases releases
    · cases resolves
  | @drawn input reservation old new is active found before _ _ drawdowns liquidity =>
    subst is
    have none := (held.draws input.settlementId).undrawn found before
    have single : reservationsOf w.now.liquidity input.settlementId = [] ∨
        ∃ r, reservationsOf w.now.liquidity input.settlementId = [r] :=
      (held.inOrder.once input.settlementId).single.imp_right fun ⟨r, one, _⟩ => ⟨r, one⟩
    have only : (settlementStep digest _ _ (.requestDrawdown input)).case.drawdowns =
        [input.row reservation] := drawdowns.trans (congrArg (· ++ [input.row reservation]) none)
    intro d mem
    rw [only] at mem
    obtain rfl := List.mem_singleton.mp mem
    rw [liquidity]
    exact ownBacked_drawn active single
  | @resolved input d row r is latest evaluated drawdowns followed =>
    subst is
    have alone : (w.now.cases input.settlementId).drawdowns = [d] :=
      (held.draws input.settlementId).latest latest
    have before : OwnBacked w.now.liquidity input.settlementId d :=
      held.backed input.settlementId d (alone ▸ List.mem_singleton_self d)
    intro d' mem
    rw [drawdowns.trans (withDrawdown_single alone)] at mem
    obtain rfl := List.mem_singleton.mp mem
    exact before.resolved evaluated followed
  | released releases done drawdowns =>
    rw [drawdowns]
    refine kept fun _ => ?_
    cases gives : op.givesBack (w.now.store op.subject) with
    | true => exact .inr (allowed gives)
    | false => exact .inl (reservationsOf_congr (settlementStep_keeps releases gives))
  | asked _ done drawdowns =>
    rw [drawdowns]
    exact kept fun _ => .inl (reservationsOf_congr (requestRepayment_reservations done))

theorem step_drawdownsBacked (w : World) (op : WorldOp) (held : DrawdownsBacked w)
    (allowed : HoldsBack w op) : DrawdownsBacked (w.step digest op) := by
  have inOrder : ReservationsInOrder (w.step digest op) := step_reservationsInOrder op held.inOrder
  cases op with
  | funding op =>
    refine ⟨inOrder, held.draws, fun settlementId d mem => ?_⟩
    have before := held.backed settlementId d mem
    rw [OwnBacked, ← reservationsOf_congr (fundingStep_reservations w.now.liquidity op)] at before
    exact before
  | settlement asOf op =>
    refine ⟨inOrder, fun settlementId => ?_, fun settlementId => ?_⟩
    · by_cases subject : settlementId = op.subject
      · subst subject
        rw [step_case_subject]
        have moved : StoreMove digest (w.read asOf op) (w.now.store op.subject) op _ :=
          settlementStep_move op
        exact moved.holds.drawsOnce moved.row (held.draws op.subject)
      · rw [step_case_of_ne subject]
        exact held.draws settlementId
    · by_cases subject : settlementId = op.subject
      · subst subject
        exact held.subject allowed
      · rw [step_case_of_ne subject]
        have own : OwnMove w op (w.step digest (.settlement asOf op)).now.liquidity := step_own
        intro d mem
        refine (held.backed settlementId d mem).kept (own.one held.inOrder settlementId) fun _ => ?_
        exact .inl (own.others held.inOrder.funding.books (fun input begun =>
          ((held.inOrder.once op.subject).pending input begun).1) subject)

variable (digest)

/-- In every run in which no reservation is given back from under a drawdown in flight, every
drawdown in flight has its ACTIVE reservation and every confirmed one its CONSUMED one. -/
theorem drawdowns_backed (ops : List WorldOp)
    (steps : Along (World.step digest) HoldsBack World.empty ops) (settlementId : String) :
    ∀ d ∈ (caseAfter digest ops settlementId).drawdowns,
      Backed (run (World.step digest) World.empty ops).now.liquidity d :=
  fun d mem => ((Along.invariant step_drawdownsBacked drawdownsBacked_empty steps).backed
    settlementId d mem).backed

/-- Of a drawdown that timed out and was found confirmed. -/
theorem drawdowns_backed_late :
    ((caseAfter (fun _ => "hash") (authorizing ++ capacity ++
        [drawing, resolving .slaElapsed 5, resolving .pullResolvedConfirmed 6])
        "s").drawdowns.map (·.status) = [.confirmed]) ∧
    ∀ d ∈ (caseAfter (fun _ => "hash") (authorizing ++ capacity ++
        [drawing, resolving .slaElapsed 5, resolving .pullResolvedConfirmed 6]) "s").drawdowns,
      Backed (run (World.step fun _ => "hash") World.empty (authorizing ++ capacity ++
        [drawing, resolving .slaElapsed 5, resolving .pullResolvedConfirmed 6])).now.liquidity d :=
  ⟨by decide +kernel, drawdowns_backed (fun _ => "hash") _ (by decide +kernel) "s"⟩

/-- The lender does not answer, and the settlement waits in EXCEPTION. -/
def unanswered : WorldOp :=
  fresh (.openException {
    settlementId := "s", trigger := .drawdownTimeout, code := .drawdownStatusUnknown
    actor := worker, guards := [(.drawdownSlaElapsed, true)], exceptionId := "exception" })

/-- An operator resolves the exception of the settlement. -/
def operating (resolution : Resolution) (now : Instant) : WorldOp :=
  fresh (.resolveExceptionAsOperator
    ⟨⟨.user, "operator"⟩, [.exceptionResolve], "exception.resolve", "the lender does not answer"⟩
    ⟨"s", resolution, "repayment", "t3", now⟩)

/-- An operator fails the settlement while its drawdown is REQUESTED: the reservation is released.
The lender's confirmation then leaves a CONFIRMED drawdown with a RELEASED reservation. -/
theorem drawdown_unbacked :
    (¬ ∀ d ∈ (caseAfter (fun _ => "hash") (authorizing ++ capacity ++
        [drawing, unanswered, operating .fail 6]) "s").drawdowns,
      Backed (run (World.step fun _ => "hash") World.empty (authorizing ++ capacity ++
        [drawing, unanswered, operating .fail 6])).now.liquidity d) ∧
    ¬ ∀ d ∈ (caseAfter (fun _ => "hash") (authorizing ++ capacity ++
        [drawing, unanswered, operating .fail 6, resolving .confirmed 7]) "s").drawdowns,
      Backed (run (World.step fun _ => "hash") World.empty (authorizing ++ capacity ++
        [drawing, unanswered, operating .fail 6, resolving .confirmed 7])).now.liquidity d := by
  decide +kernel

end Backed

end InrSettle
