import InrSettle.System.Returns
import InrSettle.System.Transitions

/-!
# What a settlement holds of its facility

The reservation, the drawdown and the repayments of a settlement: what one operation
can do to them, the books of the facilities over runs of the whole system, and that a
settlement draws once.
-/

namespace InrSettle

open Transaction CaseTables FundingTables Run

/-! ### Giving back -/

def CompensateInput.release (input : CompensateInput) : ReleaseInput where
  settlementId := input.settlementId
  reason := .settlementCancelled
  actor := input.actor
  transferId := input.transferId
  now := input.now

/-- The repayment a compensation asks for: the whole of what was drawn. -/
def CompensateInput.repay (input : CompensateInput) (reservation : ReservationRow) :
    RepayInput where
  facilityId := reservation.facilityId
  amount := ⟨reservation.amountCurrency, reservation.amountMinor⟩
  source := .cancellationAfterDrawdown
  settlementId := some input.settlementId
  actor := input.actor
  repaymentId := input.repaymentId
  now := input.now

/-- A compensation releases what is reserved, asks back what was drawn, or finds nothing to do. -/
theorem compensateCancellation_spec {input : CompensateInput} {s s' : Store}
    {r : Except FundingRefusal Compensation} (h : Commits (compensateCancellation input) s r s') :
    s' = s ∨
      (∃ released, Commits (releaseReservation input.release) s.liquidity released s'.liquidity ∧
        s'.case = s.case ∧ (r = .ok .reservationReleased → ∃ done, released = .ok done)) ∨
      ∃ reservation done, latestReservation s.liquidity input.settlementId = some reservation ∧
        reservation.status = .consumed ∧
        Commits (requestRepayment (input.repay reservation)) s.liquidity (.ok done) s'.liquidity ∧
        s'.case = s.case := by
  simp only [compensateCancellation, commits_get_bind] at h
  split at h
  · exact .inl (commits_pure.mp h).2
  split at h
  · exact .inl (commits_pure.mp h).2
  rename_i reservation latest
  split at h
  · obtain ⟨released, s₁, releasing, h⟩ := commits_bind.mp h
    obtain ⟨l, done, rfl⟩ := commits_onLiquidity.mp releasing
    cases released with
    | error refusal =>
      obtain ⟨rfl, rfl⟩ := commits_pure.mp h
      exact .inr (.inl ⟨_, done, rfl, by simp⟩)
    | ok answer =>
      obtain ⟨rfl, rfl⟩ := commits_pure.mp h
      exact .inr (.inl ⟨_, done, rfl, fun _ => ⟨answer, rfl⟩⟩)
  · rename_i consumed
    obtain ⟨repayment, s₁, repaying, h⟩ := commits_bind.mp h
    obtain ⟨l, done, rfl⟩ := commits_onLiquidity.mp repaying
    cases repayment with
    | error refusal =>
      obtain ⟨-, rfl⟩ := commits_pure.mp h
      obtain ⟨_, -, rfl⟩ | ⟨made, -⟩ := requestRepayment_spec done
      · exact .inl rfl
      · cases made
    | ok answer =>
      obtain ⟨-, rfl⟩ := commits_pure.mp h
      exact .inr (.inr ⟨reservation, answer, latest, consumed, done, rfl⟩)
  · exact .inl (commits_pure.mp h).2
  · exact .inl (commits_pure.mp h).2

/-! ### What an operation does -/

/-- The compensation the operation makes. -/
def SettlementOp.compensates : SettlementOp → Option CompensateInput
  | compensateCancellation input => some input
  | resolveExceptionAsOperator ctx input =>
    if input.resolution = .resume then none else some (input.compensate ctx.principal)
  | _ => none

/-- The release the operation asks its facility for. -/
def SettlementOp.releases : SettlementOp → Option ReleaseInput
  | releaseReservation input => some input
  | op => op.compensates.map (·.release)

theorem compensates_subject {op : SettlementOp} {input : CompensateInput}
    (compensates : op.compensates = some input) : op.subject = input.settlementId := by
  cases op
  case compensateCancellation => exact congrArg CompensateInput.settlementId (Option.some.inj compensates)
  case resolveExceptionAsOperator ctx resolve =>
    simp only [SettlementOp.compensates] at compensates
    split at compensates
    · cases compensates
    · exact congrArg CompensateInput.settlementId (Option.some.inj compensates)
  all_goals cases compensates

theorem releases_subject {op : SettlementOp} {input : ReleaseInput}
    (releases : op.releases = some input) : op.subject = input.settlementId := by
  by_cases direct : ∃ asked, op = .releaseReservation asked
  · obtain ⟨asked, rfl⟩ := direct
    exact congrArg ReleaseInput.settlementId (Option.some.inj releases)
  · have asked : op.compensates.map (·.release) = some input := by
      cases op <;> first | exact releases | exact (direct ⟨_, rfl⟩).elim
    obtain ⟨compensation, compensates, rfl⟩ := Option.map_eq_some_iff.mp asked
    exact compensates_subject compensates

/-- The repayments the operations ask for, with what they leave of the settlement's rows. -/
inductive AskedBy (s : Store) (op : SettlementOp) (c' : Case) : RepayInput → Prop where
  | compensation {input : CompensateInput} {reservation : ReservationRow} :
    op.compensates = some input →
    latestReservation s.liquidity input.settlementId = some reservation →
    reservation.status = .consumed → AskedBy s op c' (input.repay reservation)
  | returned {input : ConfirmInput} {current : SettlementReturnRow} {attempt : PayoutAttemptRow}
      {total : Int} {observation : ReturnObservationRow} {drawdown : DrawdownRow} :
    op = .confirmReturn input → Counts s.case input current attempt total observation →
    confirmedDrawdown s.case = some drawdown →
    c'.returns = (withReturn s.case current.id
      (repaying input.repaymentId ∘ confirmed input)).returns →
    AskedBy s op c' (input.repay drawdown (attempt.creditedMinor.getD 0) current)

/-- What one operation can do to what a settlement holds of its facility. -/
inductive HoldsMove (read : Reads) (s : Store) (op : SettlementOp) (s' : Store) : Prop where
  | still : s'.case.drawdowns = s.case.drawdowns → s'.liquidity = s.liquidity →
    HoldsMove read s op s'
  | reserved {settlementId : String} {stamp : ReserveStamp} {input : ReserveForInput}
      {events : List EventRow} :
    op = .completeReservation settlementId stamp → read.pending = some input →
    ReserveAllowed (input.reserve stamp) s.liquidity →
    s'.case.drawdowns = s.case.drawdowns →
    s'.liquidity = { reserving (input.reserve stamp) s.liquidity with events := events } →
    HoldsMove read s op s'
  | drawn {input : DrawInput} {reservation : ReservationRow} {old new : SettlementRow} :
    op = .requestDrawdown input →
    activeReservation s.liquidity input.settlementId = some reservation →
    s.case.settlement = some old → old.status = .liquidityReserved →
    s'.case.settlement = some new → new.status = .drawdownRequested →
    s'.case.drawdowns = s.case.drawdowns ++ [input.row reservation] →
    s'.liquidity = s.liquidity → HoldsMove read s op s'
  | resolved {input : ResolveDrawdownInput} {d : DrawdownRow} {row : DrawdownTransition}
      {r : Except ReservationRefusal PUnit} :
    op = .resolveDrawdown input → latestDrawdown s.case = some d →
    drawdownMachine.evaluate (some d.status) input.trigger.trigger = some row →
    s'.case.drawdowns = (withDrawdown s.case d.id row.target input.now
      input.providerReference).drawdowns →
    Commits (followReservation input row.target) s.liquidity r s'.liquidity →
    HoldsMove read s op s'
  | released {input : ReleaseInput} {r : Except ReservationRefusal ReservationDone} :
    op.releases = some input → Commits (releaseReservation input) s.liquidity r s'.liquidity →
    s'.case.drawdowns = s.case.drawdowns → HoldsMove read s op s'
  | asked {input : RepayInput} {done : RepaymentDone} : AskedBy s op s'.case input →
    Commits (requestRepayment input) s.liquidity (.ok done) s'.liquidity →
    s'.case.drawdowns = s.case.drawdowns → HoldsMove read s op s'

section Projection

variable {digest : AuthorizedInstruction → String} {read : Reads} {s s' : Store}
  {op : SettlementOp}

/-- What a compensation does, whichever operation makes it. -/
theorem holdsMove_of_compensation {input : CompensateInput} {r : Except FundingRefusal Compensation}
    {s₁ : Store} (compensates : op.compensates = some input)
    (h : Commits (compensateCancellation input) s r s₁) (liquidity : s'.liquidity = s₁.liquidity)
    (drawdowns : s'.case.drawdowns = s.case.drawdowns) : HoldsMove read s op s' := by
  have releases : op.releases = some input.release := by
    cases op <;> first | cases compensates | simp [SettlementOp.releases, compensates]
    rfl
  rcases compensateCancellation_spec h with rfl | ⟨released, done, -⟩ |
    ⟨reservation, done, latest, consumed, asked, -⟩
  · exact .still drawdowns liquidity
  · exact .released releases (liquidity ▸ done) drawdowns
  · exact .asked (.compensation compensates latest consumed) (liquidity ▸ asked) drawdowns

theorem Moved.drawdowns {input : ApplyTransitionInput} {c c' : Case} (moved : Moved input c c') :
    c'.drawdowns = c.drawdowns := by
  obtain ⟨_, _, _, -, -, rfl⟩ := moved
  rfl

theorem Turn.drawdowns {input : ApplyTransitionInput} {c c' : Case} (turn : Turn input c c') :
    c'.drawdowns = c.drawdowns := by
  rcases turn with rfl | moved
  · rfl
  · exact moved.drawdowns

theorem StoreMove.holds (moved : StoreMove digest read s op s') : HoldsMove read s op s' := by
  cases moved with
  | noted audits => exact .still rfl rfl
  | created absent checks => exact .still rfl rfl
  | plain answers patch moved => exact .still moved.drawdowns rfl
  | authorized found asks actor moved => exact .still moved.drawdowns rfl
  | dispatched found before version none numbered asks moved fresh =>
    exact .still moved.drawdowns rfl
  | openedException found asks answers moved ids single => exact .still moved.drawdowns rfl
  | resolvedException found asks stated before moved => exact .still moved.drawdowns rfl
  | submitted allowed => exact .still rfl rfl
  | outcome reports latest trusted permits allowed result =>
    rcases result with rfl | ⟨-, -, moved⟩
    · exact .still rfl rfl
    · exact .still moved.drawdowns rfl
  | swept latest waiting elapsed allowed asks turn => exact .still turn.drawdowns rfl
  | retried latest rejected numbered fresh => exact .still rfl rfl
  | reserved pending allowed asks turn => exact .reserved rfl pending allowed turn.drawdowns rfl
  | reservationFailed pending refused asks moved => exact .still moved.drawdowns rfl
  | drawn active asks moved ids single =>
    obtain ⟨old, new, t, found, takes, rfl⟩ := moved
    have source := takes.source
    have target := takes.status
    rw [asks.trigger] at source target
    exact .drawn rfl active found (List.mem_singleton.mp source) rfl target rfl rfl
  | drawdownResolved latest evaluated followed result =>
    rcases result with rfl | ⟨-, moved⟩
    · exact .resolved rfl latest evaluated rfl followed
    · exact .resolved rfl latest evaluated moved.drawdowns followed
  | compensated done => exact holdsMove_of_compensation rfl done rfl rfl
  | released done => exact .released rfl done rfl
  | @operatorResolved ctx input old e r c l found isOpen before gave result =>
    have drawdowns : c.drawdowns = s.case.drawdowns := by
      rcases result with rfl | ⟨_, _, _, -, moved, rfl⟩
      · rfl
      · exact moved.drawdowns
    unfold OperatorResolveInput.giveBack at gave
    split at gave
    · have same : l = s.liquidity := congrArg Store.liquidity (commits_pure.mp gave).2
      exact .still drawdowns same
    · rename_i ends
      exact holdsMove_of_compensation (by simp [SettlementOp.compensates, ends]) gave rfl drawdowns
  | reconciliationBegun none present checks turn => exact .still turn.drawdowns rfl
  | observationMatched found pending matched => exact .still rfl rfl
  | observationDiffered found pending differed turn => exact .still turn.drawdowns rfl
  | reconciliationSwept found pending elapsed turn => exact .still turn.drawdowns rfl
  | reconciliationResolved found evaluated => exact .still rfl rfl
  | evaluated => exact .still rfl rfl
  | settled gathered final moved => exact .still moved.drawdowns rfl
  | returned opens => exact .still (openReturn_about opens).drawdowns rfl
  | eventReturned latest trusted is applied opens =>
    have about := (openReturn_about opens).drawdowns
    rcases applied with ⟨-, -, rfl⟩ | ⟨-, rfl⟩
    · exact .still about rfl
    · exact .still about rfl
  | returnEscalated found source => exact .still rfl rfl
  | returnCapped found source => exact .still rfl rfl
  | returnCounted counts => exact .still rfl rfl
  | returnConfirmed counts drawn asked => 
    exact .asked (.returned rfl counts drawn (repaying_counted _)) asked rfl
  | returnRejected found source => exact .still rfl rfl
  | returnRepaid found source requested paid => exact .still rfl rfl

end Projection

/-! ### The books -/

section Books

variable {read : Reads} {s s' : Store} {op : SettlementOp} {l l' : Liquidity}

theorem followReservation_move {input : ResolveDrawdownInput} {target : DrawdownStatus}
    {r : Except ReservationRefusal PUnit}
    (h : Commits (followReservation input target) l r l') : FundingMove l l' := by
  unfold followReservation at h
  split at h
  · obtain ⟨_, _, consumed, h⟩ := commits_bind.mp h
    obtain ⟨-, rfl⟩ := commits_pure.mp h
    exact consumeReservation_move consumed
  · obtain ⟨_, _, released, h⟩ := commits_bind.mp h
    obtain ⟨-, rfl⟩ := commits_pure.mp h
    exact releaseReservation_move released
  · rw [(commits_pure.mp h).2]
    exact .refused

/-- Every operation on a settlement is a funding move. -/
theorem HoldsMove.funding (moved : HoldsMove read s op s') :
    FundingMove s.liquidity s'.liquidity := by
  cases moved with
  | still _ liquidity => exact liquidity ▸ .refused
  | reserved _ _ allowed _ liquidity => exact liquidity ▸ .reserved allowed
  | drawn _ _ _ _ _ _ _ liquidity => exact liquidity ▸ .refused
  | resolved _ _ _ _ followed => exact followReservation_move followed
  | released _ done _ => exact releaseReservation_move done
  | asked _ done _ => exact requestRepayment_move done

/-- One live repayment for each cause. -/
def OneLive (l : Liquidity) : Prop := Table.Unique liveCause l.repayments

theorem FundingMove.oneLive (moved : FundingMove l l') (books : Books l) (held : OneLive l) :
    OneLive l' := by
  cases moved with
  | refused => exact held
  | created fresh checked => exact held
  | adjusted kept checked => exact held
  | reserved allowed => exact held
  | left mem active inTable leaves allowed => exact held
  | requested allowed admitted => exact Table.Unique.append held admitted
  | @advanced current row input fingerprint _ _ mem named evaluated allowed admitted =>
    have unique := Table.Unique.setWhere held books.repaymentIds admitted
    cases row.restoresCapacity <;> exact unique

variable {digest : AuthorizedInstruction → String}

/-- Every step of the system is a funding move. -/
theorem step_funding (w : World) (op : WorldOp) :
    FundingMove w.now.liquidity (w.step digest op).now.liquidity := by
  cases op with
  | funding op => exact liquidityStep_move w.now.liquidity op.op
  | settlement asOf op =>
    have moved : StoreMove digest (w.read asOf op) (w.now.store op.subject) op _ :=
      settlementStep_move op
    exact moved.holds.funding

/-- The funding tables are in order. -/
structure FundingInOrder (l : Liquidity) : Prop where
  books : Books l
  oneLive : OneLive l

theorem fundingInOrder_empty : FundingInOrder World.empty.now.liquidity :=
  ⟨books_empty, .nil⟩

theorem step_fundingInOrder (w : World) (op : WorldOp) (held : FundingInOrder w.now.liquidity) :
    FundingInOrder (w.step digest op).now.liquidity :=
  have moved := step_funding w op
  ⟨moved.books held.books, moved.oneLive held.books held.oneLive⟩

end Books

/-! ### What a step does to the repayments -/

/-- The operation asks for the repayment. -/
def Requests (w : World) (op : WorldOp) (t : Tenant) (input : RepayInput) : Prop :=
  op = .funding (.requestRepayment input) ∨ ∃ asOf on, op = .settlement asOf on ∧
    AskedBy (w.now.store on.subject) on (t.cases on.subject) input

/-- The repayments stand, there is one more, or one moved along its machine. -/
inductive RepaymentsMove (w : World) (op : WorldOp) (t : Tenant) : Prop where
  | still : t.liquidity.repayments = w.now.liquidity.repayments → RepaymentsMove w op t
  | requested {input : RepayInput} {fingerprint : String} : Requests w op t input →
    Table.admits liveCause w.now.liquidity.repayments (input.row fingerprint) = true →
    t.liquidity.repayments = w.now.liquidity.repayments ++ [input.row fingerprint] →
    RepaymentsMove w op t
  | advanced {input : AdvanceInput} {current : RepaymentRow} {row : RepaymentTransition}
      {fingerprint : String} : op = .funding (.advanceRepayment input) →
    current ∈ w.now.liquidity.repayments → current.id = input.repaymentId →
    repaymentMachine.evaluate (some current.status) input.trigger = some row →
    Table.admits liveCause (w.now.liquidity.repayments.filter fun q => decide (q.id ≠ current.id))
      (advancedRepayment current row input fingerprint) = true →
    t.liquidity.repayments = (advancing current (advancedRepayment current row input fingerprint)
      w.now.liquidity).repayments → RepaymentsMove w op t

section Moves

variable {l l' : Liquidity}

theorem releaseReservation_repayments {input : ReleaseInput}
    {r : Except ReservationRefusal ReservationDone} (h : Commits (releaseReservation input) l r l') :
    l'.repayments = l.repayments := by
  rcases releaseReservation_spec h with ⟨rfl, -⟩ | ⟨rfl, -⟩ | ⟨_, _, _, -, -, -, -, -, -, rfl⟩ <;>
    rfl

theorem consumeReservation_repayments {input : ConsumeInput}
    {r : Except ReservationRefusal ReservationDone} (h : Commits (consumeReservation input) l r l') :
    l'.repayments = l.repayments := by
  rcases consumeReservation_spec h with ⟨rfl, -⟩ | ⟨_, -, -, -, -, rfl⟩ <;> rfl

theorem followReservation_repayments {input : ResolveDrawdownInput} {target : DrawdownStatus}
    {r : Except ReservationRefusal PUnit} (h : Commits (followReservation input target) l r l') :
    l'.repayments = l.repayments := by
  unfold followReservation at h
  split at h
  · obtain ⟨_, _, consumed, h⟩ := commits_bind.mp h
    obtain ⟨-, rfl⟩ := commits_pure.mp h
    exact consumeReservation_repayments consumed
  · obtain ⟨_, _, released, h⟩ := commits_bind.mp h
    obtain ⟨-, rfl⟩ := commits_pure.mp h
    exact releaseReservation_repayments released
  · rw [(commits_pure.mp h).2]

theorem fundingStep_repayments (w : World) (op : FundingOp) :
    RepaymentsMove w (.funding op)
      { w.now with liquidity := liquidityStep w.now.liquidity op.op } := by
  cases op with
  | createFacility input =>
    refine after_induction (P := fun l => RepaymentsMove w _ { w.now with liquidity := l })
      (.still rfl) fun _ _ done => ?_
    obtain ⟨-, -, _, rfl⟩ := createFacility_spec done
    exact .still rfl
  | setFacilityLimit ctx facilityId limit =>
    refine after_induction (P := fun l => RepaymentsMove w _ { w.now with liquidity := l })
      (.still rfl) fun _ _ done => ?_
    rcases setFacilityLimit_spec done with ⟨_, -, rfl⟩ | ⟨_, _, -, -, -, rfl⟩ <;> exact .still rfl
  | setFacilityStatus ctx facilityId suspend =>
    refine after_induction (P := fun l => RepaymentsMove w _ { w.now with liquidity := l })
      (.still rfl) fun _ _ done => ?_
    rcases setFacilityStatus_spec done with ⟨_, -, rfl⟩ | ⟨_, _, -, -, -, rfl⟩ <;> exact .still rfl
  | requestRepayment input =>
    refine after_induction (P := fun l => RepaymentsMove w _ { w.now with liquidity := l })
      (.still rfl) fun _ _ done => ?_
    rcases requestRepayment_spec done with ⟨_, -, rfl⟩ | ⟨-, -, _, _, admitted, rfl⟩
    · exact .still rfl
    · exact .requested (.inl rfl) admitted rfl
  | advanceRepayment input =>
    refine after_induction (P := fun l => RepaymentsMove w _ { w.now with liquidity := l })
      (.still rfl) fun _ _ done => ?_
    rcases advanceRepayment_spec done with ⟨_, -, rfl⟩ |
      ⟨current, row, fingerprint, found, evaluated, -, -, admitted, _, _, rfl⟩
    · exact .still rfl
    · have rows : (if row.restoresCapacity then posted (current.movement input)
          (advancing current (advancedRepayment current row input fingerprint) w.now.liquidity)
        else advancing current (advancedRepayment current row input fingerprint)
          w.now.liquidity).repayments =
          (advancing current (advancedRepayment current row input fingerprint)
            w.now.liquidity).repayments := by
        cases row.restoresCapacity <;> rfl
      exact .advanced rfl (List.mem_of_find?_eq_some found) (by simpa using List.find?_some found)
        evaluated admitted rows

theorem step_repayments (digest : AuthorizedInstruction → String) (w : World) (op : WorldOp) :
    RepaymentsMove w op (w.step digest op).now := by
  cases op with
  | funding op => exact fundingStep_repayments w op
  | settlement asOf op =>
    have moved : StoreMove digest (w.read asOf op) (w.now.store op.subject) op _ :=
      settlementStep_move op
    have after : (w.step digest (.settlement asOf op)).now.cases op.subject = _ :=
      step_case_subject
    cases moved.holds with
    | still _ liquidity => exact .still (congrArg Liquidity.repayments liquidity)
    | reserved _ _ _ _ liquidity => exact .still (by rw [step_liquidity, liquidity]; rfl)
    | drawn _ _ _ _ _ _ _ liquidity => exact .still (congrArg Liquidity.repayments liquidity)
    | resolved _ _ _ _ followed => exact .still (followReservation_repayments followed)
    | released _ done _ => exact .still (releaseReservation_repayments done)
    | asked asked done _ =>
      rcases requestRepayment_spec done with ⟨_, refused, -⟩ | ⟨-, -, _, _, admitted, made⟩
      · cases refused
      · exact .requested (.inr ⟨asOf, op, rfl, after ▸ asked⟩) admitted
          (congrArg Liquidity.repayments made)

end Moves

/-! ### Drawing once -/

/-- The statuses of a settlement that has asked for its drawdown. -/
def drawnStatuses : List SettlementStatus :=
  [.drawdownRequested, .drawdownConfirmed, .payoutSubmitted, .payoutConfirmed, .reconciling,
    .exception, .settled, .failed, .cancelled]

/-- Where such a settlement enters an exception from. -/
def drawnOrigins : List SettlementStatus := [.drawdownRequested, .payoutSubmitted, .reconciling]

theorem drawnStatuses_closed : Closed drawnStatuses drawnOrigins where
  leads trigger _ := by cases trigger <;> decide
  resumes := by decide

/-- A settlement has no drawdown, or one, and is then past the status it asks for it in. -/
def DrawsOnce (c : Case) : Prop :=
  c.drawdowns = [] ∨ ∃ d row, c.drawdowns = [d] ∧ c.settlement = some row ∧
    StaysIn drawnStatuses drawnOrigins row

theorem drawsOnce_empty : DrawsOnce {} := .inl rfl

section DrawsOnce

variable {read : Reads} {s s' : Store} {op : SettlementOp}

theorem RowMove.drawn {c c' : Case} {row : SettlementRow} (moved : RowMove op c c')
    (found : c.settlement = some row) (held : StaysIn drawnStatuses drawnOrigins row) :
    ∃ row', c'.settlement = some row' ∧ StaysIn drawnStatuses drawnOrigins row' := by
  cases moved with
  | still settlement => exact ⟨row, settlement.trans found, held⟩
  | created absent => rw [absent] at found; cases found
  | taken was is takes =>
    obtain rfl := Option.some.inj (found.symm.trans was)
    exact ⟨_, is, takes.staysIn drawnStatuses_closed held (fun _ => by decide) fun _ => by decide⟩

/-- A settlement that may still ask for its drawdown has none. -/
theorem DrawsOnce.undrawn {c : Case} (held : DrawsOnce c) {row : SettlementRow}
    (found : c.settlement = some row) (before : row.status = .liquidityReserved) :
    c.drawdowns = [] := by
  rcases held with none | ⟨_, _, -, found', ⟨status, -⟩⟩
  · exact none
  · obtain rfl := Option.some.inj (found.symm.trans found')
    rw [before] at status
    exact absurd status (by decide)

theorem HoldsMove.drawsOnce (moved : HoldsMove read s op s') (row : RowMove op s.case s'.case)
    (held : DrawsOnce s.case) : DrawsOnce s'.case := by
  have kept : s'.case.drawdowns = s.case.drawdowns → DrawsOnce s'.case := by
    intro same
    rcases held with none | ⟨d, _, one, found, stays⟩
    · exact .inl (same.trans none)
    · obtain ⟨row', found', stays'⟩ := row.drawn found stays
      exact .inr ⟨d, row', same.trans one, found', stays'⟩
  cases moved with
  | still drawdowns => exact kept drawdowns
  | reserved _ _ _ drawdowns => exact kept drawdowns
  | released _ _ drawdowns => exact kept drawdowns
  | asked _ _ drawdowns => exact kept drawdowns
  | @drawn input reservation _ new _ _ found before found' after drawdowns =>
    rw [held.undrawn found before, List.nil_append] at drawdowns
    exact .inr ⟨_, new, drawdowns, found', by rw [after]; decide, fun is => by
      rw [after] at is; cases is⟩
  | resolved _ latest _ drawdowns =>
    rcases held with none | ⟨d, _, one, found, stays⟩
    · rw [latestDrawdown, none] at latest
      cases latest
    · obtain ⟨row', found', stays'⟩ := row.drawn found stays
      simp only [withDrawdown, one, Table.setWhere, List.map_singleton] at drawdowns
      exact .inr ⟨_, row', drawdowns, found', stays'⟩

end DrawsOnce

end InrSettle
