import Mathlib
import InrSettle.Funding.Books

/-!
# Repayments on their way and what is drawn

A first request is sized against what is drawn less what is already on its way. A
re-request of a failed repayment is not, so the two can part company.
-/

namespace InrSettle

open Transaction FundingTables DoubleEntry

/-! ### How each move changes what is on its way -/

section Moves

variable {l : Liquidity}

/-- Replacing a repayment by its successor moves what is on its way by that row alone. -/
theorem inFlightRepayments_advancing {current next : RepaymentRow} (books : Books l)
    (mem : current ∈ l.repayments) (facility : next.facilityId = current.facilityId)
    (amount : next.amountMinor = current.amountMinor) (facilityId : String) :
    inFlightRepayments (advancing current next l) facilityId = inFlightRepayments l facilityId
      - (if current.facilityId = facilityId ∧ current.status.isInFlight = true then
          current.amountMinor else 0)
      + (if current.facilityId = facilityId ∧ next.status.isInFlight = true then
          current.amountMinor else 0) := by
  simp only [inFlightRepayments, advancing]
  rw [Table.sumWhere_setWhere books.repaymentIds mem, facility, amount]
  simp only [Bool.and_eq_true, decide_eq_true_eq]

theorem inFlightRepayments_nonneg (books : Books l) (facilityId : String) :
    0 ≤ inFlightRepayments l facilityId :=
  Table.sumWhere_nonneg fun r hr => (books.positive.2 r hr).le

theorem inFlightRepayments_posted (m : Movement) (l : Liquidity) (facilityId : String) :
    inFlightRepayments (posted m l) facilityId = inFlightRepayments l facilityId := rfl

theorem facilityOf_eq (books : Books l) {f : FacilityRow} (hf : f ∈ l.facilities) :
    facilityOf l f.id = some f := by
  have found : (l.facilities.find? fun g => decide (g.id = f.id)).isSome :=
    List.find?_isSome.mpr ⟨f, hf, by simp⟩
  obtain ⟨g, same⟩ := Option.isSome_iff_exists.mp found
  obtain ⟨hg, id⟩ := facilityOf_some same
  rw [facilityOf, same, Table.eq_of_key books.facilityIds hg hf id]

/-- A positive amount within what is eligible is within what is drawn and not on its way. -/
theorem le_eligibleOutstanding (books : Books l) {f : FacilityRow} (hf : f ∈ l.facilities)
    {amount : Int} (positive : 0 < amount) (within : amount ≤ eligibleOutstanding l f.id) :
    amount ≤ f.drawnMinor - inFlightRepayments l f.id := by
  simp only [eligibleOutstanding, facilityOf_eq books hf] at within
  split at within <;> omega

end Moves

/-! ### The bound -/

/-- Every facility has drawn what its repayments on their way would bring back. -/
def RepaymentsCovered (l : Liquidity) : Prop :=
  ∀ f ∈ l.facilities, inFlightRepayments l f.id ≤ f.drawnMinor

/-- A re-request of a failed repayment is for no more than what is eligible when it is made. -/
def ReRequestCovered (l : Liquidity) : LiquidityOp → Prop
  | .advanceRepayment input => input.trigger = .reRequest →
      ∀ r ∈ l.repayments, r.id = input.repaymentId → r.status = .failed →
        r.amountMinor ≤ eligibleOutstanding l r.facilityId
  | _ => True

instance (l : Liquidity) : DecidablePred (ReRequestCovered l) := fun op => by
  cases op <;> unfold ReRequestCovered <;> infer_instance

section Steps

variable {l : Liquidity} (books : Books l) (covered : RepaymentsCovered l)

include covered

theorem RepaymentsCovered.posted {m : Movement} (raises : 0 ≤ m.delta .drawn) :
    RepaymentsCovered (posted m l) := by
  intro g hg
  obtain ⟨f, hf, same, moves, -⟩ := mem_posted_facilities hg
  have drawn : g.drawnMinor = f.drawnMinor + m.adds .drawn f.id := moves .drawn (by decide)
  have bound := covered f hf
  have more : 0 ≤ m.adds .drawn f.id := by
    unfold Movement.adds
    split <;> omega
  rw [inFlightRepayments_posted, same, drawn]
  omega

theorem RepaymentsCovered.reserved {input : ReserveInput} :
    RepaymentsCovered (reserving input l) := by
  refine RepaymentsCovered.posted (l := { l with
    reservations := l.reservations ++ [input.row] }) covered ?_
  simp [ReserveInput.movement, Movement.delta, ledgerPairFor, LedgerMovement.pair]

theorem RepaymentsCovered.left {res : ReservationRow} {row : ReservationTransition}
    {now : Instant} {reason : Option String} {actor : PrincipalRef} {transferId : String}
    (inTable : row ∈ reservationMachine.rows)
    (allowed : PostAllowed (res.movement row.movement actor transferId) l) :
    RepaymentsCovered
      (leaving res.id row.target now reason (res.movement row.movement actor transferId) l) := by
  refine RepaymentsCovered.posted (l := { l with
    reservations := l.reservations.map (leaveActive res.id row.target now reason) }) covered ?_
  have positive := allowed.positive
  simp only [reservationMachine, List.mem_cons, List.not_mem_nil, or_false] at inTable
  rcases inTable with rfl | rfl | rfl | rfl <;>
    simp [ReservationRow.movement, Movement.delta, ledgerPairFor, LedgerMovement.pair]
      at positive ⊢
  exact positive.le

include books

theorem RepaymentsCovered.created {input : FacilityInput}
    (fresh : ∀ g ∈ l.facilities, g.id ≠ input.facilityId) :
    RepaymentsCovered { l with facilities := l.facilities ++ [input.row] } := by
  intro f hf
  rcases List.mem_append.mp hf with old | new
  · exact covered f old
  · obtain rfl := List.mem_singleton.mp new
    refine le_of_eq (Table.sumWhere_eq_zero fun r hr => ?_)
    obtain ⟨g, hg, same⟩ := books.referenced.repayments r hr
    have : r.facilityId ≠ input.facilityId := same ▸ fresh g hg
    simp [FacilityInput.row, this]

theorem RepaymentsCovered.requested {input : RepayInput} {fingerprint : String}
    (allowed : RepayAllowed input l) :
    RepaymentsCovered { l with repayments := l.repayments ++ [input.row fingerprint] } := by
  intro f hf
  have bound := covered f hf
  simp only [inFlightRepayments, Table.sumWhere_append, Table.sumWhere_singleton]
  by_cases here : input.facilityId = f.id
  · have within := allowed.withinOutstanding
    rw [here] at within
    have room := le_eligibleOutstanding books hf allowed.positive within
    have flying : (input.row fingerprint).status.isInFlight = true := rfl
    have amount : (input.row fingerprint).amountMinor = input.amount.minorUnits := rfl
    have facility : (input.row fingerprint).facilityId = f.id := here
    simp only [inFlightRepayments] at room
    simp only [facility, flying, amount, decide_true, Bool.and_self, if_true]
    omega
  · simpa [RepayInput.row, here, inFlightRepayments] using bound

theorem RepaymentsCovered.advanced {current : RepaymentRow} {row : RepaymentTransition}
    {input : AdvanceInput} {fingerprint : String} (mem : current ∈ l.repayments)
    (evaluated : repaymentMachine.evaluate (some current.status) input.trigger = some row)
    (allowed : row.trigger = .reRequest →
      current.amountMinor ≤ eligibleOutstanding l current.facilityId) :
    RepaymentsCovered (if row.restoresCapacity then InrSettle.posted (current.movement input)
        (advancing current (advancedRepayment current row input fingerprint) l)
      else advancing current (advancedRepayment current row input fingerprint) l) := by
  obtain ⟨inTable, -, source⟩ := Machine.evaluate_some evaluated
  obtain ⟨restores, confirms, -, reRequests, -, -⟩ := repaymentMachine_rows inTable source
  obtain ⟨-, facility, amount, -⟩ := advancedRepayment_kept current row input fingerprint
  have sums := inFlightRepayments_advancing books mem facility amount
  simp only [advancedRepayment_status] at sums
  cases restored : row.restoresCapacity with
  | true =>
    -- What is confirmed leaves what is on its way and what is drawn alike.
    have target := restores.mp restored
    rw [if_pos rfl]
    intro g hg
    obtain ⟨f, hf, same, moves, -⟩ := mem_posted_facilities hg
    have drawn : g.drawnMinor = f.drawnMinor + (current.movement input).adds .drawn f.id :=
      moves .drawn (by decide)
    have bound := covered f hf
    have total := sums f.id
    have landed : row.target.isInFlight = false := by rw [target]; rfl
    simp only [confirms target, landed, and_true, Bool.false_eq_true, and_false, if_false,
      add_zero] at total
    rw [inFlightRepayments_posted, same, drawn, total]
    by_cases here : current.facilityId = f.id <;>
      simp [Movement.adds, RepaymentRow.movement, Movement.delta, ledgerPairFor,
        LedgerMovement.pair, here] <;> omega
  | false =>
    rw [if_neg Bool.false_ne_true]
    intro f hf
    have bound := covered f hf
    have total := sums f.id
    have positive := books.positive.2 current mem
    by_cases here : current.facilityId = f.id
    · by_cases failed : current.status = .failed
      · have room := le_eligibleOutstanding books hf positive
          (here ▸ allowed (reRequests.mpr failed))
        have grounded : current.status.isInFlight = false := by rw [failed]; rfl
        simp only [here, grounded, true_and, Bool.false_eq_true, if_false] at total
        split at total <;> omega
      · have flying : current.status.isInFlight = true := by
          have open' := (repaymentMachine_rows inTable source).2.2.2.2.2
          cases status : current.status <;> simp_all [RepaymentStatus.isInFlight]
        simp only [here, flying, and_self, if_true, true_and] at total
        split at total <;> omega
    · simp only [here, false_and, if_false] at total
      omega

omit books in
theorem RepaymentsCovered.adjusted {facilityId : String} {set : FacilityRow → FacilityRow}
    (kept : KeepsPosition set) : RepaymentsCovered (adjusting facilityId set l) := by
  intro g hg
  rcases Table.mem_setWhere.mp hg with ⟨f, hf, -, rfl⟩ | ⟨hg, -⟩
  · have bound := covered f hf
    simpa [kept.id, kept.drawn, inFlightRepayments, adjusting] using bound
  · exact covered g hg

/-- One step keeps the bound, if it is not a re-request of more than is eligible. -/
theorem RepaymentsCovered.step {op : LiquidityOp} (allowed : ReRequestCovered l op) :
    RepaymentsCovered (liquidityStep l op) := by
  cases op with
  | createFacility input =>
    refine after_induction covered fun _ _ done => ?_
    obtain ⟨fresh, -, _, rfl⟩ := createFacility_spec done
    exact covered.created books fresh
  | setFacilityLimit ctx facilityId limit =>
    refine after_induction covered fun _ _ done => ?_
    rcases setFacilityLimit_spec done with ⟨_, -, rfl⟩ | ⟨_, _, kept, -, -, rfl⟩
    · exact covered
    · exact covered.adjusted kept
  | setFacilityStatus ctx facilityId suspend =>
    refine after_induction covered fun _ _ done => ?_
    rcases setFacilityStatus_spec done with ⟨_, -, rfl⟩ | ⟨_, _, kept, -, -, rfl⟩
    · exact covered
    · exact covered.adjusted kept
  | reserveLiquidity input =>
    refine after_induction covered fun _ _ done => ?_
    rcases reserveLiquidity_spec done with ⟨_, -, rfl⟩ | ⟨_, -, -, _, rfl⟩
    · exact covered
    · exact covered.reserved
  | releaseReservation input =>
    refine after_induction covered fun _ _ done => ?_
    rcases releaseReservation_spec done with ⟨rfl, -⟩ | ⟨rfl, -⟩ |
      ⟨_, _, _, -, -, inTable, -, -, posts, rfl⟩
    · exact covered
    · exact covered
    · exact covered.left inTable posts
  | consumeReservation input =>
    refine after_induction covered fun _ _ done => ?_
    rcases consumeReservation_spec done with ⟨rfl, -⟩ | ⟨_, -, -, -, posts, rfl⟩
    · exact covered
    · exact covered.left consuming_mem posts
  | requestRepayment input =>
    refine after_induction covered fun _ _ done => ?_
    rcases requestRepayment_spec done with ⟨_, -, rfl⟩ | ⟨-, posts, _, _, -, rfl⟩
    · exact covered
    · exact covered.requested books posts
  | advanceRepayment input =>
    refine after_induction covered fun _ _ done => ?_
    rcases advanceRepayment_spec done with ⟨_, -, rfl⟩ |
      ⟨current, row, _, found, evaluated, -, -, -, _, _, rfl⟩
    · exact covered
    · have mem := List.mem_of_find?_eq_some found
      refine covered.advanced books mem evaluated fun reRequest => ?_
      obtain ⟨inTable, answers, source⟩ := Machine.evaluate_some evaluated
      have failed := (repaymentMachine_rows inTable source).2.2.2.1.mp reRequest
      exact allowed (answers.symm.trans reRequest) current mem
        (by simpa using List.find?_some found) failed

end Steps

/-! ### Confirming what is on its way -/

/-- The facility row after confirming repayments one after the other. -/
def confirmInOrder (f : FacilityRow) (order : List (RepaymentRow × AdvanceInput)) : FacilityRow :=
  order.foldl (fun f confirmed => (confirmed.1.movement confirmed.2).apply f) f

theorem confirmInOrder_drawn (f : FacilityRow) (order : List (RepaymentRow × AdvanceInput)) :
    (confirmInOrder f order).drawnMinor =
      f.drawnMinor - ((order.map Prod.fst).map (·.amountMinor)).sum := by
  induction order generalizing f with
  | nil => simp [confirmInOrder]
  | cons confirmed rest ih =>
    have next := ih ((confirmed.1.movement confirmed.2).apply f)
    simp only [confirmInOrder, List.foldl_cons, List.map_cons, List.sum_cons] at next ⊢
    rw [next]
    simp only [Movement.apply, Movement.delta, RepaymentRow.movement, ledgerPairFor,
      LedgerMovement.pair]
    simp
    omega

/-- Distinct repayments on their way are at most all of them. -/
theorem sum_le_inFlightRepayments {l : Liquidity} (books : Books l) {facilityId : String}
    {rows : List RepaymentRow} (distinct : rows.Nodup)
    (flying : ∀ r ∈ rows, r ∈ l.repayments ∧ r.facilityId = facilityId ∧
      r.status.isInFlight = true) :
    (rows.map (·.amountMinor)).sum ≤ inFlightRepayments l facilityId := by
  have sub : List.Subperm rows (l.repayments.filter fun r =>
      decide (r.facilityId = facilityId) && r.status.isInFlight) :=
    List.subperm_of_subset distinct fun r hr => by simpa using flying r hr
  obtain ⟨ordered, perm, sublist⟩ := sub
  rw [← (perm.map _).sum_eq]
  refine (sublist.map _).sum_le_sum fun amount mem => ?_
  obtain ⟨r, hr, rfl⟩ := List.mem_map.mp mem
  exact (books.positive.2 r (List.mem_filter.mp hr).1).le

/-- What is on its way is drawn, and confirming any of it in any order leaves drawn nonnegative. -/
structure Repayable (l : Liquidity) (f : FacilityRow) : Prop where
  covered : inFlightRepayments l f.id ≤ f.drawnMinor
  anyOrder : ∀ order : List (RepaymentRow × AdvanceInput), (order.map Prod.fst).Nodup →
    (∀ r ∈ order.map Prod.fst, r ∈ l.repayments ∧ r.facilityId = f.id ∧
      r.status.isInFlight = true) → 0 ≤ (confirmInOrder f order).drawnMinor

theorem RepaymentsCovered.repayable {l : Liquidity} (covered : RepaymentsCovered l)
    (books : Books l) {f : FacilityRow} (hf : f ∈ l.facilities) : Repayable l f where
  covered := covered f hf
  anyOrder := by
    intro order distinct flying
    have bound := sum_le_inFlightRepayments books distinct flying
    have drawn := covered f hf
    rw [confirmInOrder_drawn]
    omega

theorem repayments_covered_along {ops : List LiquidityOp}
    (steps : Run.Along liquidityStep ReRequestCovered .empty ops) :
    Books (Run.run liquidityStep .empty ops) ∧
      RepaymentsCovered (Run.run liquidityStep .empty ops) := by
  refine steps.invariant (I := fun l => Books l ∧ RepaymentsCovered l) ?_
    ⟨books_empty, by simp [RepaymentsCovered, Liquidity.empty]⟩
  rintro l op ⟨books, covered⟩ allowed
  exact ⟨(liquidityStep_move l op).books books, covered.step books allowed⟩

/-- In every run whose re-requests are each for no more than is then eligible, every facility's
repayments on their way are covered and can be confirmed in any order. -/
theorem repayments_repayable (ops : List LiquidityOp)
    (steps : Run.Along liquidityStep ReRequestCovered .empty ops) :
    ∀ f ∈ (Run.run liquidityStep .empty ops).facilities,
      Repayable (Run.run liquidityStep .empty ops) f := by
  obtain ⟨books, covered⟩ := repayments_covered_along steps
  exact fun f hf => covered.repayable books hf

section Example

def lender : PrincipalRef := ⟨.job, "repayments"⟩

/-- A facility of 1000 with all of it drawn. -/
def drawnFacility : List LiquidityOp := [
  .createFacility ⟨"facility", "lender", "INR", ⟨"INR", 1000⟩, lender⟩,
  .reserveLiquidity ⟨"facility", "settlement", ⟨"INR", 1000⟩, 60, lender, "reservation", "t1", 1⟩,
  .consumeReservation ⟨"settlement", lender, "t2", 2⟩]

def repay (id : String) (amount : Int) : LiquidityOp :=
  .requestRepayment { facilityId := "facility", amount := ⟨"INR", amount⟩, source := .manual,
                      actor := lender, repaymentId := id, now := 3 }

def advance (id : String) (trigger : RepaymentTrigger) : LiquidityOp :=
  .advanceRepayment { repaymentId := id, trigger := trigger, actor := lender, transferId := id,
                      now := 4 }

/-- A repayment of 400 fails and is re-requested. -/
def retried : List LiquidityOp :=
  drawnFacility ++ [repay "r1" 400, advance "r1" .submit, advance "r1" .rejected,
    advance "r1" .reRequest]

theorem repayments_repayable_retried :
    (Run.run liquidityStep .empty retried).facilities.length = 1 ∧
      ∀ f ∈ (Run.run liquidityStep .empty retried).facilities,
        Repayable (Run.run liquidityStep .empty retried) f :=
  ⟨by decide +kernel, repayments_repayable retried (by decide +kernel)⟩

/-- Between the failure and the re-request another repayment takes all that was eligible: 2000 are
on their way against 1000 drawn. -/
theorem reRequest_overdraws :
    ¬ ∀ ops : List LiquidityOp, ∀ f ∈ (Run.run liquidityStep .empty ops).facilities,
      Repayable (Run.run liquidityStep .empty ops) f := by
  intro claim
  have covered : ∀ f ∈ (Run.run liquidityStep .empty (drawnFacility ++ [repay "r1" 1000,
      advance "r1" .submit, advance "r1" .rejected, repay "r2" 1000,
      advance "r1" .reRequest])).facilities,
      inFlightRepayments (Run.run liquidityStep .empty (drawnFacility ++ [repay "r1" 1000,
        advance "r1" .submit, advance "r1" .rejected, repay "r2" 1000,
        advance "r1" .reRequest])) f.id ≤ f.drawnMinor :=
    fun f hf => (claim _ f hf).covered
  exact absurd covered (by decide +kernel)

end Example

end InrSettle
