import Mathlib
import InrSettle.System.Shares

/-!
# What a lender is repaid

The repayments of a settlement that have not failed, against what was drawn for it: the
shares of its counted returns, rounded down, over whole runs.
-/

namespace InrSettle

open Transaction CaseTables FundingTables Run

/-- A repayment of the settlement that has not failed. -/
def isLiveFor (settlementId : String) (p : RepaymentRow) : Bool :=
  p.settlementId == some settlementId && p.status != .failed

/-- What the settlement's repayments that have not failed come to. -/
def repaidFor (l : Liquidity) (settlementId : String) : Int :=
  Table.sumWhere (isLiveFor settlementId) (·.amountMinor) l.repayments

/-- The repayment was asked for in the name of a return that counts. -/
def ofCounted (c : Case) (p : RepaymentRow) : Bool :=
  c.returns.any fun r => p.returnId == some r.id && countsTowardCap r.status

/-! ### What asks for too much -/

section Asking

variable (settlementId : String) (w : World)

/-- The settlement has a repayment that has not failed, for another cause than this. -/
def livesBeside (returnId : Option String) : Bool :=
  w.now.liquidity.repayments.any fun p => isLiveFor settlementId p && p.returnId != returnId

/-- The settlement has such a repayment, of no return that counts. -/
def straysBeside (returnId : Option String) : Bool :=
  w.now.liquidity.repayments.any fun p => isLiveFor settlementId p && p.returnId != returnId &&
    !ofCounted (w.now.cases settlementId) p

/-- Asks for a repayment of the settlement beside one that the cap on its returns leaves out. -/
def asksBeside : WorldOp → Bool
  | .settlement _ (.confirmReturn input) =>
    input.settlementId == settlementId && straysBeside settlementId w (some input.returnId)
  | .settlement _ op => op.compensates.any fun input => input.settlementId == settlementId &&
      (latestReservation w.now.liquidity settlementId).any fun r => r.status == .consumed &&
        (livesBeside settlementId w none ||
          decide (drawnFor (w.now.cases settlementId) < r.amountMinor))
  | .funding (.requestRepayment input) => input.settlementId == some settlementId &&
      (input.returnId.isSome || livesBeside settlementId w none ||
        decide (drawnFor (w.now.cases settlementId) < input.amount.minorUnits))
  | .funding (.advanceRepayment input) => input.trigger == .reRequest &&
      w.now.liquidity.repayments.any fun p => p.id == input.repaymentId && p.status == .failed &&
        p.settlementId == some settlementId && livesBeside settlementId w p.returnId &&
        (straysBeside settlementId w p.returnId || !ofCounted (w.now.cases settlementId) p)
  | .funding _ => false

end Asking

/-! ### The shares of the counted returns -/

/-- The repayment is its return's share of the drawdown. -/
def IsShare (c : Case) (p : RepaymentRow) (returnId : String) : Prop :=
  ∃ r ∈ c.returns, r.id = returnId ∧
    p.amountMinor = proRataRepayment (drawnFor c) (deliveredFor c) r.amountMinor

/-- Each repayment of the settlement is within what was drawn, and one in the name of a return is
its share. -/
def EachWithin (settlementId : String) (c : Case) (l : Liquidity) : Prop :=
  ∀ p ∈ l.repayments, p.settlementId = some settlementId → p.amountMinor ≤ drawnFor c ∧
    ∀ returnId, p.returnId = some returnId → IsShare c p returnId

section Shares

variable {settlementId : String} {c c' : Case} {l : Liquidity}

theorem IsShare.stay {p : RepaymentRow} {returnId : String} (share : IsShare c p returnId)
    (positive : 0 < p.amountMinor) (within : p.amountMinor ≤ drawnFor c) (stay : SharesStay c c') :
    IsShare c' p returnId := by
  obtain ⟨r, mem, is, amount⟩ := share
  obtain ⟨r', mem', same, sameAmount⟩ := stay.returns r mem
  refine ⟨r', mem', same.trans is, ?_⟩
  rw [stay.drawn (by omega), stay.delivered (proRataRepayment_pos (amount ▸ positive)), sameAmount]
  exact amount

/-- Two live repayments of a settlement have two returns. -/
theorem live_returns_distinct (oneLive : OneLive l)
    (named : ∀ p ∈ l.repayments, isLiveFor settlementId p = true → ∃ id, p.returnId = some id) :
    ((l.repayments.filter (isLiveFor settlementId)).map (·.returnId)).Nodup := by
  refine List.pairwise_map.mpr ((List.Pairwise.filter _ oneLive).imp_of_mem ?_)
  intro p q hp hq differ same
  obtain ⟨hp, liveP⟩ := List.mem_filter.mp hp
  obtain ⟨hq, liveQ⟩ := List.mem_filter.mp hq
  obtain ⟨id, is⟩ := named p hp liveP
  have cause : ∀ x : RepaymentRow, isLiveFor settlementId x = true → x.returnId = some id →
      liveCause x = some (settlementId, id) := by
    intro x live returnId
    simp only [isLiveFor, Bool.and_eq_true, beq_iff_eq, bne_iff_ne, ne_eq] at live
    simp [liveCause, live.1, live.2, returnId]
  exact differ _ (cause p liveP is) (cause q liveQ (same ▸ is))

/-- The counted return a live repayment is the share of. -/
theorem share_of_counted (held : SharesInOrder c) (each : EachWithin settlementId c l)
    {p : RepaymentRow} (mem : p ∈ l.repayments) (live : isLiveFor settlementId p = true)
    (counted : ofCounted c p = true) : ∃ r ∈ c.returns, p.returnId = some r.id ∧
      countsTowardCap r.status = true ∧
      p.amountMinor = proRataRepayment (drawnFor c) (deliveredFor c) r.amountMinor := by
  simp only [ofCounted, List.any_eq_true, Bool.and_eq_true, beq_iff_eq] at counted
  obtain ⟨r, mem', named, counts⟩ := counted
  simp only [isLiveFor, Bool.and_eq_true, beq_iff_eq] at live
  obtain ⟨r', found, same, share⟩ := (each p mem live.1).2 r.id named
  obtain rfl := Table.eq_of_key held.returns.against.ids found mem' same
  exact ⟨r', mem', named, counts, share⟩

/-- The counted returns of the first attempt, against what it delivered. -/
theorem confirmedSoFar_le_delivered (covered : Covered c) {a : PayoutAttemptRow}
    (first : c.attempts.head? = some a) (known : 0 < deliveredFor c) :
    confirmedSoFar c a.id ≤ deliveredFor c := by
  rcases covered a (List.mem_of_mem_head? first) with nothing | ⟨delivered, is, within⟩
  · omega
  · rwa [deliveredFor_eq first, is]

/-- Where every live repayment is the share of a counted return, they come to no more than was
drawn. -/
theorem repaidFor_le_of_counted (oneLive : OneLive l)
    (positive : ∀ p ∈ l.repayments, 0 < p.amountMinor) (held : SharesInOrder c)
    (each : EachWithin settlementId c l)
    (counted : ∀ p ∈ l.repayments, isLiveFor settlementId p = true → ofCounted c p = true) :
    repaidFor l settlementId ≤ drawnFor c := by
  by_cases none : ∀ p ∈ l.repayments, isLiveFor settlementId p = false
  · rw [repaidFor, Table.sumWhere_eq_zero none]
    exact drawnFor_nonneg held.positive
  push Not at none
  obtain ⟨p, mem, live⟩ := none
  have live : isLiveFor settlementId p = true := by simpa using live
  obtain ⟨r, returned, -, -, share⟩ := share_of_counted held each mem live (counted p mem live)
  obtain ⟨a, first, -⟩ := Option.map_eq_some_iff.mp (held.pointed r returned)
  have delivered : 0 < deliveredFor c := proRataRepayment_pos (share ▸ positive p mem)
  have drawn := drawnFor_nonneg held.positive
  -- The counted returns take back no more than was delivered, so their shares come to no more
  -- than was drawn.
  have within := confirmedSoFar_le_delivered held.covered first delivered
  have matched : ∀ p ∈ l.repayments.filter (isLiveFor settlementId),
      ∃ r ∈ c.returns.filter (fun r => decide (r.payoutAttemptId = a.id) &&
        countsTowardCap r.status), some r.id = p.returnId ∧
        p.amountMinor * deliveredFor c ≤ drawnFor c * r.amountMinor := by
    intro p mem
    obtain ⟨mem, live⟩ := List.mem_filter.mp mem
    obtain ⟨r, returned, named, counts, share⟩ :=
      share_of_counted held each mem live (counted p mem live)
    have pointer := held.pointed r returned
    rw [first, Option.map_some, Option.some.injEq] at pointer
    refine ⟨r, List.mem_filter.mpr ⟨returned, by simp [pointer, counts]⟩, named.symm, ?_⟩
    rw [share]
    exact proRataRepayment_mul_le drawn (held.returns.against.positive r returned).le
  have shares : (((l.repayments.filter (isLiveFor settlementId)).map
      fun p => p.amountMinor * deliveredFor c)).sum ≤
      ((c.returns.filter fun r => decide (r.payoutAttemptId = a.id) &&
        countsTowardCap r.status).map fun r => drawnFor c * r.amountMinor).sum := by
    refine Table.sum_le_of_matched (live_returns_distinct oneLive fun p mem live => ?_)
      (fun r mem => ?_) matched
    · obtain ⟨r, -, is, -⟩ := share_of_counted held each mem live (counted p mem live)
      exact ⟨_, is⟩
    · exact Int.mul_nonneg drawn (held.returns.against.positive r (List.mem_filter.mp mem).1).le
  rw [List.sum_map_mul_right, List.sum_map_mul_left] at shares
  refine Int.le_of_mul_le_mul_right (shares.trans ?_) delivered
  exact Int.mul_le_mul_of_nonneg_left within drawn

end Shares

/-! ### Over runs -/

/-- What holds of a settlement's repayments and of what they are repayments of. -/
structure RepaidWithin (settlementId : String) (w : World) : Prop where
  funding : FundingInOrder w.now.liquidity
  shares : SharesInOrder (w.now.cases settlementId)
  each : EachWithin settlementId (w.now.cases settlementId) w.now.liquidity
  within : repaidFor w.now.liquidity settlementId ≤ drawnFor (w.now.cases settlementId)

section Run

variable {digest : AuthorizedInstruction → String} {settlementId : String} {w : World}
  {op : WorldOp} {c c' : Case} {l l' : Liquidity}

/-- What is within the drawdown stays within it. -/
theorem within_stays {amount : Int} (stay : SharesStay c c') (after : SharesInOrder c')
    (within : amount ≤ drawnFor c) : amount ≤ drawnFor c' := by
  rcases lt_or_ge 0 (drawnFor c) with drawn | nothing
  · rwa [stay.drawn drawn]
  · exact within.trans (nothing.trans (drawnFor_nonneg after.positive))

theorem EachWithin.stay (each : EachWithin settlementId c l) (books : Books l)
    (stay : SharesStay c c') (after : SharesInOrder c') : EachWithin settlementId c' l := by
  intro p mem named
  obtain ⟨within, share⟩ := each p mem named
  exact ⟨within_stays stay after within, fun returnId is =>
    (share returnId is).stay (books.positive.2 p mem) within stay⟩

/-- What the index admits is for another cause than every live repayment beside it. -/
theorem admitted_beside {rows : List RepaymentRow} {row : RepaymentRow}
    (admitted : Table.admits liveCause rows row = true) (live : isLiveFor settlementId row = true) :
    ∀ p ∈ rows, isLiveFor settlementId p = true → p.returnId ≠ row.returnId := by
  intro p mem alive same
  simp only [isLiveFor, Bool.and_eq_true, beq_iff_eq, bne_iff_ne, ne_eq] at live alive
  have cause : liveCause row = some (settlementId, row.returnId.getD "") := by
    simp [liveCause, live.1, live.2]
  refine Table.admits_iff.mp admitted _ cause p mem ?_
  simp [liveCause, alive.1, alive.2, same]

theorem repaidFor_none {returnId : Option String}
    (none : livesBeside settlementId w returnId = false)
    (other : ∀ p ∈ w.now.liquidity.repayments, isLiveFor settlementId p = true →
      p.returnId ≠ returnId) : repaidFor w.now.liquidity settlementId = 0 := by
  refine Table.sumWhere_eq_zero fun p mem => ?_
  have beside := List.any_eq_false.mp none p mem
  cases live : isLiveFor settlementId p with
  | false => rfl
  | true => simp [live, other p mem live] at beside

/-- Where nothing strays beside it, every other live repayment is of a return that counts. -/
theorem ofCounted_of_noStray {returnId : Option String}
    (noStray : straysBeside settlementId w returnId = false) {p : RepaymentRow}
    (mem : p ∈ w.now.liquidity.repayments) (live : isLiveFor settlementId p = true)
    (other : p.returnId ≠ returnId) : ofCounted (w.now.cases settlementId) p = true := by
  simpa [live, other] using List.any_eq_false.mp noStray p mem

theorem repaidFor_requested {input : RepayInput} {fingerprint : String}
    (repayments : l'.repayments = l.repayments ++ [input.row fingerprint]) :
    repaidFor l' settlementId = repaidFor l settlementId +
      if input.settlementId = some settlementId then input.amount.minorUnits else 0 := by
  rw [repaidFor, repayments, Table.sumWhere_append, Table.sumWhere_singleton, repaidFor]
  simp [isLiveFor, RepayInput.row]

/-- Of the repayments of other settlements nothing has to hold. -/
theorem EachWithin.append (each : EachWithin settlementId c l) {input : RepayInput}
    {fingerprint : String} (repayments : l'.repayments = l.repayments ++ [input.row fingerprint])
    (new : input.settlementId = some settlementId → input.amount.minorUnits ≤ drawnFor c ∧
      ∀ returnId, input.returnId = some returnId → IsShare c (input.row fingerprint) returnId) :
    EachWithin settlementId c l' := by
  intro p mem named
  rcases List.mem_append.mp (repayments ▸ mem) with old | added
  · exact each p old named
  · obtain rfl := List.mem_singleton.mp added
    exact new named

/-- A repayment asked for otherwise than by a return, with nothing live beside it. -/
structure AskedAlone (settlementId : String) (w : World) (input : RepayInput) : Prop where
  unreturned : input.returnId = none
  alone : livesBeside settlementId w none = false
  within : input.amount.minorUnits ≤ drawnFor (w.now.cases settlementId)

/-- A return of the settlement was counted and asks for its share, with no stray beside it. -/
structure AskedByReturn (settlementId : String) (w : World) (c' : Case) (input : RepayInput)
    (asked : ConfirmInput) (current : SettlementReturnRow) (attempt : PayoutAttemptRow)
    (total : Int) (observation : ReturnObservationRow) (drawdown : DrawdownRow) : Prop where
  is : input = asked.repay drawdown (attempt.creditedMinor.getD 0) current
  counts : Counts (w.now.cases settlementId) asked current attempt total observation
  drawn : confirmedDrawdown (w.now.cases settlementId) = some drawdown
  returns : c'.returns = (withReturn (w.now.cases settlementId) current.id
    (repaying asked.repaymentId ∘ confirmed asked)).returns
  noStray : straysBeside settlementId w (some current.id) = false

theorem asksBeside_compensates {asOf : Nat} {op : SettlementOp} {input : CompensateInput}
    (compensates : op.compensates = some input) :
    asksBeside settlementId w (.settlement asOf op) = (input.settlementId == settlementId &&
      (latestReservation w.now.liquidity settlementId).any fun r => r.status == .consumed &&
        (livesBeside settlementId w none ||
          decide (drawnFor (w.now.cases settlementId) < r.amountMinor))) := by
  cases op <;> first | cases compensates | simp [asksBeside, compensates]
  rfl

/-- What a calm operation asks for of the settlement. -/
theorem requests_cases {t : Tenant} {input : RepayInput} (asked : Requests w op t input)
    (calm : asksBeside settlementId w op = false) (named : input.settlementId = some settlementId) :
    AskedAlone settlementId w input ∨ ∃ asked current attempt total observation drawdown,
      AskedByReturn settlementId w (t.cases settlementId) input asked current attempt total
        observation drawdown := by
  rcases asked with rfl | ⟨asOf, on, rfl, asked⟩
  · simp only [asksBeside, named, beq_self_eq_true, Bool.true_and, Bool.or_eq_false_iff,
      decide_eq_false_iff_not, not_lt, Option.isSome_eq_false_iff, Option.isNone_iff_eq_none]
      at calm
    exact .inl ⟨calm.1.1, calm.1.2, calm.2⟩
  cases asked with
  | @compensation input reservation compensates latest consumed =>
    obtain rfl : input.settlementId = settlementId := Option.some.inj named
    rw [asksBeside_compensates compensates] at calm
    have latest : latestReservation w.now.liquidity input.settlementId = some reservation := latest
    simp only [beq_self_eq_true, latest, Option.any_some, consumed, Bool.true_and,
      Bool.or_eq_false_iff, decide_eq_false_iff_not, not_lt] at calm
    exact .inl ⟨rfl, calm.1, calm.2⟩
  | @returned asked current attempt total observation drawdown is counts drawn returns =>
    subst is
    obtain rfl : asked.settlementId = settlementId := Option.some.inj named
    simp only [asksBeside, beq_self_eq_true, Bool.true_and] at calm
    rw [← (findReturn_some counts.found).2] at calm
    exact .inr ⟨asked, current, attempt, total, observation, drawdown, rfl, counts, drawn, returns,
      calm⟩

/-- The share a counted return asks for: of what was drawn, and within it. -/
theorem AskedByReturn.share {input : RepayInput} {asked : ConfirmInput}
    {current : SettlementReturnRow} {attempt : PayoutAttemptRow} {total : Int}
    {observation : ReturnObservationRow} {drawdown : DrawdownRow}
    (made : AskedByReturn settlementId w c' input asked current attempt total observation drawdown)
    (held : SharesInOrder (w.now.cases settlementId)) (fingerprint : String) :
    input.amount.minorUnits ≤ drawnFor (w.now.cases settlementId) ∧
      IsShare (w.now.cases settlementId) (input.row fingerprint) current.id := by
  have mem := (findReturn_some made.counts.found).1
  obtain ⟨first, head, is⟩ := Option.map_eq_some_iff.mp (held.pointed current mem)
  have same : first = attempt := by
    refine Table.eq_of_key held.returns.inOrder.ids (List.mem_of_mem_head? head)
      (List.mem_of_find?_eq_some made.counts.against) (is.trans (Eq.symm ?_))
    simpa using List.find?_some made.counts.against
  obtain ⟨positive, sum, delivered, known, covered⟩ := checkReturnCap_ok made.counts.covered
  have deliveredEq : deliveredFor (w.now.cases settlementId) = delivered := by
    rw [deliveredFor_eq head, same, known]
    rfl
  have drawnEq : drawnFor (w.now.cases settlementId) = drawdown.amountMinor := by
    rw [drawnFor, made.drawn]
    rfl
  have amount : input.amount.minorUnits = proRataRepayment (drawnFor (w.now.cases settlementId))
      (deliveredFor (w.now.cases settlementId)) current.amountMinor := by
    rw [made.is, deliveredEq, drawnEq, ConfirmInput.repay, known]
    rfl
  refine ⟨?_, current, mem, rfl, amount⟩
  have earlier := confirmedSoFar_nonneg held.returns.against current.payoutAttemptId
  have drawn := drawnFor_nonneg held.positive
  have returned : current.amountMinor ≤ deliveredFor (w.now.cases settlementId) := by
    have sum : total = confirmedSoFar (w.now.cases settlementId) current.payoutAttemptId +
      current.amountMinor := sum
    omega
  rw [amount]
  refine Int.le_of_mul_le_mul_right ((proRataRepayment_mul_le drawn positive.le).trans ?_)
    (lt_of_lt_of_le positive returned)
  exact Int.mul_le_mul_of_nonneg_left returned drawn

/-- A return that counts goes on counting while another is counted, and that one counts. -/
theorem AskedByReturn.counted {input : RepayInput} {asked : ConfirmInput}
    {current : SettlementReturnRow} {attempt : PayoutAttemptRow} {total : Int}
    {observation : ReturnObservationRow} {drawdown : DrawdownRow}
    (made : AskedByReturn settlementId w c' input asked current attempt total observation drawdown)
    {fingerprint : String} (repayments : l'.repayments = w.now.liquidity.repayments ++
      [input.row fingerprint])
    (other : ∀ p ∈ w.now.liquidity.repayments, isLiveFor settlementId p = true →
      p.returnId ≠ some current.id) :
    ∀ p ∈ l'.repayments, isLiveFor settlementId p = true → ofCounted c' p = true := by
  have stays : ∀ p : RepaymentRow, ∀ r ∈ (w.now.cases settlementId).returns,
      p.returnId = some r.id → (r.id = current.id ∨ countsTowardCap r.status = true) →
      ofCounted c' p = true := by
    intro p r mem named counts
    refine List.any_eq_true.mpr ?_
    rw [made.returns, withReturn]
    by_cases here : r.id = current.id
    · exact ⟨_, Table.mem_setWhere.mpr (.inl ⟨r, mem, decide_eq_true here, rfl⟩),
        by simp [named, repaying, confirmed, countsTowardCap]⟩
    · exact ⟨r, Table.mem_setWhere.mpr (.inr ⟨mem, decide_eq_false here⟩),
        by simp [named, counts.resolve_left here]⟩
  intro p mem live
  rcases List.mem_append.mp (repayments ▸ mem) with old | new
  · have counted := ofCounted_of_noStray made.noStray old live (other p old live)
    simp only [ofCounted, List.any_eq_true, Bool.and_eq_true, beq_iff_eq] at counted
    obtain ⟨r, found, named, counts⟩ := counted
    exact stays p r found named (.inr counts)
  · rw [List.mem_singleton.mp new]
    have named : (input.row fingerprint).returnId = some current.id := by rw [made.is]; rfl
    exact stays _ current (findReturn_some made.counts.found).1 named (.inl rfl)

theorem RepaidWithin.requested (held : RepaidWithin settlementId w)
    (calm : asksBeside settlementId w op = false) {input : RepayInput} {fingerprint : String}
    (asked : Requests w op (w.step digest op).now input)
    (admitted : Table.admits liveCause w.now.liquidity.repayments (input.row fingerprint) = true)
    (repayments : (w.step digest op).now.liquidity.repayments =
      w.now.liquidity.repayments ++ [input.row fingerprint]) :
    RepaidWithin settlementId (w.step digest op) := by
  have funding' : FundingInOrder (w.step digest op).now.liquidity :=
    step_fundingInOrder w op held.funding
  obtain ⟨after, stay⟩ : SharesInOrder ((w.step digest op).now.cases settlementId) ∧ _ :=
    step_shares held.funding.books held.shares
  have before := held.each.stay held.funding.books stay after
  have sum : repaidFor _ settlementId = _ := repaidFor_requested repayments
  by_cases named : input.settlementId = some settlementId
  · have live : isLiveFor settlementId (input.row fingerprint) = true := by
      simp [isLiveFor, RepayInput.row, named]
    have other := admitted_beside admitted live
    rcases requests_cases asked calm named with alone |
      ⟨_, current, _, _, _, _, made⟩
    · have within := within_stays stay after alone.within
      have each := before.append repayments fun _ => ⟨within, fun returnId is => by
        rw [alone.unreturned] at is
        cases is⟩
      have nothing := repaidFor_none alone.alone (alone.unreturned ▸ other)
      rw [nothing, if_pos named, zero_add] at sum
      exact ⟨funding', after, each, sum ▸ within⟩
    · obtain ⟨within, share⟩ := made.share held.shares fingerprint
      have named' : (input.row fingerprint).returnId = some current.id := by rw [made.is]; rfl
      have positive : 0 < (input.row fingerprint).amountMinor :=
        funding'.books.positive.2 _ (by simp [repayments])
      have each := before.append repayments fun _ => ⟨within_stays stay after within,
        fun returnId is => by
          have same : some returnId = some current.id := is.symm.trans named'
          exact Option.some.inj same ▸ share.stay positive within stay⟩
      exact ⟨funding', after, each, repaidFor_le_of_counted funding'.oneLive
        funding'.books.positive.2 after each (made.counted repayments (named' ▸ other))⟩
  · have each := before.append repayments fun is => (named is).elim
    rw [if_neg named, add_zero] at sum
    exact ⟨funding', after, each, sum ▸ within_stays stay after held.within⟩

/-- A repayment that moves along its machine. -/
structure Advances (l l' : Liquidity) (current next : RepaymentRow) : Prop where
  mem : current ∈ l.repayments
  amount : next.amountMinor = current.amountMinor
  settlement : next.settlementId = current.settlementId
  returnId : next.returnId = current.returnId
  admitted : Table.admits liveCause (l.repayments.filter fun q => decide (q.id ≠ current.id)) next =
    true
  rows : l'.repayments = Table.setWhere (fun q => decide (q.id = current.id)) (fun _ => next)
    l.repayments

section Advances

variable {current next : RepaymentRow}

/-- Each row of after is one of before, or the one that moved. -/
theorem Advances.row (moved : Advances l l' current next) {p : RepaymentRow}
    (mem : p ∈ l'.repayments) : ∃ q ∈ l.repayments, p.amountMinor = q.amountMinor ∧
      p.settlementId = q.settlementId ∧ p.returnId = q.returnId ∧ (p = q ∨ q = current) := by
  rw [moved.rows] at mem
  rcases Table.mem_setWhere.mp mem with ⟨_, -, -, rfl⟩ | ⟨old, -⟩
  · exact ⟨current, moved.mem, moved.amount, moved.settlement, moved.returnId, .inr rfl⟩
  · exact ⟨p, old, rfl, rfl, rfl, .inl rfl⟩

theorem Advances.each (moved : Advances l l' current next) (each : EachWithin settlementId c l) :
    EachWithin settlementId c l' := by
  intro p inRows named
  obtain ⟨q, old, sameAmount, sameSettlement, sameReturn, -⟩ := moved.row inRows
  obtain ⟨within, share⟩ := each q old (sameSettlement ▸ named)
  refine ⟨sameAmount ▸ within, fun id found => ?_⟩
  obtain ⟨r, returned, sameId, amount⟩ := share id (sameReturn ▸ found)
  exact ⟨r, returned, sameId, sameAmount.trans amount⟩

theorem Advances.repaid (moved : Advances l l' current next) (books : Books l) :
    repaidFor l' settlementId = repaidFor l settlementId
      - (if isLiveFor settlementId current then current.amountMinor else 0)
      + (if isLiveFor settlementId next then next.amountMinor else 0) := by
  rw [repaidFor, moved.rows]
  exact Table.sumWhere_setWhere books.repaymentIds moved.mem

/-- A failed repayment is asked for again beside live ones for other causes only. -/
theorem Advances.other (moved : Advances l l' current next) (books : Books l)
    (failed : current.status = .failed) (live : isLiveFor settlementId next = true) :
    ∀ p ∈ l.repayments, isLiveFor settlementId p = true → p.returnId ≠ current.returnId := by
  intro p old alive
  rw [← moved.returnId]
  refine admitted_beside moved.admitted live p (List.mem_filter.mpr ⟨old, ?_⟩) alive
  rw [decide_eq_true_eq]
  intro same
  obtain rfl := Table.eq_of_key books.repaymentIds old moved.mem same
  simp [isLiveFor, failed] at alive

/-- Asked for again: with nothing live beside it, or beside shares of counted returns alone. -/
theorem RepaidWithin.reRequested (held : RepaidWithin settlementId w)
    (moved : Advances w.now.liquidity l' current next) (funding' : FundingInOrder l')
    (named : current.settlementId = some settlementId) (failed : current.status = .failed)
    (live : isLiveFor settlementId next = true)
    (calm : livesBeside settlementId w current.returnId = true →
      straysBeside settlementId w current.returnId = false ∧
        ofCounted (w.now.cases settlementId) current = true) :
    repaidFor l' settlementId ≤ drawnFor (w.now.cases settlementId) := by
  have other := moved.other held.funding.books failed live
  cases beside : livesBeside settlementId w current.returnId with
  | false =>
    have grounded : isLiveFor settlementId current = false := by simp [isLiveFor, failed]
    have sum : repaidFor l' settlementId = _ := moved.repaid held.funding.books
    rw [repaidFor_none beside other, grounded, live, moved.amount] at sum
    have bound := (held.each current moved.mem named).1
    simp only [Bool.false_eq_true, if_false, if_true] at sum
    omega
  | true =>
    obtain ⟨noStray, counts⟩ := calm beside
    refine repaidFor_le_of_counted funding'.oneLive funding'.books.positive.2 held.shares
      (moved.each held.each) fun p inRows alive => ?_
    obtain ⟨q, old, -, -, sameReturn, rfl | rfl⟩ := moved.row inRows
    · exact ofCounted_of_noStray noStray old alive (other p old alive)
    · simpa [ofCounted, sameReturn] using counts

end Advances

theorem RepaidWithin.advanced (held : RepaidWithin settlementId w) {input : AdvanceInput}
    (calm : asksBeside settlementId w (.funding (.advanceRepayment input)) = false)
    {row : RepaymentTransition} {current next : RepaymentRow}
    (moved : Advances w.now.liquidity l' current next) (is : current.id = input.repaymentId)
    (evaluated : repaymentMachine.evaluate (some current.status) input.trigger = some row)
    (status : next.status = row.target) (funding' : FundingInOrder l') :
    repaidFor l' settlementId ≤ drawnFor (w.now.cases settlementId) := by
  have sum : repaidFor l' settlementId = _ := moved.repaid held.funding.books
  have within := held.within
  have positive := held.funding.books.positive.2 current moved.mem
  obtain ⟨inTable, answers, source⟩ := Machine.evaluate_some evaluated
  obtain ⟨-, -, -, reRequests, fails, -⟩ := repaymentMachine_rows inTable source
  by_cases named : current.settlementId = some settlementId
  · by_cases failed : current.status = .failed
    · have lands : row.target ≠ .failed := fun is => by
        have flying := fails is
        rw [failed] at flying
        cases flying
      have live : isLiveFor settlementId next = true := by
        simp [isLiveFor, moved.settlement, named, status, lands]
      refine held.reRequested moved funding' named failed live fun beside => ?_
      simp only [asksBeside, answers.symm.trans (reRequests.mpr failed), beq_self_eq_true,
        Bool.true_and] at calm
      simpa [is, failed, named, beside] using List.any_eq_false.mp calm current moved.mem
    · have live : isLiveFor settlementId current = true := by simp [isLiveFor, named, failed]
      rw [live, if_pos rfl, moved.amount] at sum
      split at sum <;> omega
  · have other : isLiveFor settlementId current = false := by simp [isLiveFor, named]
    have other' : isLiveFor settlementId next = false := by
      simp [isLiveFor, moved.settlement, named]
    simp only [other, other', Bool.false_eq_true, if_false] at sum
    omega

theorem RepaidWithin.step (held : RepaidWithin settlementId w)
    (calm : asksBeside settlementId w op = false) :
    RepaidWithin settlementId (w.step digest op) := by
  have funding' : FundingInOrder (w.step digest op).now.liquidity :=
    step_fundingInOrder w op held.funding
  obtain ⟨after, stay⟩ : SharesInOrder ((w.step digest op).now.cases settlementId) ∧ _ :=
    step_shares held.funding.books held.shares
  cases step_repayments digest w op with
  | still repayments =>
    refine ⟨funding', after, ?_, ?_⟩
    · rw [EachWithin, repayments]
      exact held.each.stay held.funding.books stay after
    · rw [repaidFor, repayments]
      exact within_stays stay after held.within
  | requested asked admitted repayments => exact held.requested calm asked admitted repayments
  | advanced is mem named evaluated admitted repayments =>
    subst is
    obtain ⟨-, -, amount, -, settlement, returnId⟩ := advancedRepayment_kept _ _ _ _
    have moves : Advances w.now.liquidity _ _ _ :=
      ⟨mem, amount, settlement, returnId, admitted, repayments⟩
    exact ⟨funding', after, moves.each held.each, held.advanced calm moves named evaluated
      (advancedRepayment_status _ _ _ _) funding'⟩

variable (digest)

/-- Over every run in which no repayment of the settlement is asked for beside one that the cap
on its returns leaves out. -/
theorem repaid_within_drawdown (ops : List WorldOp) (settlementId : String)
    (calm : Along (World.step digest) (fun w op => asksBeside settlementId w op = false)
      World.empty ops) :
    repaidFor (run (World.step digest) World.empty ops).now.liquidity settlementId ≤
      drawnFor (caseAfter digest ops settlementId) := by
  refine (Along.invariant (I := RepaidWithin settlementId) (fun _ _ held calm => held.step calm)
    ⟨fundingInOrder_empty, sharesInOrder_empty, ?_, le_rfl⟩ calm).within
  intro p mem
  cases mem

/-- Of a delivery that comes back in two parts, the first escalated and confirmed again. -/
theorem repaid_within_drawdown_parts :
    repaidFor (run (World.step fun _ => "hash") World.empty
        (delivered ++ [comingBack "r1" 400, confirming "r1" "p1" (some 400), escalating "r1",
          confirming "r1" "p3" (some 400), comingBack "r2" 500])).now.liquidity "s" ≤
      drawnFor (caseAfter (fun _ => "hash")
        (delivered ++ [comingBack "r1" 400, confirming "r1" "p1" (some 400), escalating "r1",
          confirming "r1" "p3" (some 400), comingBack "r2" 500]) "s") :=
  repaid_within_drawdown (fun _ => "hash") _ "s" (by decide +kernel)

/-- A second settlement draws on the same facility. -/
def drawnBeside : List WorldOp := [
  fresh (.createSettlement {
    settlementId := "t", beneficiaryId := "beneficiary", recipientAmountMinor := 1000
    fundingCurrency := "INR", purposeCode := some "P0001", actor := creator }),
  fresh (.startPreflight "t" creator),
  fresh (.completePreflight {
    settlementId := "t", actor := worker, blocking := [], ruleSetVersion := "1"
    fingerprint := "f" }),
  fresh (.attachQuote "t" {
    quoteId := "quote", quote := some offer, actor := creator, now := 1 }),
  fresh (.authorizeSettlement {
    settlementId := "t", actor := approver, mayAuthorize := true, separationEnabled := true
    quote := some offer, beneficiaryVerified := true
    destination := some ⟨"destination", "version", true⟩, preflightPassing := true
    hasActiveLiquidityFacility := true, quoteConsumed := true, now := 2 }),
  fresh (.beginReservation ⟨"t", "facility", rupees 1000, 3600, worker⟩),
  fresh (.completeReservation "t" ⟨"reservation-t", "t3", 3⟩),
  fresh (.requestDrawdown ⟨"t", worker, "drawdown-t", 4⟩),
  fresh (.resolveDrawdown {
    settlementId := "t", trigger := .confirmed, actor := worker, providerEventVerified := true
    evidence := some ⟨1000, "INR", some "facility"⟩, transferId := "t4", now := 5 })]

/-- The whole delivery comes back, its return is escalated after it was confirmed, and a second
return is confirmed in its place: both repayments stand. -/
theorem repaid_twice :
    ¬ repaidFor (run (World.step fun _ => "hash") World.empty
        (delivered ++ drawnBeside ++ [comingBack "r1" 1000, confirming "r1" "p1" (some 1000),
          escalating "r1", comingBack "r2" 1000, confirming "r2" "p2" (some 1000)])).now.liquidity
        "s" ≤
      drawnFor (caseAfter (fun _ => "hash")
        (delivered ++ drawnBeside ++ [comingBack "r1" 1000, confirming "r1" "p1" (some 1000),
          escalating "r1", comingBack "r2" 1000, confirming "r2" "p2" (some 1000)]) "s") := by
  decide +kernel

end Run

end InrSettle
