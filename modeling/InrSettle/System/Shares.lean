import InrSettle.Library.Rounding
import InrSettle.System.Holdings
import Mathlib

/-!
# What a share of a drawdown is computed from

The confirmed drawdown, the delivery of the first attempt and the returns against it: none
of them changes once it is known.
-/

namespace InrSettle

open Transaction CaseTables FundingTables Run

/-- The settlement's confirmed drawdown; nothing where there is none. -/
def drawnFor (c : Case) : Int := ((confirmedDrawdown c).map (·.amountMinor)).getD 0

/-- What is known to have been delivered by the first attempt; nothing where nothing is. -/
def deliveredFor (c : Case) : Int := (c.attempts.head?.bind (·.creditedMinor)).getD 0

/-- Every return is of the first attempt. -/
def Pointed (c : Case) : Prop :=
  ∀ r ∈ c.returns, c.attempts.head?.map (·.id) = some r.payoutAttemptId

/-- The rows a share of the drawdown is computed from, as they are after every run. -/
structure SharesInOrder (c : Case) : Prop where
  returns : ReturnsInOrder c
  covered : Covered c
  pointed : Pointed c
  once : DrawsOnce c
  positive : ∀ d ∈ c.drawdowns, 0 < d.amountMinor

theorem sharesInOrder_empty : SharesInOrder {} where
  returns := returnsInOrder_empty
  covered := fun _ mem => by cases mem
  pointed := fun _ mem => by cases mem
  once := drawsOnce_empty
  positive := fun _ mem => by cases mem

/-- What was drawn and delivered stays once it is known, and so do the returns. -/
structure SharesStay (c c' : Case) : Prop where
  drawn : 0 < drawnFor c → drawnFor c' = drawnFor c
  delivered : 0 < deliveredFor c → deliveredFor c' = deliveredFor c
  returns : ∀ r ∈ c.returns, ∃ r' ∈ c'.returns, r'.id = r.id ∧ r'.amountMinor = r.amountMinor

theorem sharesStay_refl (c : Case) : SharesStay c c :=
  ⟨fun _ => rfl, fun _ => rfl, fun r mem => ⟨r, mem, rfl, rfl⟩⟩

section Stay

variable {digest : AuthorizedInstruction → String} {read : Reads} {s s' : Store}
  {op : SettlementOp} {c c' : Case}

/-- The first attempt stays the first. -/
theorem AttemptsMove.head {a : PayoutAttemptRow} (moved : AttemptsMove op c c')
    (first : c.attempts.head? = some a) : ∃ a', c'.attempts.head? = some a' ∧ a'.id = a.id := by
  cases moved with
  | still attempts => exact ⟨a, attempts ▸ first, rfl⟩
  | added _ attempts => exact ⟨a, by rw [attempts, List.head?_append, first]; rfl, rfl⟩
  | updated write _ attempts =>
    rw [attempts, withAttempt, Table.setWhere, List.head?_map, first]
    refine ⟨_, rfl, ?_⟩
    dsimp only
    split
    · exact write.id a
    · rfl

theorem ReturnsMove.credited {a a' : PayoutAttemptRow} {delivered : Int}
    (moved : ReturnsMove op c c') (inOrder : InOrder c) (mem : a ∈ c.attempts)
    (mem' : a' ∈ c'.attempts) (same : a'.id = a.id) (known : a.creditedMinor = some delivered) :
    a'.creditedMinor = some delivered := by
  have kept : AttemptsKept c c' → a'.creditedMinor = some delivered := by
    intro kept
    rcases kept.from_ a' mem' with ⟨b, found, is, -, -, credited⟩ | ⟨fresh, -⟩
    · obtain rfl := Table.eq_of_key inOrder.ids found mem (is.trans same)
      exact credited delivered known
    · exact (fresh a mem same.symm).elim
  cases moved with
  | still _ attempts => exact kept attempts
  | opened _ _ _ _ attempts => exact kept attempts
  | written _ _ _ attempts => exact kept (attemptsKept_of_same attempts)
  | counted _ counts _ _ _ attempts =>
    rcases counts.attempts inOrder attempts a' mem' with rfl | ⟨old, -⟩
    · have is : _ = a := Table.eq_of_key inOrder.ids
        (List.mem_of_find?_eq_some counts.against) mem same
      rw [totalled, is]
      exact known
    · exact Table.eq_of_key inOrder.ids old mem same ▸ known

theorem ReturnsMove.rows (moved : ReturnsMove op c c') :
    (∀ r ∈ c.returns, ∃ r' ∈ c'.returns, r'.id = r.id ∧ r'.amountMinor = r.amountMinor) ∧
      ∀ r' ∈ c'.returns, (∃ r ∈ c.returns, r'.payoutAttemptId = r.payoutAttemptId) ∨
        c.settlement.bind (·.payoutAttemptId) = some r'.payoutAttemptId := by
  have updated : ∀ {returnId : String} {set : SettlementReturnRow → SettlementReturnRow},
      KeepsReturn set → c'.returns = (withReturn c returnId set).returns →
      (∀ r ∈ c.returns, ∃ r' ∈ c'.returns, r'.id = r.id ∧ r'.amountMinor = r.amountMinor) ∧
        ∀ r' ∈ c'.returns, (∃ r ∈ c.returns, r'.payoutAttemptId = r.payoutAttemptId) ∨
          c.settlement.bind (·.payoutAttemptId) = some r'.payoutAttemptId := by
    intro returnId set keeps returns
    refine ⟨fun r mem => ?_, fun r' mem => ?_⟩
    · have columns : c'.returns.map (fun r => (r.id, r.amountMinor)) =
          c.returns.map fun r => (r.id, r.amountMinor) := by
        rw [returns]
        exact Table.map_setWhere fun r _ _ => by rw [(keeps r).1, (keeps r).2.2]
      have there : (r.id, r.amountMinor) ∈ c'.returns.map fun r => (r.id, r.amountMinor) := by
        rw [columns]
        exact List.mem_map.mpr ⟨r, mem, rfl⟩
      simpa using there
    · obtain ⟨r, old, same, -⟩ := (withReturn_rows keeps returns).2 r' mem
      exact .inl ⟨r, old, same⟩
  cases moved with
  | still returns _ =>
    exact ⟨fun r mem => ⟨r, returns ▸ mem, rfl, rfl⟩, fun r' mem => .inl ⟨r', returns ▸ mem, rfl⟩⟩
  | opened pointer made _ returns _ =>
    refine ⟨fun r mem => ⟨r, returns ▸ List.mem_append_left _ mem, rfl, rfl⟩, fun r' mem => ?_⟩
    rcases List.mem_append.mp (returns ▸ mem) with old | new
    · exact .inl ⟨r', old, rfl⟩
    · exact .inr (by rw [List.mem_singleton.mp new, made.against, pointer])
  | written _ write returns _ => exact updated write.keeps returns
  | counted _ _ keeps _ returns _ => exact updated keeps returns

theorem ReturnsMove.pointed (moved : ReturnsMove op c c') (attempts : AttemptsMove op c c')
    (inOrder : InOrder c) (held : Pointed c) : Pointed c' := by
  intro r' mem
  have before : c.attempts.head?.map (·.id) = some r'.payoutAttemptId := by
    rcases moved.rows.2 r' mem with ⟨r, old, same⟩ | pointer
    · rw [same]
      exact held r old
    · rw [← inOrder.pointer]
      exact pointer
  obtain ⟨a, first, is⟩ := Option.map_eq_some_iff.mp before
  obtain ⟨a', first', same⟩ := attempts.head first
  rw [first', Option.map_some, same, is]

theorem HoldsMove.positive (moved : HoldsMove read s op s') (books : Books s.liquidity)
    (held : ∀ d ∈ s.case.drawdowns, 0 < d.amountMinor) :
    ∀ d ∈ s'.case.drawdowns, 0 < d.amountMinor := by
  cases moved with
  | still drawdowns => exact drawdowns ▸ held
  | reserved _ _ _ drawdowns => exact drawdowns ▸ held
  | released _ _ drawdowns => exact drawdowns ▸ held
  | asked _ _ drawdowns => exact drawdowns ▸ held
  | drawn _ active _ _ _ _ drawdowns =>
    intro d mem
    rcases List.mem_append.mp (drawdowns ▸ mem) with old | new
    · exact held d old
    · rw [List.mem_singleton.mp new]
      exact books.positive.1 _ (List.mem_of_find?_eq_some active)
  | resolved _ _ _ drawdowns =>
    intro d mem
    rw [drawdowns] at mem
    rcases Table.mem_setWhere.mp mem with ⟨d', old, -, rfl⟩ | ⟨old, -⟩
    · exact held d' old
    · exact held d old

theorem drawnFor_nonneg (positive : ∀ d ∈ c.drawdowns, 0 < d.amountMinor) : 0 ≤ drawnFor c := by
  unfold drawnFor
  cases found : confirmedDrawdown c with
  | none => simp
  | some d =>
    have mem := positive d (List.mem_of_find?_eq_some found)
    simpa using mem.le

/-- A drawdown that was confirmed stays the one it was. -/
theorem HoldsMove.drawnStays (moved : HoldsMove read s op s') (once : DrawsOnce s.case)
    (known : 0 < drawnFor s.case) : drawnFor s'.case = drawnFor s.case := by
  have same : s'.case.drawdowns = s.case.drawdowns →
      drawnFor s'.case = drawnFor s.case := by
    intro drawdowns
    rw [drawnFor, confirmedDrawdown, drawdowns]
    rfl
  have one : ∃ d, s.case.drawdowns = [d] ∧ d.status = .confirmed := by
    rcases once with none | ⟨d, _, only, -⟩
    · simp [drawnFor, confirmedDrawdown, none] at known
    · refine ⟨d, only, ?_⟩
      by_contra other
      simp [drawnFor, confirmedDrawdown, only, other] at known
  obtain ⟨d, only, confirmed⟩ := one
  cases moved with
  | still drawdowns => exact same drawdowns
  | reserved _ _ _ drawdowns => exact same drawdowns
  | released _ _ drawdowns => exact same drawdowns
  | asked _ _ drawdowns => exact same drawdowns
  | drawn _ _ found before =>
    rw [once.undrawn found before] at only
    cases only
  | @resolved input other _ _ _ latest evaluated =>
    rw [latestDrawdown, only] at latest
    obtain rfl : d = other := Option.some.inj latest
    rw [confirmed] at evaluated
    cases trigger : input.trigger <;> simp [trigger] at evaluated <;> cases evaluated

theorem deliveredFor_eq {a : PayoutAttemptRow} (first : c.attempts.head? = some a) :
    deliveredFor c = a.creditedMinor.getD 0 := by
  simp [deliveredFor, first]

theorem ReturnsMove.deliveredStays (moved : ReturnsMove op c c') (attempts : AttemptsMove op c c')
    (inOrder : InOrder c) (known : 0 < deliveredFor c) :
    deliveredFor c' = deliveredFor c := by
  cases first : c.attempts.head? with
  | none => simp [deliveredFor, first] at known
  | some a =>
    obtain ⟨a', first', same⟩ := attempts.head first
    rw [deliveredFor_eq first] at known ⊢
    rw [deliveredFor_eq first']
    cases credited : a.creditedMinor with
    | none => simp [credited] at known
    | some delivered =>
      rw [moved.credited inOrder (List.mem_of_mem_head? first) (List.mem_of_mem_head? first') same
        credited]

theorem StoreMove.sharesInOrder (moved : StoreMove digest read s op s')
    (books : Books s.liquidity) (held : SharesInOrder s.case) : SharesInOrder s'.case := by
  have inOrder := held.returns.inOrder
  have returns := moved.returns inOrder held.returns.checked
  exact ⟨moved.returnsInOrder held.returns,
    returns.covered inOrder held.returns.against held.covered,
    returns.pointed moved.payout.attempts inOrder held.pointed,
    moved.holds.drawsOnce moved.row held.once, moved.holds.positive books held.positive⟩

theorem StoreMove.sharesStay (moved : StoreMove digest read s op s')
    (held : SharesInOrder s.case) : SharesStay s.case s'.case := by
  have inOrder := held.returns.inOrder
  have returns := moved.returns inOrder held.returns.checked
  exact ⟨moved.holds.drawnStays held.once, returns.deliveredStays moved.payout.attempts inOrder,
    returns.rows.1⟩

theorem step_shares {settlementId : String} {w : World} {op : WorldOp}
    (books : Books w.now.liquidity)
    (held : SharesInOrder (w.now.cases settlementId)) :
    SharesInOrder ((w.step digest op).now.cases settlementId) ∧
      SharesStay (w.now.cases settlementId) ((w.step digest op).now.cases settlementId) := by
  cases op with
  | funding op => exact ⟨held, sharesStay_refl _⟩
  | settlement asOf op =>
    exact step_cases (R := fun c c' => SharesInOrder c → SharesInOrder c' ∧ SharesStay c c')
      (fun c before => ⟨before, sharesStay_refl c⟩)
      (fun _ moved before => ⟨moved.sharesInOrder books before, moved.sharesStay before⟩)
      settlementId held

end Stay

/-! ### Shares of several returns -/

section Several

variable {drawn delivered : Int}

/-- The shares are the whole parts of what was drawn for each return. -/
theorem proRataRepayments_eq (drew : 0 ≤ drawn) (credited : 0 < delivered) {returns : List Int}
    (amounts : ∀ r ∈ returns, 0 ≤ r) : returns.map (proRataRepayment drawn delivered) =
      (returns.map (drawn * ·)).map (· / delivered) := by
  rw [List.map_map]
  refine List.map_congr_left fun r mem => ?_
  rw [proRataRepayment, if_neg (not_le.mpr credited),
    Int.tdiv_eq_ediv_of_nonneg (Int.mul_nonneg drew (amounts r mem))]
  rfl

theorem shares_le_drawn (drew : 0 ≤ drawn) (credited : 0 < delivered) {returns : List Int}
    (amounts : ∀ r ∈ returns, 0 ≤ r) (within : returns.sum ≤ delivered) :
    (returns.map (proRataRepayment drawn delivered)).sum ≤ drawn := by
  have parts := Rounding.sum_parts_mul_le credited (returns.map (drawn * ·))
  rw [← proRataRepayments_eq drew credited amounts, List.sum_map_mul_left, List.map_id'] at parts
  exact Int.le_of_mul_le_mul_right (parts.trans (Int.mul_le_mul_of_nonneg_left within drew)) credited

theorem drawn_lt_shares (drew : 0 ≤ drawn) (credited : 0 < delivered) {returns : List Int}
    (amounts : ∀ r ∈ returns, 0 ≤ r) (whole : returns.sum = delivered) :
    drawn < (returns.map (proRataRepayment drawn delivered)).sum + returns.length := by
  have some_ : returns.map (drawn * ·) ≠ [] := by
    intro none
    rw [List.map_eq_nil_iff] at none
    subst none
    exact absurd whole (by simpa using credited.ne)
  have parts := Rounding.sum_lt_parts_mul credited _ some_
  rw [← proRataRepayments_eq drew credited amounts, List.sum_map_mul_left, List.map_id', whole,
    List.length_map] at parts
  exact lt_of_mul_lt_mul_right parts credited.le

/-- Of a drawdown and a delivery, the shares of any returns of no more than was delivered are no
more than was drawn, the share of all of it is all that was drawn, and the shares of returns that
make up the delivery fall short by less than one unit each. -/
theorem shares_of_drawdown (drew : 0 ≤ drawn) (credited : 0 < delivered) :
    (∀ returns : List Int, (∀ r ∈ returns, 0 ≤ r) → returns.sum ≤ delivered →
      (returns.map (proRataRepayment drawn delivered)).sum ≤ drawn) ∧
    proRataRepayment drawn delivered delivered = drawn ∧
    ∀ returns : List Int, (∀ r ∈ returns, 0 ≤ r) → returns.sum = delivered →
      drawn - (returns.map (proRataRepayment drawn delivered)).sum < returns.length := by
  refine ⟨fun _ => shares_le_drawn drew credited, ?_, fun returns amounts whole => ?_⟩
  · rw [proRataRepayment, if_neg (not_le.mpr credited), Int.mul_tdiv_cancel _ credited.ne']
  · have := drawn_lt_shares drew credited amounts whole
    omega

theorem shares_of_drawdown_100 :
    ([33, 33, 34].map (proRataRepayment 1000 100)).sum ≤ 1000 ∧
      1000 - ([33, 33, 34].map (proRataRepayment 1000 100)).sum < 3 := by
  obtain ⟨within, -, short⟩ := @shares_of_drawdown 1000 100 (by decide) (by decide)
  exact ⟨within _ (by decide) (by decide), short _ (by decide) (by decide)⟩

end Several

end InrSettle
