import InrSettle.System.Refusals

/-!
# A refused confirmation of a return

The return is counted first, and what it sends back to the facility is asked for after that. A
confirmation lands if the share of the drawdown can be repaid and the notice is issued; else the
return stays confirmed behind the refusal, and is answered as a duplicate from then on.
-/

namespace InrSettle

open Transaction CaseTables FundingTables Run

/-- What confirming a return writes, observations and audit rows apart. -/
def Store.returnRows (s : Store) :
    List SettlementReturnRow × List PayoutAttemptRow × List RepaymentRow × List FacilityRow ×
      List EventRow × List EventRow :=
  (s.case.returns, s.case.attempts, s.liquidity.repayments, s.liquidity.facilities,
    s.case.events, s.liquidity.events)

/-- The return a confirmation counts and the attempt it counts against, once every check before
the first write has passed. -/
def ConfirmInput.counting (input : ConfirmInput) (c : Case) :
    Option (SettlementReturnRow × PayoutAttemptRow) :=
  (findReturn c input.returnId).bind fun current =>
    if countsTowardCap current.status then none
    else match input.check with
    | .notUpheld _ => none
    | .upheld _ _ =>
      match returnMachine.evaluate (some current.status)
          (if current.status = .manualReview then .resolveUpheld else .upheld) with
      | none => none
      | some row =>
        if row.requiresAttribution ∧ !isStated (input.note.getD "") then none
        else match c.attempts.find? fun a => decide (a.id = current.payoutAttemptId) with
        | none => none
        | some attempt =>
          match checkReturnCap attempt.creditedMinor
              (attempt.amountCurrency.getD current.amountCurrency)
              (confirmedSoFar c current.payoutAttemptId)
              ⟨current.amountCurrency, current.amountMinor⟩ with
          | .error _ => none
          | .ok _ => some (current, attempt)

/-- Whether the facility lets a repayment be requested. -/
def repaymentAdmitted (l : Liquidity) (input : RepayInput) : Bool :=
  (facilityOf l input.facilityId).any fun f =>
    input.amount.currency == f.currency && decide (0 < input.amount.minorUnits) &&
      decide (input.amount.minorUnits ≤ eligibleOutstanding l input.facilityId)

/-- Whether the return's share of the drawdown is above zero and can be repaid, and the notice can
be issued. -/
def ConfirmInput.repays (input : ConfirmInput) (s : Store) (current : SettlementReturnRow)
    (attempt : PayoutAttemptRow) : Bool :=
  ((confirmedDrawdown s.case).any fun drawdown =>
    repaymentAdmitted s.liquidity
      (input.repay drawdown (attempt.creditedMinor.getD 0) current)) && input.notice.isSome

/-- The confirmation is decided before anything is written, or what follows the count goes
through. -/
def ConfirmInput.lands (input : ConfirmInput) (s : Store) : Bool :=
  (input.counting s.case).all fun counted => input.repays s counted.1 counted.2

/-! ### Asking for the repayment -/

theorem requestRepayment_refused {input : RepayInput} {l l' : Liquidity}
    {r : Except RepaymentRefusal RepaymentDone} (h : Commits (requestRepayment input) l r l') :
    repaymentAdmitted l input = true ∧ (∃ done, r = .ok done) ∨
      repaymentAdmitted l input = false ∧ (∃ refusal, r = .error refusal) ∧ l' = l := by
  have first : repaymentMachine.evaluate none .request =
      some { id := .y01, source := [], trigger := .request, target := .requested } := rfl
  simp only [requestRepayment, first] at h
  obtain ⟨v, _, locked, h⟩ := commits_bind.mp h
  obtain ⟨rfl, ⟨rfl, absent⟩ | ⟨f, found, -, rfl⟩⟩ := lockFacility_spec locked
  · obtain ⟨rfl, rfl⟩ := commits_pure.mp h
    exact .inr ⟨by simp [repaymentAdmitted, absent], ⟨_, rfl⟩, rfl⟩
  simp only at h
  split at h
  · rename_i other
    obtain ⟨rfl, rfl⟩ := commits_pure.mp h
    exact .inr ⟨by simp [repaymentAdmitted, found, other], ⟨_, rfl⟩, rfl⟩
  rename_i currency
  split at h
  · rename_i zero
    obtain ⟨rfl, rfl⟩ := commits_pure.mp h
    exact .inr ⟨by simp [repaymentAdmitted, found, Int.not_lt.mpr zero], ⟨_, rfl⟩, rfl⟩
  rename_i positive
  simp only [commits_get_bind] at h
  split at h
  · rename_i exceeds
    obtain ⟨rfl, rfl⟩ := commits_pure.mp h
    exact .inr ⟨by simp [repaymentAdmitted, found, Int.not_le.mpr exceeds], ⟨_, rfl⟩, rfl⟩
  rename_i within
  refine .inl ⟨by simp [repaymentAdmitted, found, not_not.mp currency, Int.not_le.mp positive,
    Int.not_lt.mp within], ?_⟩
  simp only [orThrow, repaymentFingerprint, insertRepayment, FundingTables.emit, bind_assoc,
    Nat.lt_irrefl, if_false, commits_pure_bind, commits_get_bind, commits_require_bind,
    commits_modify_bind, commits_pure] at h
  obtain ⟨-, -, -, -, -, -, rfl, -⟩ := h
  exact ⟨_, rfl⟩

/-- What follows the count: done, or refused with the return as it was counted. -/
theorem requestReturnRepayment_commits {input : ConfirmInput} {current : SettlementReturnRow}
    {attempt : PayoutAttemptRow} {transition : ReturnTransitionId} {s s' : Store}
    {r : ReviewResult}
    (h : Commits (requestReturnRepayment input current attempt transition) s r s') :
    input.repays s current attempt = true ∧ (∃ done, r = .ok done ∧ done.duplicate = false) ∨
      input.repays s current attempt = false ∧ (∃ refusal, r = .error refusal) ∧
        (s'.case = s.case ∨ s'.case = withReturn s.case current.id (repaying input.repaymentId)) := by
  simp only [requestReturnRepayment, commits_get_bind] at h
  cases drawn : confirmedDrawdown s.case with
  | none =>
    simp only [drawn] at h
    obtain ⟨rfl, rfl⟩ := commits_pure.mp h
    exact .inr ⟨by simp [ConfirmInput.repays, drawn], ⟨_, rfl⟩, .inl rfl⟩
  | some drawdown =>
    simp only [drawn] at h
    split at h
    · rename_i zero
      obtain ⟨rfl, rfl⟩ := commits_pure.mp h
      refine .inr ⟨?_, ⟨_, rfl⟩, .inl rfl⟩
      simp [ConfirmInput.repays, drawn, repaymentAdmitted, Int.not_lt.mpr zero]
    obtain ⟨requested, s₁, ran, h⟩ := commits_bind.mp h
    obtain ⟨l, asked, rfl⟩ := commits_onLiquidity.mp ran
    rcases requestRepayment_refused asked with ⟨admitted, done, rfl⟩ | ⟨refused, ⟨_, rfl⟩, -⟩
    · obtain ⟨_, s₂, ran, h⟩ := commits_bind.mp h
      obtain ⟨c, updated, rfl⟩ := commits_onCase.mp ran
      obtain rfl := updateReturn_spec updated
      split at h
      · rename_i noNotice
        obtain ⟨rfl, rfl⟩ := commits_pure.mp h
        exact .inr ⟨by simp [ConfirmInput.repays, noNotice], ⟨_, rfl⟩, .inr rfl⟩
      · rename_i notice issued
        obtain ⟨_, s₃, -, h⟩ := commits_bind.mp h
        obtain ⟨_, s₄, -, h⟩ := commits_bind.mp h
        obtain ⟨rfl, -⟩ := commits_pure.mp h
        exact .inl ⟨by simp [ConfirmInput.repays, drawn, admitted, issued], _, rfl, rfl⟩
    · obtain ⟨rfl, rfl⟩ := commits_pure.mp h
      exact .inr ⟨by simp [ConfirmInput.repays, drawn, refused], ⟨_, rfl⟩, .inl rfl⟩

/-! ### Confirming -/

theorem escalateReturn_answers {input : EscalateInput} {c c' : Case} {r : ReviewResult}
    (h : Commits (escalateReturn input) c r c') :
    (∃ done, r = .ok done ∧ done.duplicate = false) ∨ (∃ refusal, r = .error refusal) ∧ c' = c := by
  simp only [escalateReturn, commits_get_bind] at h
  split at h
  · obtain ⟨rfl, rfl⟩ := commits_pure.mp h
    exact .inr ⟨⟨_, rfl⟩, rfl⟩
  split at h
  · obtain ⟨rfl, rfl⟩ := commits_pure.mp h
    exact .inr ⟨⟨_, rfl⟩, rfl⟩
  obtain ⟨_, c₁, -, h⟩ := commits_bind.mp h
  simp only [CaseTables.audit, commits_modify_bind, commits_pure] at h
  exact .inl ⟨_, h.1, rfl⟩

/-- What a confirmation does: the return is not counted, and a duplicate is one counted before; or it
is counted, and the confirmation lands or is refused. -/
theorem confirmReturn_commits {input : ConfirmInput} {s s' : Store} {r : ReviewResult}
    (h : Commits (confirmReturn input) s r s') :
    input.counting s.case = none ∧ (s' = s ∨ ∃ done, r = .ok done) ∧
        ((∃ done, r = .ok done ∧ done.duplicate = true) ↔
          ((findReturn s.case input.returnId).any fun q => countsTowardCap q.status) = true) ∨
      ∃ current attempt, input.counting s.case = some (current, attempt) ∧
        findReturn s.case input.returnId = some current ∧ countsTowardCap current.status = false ∧
        (input.repays s current attempt = true ∧ (∃ done, r = .ok done ∧ done.duplicate = false) ∨
          input.repays s current attempt = false ∧ (∃ refusal, r = .error refusal) ∧
            (s'.case.returns = (withReturn s.case current.id (confirmed input)).returns ∨
              s'.case.returns = (withReturn (withReturn s.case current.id (confirmed input))
                current.id (repaying input.repaymentId)).returns)) := by
  simp only [confirmReturn, commits_get_bind] at h
  cases found : findReturn s.case input.returnId with
  | none =>
    simp only [found] at h
    obtain ⟨rfl, rfl⟩ := commits_pure.mp h
    exact .inl ⟨by simp [ConfirmInput.counting, found], .inl rfl, by simp⟩
  | some current =>
    simp only [found] at h
    split at h
    · rename_i counted
      obtain ⟨rfl, rfl⟩ := commits_pure.mp h
      exact .inl ⟨by simp [ConfirmInput.counting, found, counted], .inl rfl, by simp [counted]⟩
    rename_i uncounted
    have uncounted : countsTowardCap current.status = false := by simpa using uncounted
    split at h
    · rename_i why check
      obtain ⟨rfl, rfl⟩ := commits_pure.mp h
      exact .inl ⟨by simp [ConfirmInput.counting, found, check], .inl rfl, by simp [uncounted]⟩
    rename_i reported source check
    split at h
    · rename_i noRow
      obtain ⟨rfl, rfl⟩ := commits_pure.mp h
      exact .inl ⟨by simp [ConfirmInput.counting, found, uncounted, check, noRow], .inl rfl,
        by simp [uncounted]⟩
    rename_i row evaluated
    split at h
    · rename_i unstated
      obtain ⟨rfl, rfl⟩ := commits_pure.mp h
      exact .inl ⟨by simp only [ConfirmInput.counting, found, uncounted, check, evaluated, unstated,
        Option.bind_some, Bool.false_eq_true, if_false, and_self, if_true], .inl rfl,
        by simp [uncounted]⟩
    rename_i stated
    split at h
    · rename_i noAttempt
      obtain ⟨rfl, rfl⟩ := commits_pure.mp h
      exact .inl ⟨by simp only [ConfirmInput.counting, found, uncounted, check, evaluated, stated,
        noAttempt, Option.bind_some, Bool.false_eq_true, if_false], .inl rfl, by simp [uncounted]⟩
    rename_i attempt against
    split at h
    · rename_i refusal capped
      obtain ⟨answered, s₁, ran, h⟩ := commits_bind.mp h
      obtain ⟨c, escalating, rfl⟩ := commits_onCase.mp ran
      obtain ⟨rfl, rfl⟩ := commits_pure.mp h
      have none : input.counting s.case = none := by
        simp only [ConfirmInput.counting, found, uncounted, check, evaluated, stated, against,
          capped, Option.bind_some, Bool.false_eq_true, if_false]
      rcases escalateReturn_answers escalating with ⟨done, rfl, new⟩ | ⟨⟨_, rfl⟩, rfl⟩
      · exact .inl ⟨none, .inr ⟨_, rfl⟩, by simp [uncounted, Except.map, new]⟩
      · exact .inl ⟨none, .inl rfl, by simp [uncounted, Except.map]⟩
    rename_i total covered
    have counting : input.counting s.case = some (current, attempt) := by
      simp only [ConfirmInput.counting, found, uncounted, check, evaluated, stated, against,
        covered, Option.bind_some, Bool.false_eq_true, if_false]
    obtain ⟨_, s₁, ran, h⟩ := commits_bind.mp h
    obtain ⟨c, totalling, rfl⟩ := commits_onCase.mp ran
    obtain ⟨-, rfl⟩ := updateAttempt_spec totalling
    obtain ⟨_, s₂, ran, h⟩ := commits_bind.mp h
    obtain ⟨c, updated, rfl⟩ := commits_onCase.mp ran
    obtain rfl := updateReturn_spec updated
    obtain ⟨_, s₃, ran, h⟩ := commits_bind.mp h
    obtain ⟨c, observed, rfl⟩ := commits_onCase.mp ran
    obtain rfl := commits_modify.mp observed
    refine .inr ⟨current, attempt, counting, rfl, uncounted, ?_⟩
    rcases requestReturnRepayment_commits h with ⟨repays, done⟩ | ⟨refused, refusal, kept⟩
    · exact .inl ⟨repays, done⟩
    · refine .inr ⟨refused, refusal, ?_⟩
      rcases kept with same | repaid
      · refine .inl ?_
        rw [same]
        rfl
      · refine .inr ?_
        rw [repaid]
        rfl

/-- Behind a refusal that comes after the count, the return is confirmed. -/
theorem counted_behind {input : ConfirmInput} {current : SettlementReturnRow} {c c' : Case}
    (written : c'.returns = (withReturn c current.id (confirmed input)).returns ∨
      c'.returns = (withReturn (withReturn c current.id (confirmed input)) current.id
        (repaying input.repaymentId)).returns) :
    ∃ set : SettlementReturnRow → SettlementReturnRow, (∀ q, (set q).status = .confirmed) ∧
      (∀ q, (set q).id = q.id) ∧
      c'.returns = Table.setWhere (fun q => decide (q.id = current.id)) set c.returns := by
  rcases written with is | is
  · exact ⟨confirmed input, fun _ => rfl, fun _ => rfl, is⟩
  · exact ⟨repaying input.repaymentId ∘ confirmed input, fun _ => rfl, fun _ => rfl,
      is.trans (Table.setWhere_setWhere fun _ => rfl)⟩

/-- The refusals of a confirmation, and what a later confirmation answers behind one. -/
structure ConfirmationRefusals (s : Store) (input : ConfirmInput) : Prop where
  rows : RefusalKeepsExactly Store.returnRows (confirmReturn input) s (input.lands s = true)
  later : ∀ refusal s', Commits (confirmReturn input) s (.error refusal) s' →
    ∀ again : ConfirmInput, again.returnId = input.returnId →
      ∀ answer t, Commits (confirmReturn again) s' answer t →
        ((∃ done, answer = .ok done ∧ done.duplicate = true) ↔ input.lands s = false)

theorem confirmReturn_refusals (s : Store) (input : ConfirmInput) :
    ConfirmationRefusals s input where
  rows := by
    refine refusalKeepsExactly_of_commits fun answer s' h => ?_
    rcases confirmReturn_commits h with
      ⟨counting, kept, -⟩ | ⟨current, attempt, counting, found, uncounted, ⟨repays, done, is, -⟩ |
        ⟨refused, refusal, written⟩⟩
    · refine .inl ⟨by simp [ConfirmInput.lands, counting], kept.imp (fun same => ?_) id⟩
      rw [same]
    · exact .inl ⟨by simp [ConfirmInput.lands, counting, repays], .inr ⟨done, is⟩⟩
    · refine .inr ⟨by simp [ConfirmInput.lands, counting, refused], refusal, fun same => ?_⟩
      obtain ⟨set, status, -, returns⟩ := counted_behind written
      have kept : s'.case.returns = s.case.returns := congrArg Prod.fst same
      rw [returns] at kept
      refine Table.setWhere_ne (findReturn_some found).1 (decide_eq_true rfl) (fun fixed => ?_) kept
      have is := congrArg SettlementReturnRow.status fixed
      rw [status] at is
      rw [← is] at uncounted
      cases uncounted
  later refusal s' h again same answer t h' := by
    have duplicates : (∃ done, answer = .ok done ∧ done.duplicate = true) ↔
        ((findReturn s'.case input.returnId).any fun q => countsTowardCap q.status) = true := by
      rw [← same]
      rcases confirmReturn_commits h' with
        ⟨-, -, iff⟩ | ⟨current, attempt, -, found, uncounted, ⟨-, done, rfl, new⟩ |
          ⟨-, ⟨_, rfl⟩, -⟩⟩
      · exact iff
      · simp [found, uncounted, new]
      · simp [found, uncounted]
    rw [duplicates]
    rcases confirmReturn_commits h with
      ⟨counting, rfl | ⟨done, is⟩, iff⟩ | ⟨current, attempt, counting, found, uncounted,
        ⟨-, done, is, -⟩ | ⟨refused, -, written⟩⟩
    · rw [← iff]
      simp [ConfirmInput.lands, counting]
    · cases is
    · cases is
    · obtain ⟨set, status, keeps, returns⟩ := counted_behind written
      have lands : input.lands s = false := by simp [ConfirmInput.lands, counting, refused]
      refine iff_of_true ?_ lands
      have behind : findReturn s'.case input.returnId = some (set current) := by
        have here := Table.find?_setWhere (f := set) s.case.returns
          (p := fun q => decide (q.id = current.id)) fun q here => by rw [keeps]; exact here
        rw [findReturn, returns, ← (findReturn_some found).2, here, (findReturn_some found).2]
        exact congrArg _ found
      simp [behind, status, countsTowardCap]

/-- In every state a run reaches, a refused confirmation leaves the rows as they were exactly if it
is decided before anything is written, or what follows the count goes through; and only then is
the return not answered as a duplicate afterwards. -/
theorem confirmReturn_atomic (digest : AuthorizedInstruction → String) (ops : List WorldOp)
    (settlementId : String) (input : ConfirmInput) :
    ConfirmationRefusals ((run (World.step digest) World.empty ops).now.store settlementId) input :=
  confirmReturn_refusals _ input

/-- The facility is repaid in full before a return is confirmed: nothing is left to repay, the
confirmation is refused, and the return is confirmed. -/
theorem confirmation_left_behind :
    ¬RefusalKeeps Store.returnRows
      (confirmReturn {
        settlementId := "s", returnId := "r", actor := worker
        check := .upheld (some 100) .authoritativeStatusPull, repaymentId := "p2"
        notice := some ⟨"notice", "hash"⟩, now := 31 })
      (reached (delivered ++ [.funding (.requestRepayment {
        facilityId := "facility", amount := rupees 1000, source := .scheduled, actor := worker
        repaymentId := "p1", now := 25 }), comingBack "r" 100])) :=
  not_refusalKeeps (.repaymentRequestFailed (.exceedsOutstanding 100 0 1000))
    (by decide +kernel) fun same => absurd (congrArg Prod.fst same) (by decide +kernel)

end InrSettle
