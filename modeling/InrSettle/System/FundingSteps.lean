import InrSettle.System.Steps

/-!
# Operations on the whole store are moves

The services that write the settlement's rows and the funding tables in one
transaction, and with them every operation.
-/

namespace InrSettle

open Transaction CaseTables

variable {digest : AuthorizedInstruction → String} {read : Reads} {s : Store}

/-! ### The settlement funding service -/

theorem beginReservation_move (input : ReserveForInput) (r : FundingResult) (s' : Store)
    (h : Commits (beginReservation read.facility input) s r s') :
    StoreMove digest read s (.beginReservation input) s' := by
  simp only [beginReservation, commits_get_bind] at h
  split at h
  · exact unmoved_of_pure_store h
  split at h
  · exact unmoved_of_pure_store h
  obtain ⟨outcome, s₁, ran, h⟩ := commits_bind.mp h
  have same : s' = s₁ := by
    split at h <;> exact (commits_pure.mp h).2
  subst same
  obtain ⟨c, applied, rfl⟩ := commits_onCase.mp ran
  exact plain_move (by simp [SettlementOp.plainTriggers]) plainPatch_nil applied

/-- A facility that is there refuses a reservation for a reason its row or its reservations give. -/
theorem reserveLiquidity_refused {input : ReserveInput} {l l' : Liquidity}
    {refusal : ReserveRefusal} {f : FacilityRow}
    (found : FundingTables.facilityOf l input.facilityId = some f)
    (h : Commits (reserveLiquidity input) l (.error refusal) l') :
    reservationRefused l input = true := by
  unfold reserveLiquidity at h
  split at h
  · simp at h
  rename_i lasting
  have lasting : 0 < input.ttlSeconds := not_le.mp lasting
  obtain ⟨v, l₁, locked, h⟩ := commits_bind.mp h
  obtain ⟨rfl, ⟨-, absent⟩ | ⟨f', found', -, rfl⟩⟩ := lockFacility_spec locked
  · simp [found] at absent
  obtain rfl := Option.some.inj (found.symm.trans found')
  simp only at h
  split at h
  case h_1 refused => simp [reservationRefused, lasting, found, refused]
  case h_2 =>
    simp only [commits_get_bind] at h
    split at h
    · rename_i taken
      have active : (l₁.reservations.any fun r =>
          r.settlementId == input.settlementId && r.status == .active) = true := taken
      simp [reservationRefused, lasting, found, active]
    · -- Past the checks every path ends in the reservation or in an abort.
      obtain ⟨_, _, -, h⟩ := commits_bind.mp h
      obtain ⟨_, _, -, h⟩ := commits_bind.mp h
      obtain ⟨_, _, -, h⟩ := commits_bind.mp h
      obtain ⟨_, _, -, h⟩ := commits_bind.mp h
      split at h
      · simp at h
      · simp at h

theorem completeReservation_move (settlementId : String) (stamp : ReserveStamp)
    (input : ReserveForInput) (pending : read.pending = some input) (r : FundingResult)
    (s' : Store) (h : Commits (completeReservation input stamp) s r s') :
    StoreMove digest read s (.completeReservation settlementId stamp) s' := by
  unfold completeReservation at h
  obtain ⟨v, s₁, ran, h⟩ := commits_bind.mp h
  obtain ⟨l, locked, rfl⟩ := commits_onLiquidity.mp ran
  obtain ⟨rfl, ⟨rfl, -⟩ | ⟨f, found, -, rfl⟩⟩ := lockFacility_spec locked
  · exact unmoved_of_pure_store h
  obtain ⟨reserved, s₂, ran, h⟩ := commits_bind.mp h
  obtain ⟨l, reserving, rfl⟩ := commits_onLiquidity.mp ran
  rcases reserveLiquidity_spec reserving with ⟨refusal, rfl, rfl⟩ |
    ⟨available, rfl, allowed, events, rfl⟩
  · have refused : reservationRefused s.liquidity (input.reserve stamp) = true :=
      reserveLiquidity_refused found reserving
    simp only at h
    obtain ⟨outcome, s₃, ran, h⟩ := commits_bind.mp h
    obtain ⟨-, rfl⟩ := commits_pure.mp h
    obtain ⟨c, applied, rfl⟩ := commits_onCase.mp ran
    rcases applyTransition_moved applied with ⟨-, rfl⟩ | ⟨-, moved⟩
    · exact .unmoved
    · exact .reservationFailed pending refused ⟨rfl, rfl, rfl⟩ moved
  · simp only at h
    obtain ⟨outcome, s₃, ran, h⟩ := commits_bind.mp h
    have same : s' = s₃ := by
      split at h <;> exact (commits_pure.mp h).2
    subst same
    obtain ⟨c, applied, rfl⟩ := commits_onCase.mp ran
    exact .reserved pending allowed ⟨rfl, rfl, rfl⟩ ((applyTransition_moved applied).imp (·.2) (·.2))

theorem requestDrawdown_move (input : DrawInput) (r : FundingResult) (s' : Store)
    (h : Commits (requestDrawdown input) s r s') :
    StoreMove digest read s (.requestDrawdown input) s' := by
  simp only [requestDrawdown, commits_get_bind] at h
  split at h
  · exact unmoved_of_pure_store h
  obtain ⟨outcome, s₁, ran, h⟩ := commits_bind.mp h
  obtain ⟨c, applied, rfl⟩ := commits_onCase.mp ran
  rcases applyTransition_moved applied with ⟨⟨_, rfl⟩, rfl⟩ | ⟨⟨_, rfl⟩, moved⟩
  · exact unmoved_of_pure_store h
  cases found : activeReservation s.liquidity input.settlementId with
  | none =>
    obtain ⟨old, new, t, -, takes, -⟩ := moved
    have asked : Guard.activeReservationExists ∈ Trigger.requestDrawdown.guards := by decide
    have guard := takes.guarded .activeReservationExists asked
    simp [List.lookup, found] at guard
  | some reservation =>
    simp only [found] at h
    obtain ⟨_, s₂, ran, h⟩ := commits_bind.mp h
    obtain ⟨-, rfl⟩ := commits_pure.mp h
    obtain ⟨c₂, inserted, rfl⟩ := commits_onCase.mp ran
    simp only [CaseTables.insertDrawdown, commits_get_bind, commits_require_bind,
      commits_modify] at inserted
    obtain ⟨ids, -, -, single, rfl⟩ := inserted
    obtain ⟨old, new, t, current, takes, rfl⟩ := moved
    refine .drawn found ⟨rfl, rfl, rfl⟩ ⟨old, new, t, current, takes, rfl⟩ ids ?_
    exact single.resolve_left (by simp [DrawInput.row, DrawdownStatus.isTerminal])

theorem updateDrawdown_spec {drawdownId : String} {target : DrawdownStatus} {now : Instant}
    {reference : Option String} {c c' : Case} {r : PUnit}
    (h : Commits (updateDrawdown drawdownId target now reference) c r c') :
    c' = withDrawdown c drawdownId target now reference := by
  simp only [updateDrawdown, commits_get_bind, commits_require_bind, commits_modify] at h
  exact h.2

theorem resolveDrawdown_move (input : ResolveDrawdownInput) (r : FundingResult) (s' : Store)
    (h : Commits (resolveDrawdown input) s r s') :
    StoreMove digest read s (.resolveDrawdown input) s' := by
  simp only [resolveDrawdown, commits_get_bind] at h
  cases latest : latestDrawdown s.case with
  | none =>
    rw [latest] at h
    exact unmoved_of_pure_store h
  | some d =>
    simp only [latest] at h
    split at h
    · exact unmoved_of_pure_store h
    split at h
    · exact unmoved_of_pure_store h
    split at h
    · exact unmoved_of_pure_store h
    split at h
    · exact unmoved_of_pure_store h
    rename_i row evaluated
    obtain ⟨_, s₁, ran, h⟩ := commits_bind.mp h
    obtain ⟨c, updated, rfl⟩ := commits_onCase.mp ran
    obtain rfl := updateDrawdown_spec updated
    obtain ⟨followed, s₂, ran, h⟩ := commits_bind.mp h
    obtain ⟨l, following, rfl⟩ := commits_onLiquidity.mp ran
    cases followed with
    | error refusal =>
      obtain ⟨-, rfl⟩ := commits_pure.mp h
      exact .drawdownResolved latest evaluated following (.inl rfl)
    | ok done =>
      simp only at h
      obtain ⟨outcome, s₃, ran, h⟩ := commits_bind.mp h
      have same : s' = s₃ := by
        split at h <;> exact (commits_pure.mp h).2
      subst same
      obtain ⟨c, applied, rfl⟩ := commits_onCase.mp ran
      rcases applyTransition_moved applied with ⟨-, rfl⟩ | ⟨-, moved⟩
      · exact .drawdownResolved latest evaluated following (.inl rfl)
      · exact .drawdownResolved latest evaluated following (.inr ⟨rfl, moved⟩)

/-- Compensation leaves the settlement's own rows alone. -/
theorem compensateCancellation_case {input : CompensateInput} {s' : Store}
    {r : Except FundingRefusal Compensation}
    (h : Commits (compensateCancellation input) s r s') : s' = ⟨s.case, s'.liquidity⟩ := by
  simp only [compensateCancellation, commits_get_bind] at h
  split at h
  · rw [(commits_pure.mp h).2]
  split at h
  · rw [(commits_pure.mp h).2]
  split at h
  · obtain ⟨released, s₁, releasing, h⟩ := commits_bind.mp h
    obtain ⟨l, -, rfl⟩ := commits_onLiquidity.mp releasing
    split at h <;> rw [(commits_pure.mp h).2]
  · obtain ⟨repayment, s₁, repaying, h⟩ := commits_bind.mp h
    obtain ⟨l, -, rfl⟩ := commits_onLiquidity.mp repaying
    split at h <;> rw [(commits_pure.mp h).2]
  · rw [(commits_pure.mp h).2]
  · rw [(commits_pure.mp h).2]

theorem compensateCancellation_move (input : CompensateInput)
    (r : Except FundingRefusal Compensation) (s' : Store)
    (h : Commits (compensateCancellation input) s r s') :
    StoreMove digest read s (.compensateCancellation input) s' := by
  have same := compensateCancellation_case h
  rw [same] at h ⊢
  exact .compensated h

theorem releaseReservation_storeMove (input : ReleaseInput)
    (r : Except ReservationRefusal ReservationDone) (s' : Store)
    (h : Commits (onLiquidity (releaseReservation input)) s r s') :
    StoreMove digest read s (.releaseReservation input) s' := by
  obtain ⟨l, released, rfl⟩ := commits_onLiquidity.mp h
  exact .released released

/-! ### The finality service -/

theorem evaluateAndSettle_move (input : EvaluateInput) (r : FinalityResult) (s' : Store)
    (h : Commits (evaluateAndSettle digest input) s r s') :
    StoreMove digest read s (.evaluateAndSettle input) s' := by
  simp only [evaluateAndSettle, commits_get_bind] at h
  cases gathered : gatherEvidence s with
  | none =>
    rw [gathered] at h
    exact unmoved_of_pure_store h
  | some evidence =>
    simp only [gathered] at h
    obtain ⟨_, s₁, ran, h⟩ := commits_bind.mp h
    obtain ⟨c, inserted, rfl⟩ := commits_onCase.mp ran
    obtain rfl := commits_modify.mp inserted
    have recorded : ∀ audits, StoreMove digest read s (.evaluateAndSettle input)
        (s.withCase ((s.case.evaluated
          (input.row (evaluateFinality (toEvidence digest evidence)))).noted audits)) :=
      fun audits => .evaluated
    have unaudited := recorded []
    simp only [Case.noted, List.append_nil] at unaudited
    split at h
    · obtain ⟨-, rfl⟩ := commits_pure.mp h
      exact unaudited
    split at h
    · obtain ⟨_, s₂, ran, h⟩ := commits_bind.mp h
      obtain ⟨c, audited, rfl⟩ := commits_onCase.mp ran
      obtain rfl := commits_modify.mp audited
      obtain ⟨-, rfl⟩ := commits_pure.mp h
      exact recorded _
    · rename_i final
      obtain ⟨outcome, s₂, ran, h⟩ := commits_bind.mp h
      have same : s' = s₂ := by
        split at h <;> exact (commits_pure.mp h).2
      subst same
      obtain ⟨c, applied, rfl⟩ := commits_onCase.mp ran
      rcases applyTransition_moved applied with ⟨-, rfl⟩ | ⟨-, moved⟩
      · exact unaudited
      · exact .settled gathered (by simpa using final) moved

/-! ### The operator's exception service -/

theorem giveBack_case {ctx : OperatorContext} {input : OperatorResolveInput} {s' : Store}
    {r : Except FundingRefusal Compensation} (h : Commits (input.giveBack ctx) s r s') :
    s' = ⟨s.case, s'.liquidity⟩ := by
  unfold OperatorResolveInput.giveBack at h
  split at h
  · rw [(commits_pure.mp h).2]
  · exact compensateCancellation_case h

theorem resolveExceptionAsOperator_move (ctx : OperatorContext) (input : OperatorResolveInput)
    (r : Except OperatorRefusal OperatorDone) (s' : Store)
    (h : Commits (resolveExceptionAsOperator ctx input) s r s') :
    StoreMove digest read s (.resolveExceptionAsOperator ctx input) s' := by
  simp only [resolveExceptionAsOperator, requireCapability, bind_assoc, commits_require_bind,
    commits_get_bind] at h
  obtain ⟨-, -, h⟩ := h
  cases found : s.case.settlement with
  | none =>
    rw [found] at h
    exact unmoved_of_pure_store h
  | some settlement =>
    simp only [found] at h
    cases isOpen : openExceptionFor s.case with
    | none =>
      rw [isOpen] at h
      exact unmoved_of_pure_store h
    | some e =>
      simp only [isOpen] at h
      split at h
      · exact unmoved_of_pure_store h
      split at h
      · exact unmoved_of_pure_store h
      rename_i notFail notCancel
      have before : input.resolution ≠ .resume → settlement.pointOfNoReturnAt = none := by
        intro ends
        cases resolution : input.resolution with
        | resume => exact (ends resolution).elim
        | fail => simpa [resolution] using notFail
        | cancel => simpa [resolution] using notCancel
      obtain ⟨given, s₁, gave, h⟩ := commits_bind.mp h
      have same := giveBack_case gave
      cases given with
      | error refusal =>
        obtain ⟨-, rfl⟩ := commits_pure.mp h
        rw [same] at gave ⊢
        exact .operatorResolved found isOpen before gave (.inl rfl)
      | ok compensation =>
        simp only at h
        obtain ⟨outcome, s₂, ran, h⟩ := commits_bind.mp h
        obtain ⟨c, applied, rfl⟩ := commits_onCase.mp ran
        rw [same] at gave h applied
        rcases applyTransition_moved applied with ⟨⟨_, rfl⟩, rfl⟩ | ⟨⟨_, rfl⟩, moved⟩
        · obtain ⟨-, rfl⟩ := commits_pure.mp h
          exact .operatorResolved found isOpen before gave (.inl rfl)
        · simp only at h
          obtain ⟨_, s₃, ran, h⟩ := commits_bind.mp h
          obtain ⟨c₂, stamped, rfl⟩ := commits_onCase.mp ran
          obtain rfl := resolveExceptions_spec stamped
          obtain ⟨_, s₄, ran, h⟩ := commits_bind.mp h
          obtain ⟨c₃, audited, rfl⟩ := commits_onCase.mp ran
          obtain rfl := commits_modify.mp audited
          obtain ⟨-, rfl⟩ := commits_pure.mp h
          exact .operatorResolved found isOpen before gave
            (.inr ⟨compensation, c, input.audits ctx, rfl, moved, rfl⟩)

end InrSettle
