import InrSettle.System.Refusals

/-!
# A refused answer to a drawdown

The drawdown is written first, its reservation second, and the settlement is asked last. An
answer lands if the settlement still waits for it and the reservation can follow; else what was
written before the refusal stays.
-/

namespace InrSettle

open Transaction CaseTables FundingTables Run

/-- What an answer to a drawdown writes, events and audit rows apart. -/
def Store.drawdownRows (s : Store) :
    List DrawdownRow × Option SettlementRow × List ReservationRow × List FacilityRow ×
      List LedgerEntry :=
  (s.case.drawdowns, s.case.settlement, s.liquidity.reservations, s.liquidity.facilities,
    s.liquidity.ledger)

/-- The row of the drawdown machine an answer takes, once every check before the first write has
passed. -/
def ResolveDrawdownInput.move (input : ResolveDrawdownInput) (c : Case) :
    Option (DrawdownRow × DrawdownTransition) :=
  (latestDrawdown c).bind fun d =>
    if (input.trigger.isConfirming || input.trigger.isFailing) && !input.providerEventVerified then
      none
    else match (if input.trigger.isConfirming then mismatch d input.evidence else none) with
    | some _ => none
    | none =>
      if input.trigger.isConfirming ∧ d.status = .confirmed then none
      else (drawdownMachine.evaluate (some d.status) input.trigger.trigger).map (d, ·)

/-- Whether the settlement's reservation can follow the drawdown. -/
def reservationFollows (l : Liquidity) (settlementId : String) : DrawdownStatus → Bool
  | .confirmed => (lockReservation l settlementId).any fun r => r.status == .active
  | .failed => (lockReservation l settlementId).any fun r =>
      r.status == .active && (facilityOf l r.facilityId).isSome ||
        r.status == .released || r.status == .expired
  | _ => true

/-- The answer is refused before anything is written, or the settlement waits for it and the
reservation can follow. -/
def ResolveDrawdownInput.lands (input : ResolveDrawdownInput) (s : Store) : Bool :=
  (input.move s.case).all fun moved =>
    s.case.isIn .drawdownRequested &&
      reservationFollows s.liquidity input.settlementId moved.2.target

/-! ### The reservation's side -/

/-- A reservation that is gone is released again without a move. -/
theorem evaluateReservationTransition_gone {status : ReservationStatus}
    (gone : status = .released ∨ status = .expired) (expired : Bool) :
    evaluateReservationTransition (some status) (if expired then .expire else .release) =
      .invalidTransition := by
  rcases gone with rfl | rfl <;> cases expired <;> rfl

theorem releaseReservation_refused {input : ReleaseInput} {l l' : Liquidity}
    {r : Except ReservationRefusal ReservationDone}
    (h : Commits (releaseReservation input) l r l') :
    reservationFollows l input.settlementId .failed = true ∧ (∃ done, r = .ok done) ∨
      reservationFollows l input.settlementId .failed = false ∧ (∃ refusal, r = .error refusal) ∧
        l' = l := by
  rcases releaseReservation_spec h with
    ⟨same, ⟨refusal, rfl⟩, absent⟩ | ⟨-, res, found, rfl, gone⟩ |
      ⟨res, row, events, found, active, -, -, rfl, allowed, -⟩
  · refine .inr ⟨?_, ⟨refusal, rfl⟩, same⟩
    simp only [releaseReservation, commits_get_bind] at h
    cases found : lockReservation l input.settlementId with
    | none => simp [reservationFollows, found]
    | some res =>
      simp only [found] at h
      by_cases gone : res.status = .released ∨ res.status = .expired
      · simp only [evaluateReservationTransition_gone gone, gone, if_true, commits_pure,
          reduceCtorEq, false_and] at h
      · obtain ⟨notReleased, notExpired⟩ := not_or.mp gone
        by_cases active : res.status = .active
        · simp [reservationFollows, found, active, absent res found active]
        · simp [reservationFollows, found, active, notReleased, notExpired]
  · exact .inl ⟨by rcases gone with is | is <;> simp [reservationFollows, found, is], _, rfl⟩
  · obtain ⟨f, mem, is, -⟩ := allowed.references
    have known : (facilityOf l res.facilityId).isSome = true :=
      List.find?_isSome.mpr ⟨f, mem, decide_eq_true is⟩
    exact .inl ⟨by simp [reservationFollows, found, active, known], _, rfl⟩

theorem consumeReservation_refused {input : ConsumeInput} {l l' : Liquidity}
    {r : Except ReservationRefusal ReservationDone}
    (h : Commits (consumeReservation input) l r l') :
    reservationFollows l input.settlementId .confirmed = true ∧ (∃ done, r = .ok done) ∨
      reservationFollows l input.settlementId .confirmed = false ∧
        (∃ refusal, r = .error refusal) ∧ l' = l := by
  rcases consumeReservation_spec h with
    ⟨same, ⟨refusal, rfl⟩, inactive⟩ | ⟨res, found, active, rfl, -⟩
  · refine .inr ⟨?_, ⟨refusal, rfl⟩, same⟩
    cases found : lockReservation l input.settlementId with
    | none => simp [reservationFollows, found]
    | some res => simp [reservationFollows, found, inactive res found]
  · exact .inl ⟨by simp [reservationFollows, found, active], _, rfl⟩

theorem followReservation_refused {input : ResolveDrawdownInput} {target : DrawdownStatus}
    {l l' : Liquidity} {r : Except ReservationRefusal PUnit}
    (h : Commits (followReservation input target) l r l') :
    reservationFollows l input.settlementId target = true ∧ (∃ done, r = .ok done) ∨
      reservationFollows l input.settlementId target = false ∧ (∃ refusal, r = .error refusal) ∧
        l' = l := by
  cases target with
  | confirmed =>
    obtain ⟨answer, l₁, consumed, h⟩ := commits_bind.mp h
    obtain ⟨rfl, rfl⟩ := commits_pure.mp h
    rcases consumeReservation_refused consumed with ⟨follows, done, rfl⟩ | ⟨stays, ⟨_, rfl⟩, same⟩
    · exact .inl ⟨follows, _, rfl⟩
    · exact .inr ⟨stays, ⟨_, rfl⟩, same⟩
  | failed =>
    obtain ⟨answer, l₁, released, h⟩ := commits_bind.mp h
    obtain ⟨rfl, rfl⟩ := commits_pure.mp h
    rcases releaseReservation_refused released with ⟨follows, done, rfl⟩ | ⟨stays, ⟨_, rfl⟩, same⟩
    · exact .inl ⟨follows, _, rfl⟩
    · exact .inr ⟨stays, ⟨_, rfl⟩, same⟩
  | requested => exact .inl ⟨rfl, _, (commits_pure.mp h).1⟩
  | unknown => exact .inl ⟨rfl, _, (commits_pure.mp h).1⟩

/-! ### The drawdown's and the settlement's side -/

/-- Every row of the machine a drawdown takes leaves its status. -/
theorem drawdown_moves : ∀ status trigger row,
    drawdownMachine.evaluate (some status) (DrawdownResolution.trigger trigger) = some row →
      row.target ≠ status ∧ (row.target = .confirmed → trigger.isConfirming = true) ∧
        (row.target = .failed → trigger.isFailing = true) := by
  intro status trigger
  cases status <;> cases trigger <;> decide

theorem drawdownTransition_answers {input : ResolveDrawdownInput} {target : DrawdownStatus}
    (verified : target = .confirmed ∨ target = .failed → input.providerEventVerified = true) :
    ∃ t, (drawdownTransition input target).Answers t ∧ t.source = [.drawdownRequested] := by
  have timeout : ∃ t, (drawdownTransition input .unknown).Answers t ∧
      t.source = [.drawdownRequested] :=
    ⟨_, ⟨rfl, by decide, rfl, rfl, by simp [drawdownTransition], by simp [drawdownTransition]⟩,
      rfl⟩
  cases target with
  | confirmed =>
    refine ⟨_, ⟨rfl, by decide, rfl, rfl, ?_, ?_⟩, rfl⟩
    · simp [drawdownTransition, verified (.inl rfl)]
    · simp [drawdownTransition, Transition.permittedCompanions]
  | failed =>
    refine ⟨_, ⟨rfl, by decide, rfl, rfl, ?_, ?_⟩, rfl⟩
    · simp [drawdownTransition, verified (.inr rfl)]
    · simp [drawdownTransition, Transition.permittedCompanions]
  | requested => exact timeout
  | unknown => exact timeout

/-- What an answer does: nothing, or it moves the drawdown and what it can of the reservation, and
the settlement with them if it lands. -/
theorem resolveDrawdown_does {input : ResolveDrawdownInput} {s s' : Store} {r : FundingResult}
    (h : Commits (resolveDrawdown input) s r s') :
    input.move s.case = none ∧ s' = s ∨
      ∃ d row followed, input.move s.case = some (d, row) ∧ latestDrawdown s.case = some d ∧
        drawdownMachine.evaluate (some d.status) input.trigger.trigger = some row ∧
        Commits (followReservation input row.target) s.liquidity followed s'.liquidity ∧
        (input.lands s = true ∧ (∃ done, r = .ok done) ∧
            Moved (drawdownTransition input row.target) (withDrawdown s.case d.id row.target
              input.now input.providerReference) s'.case ∨
          input.lands s = false ∧ (∃ refusal, r = .error refusal) ∧
            s'.case = withDrawdown s.case d.id row.target input.now input.providerReference) := by
  simp only [resolveDrawdown, commits_get_bind] at h
  cases latest : latestDrawdown s.case with
  | none =>
    simp only [latest] at h
    exact .inl ⟨by simp [ResolveDrawdownInput.move, latest], (commits_pure.mp h).2⟩
  | some d =>
    simp only [latest] at h
    split at h
    · rename_i unverified
      refine .inl ⟨?_, (commits_pure.mp h).2⟩
      simp only [ResolveDrawdownInput.move, latest, Option.bind_some, unverified, if_true]
    rename_i verified
    split at h
    · rename_i refusal mismatched
      refine .inl ⟨?_, (commits_pure.mp h).2⟩
      simp only [ResolveDrawdownInput.move, latest, Option.bind_some, verified, mismatched,
        Bool.false_eq_true, if_false]
    rename_i matched
    split at h
    · rename_i replayed
      refine .inl ⟨?_, (commits_pure.mp h).2⟩
      simp only [ResolveDrawdownInput.move, latest, Option.bind_some, verified, matched,
        Bool.false_eq_true, if_false, if_pos replayed]
    rename_i unanswered
    split at h
    · rename_i noRow
      refine .inl ⟨?_, (commits_pure.mp h).2⟩
      simp only [ResolveDrawdownInput.move, latest, Option.bind_some, verified, matched,
        unanswered, noRow, Bool.false_eq_true, if_false, Option.map_none]
    rename_i row evaluated
    have move : input.move s.case = some (d, row) := by
      simp only [ResolveDrawdownInput.move, latest, Option.bind_some, verified, matched,
        unanswered, evaluated, Bool.false_eq_true, if_false, Option.map_some]
    obtain ⟨-, confirms, fails⟩ := drawdown_moves _ _ _ evaluated
    obtain ⟨t, answers, source⟩ := @drawdownTransition_answers input row.target fun is => by
      rcases is with is | is
      · simpa [confirms is] using verified
      · simpa [fails is] using verified
    obtain ⟨_, s₁, ran, h⟩ := commits_bind.mp h
    obtain ⟨c, updated, rfl⟩ := commits_onCase.mp ran
    obtain rfl := updateDrawdown_spec updated
    obtain ⟨followed, s₂, ran, h⟩ := commits_bind.mp h
    obtain ⟨l, following, rfl⟩ := commits_onLiquidity.mp ran
    refine .inr ⟨d, row, followed, move, rfl, evaluated, ?_⟩
    rcases followReservation_refused following with
      ⟨follows, done, rfl⟩ | ⟨stays, ⟨refusal, rfl⟩, -⟩
    · simp only at h
      obtain ⟨outcome, s₃, ran, h⟩ := commits_bind.mp h
      obtain ⟨c, applied, rfl⟩ := commits_onCase.mp ran
      have status := answers.commits applied
      rw [source, isIn_source] at status
      have inTable : (withDrawdown s.case d.id row.target input.now
          input.providerReference).isIn .drawdownRequested = s.case.isIn .drawdownRequested := rfl
      rw [inTable] at status
      rcases status with ⟨waits, ⟨done, rfl⟩, moved⟩ | ⟨elsewhere, ⟨failure, rfl⟩, rfl⟩
      · obtain ⟨rfl, rfl⟩ := commits_pure.mp h
        exact ⟨following, .inl ⟨by simp [ResolveDrawdownInput.lands, move, waits, follows],
          ⟨_, rfl⟩, moved⟩⟩
      · obtain ⟨rfl, rfl⟩ := commits_pure.mp h
        exact ⟨following, .inr ⟨by simp [ResolveDrawdownInput.lands, move, elsewhere], ⟨_, rfl⟩,
          rfl⟩⟩
    · obtain ⟨rfl, rfl⟩ := commits_pure.mp h
      exact ⟨following, .inr ⟨by simp [ResolveDrawdownInput.lands, move, stays], ⟨_, rfl⟩, rfl⟩⟩

/-- What an answer does to the drawdown and, if it lands, the settlement. -/
theorem resolveDrawdown_commits {input : ResolveDrawdownInput} {s s' : Store} {r : FundingResult}
    (h : Commits (resolveDrawdown input) s r s') :
    input.move s.case = none ∧ s' = s ∨
      ∃ d row, input.move s.case = some (d, row) ∧ d ∈ s.case.drawdowns ∧ row.target ≠ d.status ∧
        s'.case.drawdowns = (withDrawdown s.case d.id row.target input.now
          input.providerReference).drawdowns ∧
        (input.lands s = true ∧ (∃ done, r = .ok done) ∧
            (∃ c, Moved (drawdownTransition input row.target) c s'.case) ∨
          input.lands s = false ∧ (∃ refusal, r = .error refusal)) := by
  rcases resolveDrawdown_does h with ⟨none, same⟩ |
    ⟨d, row, _, move, latest, evaluated, -, result⟩
  · exact .inl ⟨none, same⟩
  refine .inr ⟨d, row, move, (Table.latestBy_some latest).1, (drawdown_moves _ _ _ evaluated).1, ?_⟩
  rcases result with ⟨lands, done, moved⟩ | ⟨refused, refusal, stays⟩
  · refine ⟨?_, .inl ⟨lands, done, _, moved⟩⟩
    obtain ⟨_, _, _, -, -, is⟩ := moved
    rw [is]
    rfl
  · exact ⟨congrArg Case.drawdowns stays, .inr ⟨refused, refusal⟩⟩

theorem resolveDrawdown_refusals (s : Store) (input : ResolveDrawdownInput) :
    RefusalKeepsExactly Store.drawdownRows (resolveDrawdown input) s (input.lands s = true) := by
  refine refusalKeepsExactly_of_commits fun answer s' h => ?_
  rcases resolveDrawdown_commits h with
    ⟨move, rfl⟩ | ⟨d, row, -, mem, leaves, drawdowns, ⟨lands, done, -⟩ | ⟨refused, refusal⟩⟩
  · exact .inl ⟨by simp [ResolveDrawdownInput.lands, move], .inl rfl⟩
  · exact .inl ⟨lands, .inr done⟩
  · refine .inr ⟨by simp [refused], refusal, fun same => ?_⟩
    have kept : s'.case.drawdowns = s.case.drawdowns := congrArg Prod.fst same
    rw [drawdowns] at kept
    refine Table.setWhere_ne mem (decide_eq_true rfl) (fun fixed => ?_) kept
    exact leaves (congrArg DrawdownRow.status fixed)

/-- In every state a run reaches, a refused answer to a drawdown leaves the rows as they were
exactly if it is refused before anything is written, or the settlement waits for it and the
reservation can follow. -/
theorem resolveDrawdown_atomic (digest : AuthorizedInstruction → String) (ops : List WorldOp)
    (settlementId : String) (input : ResolveDrawdownInput) :
    RefusalKeepsExactly Store.drawdownRows (resolveDrawdown input)
      ((run (World.step digest) World.empty ops).now.store settlementId)
      (input.lands ((run (World.step digest) World.empty ops).now.store settlementId) = true) :=
  resolveDrawdown_refusals _ input

/-- The SLA of a drawdown elapses, and the provider then says that it was funded: the answer is
refused by the settlement in EXCEPTION, with the drawdown CONFIRMED and its reservation CONSUMED. -/
theorem confirmation_half_applied :
    ¬RefusalKeeps Store.drawdownRows
      (resolveDrawdown {
        settlementId := "s", trigger := .pullResolvedConfirmed, actor := worker
        providerEventVerified := true, evidence := some ⟨1000, "INR", some "facility"⟩
        transferId := "t2", now := 6 })
      (reached (authorizing ++ capacity ++ [drawing, resolving .slaElapsed 5])) :=
  not_refusalKeeps (.transition (.invalidTransition .exception .drawdownConfirmed))
    (by decide +kernel) (by decide +kernel)

end InrSettle
