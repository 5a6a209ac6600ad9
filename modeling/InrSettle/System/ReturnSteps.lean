import InrSettle.System.Steps

/-!
# Operations on returns are moves

What the return services commit: a return opened against a settled payout, counted
under the cap with the repayment it asks for, or moved on, and nothing else of the
settlement's rows.
-/

namespace InrSettle

open Transaction CaseTables

variable {digest : AuthorizedInstruction → String} {read : Reads} {s : Store}

/-! ### Opening -/

/-- A transaction that wrote about the settlement's returns and left its other rows alone. -/
structure AboutReturns (c c' : Case) : Prop where
  settlement : c'.settlement = c.settlement
  attempts : c'.attempts = c.attempts
  exceptions : c'.exceptions = c.exceptions
  drawdowns : c'.drawdowns = c.drawdowns
  reconciliation : c'.reconciliation = c.reconciliation
  evaluations : c'.evaluations = c.evaluations
  audits : c.audits ⊆ c'.audits

/-- A return that was opened: against the attempt the settled settlement points at. -/
structure Opened (input : OpenReturnInput) (c : Case) (attemptId : String)
    (ret : SettlementReturnRow) : Prop where
  against : ret.payoutAttemptId = attemptId
  fresh : ∀ q ∈ c.returns, q.id ≠ ret.id
  amount : ret.amountMinor = input.amountMinor
  status : ret.status = .observed ∨ ret.status = .manualReview
  repayment : ret.repaymentId = none

theorem Opened.escalated {input : OpenReturnInput} {c : Case} {attemptId : String}
    {ret : SettlementReturnRow} (opened : Opened input c attemptId ret) :
    Opened input c attemptId (escalated ret) :=
  ⟨opened.against, opened.fresh, opened.amount, .inr rfl, opened.repayment⟩

/-- The settlement a return may be opened against, and what the caller stated of the return. -/
structure Opens (input : OpenReturnInput) (c : Case) (attemptId : String) : Prop where
  settled : (c.settlement.map (·.status)) = some .settled
  pointer : c.settlement.bind (·.payoutAttemptId) = some attemptId
  positive : 0 < input.amountMinor
  stated : isStated input.providerReturnReference = true

/-- What `openReturn` commits: a refusal that writes nothing, one more sighting of a return that is
there, or a new return. -/
theorem openReturn_spec {input : OpenReturnInput} {c c' : Case} {r : ReturnResult}
    (h : Commits (openReturn input) c r c') :
    ((∃ refusal, r = .error refusal) ∧ c' = c ∧ ∀ attemptId, ¬ Opens input c attemptId) ∨
      ∃ attemptId, Opens input c attemptId ∧ AboutReturns c c' ∧
        (c'.returns = c.returns ∧ (∃ ret ∈ c.returns, ret.payoutAttemptId = attemptId) ∨
          ∃ ret, Opened input c attemptId ret ∧ c'.returns = c.returns ++ [ret]) := by
  simp only [openReturn, commits_get_bind] at h
  cases found : c.settlement with
  | none =>
    simp only [readReturnSource, found, Option.map_none] at h
    obtain ⟨rfl, rfl⟩ := commits_pure.mp h
    refine .inl ⟨⟨_, rfl⟩, rfl, fun attemptId opens => ?_⟩
    simpa [found] using opens.settled
  | some settlement =>
    simp only [readReturnSource, found, Option.map_some] at h
    split at h
    · rename_i elsewhere
      obtain ⟨rfl, rfl⟩ := commits_pure.mp h
      refine .inl ⟨⟨_, rfl⟩, rfl, fun attemptId opens => elsewhere ?_⟩
      simpa [found] using opens.settled
    rename_i settled
    split at h
    · rename_i nowhere
      obtain ⟨rfl, rfl⟩ := commits_pure.mp h
      refine .inl ⟨⟨_, rfl⟩, rfl, fun attemptId opens => ?_⟩
      simpa [found, nowhere] using opens.pointer
    rename_i attemptId points
    split at h
    · rename_i nothing
      obtain ⟨rfl, rfl⟩ := commits_pure.mp h
      exact .inl ⟨⟨_, rfl⟩, rfl, fun _ opens => absurd opens.positive (not_lt.mpr nothing)⟩
    rename_i positive
    split at h
    · rename_i unstated
      obtain ⟨rfl, rfl⟩ := commits_pure.mp h
      refine .inl ⟨⟨_, rfl⟩, rfl, fun _ opens => ?_⟩
      simp [opens.stated] at unstated
    rename_i stated
    have opens : Opens input c attemptId :=
      ⟨by simpa [found] using settled, by simp [found, points], not_le.mp positive,
        by simpa using stated⟩
    refine .inr ⟨attemptId, opens, ?_⟩
    split at h
    · rename_i existing seen
      simp only [insertObservation, commits_modify_bind, commits_pure] at h
      obtain ⟨-, rfl⟩ := h
      refine ⟨⟨rfl, rfl, rfl, rfl, rfl, rfl, List.Subset.refl _⟩, .inl ⟨rfl, existing, ?_⟩⟩
      have same := List.find?_some seen
      simp only [Bool.and_eq_true, decide_eq_true_eq] at same
      exact ⟨List.mem_of_find?_eq_some seen, same.1⟩
    · simp only [insertReturn, insertObservation, emit, audit, bind_assoc, commits_get_bind,
        commits_require_bind, commits_modify_bind] at h
      obtain ⟨fresh, -, -, h⟩ := h
      generalize made : input.row attemptId _ _ = ret at fresh h
      have opened : Opened input c attemptId ret := by
        subst made
        exact ⟨rfl, fresh, rfl, .inl rfl, rfl⟩
      split at h
      · simp only [updateReturn, bind_assoc, commits_get_bind, commits_require_bind,
          commits_modify_bind, commits_pure] at h
        obtain ⟨-, -, rfl⟩ := h
        have same : input.returnId = ret.id := made ▸ rfl
        refine ⟨⟨rfl, rfl, rfl, rfl, rfl, rfl, by simp⟩, .inr ⟨escalated ret, opened.escalated, ?_⟩⟩
        simp only [same]
        exact Table.setWhere_append_fresh fresh
      · obtain ⟨-, rfl⟩ := commits_pure.mp h
        exact ⟨⟨rfl, rfl, rfl, rfl, rfl, rfl, by simp⟩, .inr ⟨ret, opened, rfl⟩⟩

theorem openReturn_about {input : OpenReturnInput} {c c' : Case} {r : ReturnResult}
    (h : Commits (openReturn input) c r c') : AboutReturns c c' := by
  rcases openReturn_spec h with ⟨-, rfl, -⟩ | ⟨_, -, about, -⟩
  · exact ⟨rfl, rfl, rfl, rfl, rfl, rfl, List.Subset.refl _⟩
  · exact about

theorem openReturn_move (input : OpenReturnInput) (r : ReturnResult) (c : Case)
    (h : Commits (openReturn input) s.case r c) :
    StoreMove digest read s (.openReturn input) (s.withCase c) := .returned h

/-! ### Events -/

/-- What `applyPayoutOutcome` commits of an applied return. -/
theorem applyPayoutOutcome_returned {status : Option SettlementStatus} {input : PayoutOutcomeInput}
    {done : PayoutDone} {c c' : Case} (is : input.outcome = .returned)
    (h : Commits (applyPayoutOutcome status input) c (.ok done) c') :
    ∃ a, latestAttempt c = some a ∧ input.trusted = true ∧
      (a.status = .credited ∧ AttemptAllowed c a.id input.set ∧
          c' = withAttempt c a.id input.set ∨
        a.status = .returned ∧ c' = c) := by
  have set : returned input = input.set := by
    funext b
    simp [PayoutOutcomeInput.set, is]
  unfold applyPayoutOutcome at h
  split at h
  · simp at h
  rename_i trusted
  simp only [commits_get_bind] at h
  cases latest : latestAttempt c with
  | none => simp [latest] at h
  | some a =>
    simp only [latest, is] at h
    refine ⟨a, rfl, by simpa using trusted, ?_⟩
    split at h
    · rename_i already
      exact .inr ⟨already, (commits_pure.mp h).2⟩
    split at h
    · simp at h
    rename_i paid
    obtain ⟨_, _, updated, h⟩ := commits_bind.mp h
    obtain ⟨allowed, rfl⟩ := updateAttempt_spec updated
    rw [set] at allowed h
    exact .inl ⟨not_not.mp paid, allowed, (commits_pure.mp h).2⟩

theorem applyEvent_move (settlementId : String) (input : PayoutOutcomeInput)
    (onReturn : Option OpenReturnInput) (r : PayoutResult) (c : Case)
    (h : Commits (applyEvent (read.settlement.map (·.status)) input onReturn) s.case r c) :
    StoreMove digest read s (.applyEvent settlementId input onReturn) (s.withCase c) := by
  unfold applyEvent at h
  obtain ⟨applied, c₁, done, h⟩ := commits_bind.mp h
  have alone : c = c₁ →
      StoreMove digest read s (.applyEvent settlementId input onReturn) (s.withCase c) := by
    rintro rfl
    exact applyPayoutOutcome_move input rfl applied c done
  split at h
  · split at h
    · rename_i done' opening is
      obtain ⟨result, c₂, opens, h⟩ := commits_bind.mp h
      obtain ⟨-, rfl⟩ := commits_pure.mp h
      obtain ⟨a, latest, trusted, result⟩ := applyPayoutOutcome_returned is done
      exact .eventReturned latest trusted is result opens
    · exact alone (commits_pure.mp h).2
  · exact alone (commits_pure.mp h).2

/-! ### Moving a return on -/

theorem findReturn_some {c : Case} {returnId : String} {current : SettlementReturnRow}
    (found : findReturn c returnId = some current) :
    current ∈ c.returns ∧ current.id = returnId :=
  ⟨List.mem_of_find?_eq_some found, by simpa using List.find?_some found⟩

theorem updateReturn_spec {returnId : String} {set : SettlementReturnRow → SettlementReturnRow}
    {c c' : Case} {r : PUnit} (h : Commits (updateReturn returnId set) c r c') :
    c' = withReturn c returnId set := by
  simp only [updateReturn, commits_get_bind, commits_require_bind, commits_modify] at h
  exact h.2

/-- The statuses a return is escalated from. -/
theorem escalate_source {status : ReturnStatus} {row : ReturnTransition}
    (evaluated : returnMachine.evaluate (some status) .escalate = some row) :
    status = .observed ∨ status = .confirmed := by
  cases status <;> first | exact .inl rfl | exact .inr rfl | cases evaluated

theorem escalateReturn_spec {input : EscalateInput} {c c' : Case} {r : ReviewResult}
    (h : Commits (escalateReturn input) c r c') :
    c' = c ∨ ∃ current audits, findReturn c input.returnId = some current ∧
      (current.status = .observed ∨ current.status = .confirmed) ∧
      c' = (withReturn c current.id escalated).noted audits := by
  simp only [escalateReturn, commits_get_bind] at h
  cases found : findReturn c input.returnId with
  | none =>
    rw [found] at h
    exact .inl (commits_pure.mp h).2
  | some current =>
    simp only [found] at h
    split at h
    · exact .inl (commits_pure.mp h).2
    rename_i row evaluated
    obtain ⟨_, c₁, updated, h⟩ := commits_bind.mp h
    obtain rfl := updateReturn_spec updated
    simp only [audit, commits_modify_bind, commits_pure] at h
    obtain ⟨-, rfl⟩ := h
    rw [← (findReturn_some found).2]
    exact .inr ⟨current, _, rfl, escalate_source evaluated, rfl⟩

theorem escalateReturn_move (input : EscalateInput) (r : ReviewResult) (c : Case)
    (h : Commits (escalateReturn input) s.case r c) :
    StoreMove digest read s (.escalateReturn input) (s.withCase c) := by
  rcases escalateReturn_spec h with rfl | ⟨current, audits, found, source, rfl⟩
  · exact .unmoved
  · exact .returnEscalated found source

theorem rejectReturn_move (input : RejectInput) (r : ReviewResult) (c : Case)
    (h : Commits (rejectReturn input) s.case r c) :
    StoreMove digest read s (.rejectReturn input) (s.withCase c) := by
  simp only [rejectReturn, commits_get_bind] at h
  cases found : findReturn s.case input.returnId with
  | none =>
    rw [found] at h
    exact unmoved_of_pure h
  | some current =>
    simp only [found] at h
    split at h
    · exact unmoved_of_pure h
    rename_i row evaluated
    split at h
    · exact unmoved_of_pure h
    obtain ⟨_, c₁, updated, h⟩ := commits_bind.mp h
    obtain rfl := updateReturn_spec updated
    simp only [emit, audit, commits_modify_bind, commits_pure] at h
    obtain ⟨-, rfl⟩ := h
    refine .returnRejected found ?_
    cases status : current.status <;> rw [status] at evaluated <;>
      first | exact .inl rfl | exact .inr rfl | cases evaluated

theorem markReturnRepaid_move (input : RepaidInput) (r : ReviewResult) (s' : Store)
    (h : Commits (markReturnRepaid input) s r s') :
    StoreMove digest read s (.markReturnRepaid input) s' := by
  simp only [markReturnRepaid, commits_get_bind] at h
  cases found : findReturn s.case input.returnId with
  | none =>
    rw [found] at h
    exact unmoved_of_pure_store h
  | some current =>
    simp only [found] at h
    split at h
    · exact unmoved_of_pure_store h
    split at h
    · exact unmoved_of_pure_store h
    rename_i row evaluated
    split at h
    · exact unmoved_of_pure_store h
    rename_i repaymentId requested
    split at h
    · exact unmoved_of_pure_store h
    rename_i paid
    obtain ⟨q, hq, status⟩ := Option.map_eq_some_iff.mp (not_not.mp paid)
    obtain ⟨_, s₁, ran, h⟩ := commits_bind.mp h
    obtain ⟨c, updated, rfl⟩ := commits_onCase.mp ran
    obtain rfl := updateReturn_spec updated
    obtain ⟨_, s₂, ran, h⟩ := commits_bind.mp h
    obtain ⟨c, told, rfl⟩ := commits_onCase.mp ran
    obtain rfl := commits_modify.mp told
    obtain ⟨_, s₃, ran, h⟩ := commits_bind.mp h
    obtain ⟨c, noted, rfl⟩ := commits_onCase.mp ran
    obtain rfl := commits_modify.mp noted
    obtain ⟨-, rfl⟩ := commits_pure.mp h
    refine .returnRepaid found ?_ requested
      ⟨q, List.mem_of_find?_eq_some hq, by simpa using List.find?_some hq, status⟩
    cases status : current.status <;> rw [status] at evaluated <;> first | rfl | cases evaluated

/-! ### Confirming -/

/-- After the cap held: nothing more, or the repayment and what is said of it. -/
theorem requestReturnRepayment_spec {input : ConfirmInput} {current : SettlementReturnRow}
    {attempt : PayoutAttemptRow} {transition : ReturnTransitionId} {s s' : Store}
    {r : ReviewResult}
    (h : Commits (requestReturnRepayment input current attempt transition) s r s') :
    s' = s ∨ ∃ drawdown done l events audits, confirmedDrawdown s.case = some drawdown ∧
      Commits (requestRepayment (input.repay drawdown (attempt.creditedMinor.getD 0) current))
        s.liquidity (.ok done) l ∧
      s' = ⟨(withReturn s.case current.id (repaying input.repaymentId)).recorded events audits,
        l⟩ := by
  simp only [requestReturnRepayment, commits_get_bind] at h
  cases drawn : confirmedDrawdown s.case with
  | none =>
    rw [drawn] at h
    exact .inl (commits_pure.mp h).2
  | some drawdown =>
    simp only [drawn] at h
    split at h
    · exact .inl (commits_pure.mp h).2
    obtain ⟨requested, s₁, ran, h⟩ := commits_bind.mp h
    obtain ⟨l, asked, rfl⟩ := commits_onLiquidity.mp ran
    cases requested with
    | error refusal =>
      rcases requestRepayment_spec asked with ⟨_, -, rfl⟩ | ⟨is, -⟩
      · exact .inl (commits_pure.mp h).2
      · cases is
    | ok done =>
      obtain ⟨_, s₂, ran, h⟩ := commits_bind.mp h
      obtain ⟨c, updated, rfl⟩ := commits_onCase.mp ran
      obtain rfl := updateReturn_spec updated
      refine .inr ⟨drawdown, done, l, ?_⟩
      split at h
      · obtain ⟨-, rfl⟩ := commits_pure.mp h
        exact ⟨[], [], rfl, asked, by simp [Case.recorded]⟩
      · obtain ⟨_, s₃, ran, h⟩ := commits_bind.mp h
        obtain ⟨c, told, rfl⟩ := commits_onCase.mp ran
        obtain rfl := commits_modify.mp told
        obtain ⟨_, s₄, ran, h⟩ := commits_bind.mp h
        obtain ⟨c, noted, rfl⟩ := commits_onCase.mp ran
        obtain rfl := commits_modify.mp noted
        obtain ⟨-, rfl⟩ := commits_pure.mp h
        exact ⟨_, _, rfl, asked, rfl⟩

/-- The statuses a return is confirmed from. -/
theorem upheld_source {status : ReturnStatus} {row : ReturnTransition}
    (evaluated : returnMachine.evaluate (some status)
      (if status = .manualReview then .resolveUpheld else .upheld) = some row) :
    status = .observed ∨ status = .manualReview := by
  cases status <;> first | exact .inl rfl | exact .inr rfl | cases evaluated

theorem confirmReturn_move (input : ConfirmInput) (r : ReviewResult) (s' : Store)
    (h : Commits (confirmReturn input) s r s') :
    StoreMove digest read s (.confirmReturn input) s' := by
  simp only [confirmReturn, commits_get_bind] at h
  cases found : findReturn s.case input.returnId with
  | none =>
    rw [found] at h
    exact unmoved_of_pure_store h
  | some current =>
    simp only [found] at h
    split at h
    · exact unmoved_of_pure_store h
    rename_i uncounted
    split at h
    · exact unmoved_of_pure_store h
    rename_i reported source upheld
    split at h
    · exact unmoved_of_pure_store h
    rename_i row evaluated
    split at h
    · exact unmoved_of_pure_store h
    split at h
    · exact unmoved_of_pure_store h
    rename_i attempt against
    split at h
    · obtain ⟨answered, s₁, ran, h⟩ := commits_bind.mp h
      obtain ⟨c, escalating, rfl⟩ := commits_onCase.mp ran
      obtain ⟨-, rfl⟩ := commits_pure.mp h
      rcases escalateReturn_spec escalating with rfl | ⟨again, audits, found', source, rfl⟩
      · exact .unmoved
      · obtain rfl := Option.some.inj (found.symm.trans found')
        refine .returnCapped found (source.resolve_right fun is => ?_)
        simp [is, countsTowardCap] at uncounted
    rename_i total covered
    obtain ⟨_, s₁, ran, h⟩ := commits_bind.mp h
    obtain ⟨c, totalling, rfl⟩ := commits_onCase.mp ran
    obtain ⟨allowed, rfl⟩ := updateAttempt_spec totalling
    obtain ⟨_, s₂, ran, h⟩ := commits_bind.mp h
    obtain ⟨c, updated, rfl⟩ := commits_onCase.mp ran
    obtain rfl := updateReturn_spec updated
    obtain ⟨_, s₃, ran, h⟩ := commits_bind.mp h
    obtain ⟨c, observed, rfl⟩ := commits_onCase.mp ran
    obtain rfl := commits_modify.mp observed
    have counts : Counts s.case input current attempt total
        { returnId := current.id, source := source, observedAmountMinor := reported,
          observedAmountCurrency := reported.map fun _ => current.amountCurrency,
          openedTheReturn := false } :=
      ⟨found, upheld_source evaluated, against, covered, allowed, source, upheld⟩
    rcases requestReturnRepayment_spec h with rfl | ⟨drawdown, done, l, events, audits, drawn,
      asked, rfl⟩
    · exact .returnCounted counts
    · exact .returnConfirmed counts drawn asked

end InrSettle
