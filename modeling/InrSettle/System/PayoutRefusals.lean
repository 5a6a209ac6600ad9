import InrSettle.System.Refusals
import InrSettle.System.Transitions

/-!
# A refused outcome of a payout

An outcome, and the SLA sweep, write the attempt first and ask the settlement second. The outcome
lands if the settlement still waits for it, or is known to be in EXCEPTION and is not asked; the
sweep always asks.
-/

namespace InrSettle

open Transaction CaseTables Run

/-- What an outcome of a payout writes. -/
def Case.payoutRows (c : Case) : List PayoutAttemptRow × Option SettlementRow × List EventRow :=
  (c.attempts, c.settlement, c.events)

/-- The outcome moves the attempt and asks the settlement: every check before the first write has
passed. -/
def PayoutOutcomeInput.moves (input : PayoutOutcomeInput) (c : Case) : Bool :=
  input.trusted && (latestAttempt c).any fun attempt => attempt.status.isInFlight &&
    (input.outcome == .credited && isWellFormedUtr input.utr || input.outcome == .rejected)

/-- The outcome asks nothing of the settlement, or was read to find it in EXCEPTION, or finds it
waiting. -/
def PayoutOutcomeInput.lands (input : PayoutOutcomeInput)
    (settlementStatus : Option SettlementStatus) (c : Case) : Bool :=
  !input.moves c || settlementStatus == some .exception || c.isIn .payoutSubmitted

/-- The latest attempt waits for the provider past its SLA. -/
def SweepInput.sweeps (input : SweepInput) (c : Case) : Bool :=
  (latestAttempt c).any fun attempt =>
    (attempt.status == .submitted || attempt.status == .accepted) &&
      slaElapsed attempt.dispatchedAt attempt.slaSeconds input.now

/-- There is nothing to sweep, or the settlement still waits for the payout. -/
def SweepInput.lands (input : SweepInput) (c : Case) : Bool :=
  !input.sweeps c || c.isIn .payoutSubmitted

/-! ### Outcomes -/

theorem outcomeTransition_answers (input : PayoutOutcomeInput) (attempt : PayoutAttemptRow) :
    ∃ t, (outcomeTransition input attempt).Answers t ∧ t.source = [.payoutSubmitted] := by
  by_cases credited : input.outcome = .credited
  · rw [outcomeTransition, if_pos credited]
    have guards : ∀ g ∈ [Guard.trustedProviderEvent, .utrPresentAndWellFormed],
        [(Guard.trustedProviderEvent, true), (.utrPresentAndWellFormed, true)].lookup g =
          some true := by decide
    exact ⟨_, ⟨rfl, by decide, rfl, rfl, guards, by simp⟩, rfl⟩
  · rw [outcomeTransition, if_neg credited]
    exact ⟨_, ⟨rfl, by decide, rfl, rfl, by simp, by simp⟩, rfl⟩

theorem moveAttempt_refused {settlementStatus : Option SettlementStatus}
    {input : PayoutOutcomeInput} {attempt : PayoutAttemptRow}
    {set : PayoutAttemptRow → PayoutAttemptRow} {done : PayoutDone} {c c' : Case}
    {r : PayoutResult}
    (h : Commits (moveAttempt settlementStatus input attempt set done) c r c') :
    (settlementStatus == some .exception || c.isIn .payoutSubmitted) = true ∧
        (∃ done, r = .ok done) ∧
        (settlementStatus ≠ some .exception →
          ∃ c₁, Moved (outcomeTransition input attempt) c₁ c') ∨
      (settlementStatus == some .exception || c.isIn .payoutSubmitted) = false ∧
        (∃ failure, r = .error failure) ∧ c' = withAttempt c attempt.id set := by
  obtain ⟨_, c₁, updated, h⟩ := commits_bind.mp h
  obtain ⟨-, rfl⟩ := updateAttempt_spec updated
  split at h
  · rename_i unasked
    exact .inl ⟨by simp [unasked], ⟨_, (commits_pure.mp h).1⟩, fun asked => (asked unasked).elim⟩
  rename_i asked
  obtain ⟨outcome, c₂, applied, h⟩ := commits_bind.mp h
  obtain ⟨t, answers, source⟩ := outcomeTransition_answers input attempt
  have status := answers.commits applied
  rw [source, isIn_source] at status
  have inTable : (withAttempt c attempt.id set).isIn .payoutSubmitted = c.isIn .payoutSubmitted :=
    rfl
  rw [inTable] at status
  rcases status with ⟨waits, ⟨done, rfl⟩, moved⟩ | ⟨elsewhere, ⟨failure, rfl⟩, rfl⟩
  · obtain ⟨rfl, rfl⟩ := commits_pure.mp h
    exact .inl ⟨by simp [waits], ⟨_, rfl⟩, fun _ => ⟨_, moved⟩⟩
  · obtain ⟨rfl, rfl⟩ := commits_pure.mp h
    exact .inr ⟨by simp [asked, elsewhere], ⟨_, rfl⟩, rfl⟩

/-- What an outcome does: no refusal of it changes anything, or it moves the attempt and lands, or
it is refused with the attempt moved. -/
theorem applyPayoutOutcome_commits {settlementStatus : Option SettlementStatus}
    {input : PayoutOutcomeInput} {c c' : Case} {r : PayoutResult}
    (h : Commits (applyPayoutOutcome settlementStatus input) c r c') :
    input.moves c = false ∧ (c' = c ∨ ∃ done, r = .ok done) ∨
      input.lands settlementStatus c = true ∧ (∃ done, r = .ok done) ∧
        (settlementStatus ≠ some .exception →
          ∃ attempt c₁, Moved (outcomeTransition input attempt) c₁ c') ∨
      input.lands settlementStatus c = false ∧ (∃ failure, r = .error failure) ∧
        ∃ attempt ∈ c.attempts, ∃ set : PayoutAttemptRow → PayoutAttemptRow,
          (set attempt).status ≠ attempt.status ∧ c' = withAttempt c attempt.id set := by
  unfold applyPayoutOutcome at h
  split at h
  · rename_i untrusted
    exact .inl ⟨by simp [PayoutOutcomeInput.moves, (by simpa using untrusted : input.trusted = false)],
      .inl (commits_pure.mp h).2⟩
  rename_i trusted
  have trusted : input.trusted = true := by simpa using trusted
  simp only [commits_get_bind] at h
  cases latest : latestAttempt c with
  | none =>
    simp only [latest] at h
    exact .inl ⟨by simp [PayoutOutcomeInput.moves, latest], .inl (commits_pure.mp h).2⟩
  | some attempt =>
    simp only [latest] at h
    have mem : attempt ∈ c.attempts := (Table.latestBy_some latest).1
    -- An outcome that moves an attempt in flight takes it to a status no attempt in flight has.
    have asked {set : PayoutAttemptRow → PayoutAttemptRow} {done : PayoutDone}
        (moves : input.moves c = true) (leaves : (set attempt).status.isInFlight = false)
        (inFlight : attempt.status.isInFlight = true)
        (h : Commits (moveAttempt settlementStatus input attempt set done) c r c') :
        input.lands settlementStatus c = true ∧ (∃ done, r = .ok done) ∧
            (settlementStatus ≠ some .exception →
              ∃ attempt c₁, Moved (outcomeTransition input attempt) c₁ c') ∨
          input.lands settlementStatus c = false ∧ (∃ failure, r = .error failure) ∧
            ∃ attempt ∈ c.attempts, ∃ set : PayoutAttemptRow → PayoutAttemptRow,
              (set attempt).status ≠ attempt.status ∧ c' = withAttempt c attempt.id set := by
      rcases moveAttempt_refused h with ⟨waits, done, moved⟩ | ⟨elsewhere, failure, is⟩
      · exact .inl ⟨by rw [PayoutOutcomeInput.lands, Bool.or_assoc, waits, Bool.or_true], done,
          fun asked => ⟨attempt, moved asked⟩⟩
      · refine .inr ⟨by rw [PayoutOutcomeInput.lands, Bool.or_assoc, elsewhere, moves]; rfl, failure,
          attempt, mem, set, fun same => ?_, is⟩
        rw [same, inFlight] at leaves
        cases leaves
    split at h
    case h_1 is =>
      split at h
      · rename_i malformed
        refine .inl ⟨?_, .inl (commits_pure.mp h).2⟩
        simp [PayoutOutcomeInput.moves, latest, is,
          (by simpa using malformed : isWellFormedUtr input.utr = false)]
      rename_i wellFormed
      split at h
      · rename_i before
        refine .inl ⟨?_, .inl (commits_pure.mp h).2⟩
        have landed : attempt.status.isInFlight = false := by rw [before]; rfl
        simp [PayoutOutcomeInput.moves, latest, landed]
      split at h
      · rename_i landed
        refine .inl ⟨?_, .inl (commits_pure.mp h).2⟩
        simp [PayoutOutcomeInput.moves, latest,
          (by simpa using landed : attempt.status.isInFlight = false)]
      rename_i inFlight
      have inFlight : attempt.status.isInFlight = true := by simpa using inFlight
      have wellFormed : isWellFormedUtr input.utr = true := by simpa using wellFormed
      exact .inr (asked (by simp [PayoutOutcomeInput.moves, latest, trusted, inFlight, is, wellFormed])
        rfl inFlight h)
    case h_2 is =>
      split at h
      · rename_i before
        refine .inl ⟨?_, .inl (commits_pure.mp h).2⟩
        have landed : attempt.status.isInFlight = false := by rw [before]; rfl
        simp [PayoutOutcomeInput.moves, latest, landed]
      split at h
      · rename_i landed
        refine .inl ⟨?_, .inl (commits_pure.mp h).2⟩
        simp [PayoutOutcomeInput.moves, latest,
          (by simpa using landed : attempt.status.isInFlight = false)]
      rename_i inFlight
      have inFlight : attempt.status.isInFlight = true := by simpa using inFlight
      exact .inr (asked (by simp [PayoutOutcomeInput.moves, latest, trusted, inFlight, is])
        rfl inFlight h)
    case h_3 is =>
      have unmoved : input.moves c = false := by simp [PayoutOutcomeInput.moves, latest, is]
      split at h
      · obtain ⟨_, _, -, h⟩ := commits_bind.mp h
        exact .inl ⟨unmoved, .inr ⟨_, (commits_pure.mp h).1⟩⟩
      · exact .inl ⟨unmoved, .inl (commits_pure.mp h).2⟩
    case h_4 is =>
      have unmoved : input.moves c = false := by simp [PayoutOutcomeInput.moves, latest, is]
      split at h
      · exact .inl ⟨unmoved, .inl (commits_pure.mp h).2⟩
      split at h
      · exact .inl ⟨unmoved, .inl (commits_pure.mp h).2⟩
      obtain ⟨_, _, -, h⟩ := commits_bind.mp h
      exact .inl ⟨unmoved, .inr ⟨_, (commits_pure.mp h).1⟩⟩
    case h_5 is =>
      have unmoved : input.moves c = false := by simp [PayoutOutcomeInput.moves, latest, is]
      exact .inl ⟨unmoved, .inl (commits_pure.mp h).2⟩

/-- A moved attempt shows. -/
theorem payoutRows_ne {c : Case} {attempt : PayoutAttemptRow}
    {set : PayoutAttemptRow → PayoutAttemptRow} (mem : attempt ∈ c.attempts)
    (leaves : (set attempt).status ≠ attempt.status) :
    (withAttempt c attempt.id set).payoutRows ≠ c.payoutRows := fun same =>
  Table.setWhere_ne mem (decide_eq_true rfl)
    (fun fixed => leaves (congrArg PayoutAttemptRow.status fixed)) (congrArg Prod.fst same)

theorem applyPayoutOutcome_refusals (settlementStatus : Option SettlementStatus) (c : Case)
    (input : PayoutOutcomeInput) :
    RefusalKeepsExactly Case.payoutRows (applyPayoutOutcome settlementStatus input) c
      (input.lands settlementStatus c = true) := by
  refine refusalKeepsExactly_of_commits fun answer c' h => ?_
  rcases applyPayoutOutcome_commits h with ⟨unmoved, kept⟩ | ⟨lands, done, -⟩ |
    ⟨refused, failure, attempt, mem, set, leaves, rfl⟩
  · refine .inl ⟨by simp [PayoutOutcomeInput.lands, unmoved], kept.imp (fun same => ?_) id⟩
    rw [same]
  · exact .inl ⟨lands, .inr done⟩
  · exact .inr ⟨by simp [refused], failure, payoutRows_ne mem leaves⟩

/-! ### The SLA sweep -/

theorem sweepPayoutSla_refusals (c : Case) (input : SweepInput) :
    RefusalKeepsExactly Case.payoutRows (sweepPayoutSla input) c (input.lands c = true) := by
  refine refusalKeepsExactly_of_commits fun answer c' h => ?_
  simp only [sweepPayoutSla, commits_get_bind] at h
  have unswept (none : input.sweeps c = false) (same : c' = c) :
      input.lands c = true ∧ (c'.payoutRows = c.payoutRows ∨ ∃ done, answer = .ok done) :=
    ⟨by simp [SweepInput.lands, none], .inl (by rw [same])⟩
  cases latest : latestAttempt c with
  | none =>
    simp only [latest] at h
    exact .inl (unswept (by simp [SweepInput.sweeps, latest]) (commits_pure.mp h).2)
  | some attempt =>
    simp only [latest] at h
    split at h
    · rename_i landed
      refine .inl (unswept ?_ (commits_pure.mp h).2)
      simp [SweepInput.sweeps, latest, landed.1, landed.2]
    rename_i waiting
    split at h
    · rename_i early
      refine .inl (unswept ?_ (commits_pure.mp h).2)
      simp [SweepInput.sweeps, latest, (by simpa using early :
        slaElapsed attempt.dispatchedAt attempt.slaSeconds input.now = false)]
    rename_i elapsed
    have elapsed : slaElapsed attempt.dispatchedAt attempt.slaSeconds input.now = true := by
      simpa using elapsed
    have waiting : attempt.status = .submitted ∨ attempt.status = .accepted := by
      by_contra landed
      exact waiting (not_or.mp landed)
    have sweeps : input.sweeps c = true := by
      rcases waiting with is | is <;> simp [SweepInput.sweeps, latest, is, elapsed]
    obtain ⟨_, c₁, updated, h⟩ := commits_bind.mp h
    obtain ⟨-, rfl⟩ := updateAttempt_spec updated
    obtain ⟨outcome, c₂, applied, h⟩ := commits_bind.mp h
    have status := ApplyTransitionInput.Answers.commits
      ⟨rfl, by decide, rfl, rfl, by simp, by simp⟩ applied
    rw [isIn_source] at status
    rcases status with ⟨waits, ⟨done, rfl⟩, -⟩ | ⟨elsewhere, ⟨failure, rfl⟩, rfl⟩
    · have waits : c.isIn .payoutSubmitted = true := waits
      exact .inl ⟨by simp [SweepInput.lands, waits], .inr ⟨_, (commits_pure.mp h).1⟩⟩
    · have elsewhere : c.isIn .payoutSubmitted = false := elsewhere
      obtain ⟨rfl, rfl⟩ := commits_pure.mp h
      refine .inr ⟨by simp [SweepInput.lands, sweeps, elsewhere], ⟨_, rfl⟩,
        payoutRows_ne (Table.latestBy_some latest).1 fun same => ?_⟩
      have unknown : PayoutAttemptStatus.unknown = attempt.status := same
      rcases waiting with is | is <;> rw [is] at unknown <;> cases unknown

/-- The refusals of an outcome, with whatever status its read of the settlement found, and of the
sweep. -/
structure PayoutRefusals (c : Case) : Prop where
  outcomes : ∀ (settlementStatus : Option SettlementStatus) (input : PayoutOutcomeInput),
    RefusalKeepsExactly Case.payoutRows (applyPayoutOutcome settlementStatus input) c
      (input.lands settlementStatus c = true)
  sweeps : ∀ input : SweepInput,
    RefusalKeepsExactly Case.payoutRows (sweepPayoutSla input) c (input.lands c = true)

/-- In every state, a refused outcome or sweep leaves the attempts, the settlement and the events as
they were exactly if it is refused before the attempt moves, or the settlement waits for the
payout, or the outcome read it in EXCEPTION. -/
theorem payout_atomic (c : Case) : PayoutRefusals c where
  outcomes settlementStatus input := applyPayoutOutcome_refusals settlementStatus c input
  sweeps input := sweepPayoutSla_refusals c input

/-- A payout is rejected, and retried while the settlement is in EXCEPTION; the SLA of the second
attempt elapses, the sweep is refused, and the attempt is UNKNOWN. -/
theorem sweep_half_applied :
    ¬RefusalKeeps Case.payoutRows (sweepPayoutSla { actor := worker, now := 60009 })
      (reached (funded ++ [dispatching, reporting .rejected 8, retrying])).case :=
  not_refusalKeeps (.transition (.invalidTransition .exception .payoutTimeout))
    (by decide +kernel) (by decide +kernel)

end InrSettle
