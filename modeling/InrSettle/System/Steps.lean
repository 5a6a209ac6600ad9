import InrSettle.System.Moves

/-!
# Operations on a settlement's own rows are moves

One lemma for each service: whatever it commits is one of the moves, and an
aborted transaction is the move that does nothing.
-/

namespace InrSettle

open Transaction CaseTables

variable {digest : AuthorizedInstruction → String} {read : Reads} {s : Store}

theorem StoreMove.unmoved {op : SettlementOp} : StoreMove digest read s op s := by
  have same : s.withCase (s.case.noted []) = s := by simp [Store.withCase, Case.noted]
  have noted : StoreMove digest read s op (s.withCase (s.case.noted [])) := .noted []
  rwa [same] at noted

/-- A transaction on the settlement's own rows is a move if every commit of it is. -/
theorem after_onCase {α : Type} {m : CaseTx α} {op : SettlementOp}
    (moves : ∀ r c, Commits m s.case r c → StoreMove digest read s op (s.withCase c)) :
    StoreMove digest read s op (after (onCase m) s) := by
  refine after_induction .unmoved fun r s' done => ?_
  obtain ⟨c, inner, rfl⟩ := commits_onCase.mp done
  exact moves r c inner

/-- A refusal that writes nothing. -/
theorem unmoved_of_pure {α : Type} {a r : α} {c : Case} {op : SettlementOp}
    (h : Commits (pure a : CaseTx α) s.case r c) : StoreMove digest read s op (s.withCase c) := by
  obtain ⟨-, rfl⟩ := commits_pure.mp h
  exact .unmoved

/-- A transaction on the whole store is a move if every commit of it is. -/
theorem after_store {α : Type} {m : StoreTx α} {op : SettlementOp}
    (moves : ∀ r s', Commits m s r s' → StoreMove digest read s op s') :
    StoreMove digest read s op (after m s) :=
  after_induction .unmoved fun r s' done => moves r s' done

theorem unmoved_of_pure_store {α : Type} {a r : α} {s' : Store} {op : SettlementOp}
    (h : Commits (pure a : StoreTx α) s r s') : StoreMove digest read s op s' := by
  obtain ⟨-, rfl⟩ := commits_pure.mp h
  exact .unmoved

theorem plain_move {op : SettlementOp} {input : ApplyTransitionInput} {r : TransitionOutcome}
    {c : Case} (answers : input.trigger ∈ op.plainTriggers) (patch : PlainPatch input.patch)
    (h : Commits (applyTransition input) s.case r c) :
    StoreMove digest read s op (s.withCase c) := by
  rcases applyTransition_moved h with ⟨-, rfl⟩ | ⟨-, moved⟩
  · exact .unmoved
  · exact .plain answers patch moved

/-! ### The settlement service -/

theorem createSettlement_move (input : CreateInput) (r : String) (c : Case)
    (h : Commits (createSettlement input) s.case r c) :
    StoreMove digest read s (.createSettlement input) (s.withCase c) := by
  simp only [createSettlement, insertSettlement, emit, audit, bind_assoc, commits_get_bind,
    commits_require_bind, commits_modify_bind, commits_pure] at h
  obtain ⟨absent, checks, -, rfl⟩ := h
  exact .created absent checks

theorem startPreflight_move (settlementId : String) (actor : PrincipalRef)
    (r : TransitionOutcome) (c : Case)
    (h : Commits (startPreflight read.settlement actor) s.case r c) :
    StoreMove digest read s (.startPreflight settlementId actor) (s.withCase c) := by
  unfold startPreflight at h
  split at h
  · exact unmoved_of_pure h
  · exact plain_move (by simp [SettlementOp.plainTriggers]) plainPatch_nil h

theorem completePreflight_move (input : PreflightInput) (r : TransitionOutcome) (c : Case)
    (h : Commits (completePreflight read.settlement input) s.case r c) :
    StoreMove digest read s (.completePreflight input) (s.withCase c) := by
  unfold completePreflight at h
  split at h
  · exact unmoved_of_pure h
  · refine plain_move ?_ plainPatch_nil h
    by_cases passed : input.blocking.isEmpty = true <;>
      simp [SettlementOp.plainTriggers, passed]

theorem attachQuote_move (settlementId : String) (input : QuoteInput) (r : TransitionOutcome)
    (c : Case) (h : Commits (attachQuote read.settlement input) s.case r c) :
    StoreMove digest read s (.attachQuote settlementId input) (s.withCase c) := by
  unfold attachQuote at h
  split at h
  · exact unmoved_of_pure h
  · rename_i settlement _
    refine plain_move (by simp [SettlementOp.plainTriggers]) ?_ h
    by_cases attachable : isAttachable settlement input.quote input.now = true
    · simpa [attachable] using plainPatch_quoteId _
    · simpa [attachable] using plainPatch_nil

theorem expireAttachedQuote_move (settlementId : String) (input : QuoteInput)
    (r : TransitionOutcome) (c : Case)
    (h : Commits (expireAttachedQuote read.settlement input) s.case r c) :
    StoreMove digest read s (.expireAttachedQuote settlementId input) (s.withCase c) := by
  unfold expireAttachedQuote at h
  split at h
  · exact unmoved_of_pure h
  · refine plain_move (by simp [SettlementOp.plainTriggers]) ?_ h
    generalize (input.quote.any fun quote => decide (quote.expiresAt < input.now)) = expired
    cases expired
    · simpa using plainPatch_nil
    · simpa using plainPatch_quoteId none

/-- The authorization that is sure to be refused answers a guard of T08 with no. -/
theorem authorize_refused {input : AuthorizeInput} {quoteValid destinationVerified : Bool}
    (fails : (quoteValid && destinationVerified && input.preflightPassing) = false)
    {asked : ApplyTransitionInput} (trigger : asked.trigger = .authorize)
    (guards : asked.guards = authorizationGuards input quoteValid destinationVerified)
    {c c' : Case} : ¬ Moved asked c c' := by
  rintro ⟨old, new, t, -, takes, -⟩
  have answered := takes.guarded
  rw [trigger, guards] at answered
  have quote : quoteValid = true :=
    Option.some.inj (answered .quoteValidForAuthorization (by decide))
  have destination : destinationVerified = true :=
    Option.some.inj (answered .destinationVersionVerified (by decide))
  have preflight : input.preflightPassing = true :=
    Option.some.inj (answered .preflightStillPassing (by decide))
  simp [quote, destination, preflight] at fails

/-- An authorization leaves at most audit rows, or moves the settlement as T08 asks for the
destination it was given. -/
theorem authorizeSettlement_turns {settlement : Option SettlementRow} {input : AuthorizeInput}
    {r : Except AuthorizeRefusal String} {c c' : Case}
    (h : Commits (authorizeSettlement digest settlement input) c r c') :
    (∃ audits, c' = { c with audits := c.audits ++ audits }) ∨
    ∃ row quote destination asked, settlement = some row ∧ input.quote = some quote ∧
      input.destination = some destination ∧ destination.verified = true ∧
      input.preflightPassing = true ∧
      Asks asked .authorize (authorizationPatch digest row destination quote input) none ∧
      asked.actor = input.actor ∧ Moved asked c c' := by
  have still : ∃ audits, c = { c with audits := c.audits ++ audits } := ⟨[], by simp⟩
  unfold authorizeSettlement at h
  cases settlement with
  | none =>
    obtain ⟨-, rfl⟩ := commits_pure.mp h
    exact .inl still
  | some row =>
    simp only at h
    split at h
    · obtain ⟨-, rfl⟩ := commits_pure.mp h
      exact .inl still
    split at h
    · obtain ⟨-, rfl⟩ := commits_pure.mp h
      exact .inl still
    split at h
    · simp only [audit, commits_modify_bind, commits_pure] at h
      obtain ⟨-, rfl⟩ := h
      exact .inl ⟨_, rfl⟩
    split at h
    · rename_i quote destination found chosen passes
      simp only [Bool.and_eq_true] at passes
      obtain ⟨⟨-, verified⟩, preflight⟩ := passes
      obtain ⟨outcome, c₁, applied, h⟩ := commits_bind.mp h
      have same : c' = c₁ := by
        split at h
        · exact (commits_pure.mp h).2
        · split at h <;> exact (commits_pure.mp h).2
      subst same
      rcases applyTransition_moved applied with ⟨-, rfl⟩ | ⟨-, moved⟩
      · exact .inl still
      · rw [chosen] at verified
        exact .inr ⟨row, quote, destination, _, rfl, found, chosen, verified, preflight,
          ⟨rfl, rfl, rfl⟩, rfl, moved⟩
    · rename_i fails
      obtain ⟨outcome, c₁, applied, h⟩ := commits_bind.mp h
      have same : c' = c₁ := by
        split at h <;> exact (commits_pure.mp h).2
      subst same
      rcases applyTransition_moved applied with ⟨-, rfl⟩ | ⟨-, moved⟩
      · exact .inl still
      · refine (authorize_refused ?_ rfl rfl moved).elim
        rw [Bool.eq_false_iff]
        intro passes
        cases quote : input.quote with
        | none => simp [isQuoteValid, quote] at passes
        | some q =>
          cases destination : input.destination with
          | none => simp [destination] at passes
          | some d => exact fails q d quote destination passes

theorem authorizeSettlement_move (input : AuthorizeInput) (r : Except AuthorizeRefusal String)
    (c : Case) (h : Commits (authorizeSettlement digest read.settlement input) s.case r c) :
    StoreMove digest read s (.authorizeSettlement input) (s.withCase c) := by
  rcases authorizeSettlement_turns h with
    ⟨audits, rfl⟩ | ⟨row, quote, destination, asked, found, -, -, -, -, asks, actor, moved⟩
  · exact .noted audits
  · exact .authorized found asks actor moved

theorem requestCancellation_plain {op : SettlementOp} {input : CancelInput}
    {r : Except CancelRefusal Transitioned} {c : Case}
    (answers : .requestCancellation ∈ op.plainTriggers)
    (h : Commits (requestCancellation input) s.case r c) :
    StoreMove digest read s op (s.withCase c) := by
  simp only [requestCancellation, commits_get_bind] at h
  split at h
  · exact unmoved_of_pure h
  split at h
  · simp only [audit, commits_modify_bind, commits_pure] at h
    obtain ⟨-, rfl⟩ := h
    exact .noted _
  · obtain ⟨outcome, c₁, applied, h⟩ := commits_bind.mp h
    obtain ⟨-, rfl⟩ := commits_pure.mp h
    exact plain_move answers (plainPatch_cancellation _ _) applied

theorem cancelSettlement_move (input : CancelInput) (r : Except CancelRefusal Transitioned)
    (c : Case) (h : Commits (cancelSettlement read.settlement input) s.case r c) :
    StoreMove digest read s (.cancelSettlement input) (s.withCase c) := by
  unfold cancelSettlement at h
  split at h
  · exact unmoved_of_pure h
  split at h
  · obtain ⟨outcome, c₁, applied, h⟩ := commits_bind.mp h
    obtain ⟨-, rfl⟩ := commits_pure.mp h
    exact plain_move (by simp [SettlementOp.plainTriggers]) plainPatch_nil applied
  · exact requestCancellation_plain (by simp [SettlementOp.plainTriggers]) h

theorem honourCancellation_move (input : HonourInput) (r : TransitionOutcome) (c : Case)
    (h : Commits (honourCancellation read.settlement input) s.case r c) :
    StoreMove digest read s (.honourCancellation input) (s.withCase c) := by
  unfold honourCancellation at h
  split at h
  · exact unmoved_of_pure h
  · exact plain_move (by simp [SettlementOp.plainTriggers]) plainPatch_nil h

theorem insertAttempt_spec {a : PayoutAttemptRow} {c c' : Case} {r : PUnit}
    (h : Commits (insertAttempt a) c r c') :
    AttemptFresh c a ∧ c' = { c with attempts := c.attempts ++ [a] } := by
  simp only [insertAttempt, commits_get_bind, commits_require_bind, commits_modify] at h
  obtain ⟨ids, checks, numbers, -, single, rfl⟩ := h
  exact ⟨⟨ids, checks, numbers, single⟩, rfl⟩

theorem dispatchPayout_move (input : DispatchInput) (r : Except DispatchRefusal Dispatched)
    (c : Case) (h : Commits (dispatchPayout input) s.case r c) :
    StoreMove digest read s (.dispatchPayout input) (s.withCase c) := by
  simp only [dispatchPayout, commits_get_bind] at h
  cases found : s.case.settlement with
  | none =>
    rw [found] at h
    exact unmoved_of_pure h
  | some current =>
    simp only [found] at h
    split at h
    · exact unmoved_of_pure h
    split at h
    case h_2 => exact unmoved_of_pure h
    case h_1 versionId hash version frozen =>
      split at h
      · exact unmoved_of_pure h
      split at h
      · exact unmoved_of_pure h
      split at h
      · split at h <;> exact unmoved_of_pure h
      · exact unmoved_of_pure h
      · rename_i before first
        obtain ⟨key, c₁, keyed, h⟩ := commits_bind.mp h
        obtain ⟨numbered, rfl⟩ := commits_orThrow.mp keyed
        obtain ⟨outcome, c₂, applied, h⟩ := commits_bind.mp h
        rcases applyTransition_moved applied with ⟨⟨_, rfl⟩, rfl⟩ | ⟨⟨_, rfl⟩, moved⟩
        · exact unmoved_of_pure h
        · obtain ⟨_, _, inserted, h⟩ := commits_bind.mp h
          obtain ⟨-, rfl⟩ := commits_pure.mp h
          obtain ⟨fresh, rfl⟩ := insertAttempt_spec inserted
          have none : s.case.attempts = [] :=
            List.map_eq_nil_iff.mp (allocateAttemptNumber_eq_first.mp first)
          exact .dispatched found before version none numbered ⟨rfl, rfl, rfl⟩ moved fresh
      · exact unmoved_of_pure h

theorem openException_move (input : OpenExceptionInput) (r : TransitionOutcome) (c : Case)
    (h : Commits (openException read.settlement input) s.case r c) :
    StoreMove digest read s (.openException input) (s.withCase c) := by
  unfold openException at h
  cases found : read.settlement with
  | none =>
    rw [found] at h
    exact unmoved_of_pure h
  | some settlement =>
    simp only [found] at h
    obtain ⟨outcome, c₁, applied, h⟩ := commits_bind.mp h
    rcases applyTransition_moved applied with ⟨⟨_, rfl⟩, rfl⟩ | ⟨⟨_, rfl⟩, moved⟩
    · exact unmoved_of_pure h
    · simp only [insertException, bind_assoc, commits_get_bind, commits_require_bind,
        commits_modify_bind, commits_pure] at h
      obtain ⟨ids, single, -, rfl⟩ := h
      obtain ⟨old, new, t, current, takes, rfl⟩ := moved
      exact .openedException found ⟨rfl, rfl, rfl⟩ rfl ⟨old, new, t, current, takes, rfl⟩ ids single

theorem resolveExceptions_spec {which : SettlementExceptionRow → Bool} {now : Instant}
    {resolvedBy reason : String} {c c' : Case} {r : PUnit}
    (h : Commits (resolveExceptions which now resolvedBy reason) c r c') :
    c' = withResolved c which now resolvedBy reason := by
  simp only [resolveExceptions, commits_get_bind, commits_require_bind, commits_modify] at h
  exact h.2

theorem resolveException_move (input : ResolveInput) (r : TransitionOutcome) (c : Case)
    (h : Commits (resolveException read.settlement input) s.case r c) :
    StoreMove digest read s (.resolveException input) (s.withCase c) := by
  unfold resolveException at h
  cases found : read.settlement with
  | none =>
    rw [found] at h
    exact unmoved_of_pure h
  | some settlement =>
    simp only [found] at h
    obtain ⟨outcome, c₁, applied, h⟩ := commits_bind.mp h
    rcases applyTransition_moved applied with ⟨⟨_, rfl⟩, rfl⟩ | ⟨⟨_, rfl⟩, moved⟩
    · exact unmoved_of_pure h
    · obtain ⟨_, _, resolved, h⟩ := commits_bind.mp h
      obtain ⟨-, rfl⟩ := commits_pure.mp h
      obtain rfl := resolveExceptions_spec resolved
      obtain ⟨old, new, t, current, takes, rfl⟩ := moved
      have answered := takes.guarded
      have attributed : isStated input.reason = true := by
        have asked : Guard.resolutionAttributed ∈ input.resolution.trigger.guards := by
          cases input.resolution <;> decide
        exact Option.some.inj (answered .resolutionAttributed asked)
      refine .resolvedException found ⟨rfl, rfl, rfl⟩ attributed (fun ends => ?_)
        ⟨old, new, t, current, takes, rfl⟩
      cases resolution : input.resolution with
      | resume => exact (ends resolution).elim
      | fail =>
        simp only [resolution] at answered
        have guard := Option.some.inj (answered .noValueDelivered (by decide))
        exact Option.isNone_iff_eq_none.mp guard
      | cancel =>
        simp only [resolution] at answered
        have guard := Option.some.inj (answered .beforePointOfNoReturn (by decide))
        exact Option.isNone_iff_eq_none.mp guard

/-! ### The payout service -/

theorem updateAttempt_spec {attemptId : String} {set : PayoutAttemptRow → PayoutAttemptRow}
    {c c' : Case} {r : PUnit} (h : Commits (updateAttempt attemptId set) c r c') :
    AttemptAllowed c attemptId set ∧ c' = withAttempt c attemptId set := by
  simp only [updateAttempt, commits_get_bind, commits_require_bind, commits_modify] at h
  obtain ⟨mayBecome, checks, rfl⟩ := h
  exact ⟨fun a mem same => ⟨mayBecome a mem same, checks a mem same⟩, rfl⟩

theorem recordSubmission_move (settlementId : String) (input : SubmissionInput) (r : PUnit)
    (c : Case) (h : Commits (recordSubmission input) s.case r c) :
    StoreMove digest read s (.recordSubmission settlementId input) (s.withCase c) := by
  obtain ⟨allowed, rfl⟩ := updateAttempt_spec h
  exact .submitted allowed

theorem recordTimeout_move (settlementId : String) (actor : PrincipalRef) (r : PUnit) (c : Case)
    (h : Commits (recordTimeout settlementId actor) s.case r c) :
    StoreMove digest read s (.recordTimeout settlementId actor) (s.withCase c) := by
  simp only [recordTimeout, audit, commits_modify] at h
  rw [h]
  exact .noted _

/-- What moving an attempt commits: the attempt, and the settlement with it unless it was in
EXCEPTION or refused. -/
theorem moveAttempt_spec {status : Option SettlementStatus} {input : PayoutOutcomeInput}
    {a : PayoutAttemptRow} {set : PayoutAttemptRow → PayoutAttemptRow} {done : PayoutDone}
    {c c' : Case} {r : PayoutResult}
    (h : Commits (moveAttempt status input a set done) c r c') :
    AttemptAllowed c a.id set ∧ (c' = withAttempt c a.id set ∨
      status ≠ some .exception ∧
        Moved (outcomeTransition input a) (withAttempt c a.id set) c') := by
  unfold moveAttempt at h
  obtain ⟨_, c₁, updated, h⟩ := commits_bind.mp h
  obtain ⟨allowed, rfl⟩ := updateAttempt_spec updated
  refine ⟨allowed, ?_⟩
  split at h
  · exact .inl (commits_pure.mp h).2
  · rename_i elsewhere
    obtain ⟨outcome, c₂, applied, h⟩ := commits_bind.mp h
    have same : c' = c₂ := by
      split at h <;> exact (commits_pure.mp h).2
    subst same
    rcases applyTransition_moved applied with ⟨-, rfl⟩ | ⟨-, moved⟩
    · exact .inl rfl
    · exact .inr ⟨elsewhere, moved⟩

theorem applyPayoutOutcome_move {op : SettlementOp} (input : PayoutOutcomeInput)
    (reports : op.reports = some input) (r : PayoutResult) (c : Case)
    (h : Commits (applyPayoutOutcome (read.settlement.map (·.status)) input) s.case r c) :
    StoreMove digest read s op (s.withCase c) := by
  unfold applyPayoutOutcome at h
  split at h
  · exact unmoved_of_pure h
  rename_i trusted
  have trusted : input.trusted = true := by simpa using trusted
  simp only [commits_get_bind] at h
  cases latest : latestAttempt s.case with
  | none =>
    rw [latest] at h
    exact unmoved_of_pure h
  | some a =>
    simp only [latest] at h
    have changes : ∀ set, input.Permits a → input.set = set → AttemptAllowed s.case a.id set →
        (c = withAttempt s.case a.id set ∨
          read.settlement.map (·.status) ≠ some .exception ∧
          (input.outcome = .credited ∨ input.outcome = .rejected) ∧
          Moved (outcomeTransition input a) (withAttempt s.case a.id set) c) →
        StoreMove digest read s op (s.withCase c) := by
      rintro set permits rfl allowed result
      exact .outcome reports latest trusted permits allowed result
    split at h
    case h_1 is =>
      split at h
      · exact unmoved_of_pure h
      split at h
      · exact unmoved_of_pure h
      split at h
      · exact unmoved_of_pure h
      rename_i utr _ inFlight
      obtain ⟨allowed, result⟩ := moveAttempt_spec h
      refine changes (credited input) ?_ ?_ allowed
        (result.imp id fun moved => ⟨moved.1, .inl is, moved.2⟩)
      · simp only [PayoutOutcomeInput.Permits, is]
        simp only [Bool.not_eq_true', Bool.not_eq_false] at utr inFlight
        exact ⟨inFlight, utr⟩
      · funext b
        simp [PayoutOutcomeInput.set, is]
    case h_2 is =>
      split at h
      · exact unmoved_of_pure h
      split at h
      · exact unmoved_of_pure h
      rename_i inFlight
      obtain ⟨allowed, result⟩ := moveAttempt_spec h
      refine changes (rejected input) ?_ ?_ allowed
        (result.imp id fun moved => ⟨moved.1, .inr is, moved.2⟩)
      · simp only [PayoutOutcomeInput.Permits, is]
        simpa using inFlight
      · funext b
        simp [PayoutOutcomeInput.set, is]
    case h_3 is =>
      split at h
      · rename_i submitted
        obtain ⟨_, _, updated, h⟩ := commits_bind.mp h
        obtain ⟨-, rfl⟩ := commits_pure.mp h
        obtain ⟨allowed, rfl⟩ := updateAttempt_spec updated
        refine changes (accepted input) ?_ ?_ allowed (.inl rfl)
        · simpa only [PayoutOutcomeInput.Permits, is] using submitted
        · funext b
          simp [PayoutOutcomeInput.set, is]
      · exact unmoved_of_pure h
    case h_4 is =>
      split at h
      · exact unmoved_of_pure h
      split at h
      · exact unmoved_of_pure h
      rename_i paid
      obtain ⟨_, _, updated, h⟩ := commits_bind.mp h
      obtain ⟨-, rfl⟩ := commits_pure.mp h
      obtain ⟨allowed, rfl⟩ := updateAttempt_spec updated
      refine changes (returned input) ?_ ?_ allowed (.inl rfl)
      · simp only [PayoutOutcomeInput.Permits, is]
        simpa using paid
      · funext b
        simp [PayoutOutcomeInput.set, is]
    case h_5 => exact unmoved_of_pure h

theorem sweepPayoutSla_move (settlementId : String) (input : SweepInput) (r : PayoutResult)
    (c : Case) (h : Commits (sweepPayoutSla input) s.case r c) :
    StoreMove digest read s (.sweepPayoutSla settlementId input) (s.withCase c) := by
  simp only [sweepPayoutSla, commits_get_bind] at h
  cases latest : latestAttempt s.case with
  | none =>
    rw [latest] at h
    exact unmoved_of_pure h
  | some a =>
    simp only [latest] at h
    split at h
    · exact unmoved_of_pure h
    split at h
    · exact unmoved_of_pure h
    rename_i waiting elapsed
    obtain ⟨_, c₁, updated, h⟩ := commits_bind.mp h
    obtain ⟨allowed, rfl⟩ := updateAttempt_spec updated
    obtain ⟨outcome, c₂, applied, h⟩ := commits_bind.mp h
    have same : c = c₂ := by
      split at h <;> exact (commits_pure.mp h).2
    subst same
    refine .swept latest ?_ (by simpa using elapsed) allowed ⟨rfl, rfl, rfl⟩
      ((applyTransition_moved applied).imp (·.2) (·.2))
    by_cases submitted : a.status = .submitted
    · exact .inl submitted
    · exact .inr (by simpa [submitted] using waiting)

theorem retryPayout_move (input : RetryInput) (r : PayoutResult) (c : Case)
    (h : Commits (retryPayout input) s.case r c) :
    StoreMove digest read s (.retryPayout input) (s.withCase c) := by
  simp only [retryPayout, commits_get_bind] at h
  cases latest : latestAttempt s.case with
  | none =>
    rw [latest] at h
    exact unmoved_of_pure h
  | some previous =>
    simp only [latest] at h
    split at h
    · exact unmoved_of_pure h
    rename_i rejected
    obtain ⟨key, _, keyed, h⟩ := commits_bind.mp h
    obtain ⟨numbered, rfl⟩ := commits_orThrow.mp keyed
    obtain ⟨_, _, inserted, h⟩ := commits_bind.mp h
    obtain ⟨fresh, rfl⟩ := insertAttempt_spec inserted
    simp only [audit, commits_modify_bind, commits_pure] at h
    obtain ⟨-, rfl⟩ := h
    exact .retried latest (not_not.mp rejected) numbered fresh

/-! ### The reconciliation service -/

theorem beginReconciliation_move (input : BeginInput) (r : ReconciliationResult) (c : Case)
    (h : Commits (beginReconciliation input) s.case r c) :
    StoreMove digest read s (.beginReconciliation input) (s.withCase c) := by
  unfold beginReconciliation at h
  split at h
  · exact unmoved_of_pure h
  simp only [commits_get_bind] at h
  cases none : s.case.reconciliation with
  | some existing =>
    rw [none] at h
    exact unmoved_of_pure h
  | none =>
    simp only [none] at h
    split at h
    · exact unmoved_of_pure h
    obtain ⟨_, c₁, inserted, h⟩ := commits_bind.mp h
    simp only [insertReconciliation, commits_get_bind, commits_require_bind,
      commits_modify] at inserted
    obtain ⟨exists', -, checks, rfl⟩ := inserted
    obtain ⟨outcome, c₂, applied, h⟩ := commits_bind.mp h
    have same : c = c₂ := by
      split at h <;> exact (commits_pure.mp h).2
    subst same
    exact .reconciliationBegun none (Option.isSome_iff_ne_none.mp exists') checks
      ((applyTransition_moved applied).imp (·.2) (·.2))

theorem observation_row {trigger : ReconciliationTrigger} {row : ReconciliationTransition}
    (is : trigger = .observedMatching)
    (evaluated : reconciliationMachine.evaluate (some .pending) trigger = some row) :
    row.target = .matched := by
  subst is
  exact (Option.some.inj evaluated) ▸ rfl

theorem compareObservation_sound (expected : Money) (amount : Option Money)
    (matched : (compareObservation expected amount).isMatched = true) :
    (compareObservation expected amount).trigger = .observedMatching ∧
      (compareObservation expected amount).delta = 0 := by
  rw [compareObservation_matched] at matched
  simp [matched, compareObservation]

/-- What a committed observation did: nothing, R02, or R03 and R05 with T21 asked for. -/
theorem applyObservation_commits {input : ObservationInput} {r : ReconciliationResult}
    {c c' : Case} (h : Commits (applyObservation input) c r c') :
    c' = c ∨ ∃ current audits, c.reconciliation = some current ∧ current.status = .pending ∧
      ((input.verdict current).isMatched = true ∧
          c' = (c.reconciling (observed input .matched 0 current)).noted audits ∨
        (input.verdict current).isMatched = false ∧ ∃ outcome,
          Commits (applyTransition (input.transition current (input.verdict current)))
            ((c.reconciling (observed input .manualReview (input.verdict current).delta
              current)).noted audits) outcome c') := by
  simp only [applyObservation, commits_get_bind] at h
  cases found : c.reconciliation with
  | none =>
    rw [found] at h
    exact .inl (commits_pure.mp h).2
  | some current =>
    simp only [found] at h
    split at h
    · exact .inl (commits_pure.mp h).2
    rename_i pending
    have pending := not_not.mp pending
    split at h
    · exact .inl (commits_pure.mp h).2
    rename_i row evaluated
    simp only [updateReconciliation, audit, bind_assoc, commits_require_bind,
      commits_modify_bind] at h
    obtain ⟨-, h⟩ := h
    split at h
    · rename_i matched
      obtain ⟨-, rfl⟩ := commits_pure.mp h
      have sound := compareObservation_sound _ _ matched
      have delta : (input.verdict current).delta = 0 := sound.2
      rw [observation_row sound.1 evaluated, delta]
      exact .inr ⟨current, _, rfl, pending, .inl ⟨matched, rfl⟩⟩
    · rename_i differed
      simp only [commits_require_bind, commits_modify_bind] at h
      obtain ⟨-, h⟩ := h
      obtain ⟨outcome, c₂, applied, h⟩ := commits_bind.mp h
      have same : c' = c₂ := by
        split at h <;> exact (commits_pure.mp h).2
      subst same
      simp only [List.append_assoc] at applied
      exact .inr ⟨current, _, rfl, pending,
        .inr ⟨Bool.not_eq_true _ ▸ differed, outcome, applied⟩⟩

theorem applyObservation_move (input : ObservationInput) (r : ReconciliationResult) (c : Case)
    (h : Commits (applyObservation input) s.case r c) :
    StoreMove digest read s (.applyObservation input) (s.withCase c) := by
  rcases applyObservation_commits h with
    rfl | ⟨current, audits, found, pending, ⟨matched, rfl⟩ | ⟨differed, outcome, applied⟩⟩
  · exact .unmoved
  · exact .observationMatched found pending matched
  · exact .observationDiffered found pending differed
      ((applyTransition_moved applied).imp (·.2) (·.2))

/-- What a committed sweep did: nothing, or R04 with T30 asked for. -/
theorem sweepReconciliationSla_commits {input : ReconciliationSweepInput}
    {r : ReconciliationResult} {c c' : Case}
    (h : Commits (sweepReconciliationSla input) c r c') :
    c' = c ∨ ∃ current audits outcome, c.reconciliation = some current ∧
      current.status = .pending ∧ current.openedAt + current.slaSeconds * 1000 ≤ input.now ∧
      Commits (applyTransition (input.transition current)) ((c.reconciling
        { current with status := .manualReview, evaluatedAt := some input.now }).noted audits)
        outcome c' := by
  simp only [sweepReconciliationSla, commits_get_bind] at h
  cases found : c.reconciliation with
  | none =>
    rw [found] at h
    exact .inl (commits_pure.mp h).2
  | some current =>
    simp only [found] at h
    split at h
    · exact .inl (commits_pure.mp h).2
    split at h
    · exact .inl (commits_pure.mp h).2
    rename_i pending elapsed
    split at h
    · exact .inl (commits_pure.mp h).2
    simp only [updateReconciliation, audit, bind_assoc, commits_require_bind,
      commits_modify_bind] at h
    obtain ⟨-, h⟩ := h
    obtain ⟨outcome, c₂, applied, h⟩ := commits_bind.mp h
    have same : c' = c₂ := by
      split at h <;> exact (commits_pure.mp h).2
    subst same
    exact .inr ⟨current, _, outcome, rfl, not_not.mp pending, Nat.le_of_not_lt elapsed, applied⟩

theorem sweepReconciliationSla_move (input : ReconciliationSweepInput)
    (r : ReconciliationResult) (c : Case)
    (h : Commits (sweepReconciliationSla input) s.case r c) :
    StoreMove digest read s (.sweepReconciliationSla input) (s.withCase c) := by
  rcases sweepReconciliationSla_commits h with
    rfl | ⟨current, audits, outcome, found, pending, elapsed, applied⟩
  · exact .unmoved
  · exact .reconciliationSwept found pending elapsed
      ((applyTransition_moved applied).imp (·.2) (·.2))

theorem resolveReconciliation_move (input : ResolveReconciliationInput)
    (r : ReconciliationResult) (c : Case)
    (h : Commits (resolveReconciliation input) s.case r c) :
    StoreMove digest read s (.resolveReconciliation input) (s.withCase c) := by
  simp only [resolveReconciliation, commits_get_bind] at h
  cases found : s.case.reconciliation with
  | none =>
    rw [found] at h
    exact unmoved_of_pure h
  | some current =>
    simp only [found] at h
    split at h
    · exact unmoved_of_pure h
    rename_i row evaluated
    split at h
    · exact unmoved_of_pure h
    split at h
    · exact unmoved_of_pure h
    simp only [updateReconciliation, audit, bind_assoc, commits_require_bind,
      commits_modify_bind, commits_pure] at h
    obtain ⟨-, -, rfl⟩ := h
    exact .reconciliationResolved found evaluated

end InrSettle
