import InrSettle.System.Quotes
import InrSettle.System.Refusals

/-!
# A refused authorization

The settlement is authorized first and its quote consumed second. The authorization lands if the
quote, read before anything was locked, is still LOCKED when it is consumed; else the settlement
stays AUTHORIZED behind the refusal.
-/

namespace InrSettle

open Transaction CaseTables Run

/-- What an authorization writes; each of the events is a row of the outbox. -/
def QuoteStore.authorizationRows (s : QuoteStore) :
    Option SettlementRow × List EventRow × List QuoteRow :=
  (s.case.settlement, s.case.events, s.quotes)

/-- What was read of the settlement and its quote allows the authorization. -/
def AuthorizeInput.allowedBy (input : AuthorizeInput) (settlement : Option SettlementRow) : Bool :=
  settlement.any fun settlement =>
    settlement.quoteId.isSome && input.mayAuthorize &&
      (denialFor (evaluateSeparationOfDuties input.separationEnabled
        ⟨.user, settlement.createdBy⟩ input.actor)).isNone &&
      isQuoteValid settlement input.quote input.now && input.destination.any (·.verified) &&
      input.preflightPassing && input.beneficiaryVerified && input.hasActiveLiquidityFacility

/-- The settlement is QUOTED, at the version the input expects. -/
def AuthorizeInput.awaited (input : AuthorizeInput) (c : Case) : Bool :=
  c.settlement.any fun row =>
    row.status == .quoted && !input.expectedVersion.any (· ≠ row.version)

/-- T08 is taken: what was read allows it, and the settlement still awaits it. -/
def AuthorizeInput.authorizes (input : AuthorizeInput) (settlement : Option SettlementRow)
    (c : Case) : Bool :=
  input.allowedBy settlement && input.awaited c

/-! ### The settlement -/

/-- The guards of T08 that the settlement and its quote do not answer. -/
def AuthorizeInput.guarded (input : AuthorizeInput) : Bool :=
  input.preflightPassing && input.beneficiaryVerified && input.hasActiveLiquidityFacility

theorem guarded_iff {input : AuthorizeInput} :
    input.guarded = true ↔ ∀ g ∈ Trigger.guards .authorize,
      (authorizationGuards input true true).lookup g = some true := by
  simp only [AuthorizeInput.guarded, authorizationGuards]
  cases input.preflightPassing <;> cases input.beneficiaryVerified <;>
    cases input.hasActiveLiquidityFacility <;> decide

/-- T08 is taken exactly if its guards hold and the settlement awaits it. -/
theorem authorize_commits {asked : ApplyTransitionInput} {input : AuthorizeInput} {c c' : Case}
    {r : TransitionOutcome} (trigger : asked.trigger = .authorize)
    (guards : asked.guards = authorizationGuards input true true)
    (unowned : asked.patch.filterMap ColumnWrite.machineOwned = [])
    (companions : ∀ offered ∈ asked.companions, offered.type = .quoteConsumed)
    (version : asked.expectedVersion = input.expectedVersion)
    (h : Commits (applyTransition asked) c r c') :
    (input.guarded && input.awaited c) = true ∧ (∃ done, r = .ok done) ∧ Moved asked c c' ∨
      (input.guarded && input.awaited c) = false ∧ (∃ failure, r = .error failure) ∧ c' = c := by
  have awaited : input.awaited c = (c.isIn .quoted && !asked.isStale c) := by
    cases found : c.settlement <;>
      simp [AuthorizeInput.awaited, Case.isIn, ApplyTransitionInput.isStale, found, version]
  by_cases guarded : input.guarded = true
  · by_cases stale : asked.isStale c = true
    · obtain ⟨refused, same⟩ := applyTransition_stale stale h
      exact .inr ⟨by simp [awaited, stale], refused, same⟩
    · have current : asked.isStale c = false := by simpa using stale
      have answers : ({ asked with expectedVersion := none } : ApplyTransitionInput).Answers
          _ := {
        row := by rw [trigger]; rfl
        notResume := by decide
        unowned := unowned
        anyVersion := rfl
        guards := by rw [guards]; exact guarded_iff.mp guarded
        permitted := fun offered mem => by rw [companions offered mem]; decide }
      have status := answers.commits ((applyTransition_current current).mp h)
      rw [isIn_source] at status
      rcases status with ⟨waits, done, -⟩ | ⟨elsewhere, refused, same⟩
      · rcases applyTransition_moved h with ⟨⟨failure, is⟩, -⟩ | ⟨done, moved⟩
        · obtain ⟨done, is'⟩ := done
          cases is.symm.trans is'
        · exact .inl ⟨by simp [awaited, guarded, waits, current], done, moved⟩
      · exact .inr ⟨by simp [awaited, elsewhere], refused, same⟩
  · rcases applyTransition_moved h with ⟨refused, same⟩ | ⟨-, moved⟩
    · exact .inr ⟨by simp [guarded], refused, same⟩
    · refine absurd (guarded_iff.mpr fun g mem => ?_) guarded
      rw [← guards]
      exact moved.answered (trigger ▸ mem)

/-- What an authorization does: T08, or nothing but an audit row. -/
theorem authorizeSettlement_commits {digest : AuthorizedInstruction → String}
    {settlement : Option SettlementRow} {input : AuthorizeInput}
    {r : Except AuthorizeRefusal String} {c c' : Case} (consumes : input.quoteConsumed = true)
    (h : Commits (authorizeSettlement digest settlement input) c r c') :
    input.authorizes settlement c = true ∧ (∃ hash, r = .ok hash) ∧
        c.status = some .quoted ∧ c'.status = some .authorized ∨
      input.authorizes settlement c = false ∧ (∃ refusal, r = .error refusal) ∧
        c'.settlement = c.settlement ∧ c'.events = c.events := by
  unfold authorizeSettlement at h
  cases settlement with
  | none =>
    obtain ⟨rfl, rfl⟩ := commits_pure.mp h
    exact .inr ⟨rfl, ⟨_, rfl⟩, rfl, rfl⟩
  | some row =>
    simp only at h
    split at h
    · rename_i unquoted
      obtain ⟨rfl, rfl⟩ := commits_pure.mp h
      exact .inr ⟨by simp [AuthorizeInput.authorizes, AuthorizeInput.allowedBy, unquoted], ⟨_, rfl⟩,
        rfl, rfl⟩
    rename_i quoteId holds
    split at h
    · rename_i incapable
      obtain ⟨rfl, rfl⟩ := commits_pure.mp h
      have incapable : input.mayAuthorize = false := by simpa using incapable
      exact .inr ⟨by simp [AuthorizeInput.authorizes, AuthorizeInput.allowedBy, incapable],
        ⟨_, rfl⟩, rfl, rfl⟩
    rename_i capable
    have capable : input.mayAuthorize = true := by simpa using capable
    split at h
    · rename_i code title denied
      simp only [audit, commits_modify_bind, commits_pure] at h
      obtain ⟨rfl, rfl⟩ := h
      exact .inr ⟨by simp [AuthorizeInput.authorizes, AuthorizeInput.allowedBy, denied],
        ⟨_, rfl⟩, rfl, rfl⟩
    rename_i granted
    split at h
    · rename_i quote destination found chosen passes
      simp only [Bool.and_eq_true] at passes
      obtain ⟨⟨valid, verified⟩, preflight⟩ := passes
      obtain ⟨outcome, c₁, applied, rest⟩ := commits_bind.mp h
      have authorizes : input.authorizes (some row) c = (input.guarded && input.awaited c) := by
        simp [AuthorizeInput.authorizes, AuthorizeInput.allowedBy, AuthorizeInput.guarded, holds,
          capable, granted, valid, verified]
      rw [authorizes]
      rcases authorize_commits rfl rfl rfl (by simp) rfl applied with
        ⟨taken, ⟨done, rfl⟩, moved⟩ | ⟨refused, ⟨failure, rfl⟩, rfl⟩
      · simp only [consumes, Bool.not_true, Bool.false_eq_true, if_false] at rest
        obtain ⟨rfl, rfl⟩ := commits_pure.mp rest
        refine .inl ⟨taken, ⟨_, rfl⟩, ?_⟩
        obtain ⟨old, new, t, was, takes, rfl⟩ := moved
        have source := takes.source
        refine ⟨?_, ?_⟩
        · rw [Case.status, was]
          exact congrArg some (List.mem_singleton.mp source)
        · exact congrArg some takes.status
      · obtain ⟨rfl, rfl⟩ := commits_pure.mp rest
        exact .inr ⟨refused, ⟨_, rfl⟩, rfl, rfl⟩
    · rename_i fails
      obtain ⟨outcome, c₁, applied, rest⟩ := commits_bind.mp h
      have fails : (isQuoteValid row input.quote input.now && input.destination.any (·.verified) &&
          input.preflightPassing) = false := by
        rw [Bool.eq_false_iff]
        intro passes
        cases quote : input.quote with
        | none => simp [isQuoteValid, quote] at passes
        | some q =>
          cases destination : input.destination with
          | none => simp [destination] at passes
          | some d => exact fails q d quote destination passes
      have disallowed : input.authorizes (some row) c = false := by
        rw [Bool.eq_false_iff]
        intro authorizes
        simp only [AuthorizeInput.authorizes, AuthorizeInput.allowedBy, Option.any_some,
          Bool.and_eq_true] at authorizes
        obtain ⟨⟨⟨⟨⟨⟨-, valid⟩, verified⟩, preflight⟩, -⟩, -⟩, -⟩ := authorizes
        simp [valid, verified, preflight] at fails
      rcases applyTransition_moved applied with ⟨⟨failure, rfl⟩, rfl⟩ | ⟨-, moved⟩
      · obtain ⟨rfl, rfl⟩ := commits_pure.mp rest
        exact .inr ⟨disallowed, ⟨_, rfl⟩, rfl, rfl⟩
      · exact (authorize_refused fails rfl rfl moved).elim

/-! ### The quote -/

/-- The quote can be consumed by the settlement. -/
def isConsumable (quotes : List QuoteRow) (quoteId settlementId : String) : Bool :=
  settlementId != "" &&
    (quotes.find? fun q => decide (q.id = quoteId)).any fun q => q.status == .locked

theorem quoteMachine_consume {status : QuoteStatus} :
    quoteMachine.evaluate (some status) .consume =
      if status = .locked then some ⟨.q03, [.locked], .consume, .consumed⟩ else none := by
  cases status <;> rfl

/-- The quote with the consumer it is asked for. -/
def consumedRow (settlementId : String) (q : QuoteRow) : QuoteRow :=
  { q with status := .consumed, consumedBySettlementId := some settlementId }

theorem consume_commits {quoteId settlementId : String} {now : Instant}
    {qs qs' : List QuoteRow} {r : Except QuoteRefusal QuoteStatus}
    (h : Commits (transitionQuote {
      quoteId := quoteId, trigger := .consume, consumedBySettlementId := some settlementId
      now := now }) qs r qs') :
    isConsumable qs quoteId settlementId = true ∧ (∃ status, r = .ok status) ∧
        (∃ q, qs.find? (fun q => decide (q.id = quoteId)) = some q ∧
          qs'.find? (fun q => decide (q.id = quoteId)) = some (consumedRow settlementId q)) ∨
      isConsumable qs quoteId settlementId = false ∧ (∃ refusal, r = .error refusal) ∧
        qs' = qs := by
  simp only [transitionQuote, commits_get_bind] at h
  cases found : qs.find? fun q => decide (q.id = quoteId) with
  | none =>
    simp only [found] at h
    obtain ⟨rfl, rfl⟩ := commits_pure.mp h
    exact .inr ⟨by simp [isConsumable, found], ⟨_, rfl⟩, rfl⟩
  | some current =>
    simp only [found, quoteMachine_consume] at h
    by_cases locked : current.status = .locked
    · simp only [locked, if_true] at h
      split at h
      · rename_i unnamed
        obtain ⟨rfl, rfl⟩ := commits_pure.mp h
        have empty : settlementId = "" := by simpa using unnamed
        exact .inr ⟨by simp [isConsumable, empty], ⟨_, rfl⟩, rfl⟩
      rename_i named
      have named : settlementId ≠ "" := by simpa using named
      simp only [updateQuote, bind_assoc, commits_get_bind, commits_require_bind,
        commits_modify_bind, commits_pure] at h
      obtain ⟨-, -, rfl, rfl⟩ := h
      have is : current.id = quoteId := of_decide_eq_true (List.find?_some found :)
      refine .inl ⟨by simp [isConsumable, found, locked, named], ⟨_, rfl⟩, current, rfl, ?_⟩
      rw [is, Table.find?_setWhere qs fun _ _ => decide_eq_true is, found]
      rfl
    · simp only [locked, if_false] at h
      obtain ⟨rfl, rfl⟩ := commits_pure.mp h
      exact .inr ⟨by simp [isConsumable, found, locked], ⟨_, rfl⟩, rfl⟩

/-! ### Both -/

section

variable {digest : AuthorizedInstruction → String} {iso : Instant → String}
  {read : Quotes.Snapshot} {s s' : QuoteStore} {input : AuthorizeInput}
  {r : Except AuthorizeRefusal String}

/-- The input with the quote that was read, to be consumed. -/
def AuthorizeInput.reading (input : AuthorizeInput) (iso : Instant → String)
    (read : Quotes.Snapshot) : AuthorizeInput :=
  { input with
    quote := (read.settlement.bind (·.quoteId)).bind (getQuote iso read.quotes)
    quoteConsumed := true }

/-- The authorization is refused before the settlement moves, or the quote can be consumed. -/
def AuthorizeInput.lands (input : AuthorizeInput) (iso : Instant → String)
    (read : Quotes.Snapshot) (s : QuoteStore) : Bool :=
  !(input.reading iso read).authorizes read.settlement s.case ||
    (read.settlement.bind (·.quoteId)).any fun quoteId =>
      isConsumable s.quotes quoteId input.settlementId

/-- The quote read with the settlement is consumed by it. -/
def ConsumedBy (read : Quotes.Snapshot) (settlementId : String) (s : QuoteStore) : Prop :=
  ∃ quoteId q, read.settlement.bind (·.quoteId) = some quoteId ∧
    (s.quotes.find? fun q => decide (q.id = quoteId)) = some q ∧ q.status = .consumed ∧
      q.consumedBySettlementId = some settlementId

/-- What an authorization over both tables does: nothing, or it lands and the quote is consumed, or
it is refused with the settlement AUTHORIZED. -/
theorem Quotes.authorizeSettlement_commits
    (h : Commits (Quotes.authorizeSettlement iso digest read input) s r s') :
    (input.reading iso read).authorizes read.settlement s.case = false ∧
        (∃ refusal, r = .error refusal) ∧ s'.authorizationRows = s.authorizationRows ∨
      input.lands iso read s = true ∧ (∃ hash, r = .ok hash) ∧
        ConsumedBy read input.settlementId s' ∨
      input.lands iso read s = false ∧ (∃ refusal, r = .error refusal) ∧
        s.case.status = some .quoted ∧ s'.case.status = some .authorized := by
  unfold Quotes.authorizeSettlement at h
  cases holds : read.settlement.bind (·.quoteId) with
  | none =>
    simp only [holds] at h
    obtain ⟨c, inner, rfl, -⟩ := commits_onSettlement h
    cases found : read.settlement with
    | none =>
      simp only [found] at inner
      obtain ⟨rfl, rfl⟩ := commits_pure.mp inner
      exact .inl ⟨rfl, ⟨_, rfl⟩, rfl⟩
    | some row =>
      have unquoted : row.quoteId = none := by simpa [found] using holds
      simp only [found, InrSettle.authorizeSettlement, unquoted] at inner
      obtain ⟨rfl, rfl⟩ := commits_pure.mp inner
      exact .inl ⟨by simp [AuthorizeInput.authorizes, AuthorizeInput.allowedBy, unquoted],
        ⟨_, rfl⟩, rfl⟩
  | some quoteId =>
    simp only [holds] at h
    obtain ⟨outcome, t, ran, h⟩ := commits_bind.mp h
    obtain ⟨c, inner, rfl, -⟩ := commits_onSettlement ran
    have reading : input.reading iso read = { input with
        quote := getQuote iso read.quotes quoteId, quoteConsumed := true } := by
      simp [AuthorizeInput.reading, holds]
    rcases InrSettle.authorizeSettlement_commits rfl inner with
      ⟨authorizes, ⟨hash, rfl⟩, quoted, authorized⟩ | ⟨refused, ⟨refusal, rfl⟩, settlement, events⟩
    · obtain ⟨consumed, t, ran, h⟩ := commits_bind.mp h
      obtain ⟨quotes, consume, rfl⟩ := commits_onQuotes.mp ran
      rcases consume_commits consume with
        ⟨consumable, ⟨status, rfl⟩, q, -, found⟩ | ⟨gone, ⟨refusal, rfl⟩, rfl⟩
      · obtain ⟨rfl, rfl⟩ := commits_pure.mp h
        exact .inr (.inl ⟨by simp [AuthorizeInput.lands, holds, consumable], ⟨_, rfl⟩,
          quoteId, _, holds, found, rfl, rfl⟩)
      · obtain ⟨rfl, rfl⟩ := commits_pure.mp h
        exact .inr (.inr ⟨by simp [AuthorizeInput.lands, holds, reading, authorizes, gone],
          ⟨_, rfl⟩, quoted, authorized⟩)
    · obtain ⟨rfl, rfl⟩ := commits_pure.mp h
      exact .inl ⟨by rw [reading]; exact refused, ⟨_, rfl⟩,
        by simp [QuoteStore.authorizationRows, settlement, events]⟩

/-- The refusals of an authorization, and what an accepted one did to the quote. -/
structure AuthorizationRefusals (digest : AuthorizedInstruction → String) (iso : Instant → String)
    (read : Quotes.Snapshot) (s : QuoteStore) (input : AuthorizeInput) : Prop where
  rows : RefusalKeepsExactly QuoteStore.authorizationRows
    (Quotes.authorizeSettlement iso digest read input) s (input.lands iso read s = true)
  consumes : ∀ hash s', Commits (Quotes.authorizeSettlement iso digest read input) s (.ok hash) s' →
    ConsumedBy read input.settlementId s'

end

/-- Whatever the authorization read, and whatever has committed since: a refused one leaves the
settlement, its events and the quotes as they were exactly if it is refused before the settlement
moves or the quote can be consumed, and an accepted one has consumed the quote. -/
theorem authorizeSettlement_atomic (digest : AuthorizedInstruction → String)
    (iso : Instant → String) (read : Quotes.Snapshot) (s : QuoteStore) (input : AuthorizeInput) :
    AuthorizationRefusals digest iso read s input where
  rows := by
    refine refusalKeepsExactly_of_commits fun answer s' h => ?_
    rcases Quotes.authorizeSettlement_commits h with
      ⟨refused, -, kept⟩ | ⟨lands, done, -⟩ | ⟨fails, refusal, quoted, authorized⟩
    · exact .inl ⟨by simp [AuthorizeInput.lands, refused], .inl kept⟩
    · exact .inl ⟨lands, .inr done⟩
    · refine .inr ⟨by simp [fails], refusal, fun same => ?_⟩
      have settlement : s'.case.settlement = s.case.settlement := congrArg Prod.fst same
      rw [Case.status, settlement, ← Case.status, quoted] at authorized
      cases authorized
  consumes hash s' h := by
    rcases Quotes.authorizeSettlement_commits h with
      ⟨-, ⟨_, is⟩, -⟩ | ⟨-, -, consumed⟩ | ⟨-, ⟨_, is⟩, -⟩
    · cases is
    · exact consumed
    · cases is

/-- The sweeper expires the quote after the authorization has read it: the settlement is AUTHORIZED
behind a refusal, and the quote consumed by nobody. -/
theorem authorization_half_applied :
    ¬RefusalKeeps QuoteStore.authorizationRows
      (Quotes.authorizeSettlement (fun _ => "") (fun _ => "digest")
        ((marketAfter sweptUnder).read 0 1 "s") {
          settlementId := "s", actor := approver, mayAuthorize := true, separationEnabled := true
          quote := none, beneficiaryVerified := true
          destination := some ⟨"destination", "version", true⟩, preflightPassing := true
          hasActiveLiquidityFacility := true, quoteConsumed := false, now := 100 })
      ((marketAfter sweptUnder).quoteStore "s") :=
  not_refusalKeeps .quoteNotConsumed (by decide +kernel) (by decide +kernel)

end InrSettle
