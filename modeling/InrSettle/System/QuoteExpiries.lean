import InrSettle.System.Announcements
import InrSettle.System.Quotes

/-!
# Quotes that expire and what is said of them

A quote becomes EXPIRED in the sweeper's statement or beside a settlement's
transition; what is said of it is said by the transition alone, and a
cancellation says it of a quote that it leaves as it was.
-/

namespace InrSettle

open Transaction CaseTables Run

/-! ### What is said -/

/-- The one event that names a quote as expired. -/
def quoteExpiries : List EventType := [.companion .quoteExpired]

/-- The quotes a settlement's transactions said had expired, in order. -/
def Case.expiries (c : Case) : List String :=
  (c.saying (.companion .quoteExpired)).map (·.subjectId)

theorem Unsaid.expiries {c c' : Case} (unsaid : Unsaid quoteExpiries c c') :
    c'.expiries = c.expiries := by
  rw [Case.expiries, unsaid _ (by decide), Case.expiries]

theorem hushed_quoteExpiries : Hushed quoteExpiries := ⟨by decide, by decide⟩

/-- A transition says what its companions say. -/
theorem Moved.expiries {input : ApplyTransitionInput} {c c' : Case} (moved : Moved input c c') :
    c'.expiries = c.expiries ++
      (input.companions.filter fun offered => decide (offered.type = .quoteExpired)).map
        (·.subjectId) := by
  obtain ⟨old, new, t, -, takes, rfl⟩ := moved
  have status : ∀ events : List SettlementStatusEvent, (events.map (statusEventOf input old t
      (t.leadsTo old.exceptionEnteredFrom))).filter
        (fun e => decide (e.type = .companion .quoteExpired)) = [] := fun events => by
    simp [List.filter_eq_nil_iff, statusEventOf]
  simp only [Case.expiries, Case.saying, Case.transitioned, transitionEvents, List.filter_append,
    status, List.nil_append, List.map_append, List.filter_map, List.map_map]
  congr 2
  refine List.filter_congr fun companion _ => ?_
  simp [CompanionEmission.event]

/-- The operations that may say it. -/
def SettlementOp.expiresQuotes : SettlementOp → Bool
  | .expireAttachedQuote .. | .cancelSettlement _ => true
  | _ => false

section Operations

variable {digest : AuthorizedInstruction → String} {read : Reads} {s : Store}

theorem drawdownTransition_quiet (input : ResolveDrawdownInput) (target : DrawdownStatus) :
    (drawdownTransition input target).trigger.isQuietOf quoteExpiries = true := by
  cases target <;> simp only [drawdownTransition] <;> decide

theorem Resolution.quiet (resolution : Resolution) :
    resolution.trigger.isQuietOf quoteExpiries = true := by
  cases resolution <;> decide

theorem requestDrawdown_unsaid (input : DrawInput) :
    Keeps (StoreUnsaid quoteExpiries) (requestDrawdown input) := by
  refine .bind .get fun s => ?_
  split
  · exact .pure _
  dsimp only
  refine .bind (unsaid_onCase (unsaid_transition .requestDrawdown rfl (by decide)))
    fun outcome => ?_
  cases outcome with
  | error failure => exact .pure _
  | ok done =>
    dsimp only
    split
    · exact .pure _
    have inserted : ∀ d, Keeps (Unsaid quoteExpiries) (insertDrawdown d) := fun d =>
      .bind .get fun _ => .bind (.require _ _) fun _ => .bind (.require _ _) fun _ =>
        .bind (.require _ _) fun _ => .bind (.require _ _) fun _ =>
          .modify fun _ => unsaid_of_events rfl
    exact .bind (unsaid_onCase (inserted _)) fun _ => .pure _

theorem resolveDrawdown_unsaid (input : ResolveDrawdownInput) :
    Keeps (StoreUnsaid quoteExpiries) (resolveDrawdown input) := by
  refine .bind .get fun s => ?_
  split
  · exact .pure _
  split
  · exact .pure _
  split
  · exact .pure _
  split
  · exact .pure _
  split
  · exact .pure _
  have updated : ∀ id target now reference,
      Keeps (Unsaid quoteExpiries) (updateDrawdown id target now reference) := fun _ _ _ _ =>
    .bind .get fun _ => .bind (.require _ _) fun _ => .modify fun _ => unsaid_of_events rfl
  refine .bind (unsaid_onCase (updated _ _ _ _)) fun _ => .bind (unsaid_onLiquidity _) fun r => ?_
  cases r with
  | error refusal => exact .pure _
  | ok done =>
    refine .bind (unsaid_onCase (unsaid_transition _ rfl (drawdownTransition_quiet _ _)))
      fun outcome => ?_
    cases outcome <;> exact .pure _

theorem resolveException_unsaid (settlement : Option SettlementRow) (input : ResolveInput) :
    Keeps (Unsaid quoteExpiries) (resolveException settlement input) := by
  unfold resolveException
  split
  · exact .pure _
  refine .bind (unsaid_transition _ rfl (Resolution.quiet _)) fun outcome => ?_
  cases outcome with
  | error failure => exact .pure _
  | ok done => exact .bind (unsaid_resolveExceptions _ _ _ _) fun _ => .pure _

theorem resolveExceptionAsOperator_unsaid (ctx : OperatorContext) (input : OperatorResolveInput) :
    Keeps (StoreUnsaid quoteExpiries) (resolveExceptionAsOperator ctx input) := by
  have gives : Keeps (StoreUnsaid quoteExpiries) (input.giveBack ctx) := by
    unfold OperatorResolveInput.giveBack
    split
    · exact .pure _
    · exact unsaid_compensateCancellation _
  unfold resolveExceptionAsOperator requireCapability
  refine .bind (.bind (.require _ _) fun _ => .require _ _) fun _ => .bind .get fun s => ?_
  split
  · exact .pure _
  split
  · exact .pure _
  split
  · exact .pure _
  split
  · exact .pure _
  refine .bind gives fun given => ?_
  cases given with
  | error refusal => exact .pure _
  | ok compensation =>
    refine .bind (unsaid_onCase (unsaid_transition _ rfl (Resolution.quiet _))) fun outcome => ?_
    cases outcome with
    | error failure => exact .pure _
    | ok done =>
      exact .bind (unsaid_onCase (unsaid_resolveExceptions _ _ _ _)) fun _ =>
        .bind (unsaid_onCase (.modify fun _ => unsaid_of_events rfl)) fun _ => .pure _

/-- No other operation says that a quote has expired. -/
theorem settlementStep_expiries {op : SettlementOp} (other : op.expiresQuotes = false) :
    (settlementStep digest read s op).case.expiries = s.case.expiries := by
  refine Unsaid.expiries ?_
  by_cases quiet : op.mayAnnounce = false
  · refine settlementStep_unsaid hushed_quoteExpiries quiet ?_ ?_
    · rintro settlementId input rfl
      cases other
    · rintro input rfl
      cases other
  cases op with
  | honourCancellation input =>
    refine unsaid_after ?_
    unfold honourCancellation
    split
    · exact .pure _
    · exact unsaid_transition .cancellationHonoured rfl (by decide)
  | openException input =>
    refine unsaid_after (unsaid_openException _ _ ?_)
    cases input.trigger <;> decide
  | resolveException input => exact unsaid_after (resolveException_unsaid _ _)
  | requestDrawdown input => exact (requestDrawdown_unsaid input).after s
  | resolveDrawdown input => exact (resolveDrawdown_unsaid input).after s
  | resolveExceptionAsOperator ctx input =>
    exact (resolveExceptionAsOperator_unsaid ctx input).after s
  | _ => exact (quiet rfl).elim

end Operations

/-! ### What a quote can become -/

/-- A quote that can still be consumed. -/
def QuoteStatus.isLive : QuoteStatus → Bool
  | .active | .locked => true
  | .consumed | .expired | .void => false

/-- The quotes after a step: those that were not live are as they were, and a new one is. -/
def QuotesAdvance (qs qs' : List QuoteRow) : Prop :=
  ∀ q' ∈ qs', (∀ q ∈ qs, q.id ≠ q'.id) ∧ q'.status = .active ∨
    ∃ q ∈ qs, q.id = q'.id ∧ (q'.status = q.status ∨ q.status.isLive = true)

section QuotesAdvance

variable {qs qs' : List QuoteRow}

theorem advances_refl (qs : List QuoteRow) : QuotesAdvance qs qs :=
  fun q mem => .inr ⟨q, mem, rfl, .inl rfl⟩

theorem createQuote_advances {quoteId : String} {price : QuotePrice} {r : PUnit}
    (h : Commits (createQuote quoteId price) qs r qs') : QuotesAdvance qs qs' := by
  simp only [createQuote, commits_get_bind, commits_require_bind, commits_modify] at h
  obtain ⟨fresh, -, rfl⟩ := h
  intro q mem
  rcases List.mem_append.mp mem with old | new
  · exact advances_refl qs q old
  · rw [List.mem_singleton.mp new]
    exact .inl ⟨fresh, rfl⟩

theorem expireDueQuotes_advances {now : Instant} {r : PUnit}
    (h : Commits (expireDueQuotes now) qs r qs') : QuotesAdvance qs qs' := by
  obtain rfl := commits_modify.mp h
  intro q mem
  rcases Table.mem_setWhere.mp mem with ⟨old, is, due, rfl⟩ | ⟨is, -⟩
  · refine .inr ⟨old, is, rfl, .inr ?_⟩
    rcases isDue_status due with status | status <;> rw [status] <;> rfl
  · exact advances_refl qs q is

theorem quoteMachine_live {trigger : QuoteTrigger} {status : QuoteStatus} {row : QuoteTransition}
    (evaluated : quoteMachine.evaluate (some status) trigger = some row) :
    status.isLive = true := by
  obtain ⟨mem, -, source⟩ := Machine.evaluate_some evaluated
  have listed : ∀ row ∈ quoteMachine.rows, ∀ status ∈ row.source, status.isLive = true := by
    decide
  exact listed row mem status source

theorem transitionQuote_advances {args : QuoteArgs} {r : Except QuoteRefusal QuoteStatus}
    (h : Commits (transitionQuote args) qs r qs') : QuotesAdvance qs qs' := by
  rcases transitionQuote_spec h with ⟨rfl, -⟩ | ⟨old, row, is, -, evaluated, -, -, rfl⟩
  · exact advances_refl qs'
  intro q mem
  rcases Table.mem_setWhere.mp mem with ⟨-, -, -, rfl⟩ | ⟨is, -⟩
  · exact .inr ⟨old, is, rfl, .inr (quoteMachine_live evaluated)⟩
  · exact advances_refl qs q is

/-- A live quote that is asked to expire has expired. -/
theorem transitionQuote_expires {args : QuoteArgs} {r : Except QuoteRefusal QuoteStatus}
    (h : Commits (transitionQuote args) qs r qs') (distinct : (qs.map (·.id)).Nodup)
    (trigger : args.trigger = .expire) {q : QuoteRow} (mem : q ∈ qs) (is : q.id = args.quoteId)
    (live : q.status.isLive = true) : ∃ q' ∈ qs', q'.id = q.id ∧ q'.status = .expired := by
  rcases transitionQuote_spec h with ⟨rfl, refused⟩ | ⟨old, row, mem', same, evaluated, -, -, rfl⟩
  · cases found : qs'.find? fun q => decide (q.id = args.quoteId) with
    | none => simpa [is] using List.find?_eq_none.mp found q mem
    | some first =>
      have key : first.id = args.quoteId := by simpa using List.find?_some found
      obtain rfl : first = q :=
        Table.eq_of_key distinct (List.mem_of_find?_eq_some found) mem (key.trans is.symm)
      have target := refused first found ⟨.q04, [.active, .locked], .expire, .expired⟩ (by
        rw [trigger]
        cases status : first.status <;> rw [status] at live <;> first | rfl | cases live)
      cases target
  · obtain rfl : old = q := Table.eq_of_key distinct mem' mem (same.trans is.symm)
    obtain ⟨listed, answers, -⟩ := Machine.evaluate_some evaluated
    have expires : ∀ row ∈ quoteMachine.rows, row.trigger = .expire → row.target = .expired := by
      decide
    have expired : row.target = .expired := expires row listed (answers.trans trigger)
    exact ⟨args.moved row.target old, Table.mem_setWhere.mpr (.inl ⟨old, mem, by simp, rfl⟩), rfl,
      expired⟩

end QuotesAdvance

/-! ### Cancellations before authorization -/

/-- The statuses a settlement is cancelled from at once. -/
def preAuthorization : List SettlementStatus := [.draft, .ready, .quoted, .actionRequired]

section Rows

variable {op : SettlementOp} {c c' : Case}

/-- Nothing moves a cancelled settlement. -/
theorem RowMove.cancelled (moved : RowMove op c c') (is : c.status = some .cancelled) :
    c'.settlement = c.settlement := by
  obtain ⟨row, found, status⟩ := Option.map_eq_some_iff.mp is
  cases moved with
  | still same => exact same
  | created absent => simp [absent] at found
  | taken before after takes _ =>
    obtain rfl := Option.some.inj (before.symm.trans found)
    have source := takes.source
    rw [status] at source
    have ends : ∀ trigger : Trigger, SettlementStatus.cancelled ∉ trigger.sources := by
      intro trigger
      cases trigger <;> decide
    exact (ends _ source).elim

/-- Before authorization, only T25 leads to CANCELLED. -/
theorem trigger_of_cancelled {input : ApplyTransitionInput} {t : Transition}
    {old new : SettlementRow} (takes : Takes input t old new)
    (before : old.status ∈ preAuthorization) (is : new.status = .cancelled) :
    input.trigger = .cancel := by
  have listed : ∀ trigger : Trigger, ∀ status ∈ preAuthorization, status ∈ trigger.sources →
      trigger.isResolution = false ∧
        ((trigger.leadsTo none).getD status = .cancelled → trigger = .cancel) := by
    intro trigger
    cases trigger <;> decide
  obtain ⟨ordinary, onlyCancel⟩ := listed _ _ before takes.source
  refine onlyCancel ?_
  rw [← leadsTo_eq ordinary old.exceptionEnteredFrom, ← takes.status, is]

/-- The settlement was cancelled before it was authorized. -/
def CancelledEarly (c c' : Case) : Prop :=
  (∃ status ∈ preAuthorization, c.status = some status) ∧ c'.status = some .cancelled

instance (c c' : Case) : Decidable (CancelledEarly c c') := by
  unfold CancelledEarly
  infer_instance

theorem RowTurn.cancelledEarly (turn : RowTurn op c c') (early : CancelledEarly c c') :
    .cancel ∈ op.plainTriggers := by
  obtain ⟨⟨status, before, was⟩, is⟩ := early
  cases turn with
  | still same =>
    have ends : status = .cancelled := by
      rw [Case.status, same, ← Case.status, was] at is
      exact Option.some.inj is
    exact absurd (ends ▸ before) (by decide)
  | created absent _ => simp [Case.status, absent] at was
  | taken found written takes asks =>
    rename_i input old new t
    simp only [Case.status, found, written, Option.map_some, Option.some.injEq] at was is
    have trigger := trigger_of_cancelled takes (was ▸ before) is
    rw [trigger] at asks
    exact asks.resolve_right fun unasked => unasked.1 (by decide)

end Rows

/-! ### What a step says -/

section Specs

variable {digest : AuthorizedInstruction → String} {iso : Instant → String}
  {settlement : Option SettlementRow} {c c' : Case}

variable (digest) in
/-- What committed on one settlement is what the operation did to it. -/
theorem step_of_commits {α : Type} {m : CaseTx α} {r : α} (h : Commits m c r c')
    (op : SettlementOp) (read : Reads)
    (is : ∀ s, settlementStep digest read s op = after (onCase m) s) :
    (settlementStep digest read ⟨c, {}⟩ op).case = c' := by
  rw [is, after_onCase_case, after_of_commits h]

variable (digest) in
theorem rowTurn_of_commits {α : Type} {m : CaseTx α} {r : α} (h : Commits m c r c')
    (op : SettlementOp) (read : Reads)
    (is : ∀ s, settlementStep digest read s op = after (onCase m) s) : RowTurn op c c' := by
  have turn : RowTurn op c (settlementStep digest read ⟨c, {}⟩ op).case :=
    (settlementStep_move (s := ⟨c, {}⟩) op).rowTurn
  rwa [step_of_commits digest h op read is] at turn

/-- Whether the settlement can be cancelled at once, as it was read and as it is. -/
def CancelInput.takesEffect (input : CancelInput) (settlement : Option SettlementRow)
    (c : Case) : Bool :=
  settlement.any (fun row => decide (row.status ∈ preAuthorization)) &&
    c.accepts .cancel [(.actorMayCancel, input.mayCancel)]

/-- A cancellation before authorization names the quote that the settlement was read with. -/
theorem cancelSettlement_spec {input : CancelInput} {r : Except CancelRefusal Transitioned}
    (h : Commits (cancelSettlement settlement input) c r c') :
    c'.expiries = c.expiries ∧ ¬CancelledEarly c c' ∨
      input.takesEffect settlement c = true ∧ c'.quoteId = c.quoteId ∧
        c'.expiries = c.expiries ++ (settlement.bind (·.quoteId)).toList := by
  have late : ∀ {c₁}, RowTurn (.requestCancellation input) c c₁ → ¬CancelledEarly c c₁ :=
    fun turn early => by simpa [SettlementOp.plainTriggers] using turn.cancelledEarly early
  unfold cancelSettlement at h
  split at h
  · obtain ⟨-, rfl⟩ := commits_pure.mp h
    exact .inl ⟨rfl, late (.still rfl)⟩
  rename_i row
  split at h
  · rename_i before
    obtain ⟨outcome, c₁, applied, done⟩ := commits_bind.mp h
    obtain ⟨-, rfl⟩ := commits_pure.mp done
    rcases applyTransition_moved applied with ⟨-, rfl⟩ | ⟨-, moved⟩
    · exact .inl ⟨rfl, late (.still rfl)⟩
    refine .inr ⟨?_, ?_, ?_⟩
    · have accepted : c.accepts .cancel [(.actorMayCancel, input.mayCancel)] = true :=
        moved.accepted
      simpa [CancelInput.takesEffect, accepted, preAuthorization] using before
    · obtain ⟨old, new, t, found, takes, rfl⟩ := moved
      simp [Case.quoteId, found, takes.quoteId, applyPatch]
    · rw [moved.expiries]
      cases named : row.quoteId <;> simp [named]
  · exact .inl ⟨(unsaid_requestCancellation hushed_quoteExpiries input h).expiries,
      late (rowTurn_of_commits (fun _ => "") h (.requestCancellation input)
        ⟨none, none, none⟩ fun _ => rfl)⟩

/-- The quote T07 is taken off for, as the settlement and the quotes were read. -/
def Quotes.QuotingInput.takesOff (iso : Instant → String) (input : Quotes.QuotingInput)
    (read : Quotes.Snapshot) (c : Case) : Option String :=
  (read.settlement.bind (·.quoteId)).filter fun quoteId =>
    c.accepts .quoteExpired [(.quoteExpiredByServerClock,
      (getQuote iso read.quotes quoteId).any fun quote => decide (quote.expiresAt < input.now))]

/-- An expiry names the quote it asks to expire. -/
theorem expireAttachedQuote_says {read : Quotes.Snapshot} {input : Quotes.QuotingInput}
    {s s' : QuoteStore} {r : TransitionOutcome}
    (h : Commits (Quotes.expireAttachedQuote iso read input) s r s') :
    s' = s ∨ ∃ quoteId, input.takesOff iso read s.case = some quoteId ∧
      s'.case.expiries = s.case.expiries ++ [quoteId] ∧ ∃ args r, args.trigger = .expire ∧
        args.quoteId = quoteId ∧ Commits (transitionQuote args) s.quotes r s'.quotes := by
  unfold Quotes.expireAttachedQuote at h
  split at h
  · exact .inl (commits_pure.mp h).2
  rename_i quoteId reads
  obtain ⟨outcome, t, ran, h⟩ := commits_bind.mp h
  obtain ⟨c, inner, rfl, -⟩ := commits_onSettlement ran
  unfold InrSettle.expireAttachedQuote at inner
  rw [reads] at inner
  rcases applyTransition_moved inner with ⟨⟨failure, rfl⟩, rfl⟩ | ⟨⟨done, rfl⟩, moved⟩
  · exact .inl (commits_pure.mp h).2
  obtain ⟨answered, t, expired, h⟩ := commits_bind.mp h
  obtain ⟨-, rfl⟩ := commits_pure.mp h
  obtain ⟨quotes, expire, rfl⟩ := commits_onQuotes.mp expired
  have due : (getQuote iso read.quotes quoteId).any (fun quote =>
      decide (quote.expiresAt < input.now)) = true :=
    Option.some.inj (moved.answered (show Guard.quoteExpiredByServerClock ∈
      Trigger.guards .quoteExpired by decide))
  have accepted := moved.accepted
  refine .inr ⟨quoteId, ?_, ?_, _, _, rfl, rfl, expire⟩
  · simp only [Quotes.QuotingInput.takesOff, reads, Option.filter_some]
    exact if_pos accepted
  · refine moved.expiries.trans (congrArg (s.case.expiries ++ ·) ?_)
    exact congrArg (fun companions : List CompanionEmission => (companions.filter fun offered =>
      decide (offered.type = .quoteExpired)).map (·.subjectId)) (if_pos due)

/-- What an authorization does to the settlement is what the service on the settlement alone did,
asked with the quote it read. -/
theorem authorizeSettlement_inner {read : Quotes.Snapshot} {input : AuthorizeInput}
    {s s' : QuoteStore} {r : Except AuthorizeRefusal String}
    (h : Commits (Quotes.authorizeSettlement iso digest read input) s r s') :
    ∃ (asked : AuthorizeInput) (r : Except AuthorizeRefusal String),
      Commits (authorizeSettlement digest read.settlement asked) s.case r s'.case := by
  unfold Quotes.authorizeSettlement at h
  split at h
  · obtain ⟨c, inner, rfl, -⟩ := commits_onSettlement h
    exact ⟨_, _, inner⟩
  obtain ⟨outcome, t, ran, h⟩ := commits_bind.mp h
  obtain ⟨c, inner, rfl, -⟩ := commits_onSettlement ran
  have case : s'.case = c := by
    cases outcome with
    | error refusal => exact congrArg QuoteStore.case (commits_pure.mp h).2
    | ok hash =>
      obtain ⟨consumed, t, ran, h⟩ := commits_bind.mp h
      have same : s' = t := by
        split at h <;> exact (commits_pure.mp h).2
      subst same
      obtain ⟨quotes, -, rfl⟩ := commits_onQuotes.mp ran
      rfl
  exact ⟨_, _, case ▸ inner⟩

end Specs

end InrSettle
