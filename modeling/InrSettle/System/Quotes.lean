import InrSettle.System.QuoteKept
import InrSettle.System.QuoteTable

/-!
# Quotes and the settlements that hold them

Which settlement holds a quote, over every order of the transactions that attach,
expire and consume it: a quote is held once, its consumer and its price are kept,
and a settlement in QUOTED holds one that has been locked.
-/

namespace InrSettle

open Transaction CaseTables Run

/-! ### What the services on both tables commit -/

section Settlement

variable {c c' : Case} {settlement : Option SettlementRow}

theorem Moved.answered {asked : ApplyTransitionInput} (moved : Moved asked c c') {g : Guard}
    (asks : g ∈ asked.trigger.guards) : asked.guards.lookup g = some true := by
  obtain ⟨_, _, _, -, takes, -⟩ := moved
  exact takes.guarded g asks

/-- T06 was refused, or taken on a quote that was attachable as it was read. -/
theorem attachQuote_taken {input : QuoteInput} {r : TransitionOutcome}
    (h : Commits (attachQuote settlement input) c r c') :
    (∃ failure, r = .error failure) ∧ c' = c ∨
      (∃ done, r = .ok done) ∧ input.quote.isSome ∧ ∃ asked, asked.trigger = .attachQuote ∧
        asked.patch = [.quoteId (some input.quoteId)] ∧ Moved asked c c' := by
  unfold attachQuote at h
  split at h
  · obtain ⟨rfl, rfl⟩ := commits_pure.mp h
    exact .inl ⟨⟨_, rfl⟩, rfl⟩
  rename_i row
  rcases applyTransition_moved h with refused | ⟨done, moved⟩
  · exact .inl refused
  have attachable : isAttachable row input.quote input.now = true :=
    Option.some.inj (moved.answered (show Guard.quoteAttachable ∈ Trigger.guards .attachQuote by
      decide))
  refine .inr ⟨done, ?_, _, rfl, if_pos attachable, moved⟩
  cases found : input.quote with
  | none => simp [isAttachable, found] at attachable
  | some quote => rfl

/-- T07 was refused, or taken on a quote that had expired as it was read. -/
theorem expireAttachedQuote_taken {input : QuoteInput} {r : TransitionOutcome}
    (h : Commits (expireAttachedQuote settlement input) c r c') :
    (∃ failure, r = .error failure) ∧ c' = c ∨
      (∃ done, r = .ok done) ∧ ∃ asked, asked.trigger = .quoteExpired ∧
        asked.patch = [.quoteId none] ∧ Moved asked c c' := by
  unfold expireAttachedQuote at h
  split at h
  · obtain ⟨rfl, rfl⟩ := commits_pure.mp h
    exact .inl ⟨⟨_, rfl⟩, rfl⟩
  rcases applyTransition_moved h with refused | ⟨done, moved⟩
  · exact .inl refused
  have expired : (input.quote.any fun quote => decide (quote.expiresAt < input.now)) = true :=
    Option.some.inj (moved.answered (show Guard.quoteExpiredByServerClock ∈
      Trigger.guards .quoteExpired by decide))
  exact .inr ⟨done, _, rfl, if_pos expired, moved⟩

/-- An authorization that answered moved the settlement to AUTHORIZED. -/
theorem authorizeSettlement_ok {digest : AuthorizedInstruction → String} {input : AuthorizeInput}
    {hash : String} (h : Commits (authorizeSettlement digest settlement input) c (.ok hash) c') :
    ∃ asked, asked.trigger = .authorize ∧ Moved asked c c' := by
  unfold authorizeSettlement at h
  split at h
  · cases (commits_pure.mp h).1
  split at h
  · cases (commits_pure.mp h).1
  simp only at h
  split at h
  · cases (commits_pure.mp h).1
  split at h
  · simp only [audit, commits_modify_bind, commits_pure] at h
    cases h.1
  split at h
  · obtain ⟨outcome, c₁, applied, h⟩ := commits_bind.mp h
    rcases applyTransition_moved applied with ⟨⟨failure, rfl⟩, -⟩ | ⟨⟨done, rfl⟩, moved⟩
    · cases (commits_pure.mp h).1
    · have same : c' = c₁ := by
        simp only at h
        split at h <;> exact (commits_pure.mp h).2
      exact ⟨_, rfl, same ▸ moved⟩
  · obtain ⟨outcome, c₁, -, h⟩ := commits_bind.mp h
    split at h <;> cases (commits_pure.mp h).1

end Settlement

section Services

variable {digest : AuthorizedInstruction → String} {iso : Instant → String}
  {read : Quotes.Snapshot} {s s' : QuoteStore}

theorem getQuote_isSome {quotes : List QuoteRow} {quoteId : String}
    (found : (getQuote iso quotes quoteId).isSome) : ∃ q ∈ quotes, q.id = quoteId := by
  obtain ⟨view, is⟩ := Option.isSome_iff_exists.mp found
  obtain ⟨q, found, -⟩ := Option.map_eq_some_iff.mp is
  exact ⟨q, List.mem_of_find?_eq_some found, by simpa using List.find?_some found⟩

/-- What an attachment did: the settlement moved to QUOTED with a quote that was there to read and
that no other settlement holds, and the quote's lock was asked for. -/
structure Attached (read : Quotes.Snapshot) (quoteId : String) (s s' : QuoteStore) : Prop where
  row : ∃ op, RowMove op s.case s'.case
  holds : s'.case.quoteId = some quoteId
  wasThere : ∃ q ∈ read.quotes, q.id = quoteId
  free : quoteId ∉ s.heldElsewhere
  lock : ∃ args r, args.trigger = .lock ∧ args.quoteId = quoteId ∧
    Commits (transitionQuote args) s.quotes r s'.quotes

theorem attachQuote_spec {input : Quotes.QuotingInput} {r : TransitionOutcome}
    (h : Commits (Quotes.attachQuote iso read input) s r s') :
    s' = s ∨ Attached read input.quoteId s s' := by
  obtain ⟨outcome, t, ran, h⟩ := commits_bind.mp h
  obtain ⟨c, inner, rfl, once⟩ := commits_onSettlement ran
  rcases attachQuote_taken inner with
    ⟨⟨failure, rfl⟩, rfl⟩ | ⟨⟨done, rfl⟩, there, asked, trigger, patch, moved⟩
  · obtain ⟨-, rfl⟩ := commits_pure.mp h
    exact .inl rfl
  right
  obtain ⟨answered, t, locked, h⟩ := commits_bind.mp h
  obtain ⟨-, rfl⟩ := commits_pure.mp h
  obtain ⟨quotes, lock, rfl⟩ := commits_onQuotes.mp locked
  have row : RowMove (.attachQuote input.settlementId (input.reading none)) s.case c :=
    rowMove_of_moved (s := ⟨s.case, {}⟩) moved rfl rfl (by rw [trigger]; decide)
  have holds : c.quoteId = some input.quoteId := by
    obtain ⟨old, new, row, found, takes, rfl⟩ := moved
    have written : new.quoteId = some input.quoteId := by
      rw [takes.quoteId, patch]
      rfl
    simpa [Case.quoteId] using written
  refine ⟨⟨_, row⟩, holds, getQuote_isSome there, ?_, ⟨_, _, rfl, rfl, lock⟩⟩
  simpa [heldOnce, ← Case.quoteId.eq_def, holds] using once

/-- What an expiry did: the settlement moved to READY without its quote, and the quote the
settlement was read with was asked to expire. -/
structure Dropped (s s' : QuoteStore) : Prop where
  row : ∃ op, RowMove op s.case s'.case
  holds : s'.case.quoteId = none
  ready : s'.case.status = some .ready
  expire : ∃ args r, args.trigger = .expire ∧ Commits (transitionQuote args) s.quotes r s'.quotes

theorem expireAttachedQuote_spec {input : Quotes.QuotingInput} {r : TransitionOutcome}
    (h : Commits (Quotes.expireAttachedQuote iso read input) s r s') : s' = s ∨ Dropped s s' := by
  unfold Quotes.expireAttachedQuote at h
  split at h
  · exact .inl (commits_pure.mp h).2
  obtain ⟨outcome, t, ran, h⟩ := commits_bind.mp h
  obtain ⟨c, inner, rfl, -⟩ := commits_onSettlement ran
  rcases expireAttachedQuote_taken inner with
    ⟨⟨failure, rfl⟩, rfl⟩ | ⟨⟨done, rfl⟩, asked, trigger, patch, moved⟩
  · exact .inl (commits_pure.mp h).2
  obtain ⟨answered, t, expired, h⟩ := commits_bind.mp h
  obtain ⟨-, rfl⟩ := commits_pure.mp h
  obtain ⟨quotes, expire, rfl⟩ := commits_onQuotes.mp expired
  have row : RowMove (.expireAttachedQuote input.settlementId (input.reading none)) s.case c :=
    rowMove_of_moved (s := ⟨s.case, {}⟩) moved rfl rfl (by rw [trigger]; decide)
  obtain ⟨old, new, row, found, takes, rfl⟩ := moved
  have written : new.quoteId = none := by
    rw [takes.quoteId, patch]
    rfl
  have status : new.status = .ready := by
    rw [takes.status, trigger, leadsTo_eq (by decide)]
    rfl
  exact .inr ⟨⟨_, row⟩, by simpa [Case.quoteId] using written, by simpa [Case.status] using status,
    ⟨_, _, rfl, expire⟩⟩

/-! ### Settlements that consumed a quote -/

open SettlementStatus in
/-- The statuses a settlement is in once it has been authorized. -/
def authorizedStatuses : List SettlementStatus :=
  [authorized, liquidityReserving, liquidityReserved, drawdownRequested, drawdownConfirmed,
    payoutSubmitted, payoutConfirmed, reconciling, exception, settled, failed, cancelled]

theorem authorizedStatuses_closed : Closed authorizedStatuses exceptionOrigins where
  leads := by
    intro trigger _
    cases trigger <;> decide
  resumes := by decide

/-- The settlement has been authorized. -/
def Authorized (c : Case) : Prop :=
  ∃ row, c.settlement = some row ∧ StaysIn authorizedStatuses exceptionOrigins row

theorem RowMove.authorized {op : SettlementOp} {c c' : Case} (moved : RowMove op c c')
    (held : Authorized c) : Authorized c' := by
  obtain ⟨row, found, stays⟩ := held
  cases moved with
  | still same => exact ⟨row, same.trans found, stays⟩
  | created absent _ _ => simp [absent] at found
  | taken before after takes _ =>
    obtain rfl := Option.some.inj (before.symm.trans found)
    exact ⟨_, after, takes.staysIn authorizedStatuses_closed stays (fun _ => by decide)
      fun _ => by decide⟩

theorem Moved.authorized {asked : ApplyTransitionInput} {c c' : Case} (moved : Moved asked c c')
    (trigger : asked.trigger = .authorize) : Authorized c' := by
  obtain ⟨old, new, t, -, takes, rfl⟩ := moved
  have status : new.status = .authorized := by
    rw [takes.status, trigger, leadsTo_eq (by decide)]
    rfl
  exact ⟨new, rfl, by rw [status]; decide, fun is => by rw [status] at is; cases is⟩

/-- Whether or not it was authorized, the settlement holds the quote it held; a quote is consumed
only by a settlement that was. -/
structure AuthorizeMove (s s' : QuoteStore) (settlementId : String) : Prop where
  row : ∃ op, RowMove op s.case s'.case
  kept : ColumnsKept s.case → QuoteKept s.case s'.case
  quotes : s'.quotes = s.quotes ∨ Authorized s'.case ∧ ∃ args r, args.trigger = .consume ∧
    args.consumedBySettlementId = some settlementId ∧
    Commits (transitionQuote args) s.quotes r s'.quotes

theorem authorizeSettlement_kept {settlement : Option SettlementRow} {input : AuthorizeInput}
    {r : Except AuthorizeRefusal String} {c c' : Case}
    (h : Commits (authorizeSettlement digest settlement input) c r c') :
    (∃ op, RowMove op c c') ∧ (ColumnsKept c → QuoteKept c c') := by
  let reads : Reads := ⟨settlement, none, none⟩
  have moved : StoreMove digest reads ⟨c, {}⟩ (.authorizeSettlement input) ⟨c', {}⟩ :=
    authorizeSettlement_move input r c' h
  exact ⟨⟨_, moved.row⟩, moved.quoteKept rfl⟩

theorem authorizeSettlement_spec {input : AuthorizeInput} {r : Except AuthorizeRefusal String}
    (h : Commits (Quotes.authorizeSettlement iso digest read input) s r s') :
    AuthorizeMove s s' input.settlementId := by
  unfold Quotes.authorizeSettlement at h
  split at h
  · obtain ⟨c, inner, rfl, -⟩ := commits_onSettlement h
    exact ⟨(authorizeSettlement_kept inner).1, (authorizeSettlement_kept inner).2, .inl rfl⟩
  obtain ⟨outcome, t, ran, h⟩ := commits_bind.mp h
  obtain ⟨c, inner, rfl, -⟩ := commits_onSettlement ran
  obtain ⟨row, kept⟩ := authorizeSettlement_kept inner
  cases outcome with
  | error refusal =>
    obtain ⟨-, rfl⟩ := commits_pure.mp h
    exact ⟨row, kept, .inl rfl⟩
  | ok hash =>
    obtain ⟨asked, trigger, moved⟩ := authorizeSettlement_ok inner
    obtain ⟨consumed, t, ran, h⟩ := commits_bind.mp h
    have same : s' = t := by
      split at h <;> exact (commits_pure.mp h).2
    subst same
    obtain ⟨quotes, consume, rfl⟩ := commits_onQuotes.mp ran
    exact ⟨row, kept, .inr ⟨moved.authorized trigger, _, _, rfl, rfl, consume⟩⟩

end Services

/-! ### The market -/

/-- What holds of a tenant's settlements and quotes in every state. -/
structure Market.InOrder (m : Market) : Prop where
  known : ∀ settlementId, (m.caseOf settlementId).settlement ≠ none → settlementId ∈ m.named
  columns : ∀ settlementId, ColumnsKept (m.caseOf settlementId)
  once : ∀ settlementId other quoteId, m.holds settlementId = some quoteId →
    m.holds other = some quoteId → settlementId = other
  table : TableInOrder (fun settlementId => Authorized (m.caseOf settlementId)) m.pastQuotes
    m.quotes
  quoted : ∀ settlementId, (m.caseOf settlementId).status = some .quoted →
    ∃ q ∈ m.quotes, m.holds settlementId = some q.id ∧ q.status ≠ .active

/-- What every step does to the settlements' rows. -/
structure Market.RowsMove (m m' : Market) : Prop where
  moved : ∀ settlementId, ∃ op, RowMove op (m.caseOf settlementId) (m'.caseOf settlementId)
  known : ∀ settlementId, (m'.caseOf settlementId).settlement ≠ none →
    (m.caseOf settlementId).settlement ≠ none ∨ settlementId ∈ m'.named
  named : ∀ settlementId ∈ m.named, settlementId ∈ m'.named

section Step

variable {m m' : Market}

theorem QuotesLater.left {qs qs' : List QuoteRow} (later : QuotesLater qs qs') {q : QuoteRow}
    (mem : q ∈ qs) (left : q.status ≠ .active) : ∃ q' ∈ qs', q'.id = q.id ∧ q'.status ≠ .active := by
  obtain ⟨q', mem', step⟩ := later q mem
  exact ⟨q', mem', step.id, fun is => left (step.left is)⟩

/-- A step in which every settlement holds the quote it held. -/
theorem Market.InOrder.kept (held : m.InOrder) (rows : m.RowsMove m')
    (kept : ∀ settlementId, QuoteKept (m.caseOf settlementId) (m'.caseOf settlementId))
    (later : QuotesLater m.quotes m'.quotes)
    (table : TableInOrder (fun settlementId => Authorized (m'.caseOf settlementId))
      m'.pastQuotes m'.quotes) : m'.InOrder where
  known settlementId is := (rows.known settlementId is).elim
    (fun was => rows.named _ (held.known settlementId was)) fun named => named
  columns settlementId := by
    obtain ⟨op, moved⟩ := rows.moved settlementId
    exact moved.columnsKept (held.columns settlementId)
  once settlementId other quoteId holds holds' :=
    held.once settlementId other quoteId ((kept settlementId).1.symm.trans holds)
      ((kept other).1.symm.trans holds')
  table := table
  quoted settlementId is := by
    obtain ⟨q, mem, holds, left⟩ := held.quoted settlementId ((kept settlementId).2 is)
    obtain ⟨q', mem', same, left'⟩ := later.left mem left
    exact ⟨q', mem', (kept settlementId).1.trans (same ▸ holds), left'⟩

/-- A step in which one settlement takes a quote no other holds, or gives its quote up. -/
theorem Market.InOrder.changed (held : m.InOrder) (rows : m.RowsMove m') (subject : String)
    (others : ∀ settlementId, settlementId ≠ subject →
      m'.caseOf settlementId = m.caseOf settlementId)
    (free : ∀ quoteId, m'.holds subject = some quoteId → ∀ settlementId, settlementId ≠ subject →
      m.holds settlementId ≠ some quoteId)
    (quoted : (m'.caseOf subject).status = some .quoted →
      ∃ q ∈ m'.quotes, m'.holds subject = some q.id ∧ q.status ≠ .active)
    (later : QuotesLater m.quotes m'.quotes)
    (table : TableInOrder (fun settlementId => Authorized (m'.caseOf settlementId))
      m'.pastQuotes m'.quotes) : m'.InOrder where
  known settlementId is := (rows.known settlementId is).elim
    (fun was => rows.named _ (held.known settlementId was)) fun named => named
  columns settlementId := by
    obtain ⟨op, moved⟩ := rows.moved settlementId
    exact moved.columnsKept (held.columns settlementId)
  once settlementId other quoteId holds holds' := by
    have same : ∀ id, id ≠ subject → m'.holds id = m.holds id := fun id apart => by
      rw [Market.holds, others id apart, Market.holds]
    by_cases first : settlementId = subject <;> by_cases second : other = subject
    · exact first.trans second.symm
    · subst first
      exact (free quoteId holds other second ((same other second).symm.trans holds')).elim
    · subst second
      exact (free quoteId holds' settlementId first
        ((same settlementId first).symm.trans holds)).elim
    · exact held.once settlementId other quoteId ((same settlementId first).symm.trans holds)
        ((same other second).symm.trans holds')
  table := table
  quoted settlementId is := by
    by_cases own : settlementId = subject
    · subst own
      exact quoted is
    · rw [others settlementId own] at is
      obtain ⟨q, mem, holds, left⟩ := held.quoted settlementId is
      obtain ⟨q', mem', same, left'⟩ := later.left mem left
      refine ⟨q', mem', ?_, left'⟩
      rw [Market.holds, others settlementId own, same]
      exact holds

/-! ### Every step -/

variable {digest : AuthorizedInstruction → String} {iso : Instant → String}

theorem Market.RowsMove.authorized (rows : m.RowsMove m') (settlementId : String)
    (held : Authorized (m.caseOf settlementId)) : Authorized (m'.caseOf settlementId) := by
  obtain ⟨op, moved⟩ := rows.moved settlementId
  exact moved.authorized held

/-- A transaction on the quotes alone. -/
theorem Market.InOrder.onTable (held : m.InOrder) {t : QuotesTx PUnit}
    (orderly : ∀ r qs', Commits t m.quotes r qs' →
      TableInOrder (fun settlementId => Authorized (m.caseOf settlementId))
        (m.quotes :: m.pastQuotes) qs') : (m.onTable t).InOrder := by
  have table : TableInOrder (fun settlementId => Authorized (m.caseOf settlementId))
      (m.quotes :: m.pastQuotes) (after t m.quotes) :=
    after_induction held.table.still orderly
  exact held.kept ⟨fun _ => ⟨.startPreflight "" ⟨.user, ""⟩, .still rfl⟩, fun _ is => .inl is,
    fun _ is => is⟩ (fun _ => refl _) (table.later _ List.mem_cons_self) table

/-- An operation that moves no quote leaves every settlement with the quote it held. -/
theorem step_quoteKept (w : World) (op : WorldOp) (apart : op.movesQuotes = false)
    (settlementId : String) (columns : ColumnsKept (w.now.cases settlementId)) :
    QuoteKept (w.now.cases settlementId) ((w.step digest op).now.cases settlementId) := by
  cases op with
  | funding op => exact refl _
  | settlement asOf own =>
    by_cases subject : settlementId = own.subject
    · subst subject
      rw [step_case_subject]
      by_cases plain : own.plainTriggers = []
      · exact (settlementStep_move own).quoteKept plain columns
      · refine plain_quoteKept plain ?_ ?_ <;> cases own <;>
          simp_all [SettlementOp.plainTriggers, WorldOp.movesQuotes]
    · rw [step_case_of_ne subject]
      exact refl _

/-- The operations that are about no quote. -/
theorem Market.InOrder.other (held : m.InOrder) (op : WorldOp) (apart : op.movesQuotes = false) :
    (m.step digest iso (.other op apart)).InOrder := by
  have rows : m.RowsMove (m.step digest iso (.other op apart)) := by
    refine ⟨fun settlementId => ?_, fun settlementId is => ?_, fun _ is =>
      List.mem_append_right _ is⟩
    · rcases step_row digest m.world op settlementId with same | ⟨_, own, -, -, moved⟩
      · exact ⟨.startPreflight "" ⟨.user, ""⟩, .still same⟩
      · exact ⟨own, moved⟩
    · rcases step_row digest m.world op settlementId with same | ⟨_, own, rfl, rfl, -⟩
      · exact .inl (same ▸ is)
      · exact .inr (by simp [Market.step, WorldOp.subjects])
  exact held.kept rows (fun settlementId => step_quoteKept m.world op apart settlementId
    (held.columns settlementId)) (refl m.quotes) (held.table.mono rows.authorized)

/-- A transaction about one settlement and its quote, by what it does to that settlement. -/
theorem Market.rowsMove_put {settlementId : String} {s' : QuoteStore}
    (row : ∃ op, RowMove op (m.caseOf settlementId) s'.case) :
    m.RowsMove (m.put settlementId s') := by
  refine ⟨fun id => ?_, fun id is => ?_, fun _ is => List.mem_cons_of_mem _ is⟩
  · by_cases own : id = settlementId
    · subst own
      simpa [Market.caseOf, Market.put, Tenant.put] using row
    · exact ⟨.startPreflight "" ⟨.user, ""⟩,
        .still (by simp [Market.caseOf, Market.put, Tenant.put, Function.update_of_ne own])⟩
  · by_cases own : id = settlementId
    · exact .inr (by simp [Market.put, own])
    · refine .inl ?_
      simpa [Market.caseOf, Market.put, Tenant.put, Function.update_of_ne own] using is

theorem Market.put_caseOf {settlementId : String} {s' : QuoteStore} :
    (m.put settlementId s').caseOf settlementId = s'.case := by
  simp [Market.caseOf, Market.put, Tenant.put]

theorem Market.put_caseOf_of_ne {settlementId other : String} {s' : QuoteStore}
    (apart : other ≠ settlementId) :
    (m.put settlementId s').caseOf other = m.caseOf other := by
  simp [Market.caseOf, Market.put, Tenant.put, Function.update_of_ne apart]

/-- A quote another settlement holds is one the transaction finds held. -/
theorem Market.InOrder.elsewhere (held : m.InOrder) {settlementId other quoteId : String}
    (free : quoteId ∉ (m.quoteStore settlementId).heldElsewhere) (apart : other ≠ settlementId) :
    m.holds other ≠ some quoteId := by
  intro holds
  refine free (List.mem_filterMap.mpr ⟨other, ?_, holds⟩)
  have there : (m.caseOf other).settlement ≠ none := fun none => by
    simp [Market.holds, none] at holds
  simpa [apart] using held.known other there

/-- A step that left this settlement and the quotes as they were. -/
theorem Market.InOrder.unchanged (held : m.InOrder) (settlementId : String) :
    (m.put settlementId (m.quoteStore settlementId)).InOrder := by
  have rows : m.RowsMove (m.put settlementId (m.quoteStore settlementId)) :=
    Market.rowsMove_put ⟨.startPreflight "" ⟨.user, ""⟩, .still rfl⟩
  refine held.kept rows (fun id => ?_) (refl m.quotes) (held.table.still.mono rows.authorized)
  by_cases own : id = settlementId
  · subst own
    rw [Market.put_caseOf]
    exact refl _
  · rw [Market.put_caseOf_of_ne own]
    exact refl _

theorem Market.InOrder.about {α : Type} (held : m.InOrder) (settlementId : String)
    {t : QuoteTx α} (orderly : ∀ r s', Commits t (m.quoteStore settlementId) r s' →
      (m.put settlementId s').InOrder) : (m.about settlementId t).InOrder :=
  after_induction (P := fun s' => (m.put settlementId s').InOrder) (held.unchanged settlementId)
    orderly

theorem Market.InOrder.attached (held : m.InOrder) (asOf quotesAsOf : Nat)
    (input : Quotes.QuotingInput) :
    (m.step digest iso (.attachQuote asOf quotesAsOf input)).InOrder := by
  refine held.about input.settlementId fun r s' done => ?_
  rcases attachQuote_spec done with rfl | did
  · exact held.unchanged input.settlementId
  obtain ⟨args, answered, trigger, asks, lock⟩ := did.lock
  have rows := Market.rowsMove_put (m := m) did.row
  have table := held.table.transitioned lock (by rw [trigger]; decide)
    (by rw [trigger]; exact fun is => by cases is)
  have holds : (m.put input.settlementId s').holds input.settlementId = some input.quoteId := by
    rw [Market.holds, Market.put_caseOf]
    exact did.holds
  refine held.changed rows input.settlementId (fun _ apart => Market.put_caseOf_of_ne apart) ?_ ?_
    (table.later _ List.mem_cons_self) (table.mono rows.authorized)
  · intro quoteId is other apart
    obtain rfl := Option.some.inj (holds.symm.trans is)
    exact held.elsewhere did.free apart
  · intro _
    obtain ⟨old, mem, same⟩ := did.wasThere
    have past : m.quotesAsOf quotesAsOf ∈ m.quotes :: m.pastQuotes := m.quotesAsOf_mem quotesAsOf
    obtain ⟨q, mem', later⟩ := table.later _ past old mem
    have id : q.id = input.quoteId := later.id.trans same
    exact ⟨q, mem', holds.trans (congrArg some id.symm),
      locked_left held.table.distinct lock trigger q mem' (id.trans asks.symm)⟩

theorem Market.InOrder.dropped (held : m.InOrder) (asOf quotesAsOf : Nat)
    (input : Quotes.QuotingInput) :
    (m.step digest iso (.expireAttachedQuote asOf quotesAsOf input)).InOrder := by
  refine held.about input.settlementId fun r s' done => ?_
  rcases expireAttachedQuote_spec done with rfl | did
  · exact held.unchanged input.settlementId
  obtain ⟨args, answered, trigger, expire⟩ := did.expire
  have rows := Market.rowsMove_put (m := m) did.row
  have table := held.table.transitioned expire (by rw [trigger]; decide)
    (by rw [trigger]; exact fun is => by cases is)
  refine held.changed rows input.settlementId (fun _ apart => Market.put_caseOf_of_ne apart) ?_ ?_
    (table.later _ List.mem_cons_self) (table.mono rows.authorized)
  · intro quoteId is
    rw [Market.holds, Market.put_caseOf] at is
    cases did.holds.symm.trans is
  · intro is
    rw [Market.put_caseOf, did.ready] at is
    cases is

theorem Market.InOrder.authorized (held : m.InOrder) (asOf quotesAsOf : Nat)
    (input : AuthorizeInput) :
    (m.step digest iso (.authorizeSettlement asOf quotesAsOf input)).InOrder := by
  refine held.about input.settlementId fun r s' done => ?_
  have did := authorizeSettlement_spec done
  have rows := Market.rowsMove_put (m := m) did.row
  have kept : ∀ id, QuoteKept (m.caseOf id) ((m.put input.settlementId s').caseOf id) := by
    intro id
    by_cases own : id = input.settlementId
    · subst own
      rw [Market.put_caseOf]
      exact did.kept (held.columns _)
    · rw [Market.put_caseOf_of_ne own]
      exact refl _
  have table : TableInOrder
      (fun settlementId => Authorized ((m.put input.settlementId s').caseOf settlementId))
      (m.quotes :: m.pastQuotes) s'.quotes := by
    have before := held.table.mono rows.authorized
    rcases did.quotes with same | ⟨authorized, args, answered, trigger, names, consume⟩
    · rw [same]
      exact before.still
    · refine before.transitioned consume (by rw [trigger]; decide) fun _ => ⟨_, names, ?_⟩
      rw [Market.put_caseOf]
      exact authorized
  exact held.kept rows kept (table.later _ List.mem_cons_self) table

theorem Market.step_inOrder (m : Market) (op : MarketOp) (held : m.InOrder) :
    (m.step digest iso op).InOrder := by
  cases op with
  | createQuote quoteId price => exact held.onTable fun _ _ done => held.table.created done
  | expireDueQuotes now => exact held.onTable fun _ _ done => held.table.swept done
  | attachQuote asOf quotesAsOf input => exact held.attached asOf quotesAsOf input
  | expireAttachedQuote asOf quotesAsOf input => exact held.dropped asOf quotesAsOf input
  | authorizeSettlement asOf quotesAsOf input => exact held.authorized asOf quotesAsOf input
  | other op apart => exact held.other op apart

theorem Market.step_later (m : Market) (op : MarketOp) (held : m.InOrder) :
    QuotesLater m.quotes (m.step digest iso op).quotes := by
  have next : (m.step digest iso op).InOrder := m.step_inOrder op held
  cases op with
  | other op apart => exact refl m.quotes
  | _ => exact next.table.later _ List.mem_cons_self

end Step

theorem Market.empty_inOrder : Market.empty.InOrder where
  known _ is := (is rfl).elim
  columns _ := columnsKept_none rfl
  once _ _ _ is := by cases is
  table := .nil
  quoted _ is := by cases is

/-! ### Over whole runs -/

/-- A quote is held once and consumed once, and a settlement in QUOTED holds one that was locked:
it still is, it has expired since, or another settlement has consumed it. -/
structure QuotesExclusive (m : Market) : Prop where
  heldOnce : ∀ settlementId other quoteId, m.holds settlementId = some quoteId →
    m.holds other = some quoteId → settlementId = other
  distinct : (m.quotes.map (·.id)).Nodup
  consumedOnce : ∀ q ∈ m.quotes, ∀ q' ∈ m.quotes, ∀ settlementId,
    q.consumedBySettlementId = some settlementId →
    q'.consumedBySettlementId = some settlementId → q = q'
  quoted : ∀ settlementId, (m.caseOf settlementId).status = some .quoted →
    ∃ q ∈ m.quotes, m.holds settlementId = some q.id ∧ (q.status = .locked ∨
      q.status = .expired ∨ q.status = .consumed ∧
        ∃ other, q.consumedBySettlementId = some other ∧ other ≠ settlementId)

theorem Market.InOrder.exclusive {m : Market} (held : m.InOrder) : QuotesExclusive m where
  heldOnce := held.once
  distinct := held.table.distinct
  consumedOnce _ mem _ mem' _ is is' := held.table.indexed.eq_of_mem mem mem' is is'
  quoted settlementId is := by
    obtain ⟨q, mem, holds, left⟩ := held.quoted settlementId is
    refine ⟨q, mem, holds, ?_⟩
    cases status : q.status with
    | active => exact (left status).elim
    | void => exact (held.table.unvoided q mem status).elim
    | locked => exact .inl rfl
    | expired => exact .inr (.inl rfl)
    | consumed =>
      obtain ⟨other, names, row, found, stays⟩ := held.table.consumers q mem status
      refine .inr (.inr ⟨rfl, other, names, fun same => ?_⟩)
      -- The consumer was authorized, and no settlement comes back from there to QUOTED.
      rw [same] at found
      have quoted : row.status = .quoted := by simpa [Case.status, found] using is
      exact absurd (quoted ▸ stays.status) (by decide)

variable (digest : AuthorizedInstruction → String) (iso : Instant → String)

theorem market_inOrder (ops : List MarketOp) :
    (run (Market.step digest iso) Market.empty ops).InOrder :=
  run_invariant Market.step_inOrder Market.empty_inOrder ops

/-- After every run, of any operations in any order, the quotes are exclusive, and whatever comes
later keeps each quote's price and its consumer. -/
theorem quotes_exclusive (ops later : List MarketOp) :
    QuotesExclusive (run (Market.step digest iso) Market.empty ops) ∧
      QuotesLater (run (Market.step digest iso) Market.empty ops).quotes
        (run (Market.step digest iso) Market.empty (ops ++ later)).quotes := by
  have start := market_inOrder digest iso ops
  refine ⟨start.exclusive, ?_⟩
  rw [run_append]
  generalize run (Market.step digest iso) Market.empty ops = m at start ⊢
  have kept : ∀ (s : Market) (op : MarketOp), s.InOrder ∧ QuotesLater m.quotes s.quotes →
      (s.step digest iso op).InOrder ∧ QuotesLater m.quotes (s.step digest iso op).quotes :=
    fun s op held => ⟨s.step_inOrder op held.1,
      trans_of QuotesLater held.2 (s.step_later op held.1)⟩
  exact (run_invariant kept ⟨start, refl _⟩ later).2

/-! ### Settlements in QUOTED without a lock -/

/-- Every settlement in QUOTED holds a quote that is LOCKED. -/
def LockedWhileQuoted (m : Market) : Prop :=
  ∀ settlementId, (m.caseOf settlementId).status = some .quoted →
    ∃ q ∈ m.quotes, m.holds settlementId = some q.id ∧ q.status = .locked

def preparing (settlementId : String) : List MarketOp := [
  .other (fresh (.createSettlement {
    settlementId := settlementId, beneficiaryId := "beneficiary", recipientAmountMinor := 1000
    fundingCurrency := "INR", purposeCode := some "P0001", actor := creator })) rfl,
  .other (fresh (.startPreflight settlementId creator)) rfl,
  .other (fresh (.completePreflight {
    settlementId := settlementId, actor := worker, blocking := [], ruleSetVersion := "1"
    fingerprint := "f" })) rfl]

def pricing (quoteId : String) (expiresAt : Instant) : MarketOp :=
  .createQuote quoteId {
    direction := "payout", recipientAmount := rupees 1000, fundingAmount := rupees 1000
    fxRateScaled := 1, fxPair := "INR/INR", fxQuotedAt := 0, fxSource := "sandbox"
    feeComponents := [], residualCurrency := "INR", residualAmount := "0", residualScale := 0
    estimatedDelivery := "under 30 minutes", pricingVersion := "1", expiresAt := expiresAt
    createdAt := 0, createdBy := "creator" }

def attaching (settlementId quoteId : String) (quotesAsOf : Nat) (now : Instant) : MarketOp :=
  .attachQuote 0 quotesAsOf ⟨settlementId, quoteId, creator, now⟩

/-- The sweeper expires the quote of a settlement that has not been authorized yet. -/
def sweptUnder : List MarketOp :=
  preparing "s" ++ [pricing "q" 100, attaching "s" "q" 0 1, .expireDueQuotes 101]

def authorizingAsOf (asOf : Nat) : MarketOp :=
  .authorizeSettlement asOf 0 {
    settlementId := "s", actor := approver, mayAuthorize := true, separationEnabled := true
    quote := none, beneficiaryVerified := true
    destination := some ⟨"destination", "version", true⟩, preflightPassing := true
    hasActiveLiquidityFacility := true, quoteConsumed := false, now := 21 }

/-- An expiry that had read `q1` takes `q2` off the settlement; an attachment that had read `q2`
ACTIVE gives it to another; an authorization that had read the settlement with `q2` consumes it. -/
def consumedUnder : List MarketOp :=
  preparing "s" ++ preparing "u" ++ [pricing "q1" 10, pricing "q2" 100, pricing "q3" 100,
    attaching "s" "q1" 0 1,
    .expireAttachedQuote 0 0 ⟨"s", "q1", worker, 20⟩, attaching "s" "q2" 0 21,
    .expireAttachedQuote 2 0 ⟨"s", "q1", worker, 20⟩, attaching "s" "q3" 0 22,
    attaching "u" "q2" 3 21, authorizingAsOf 3]

def marketAfter (ops : List MarketOp) : Market :=
  run (Market.step (fun _ => "digest") fun _ => "") Market.empty ops

theorem quoted_without_lock :
    ((marketAfter sweptUnder).quotes.map (·.status) = [.expired] ∧
      ¬LockedWhileQuoted (marketAfter sweptUnder)) ∧
    (marketAfter consumedUnder).quotes.map (·.status) = [.expired, .consumed, .locked] ∧
      ¬LockedWhileQuoted (marketAfter consumedUnder) := by
  refine ⟨⟨by decide +kernel, fun locked => ?_⟩, by decide +kernel, fun locked => ?_⟩
  · exact absurd (locked "s") (by decide +kernel)
  · exact absurd (locked "u") (by decide +kernel)

end InrSettle
