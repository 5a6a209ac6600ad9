import InrSettle.System.QuoteExpiries

/-!
# Every quote said to have expired

What each operation on the market says of the quotes, and which runs say of every
quote that it has expired once, for the one time it did.
-/

namespace InrSettle

open Transaction CaseTables Run

/-! ### What an operation is about to say -/

def MarketOp.subjects : MarketOp → List String
  | .createQuote .. | .expireDueQuotes _ => []
  | .attachQuote _ _ input | .expireAttachedQuote _ _ input => [input.settlementId]
  | .authorizeSettlement _ _ input => [input.settlementId]
  | .other op _ => op.subjects

/-- The operations that ask for the quote they name to expire. -/
def MarketOp.expires : MarketOp → Bool
  | .expireAttachedQuote .. => true
  | _ => false

namespace Market

variable (iso : Instant → String) (m : Market)

/-- The settlement the operation cancels before it is authorized. -/
def cancelling : MarketOp → Option String
  | .other (.settlement asOf (.cancelSettlement input)) _ =>
    if input.takesEffect ((m.world.asOf asOf).cases input.settlementId).settlement
        (m.caseOf input.settlementId) then some input.settlementId
    else none
  | _ => none

/-- The quote the operation says has expired. -/
def expiring : MarketOp → Option String
  | .expireAttachedQuote asOf quotesAsOf input =>
    input.takesOff iso (m.read asOf quotesAsOf input.settlementId) (m.caseOf input.settlementId)
  | .other (.settlement asOf (.cancelSettlement input)) _ =>
    let settlement := ((m.world.asOf asOf).cases input.settlementId).settlement
    if input.takesEffect settlement (m.caseOf input.settlementId) then
      settlement.bind (·.quoteId)
    else none
  | _ => none

end Market

/-! ### What a step does -/

/-- What is said of a settlement's quotes: nothing, or that the one the operation names has expired,
which it has if the operation asks for it and it was live. -/
def Market.Tells (iso : Instant → String) (m : Market) (op : MarketOp) (c c' : Case)
    (quotes : List QuoteRow) : Prop :=
  c'.expiries = c.expiries ∨ ∃ quoteId, m.expiring iso op = some quoteId ∧
    c'.expiries = c.expiries ++ [quoteId] ∧
    (op.expires = true → ∀ q ∈ m.quotes, q.id = quoteId → q.status.isLive = true →
      ∃ q' ∈ quotes, q'.id = quoteId ∧ q'.status = .expired)

/-- A step, as far as the quotes and what is said of them goes. -/
structure Market.Steps (iso : Instant → String) (m : Market) (op : MarketOp) (m' : Market) :
    Prop where
  rows : ∀ id, ∃ own, RowMove own (m.caseOf id) (m'.caseOf id)
  others : ∀ id ∉ op.subjects, m'.caseOf id = m.caseOf id
  named : m'.named = op.subjects ++ m.named
  advances : QuotesAdvance m.quotes m'.quotes
  bound : ∀ id quoteId, m'.holds id = some quoteId →
    m.holds id = some quoteId ∨ ∃ q ∈ m'.quotes, q.id = quoteId
  tells : ∀ id, m.Tells iso op (m.caseOf id) (m'.caseOf id) m'.quotes
  early : ∀ id, CancelledEarly (m.caseOf id) (m'.caseOf id) →
    m.cancelling op = some id ∧ m'.holds id = m.holds id

/-- A transaction about one settlement and its quote that does not cancel it. -/
structure Market.StepsAbout (iso : Instant → String) (m : Market) (op : MarketOp) (id : String)
    (s' : QuoteStore) : Prop where
  row : ∃ own, RowMove own (m.caseOf id) s'.case
  advances : QuotesAdvance m.quotes s'.quotes
  bound : ∀ quoteId, s'.case.quoteId = some quoteId →
    (m.caseOf id).quoteId = some quoteId ∨ ∃ q ∈ s'.quotes, q.id = quoteId
  tells : m.Tells iso op (m.caseOf id) s'.case s'.quotes
  stays : ¬CancelledEarly (m.caseOf id) s'.case

section Steps

variable {digest : AuthorizedInstruction → String} {iso : Instant → String} {m : Market}
  {op : MarketOp} {id : String} {s' : QuoteStore}

theorem not_cancelledEarly (c : Case) : ¬CancelledEarly c c := by
  rintro ⟨⟨status, before, was⟩, is⟩
  rw [was] at is
  exact absurd (Option.some.inj is ▸ before) (by decide)

theorem Market.stepsAbout_refl : m.StepsAbout iso op id (m.quoteStore id) where
  row := ⟨.startPreflight "" ⟨.user, ""⟩, .still rfl⟩
  advances := advances_refl _
  bound _ is := .inl is
  tells := .inl rfl
  stays := not_cancelledEarly _

/-- A transaction on the quotes alone. -/
theorem Market.steps_onTable {t : QuotesTx PUnit} (none : op.subjects = [])
    (advances : ∀ r qs', Commits t m.quotes r qs' → QuotesAdvance m.quotes qs') :
    m.Steps iso op (m.onTable t) where
  rows _ := ⟨.startPreflight "" ⟨.user, ""⟩, .still rfl⟩
  others _ _ := rfl
  named := by rw [none]; rfl
  advances := after_induction (P := QuotesAdvance m.quotes) (advances_refl _) advances
  bound _ _ is := .inl is
  tells _ := .inl rfl
  early id is := (not_cancelledEarly _ is).elim

theorem Market.StepsAbout.put (is : op.subjects = [id]) (turn : m.StepsAbout iso op id s') :
    m.Steps iso op (m.put id s') where
  rows other := by
    by_cases own : other = id
    · rw [own, Market.put_caseOf]
      exact turn.row
    · rw [Market.put_caseOf_of_ne own]
      exact ⟨.startPreflight "" ⟨.user, ""⟩, .still rfl⟩
  others other apart := Market.put_caseOf_of_ne (by simpa [is] using apart)
  named := by rw [is]; rfl
  advances := turn.advances
  bound other quoteId holds := by
    by_cases own : other = id
    · subst own
      rw [Market.holds, Market.put_caseOf] at holds
      exact turn.bound quoteId holds
    · rw [Market.holds, Market.put_caseOf_of_ne own] at holds
      exact .inl holds
  tells other := by
    by_cases own : other = id
    · rw [own, Market.put_caseOf]
      exact turn.tells
    · rw [Market.put_caseOf_of_ne own]
      exact .inl rfl
  early other early := by
    by_cases own : other = id
    · rw [own, Market.put_caseOf] at early
      exact (turn.stays early).elim
    · rw [Market.put_caseOf_of_ne own] at early
      exact (not_cancelledEarly _ early).elim

variable (digest) in
/-- What an operation that cancels nothing and expires nothing committed on its settlement. -/
theorem quiet_of_commits {α : Type} {tx : CaseTx α} {c c' : Case} {r : α}
    (h : Commits tx c r c') (own : SettlementOp) (read : Reads)
    (is : ∀ s, settlementStep digest read s own = after (onCase tx) s)
    (quiet : own.expiresQuotes = false) (keeps : .cancel ∉ own.plainTriggers) :
    c'.expiries = c.expiries ∧ ¬CancelledEarly c c' := by
  refine ⟨?_, fun early =>
    keeps ((rowTurn_of_commits digest h own read is).cancelledEarly early)⟩
  have said : (settlementStep digest read ⟨c, {}⟩ own).case.expiries = c.expiries :=
    settlementStep_expiries quiet
  rwa [step_of_commits digest h own read is] at said

theorem Market.attachQuote_steps {asOf quotesAsOf : Nat} {input : Quotes.QuotingInput}
    (held : m.InOrder) : m.Steps iso (.attachQuote asOf quotesAsOf input)
      (m.step digest iso (.attachQuote asOf quotesAsOf input)) := by
  refine after_induction (P := fun s' => m.Steps iso _ (m.put input.settlementId s'))
    (Market.stepsAbout_refl.put rfl) fun r s' done => ?_
  rcases attachQuote_spec done with rfl | did
  · exact Market.stepsAbout_refl.put rfl
  obtain ⟨args, answered, trigger, -, lock⟩ := did.lock
  have table := held.table.transitioned lock (by rw [trigger]; decide)
    (by rw [trigger]; exact fun is => by cases is)
  obtain ⟨outcome, t, ran, rest⟩ := commits_bind.mp done
  obtain ⟨c, inner, rfl, -⟩ := commits_onSettlement ran
  have case : s'.case = c := by
    cases outcome with
    | error failure => exact congrArg QuoteStore.case (commits_pure.mp rest).2
    | ok taken =>
      obtain ⟨answered, t, locked, last⟩ := commits_bind.mp rest
      obtain ⟨-, rfl⟩ := commits_pure.mp last
      obtain ⟨quotes, -, rfl⟩ := commits_onQuotes.mp locked
      rfl
  obtain ⟨expiries, stays⟩ := quiet_of_commits digest inner
    (.attachQuote input.settlementId _) ⟨_, none, none⟩ (fun _ => rfl) rfl
    (by simp [SettlementOp.plainTriggers])
  refine Market.StepsAbout.put rfl ⟨did.row, transitionQuote_advances lock, fun quoteId is => ?_,
    .inl (case ▸ expiries), case ▸ stays⟩
  obtain ⟨q, mem, same⟩ := did.wasThere
  obtain ⟨q', mem', later⟩ := table.later _ (m.quotesAsOf_mem quotesAsOf) q mem
  exact .inr ⟨q', mem', (later.id.trans same).trans (Option.some.inj (did.holds.symm.trans is))⟩

theorem Market.expireAttachedQuote_steps {asOf quotesAsOf : Nat} {input : Quotes.QuotingInput}
    (held : m.InOrder) : m.Steps iso (.expireAttachedQuote asOf quotesAsOf input)
      (m.step digest iso (.expireAttachedQuote asOf quotesAsOf input)) := by
  refine after_induction (P := fun s' => m.Steps iso _ (m.put input.settlementId s'))
    (Market.stepsAbout_refl.put rfl) fun r s' done => ?_
  rcases expireAttachedQuote_says done with rfl | ⟨quoteId, takes, expiries, args, answered,
    trigger, asks, expire⟩
  · exact Market.stepsAbout_refl.put rfl
  rcases expireAttachedQuote_spec done with rfl | did
  · exact Market.stepsAbout_refl.put rfl
  refine Market.StepsAbout.put rfl ⟨did.row, transitionQuote_advances expire, fun quoteId is => ?_,
    .inr ⟨quoteId, takes, expiries, fun _ q mem is live => ?_⟩, fun early => ?_⟩
  · cases did.holds.symm.trans is
  · rw [← is]
    exact transitionQuote_expires expire held.table.distinct trigger mem (is.trans asks.symm) live
  · cases did.ready.symm.trans early.2

theorem Market.authorizeSettlement_steps {asOf quotesAsOf : Nat} {input : AuthorizeInput}
    (held : m.InOrder) : m.Steps iso (.authorizeSettlement asOf quotesAsOf input)
      (m.step digest iso (.authorizeSettlement asOf quotesAsOf input)) := by
  refine after_induction (P := fun s' => m.Steps iso _ (m.put input.settlementId s'))
    (Market.stepsAbout_refl.put rfl) fun r s' done => ?_
  have did := authorizeSettlement_spec done
  obtain ⟨quiet, stays⟩ : s'.case.expiries = (m.caseOf input.settlementId).expiries ∧
      ¬CancelledEarly (m.caseOf input.settlementId) s'.case := by
    obtain ⟨asked, answered, inner⟩ := authorizeSettlement_inner done
    exact quiet_of_commits digest inner (.authorizeSettlement asked)
      ⟨_, none, none⟩ (fun _ => rfl) rfl (by simp [SettlementOp.plainTriggers])
  refine Market.StepsAbout.put rfl ⟨did.row, ?_, fun quoteId is => ?_, .inl quiet, stays⟩
  · rcases did.quotes with same | ⟨-, args, answered, -, -, consume⟩
    · rw [same]
      exact advances_refl _
    · exact transitionQuote_advances consume
  · rw [(did.kept (held.columns _)).1] at is
    exact .inl is

/-- Of the operations about no quote, only a cancellation cancels or names one. -/
theorem cancels_or_quiet {asOf : Nat} {own : SettlementOp}
    (apart : (WorldOp.settlement asOf own).movesQuotes = false) :
    (∃ input, own = .cancelSettlement input) ∨
      own.expiresQuotes = false ∧ .cancel ∉ own.plainTriggers := by
  cases own with
  | cancelSettlement input => exact .inl ⟨input, rfl⟩
  | expireAttachedQuote settlementId input => cases apart
  | _ => exact .inr ⟨rfl, by simp [SettlementOp.plainTriggers]⟩

/-- What a cancellation does to the settlement it is about. -/
theorem cancelSettlement_step {asOf : Nat} {input : CancelInput}
    {apart : (WorldOp.settlement asOf (.cancelSettlement input)).movesQuotes = false}
    (quotes : List QuoteRow) :
    let op : MarketOp := .other (.settlement asOf (.cancelSettlement input)) apart
    let c := m.caseOf input.settlementId
    let c' := (m.step digest iso op).caseOf input.settlementId
    m.Tells iso op c c' quotes ∧
      (CancelledEarly c c' → m.cancelling op = some input.settlementId) := by
  intro op c c'
  have is : c' = after (cancelSettlement ((m.world.asOf asOf).cases
      input.settlementId).settlement input) c := by
    have subject : c' = (settlementStep digest (m.world.read asOf (.cancelSettlement input))
        (m.world.now.store input.settlementId) (.cancelSettlement input)).case :=
      step_case_subject
    exact subject.trans (after_onCase_case _ _)
  rw [is]
  refine after_induction (P := fun c₁ => m.Tells iso op c c₁ quotes ∧
      (CancelledEarly c c₁ → m.cancelling op = some input.settlementId))
    ⟨.inl rfl, fun early => (not_cancelledEarly _ early).elim⟩ fun r c₁ done => ?_
  rcases cancelSettlement_spec done with ⟨expiries, stays⟩ | ⟨takes, -, expiries⟩
  · exact ⟨.inl expiries, fun early => (stays early).elim⟩
  refine ⟨?_, fun _ => if_pos takes⟩
  cases named : ((m.world.asOf asOf).cases input.settlementId).settlement.bind (·.quoteId) with
  | none => exact .inl (by rw [expiries, named]; exact List.append_nil _)
  | some quoteId =>
    refine .inr ⟨quoteId, (if_pos takes).trans named, by rw [expiries, named]; rfl, ?_⟩
    rintro ⟨⟩

/-- The operations that are about no quote; of these a cancellation may name one. -/
theorem Market.other_steps {own : WorldOp} {apart : own.movesQuotes = false} (held : m.InOrder) :
    m.Steps iso (.other own apart) (m.step digest iso (.other own apart)) where
  rows id := by
    rcases step_row digest m.world own id with same | ⟨_, settlementOp, -, -, moved⟩
    · exact ⟨.startPreflight "" ⟨.user, ""⟩, .still same⟩
    · exact ⟨settlementOp, moved⟩
  others id other := by
    cases own with
    | funding op => rfl
    | settlement asOf op =>
      exact step_case_of_ne (by simpa [MarketOp.subjects, WorldOp.subjects] using other)
  named := rfl
  advances := advances_refl _
  bound id quoteId is := by
    have kept : QuoteKept (m.caseOf id) ((m.step digest iso (.other own apart)).caseOf id) :=
      step_quoteKept m.world own apart id (held.columns id)
    exact .inl (kept.1.symm.trans is)
  tells id := by
    cases own with
    | funding op => exact .inl rfl
    | settlement asOf op =>
      by_cases subject : id = op.subject
      · subst subject
        rcases cancels_or_quiet apart with ⟨input, rfl⟩ | ⟨quiet, -⟩
        · exact (cancelSettlement_step _).1
        · refine .inl ((congrArg Case.expiries step_case_subject).trans ?_)
          exact settlementStep_expiries quiet
      · exact .inl (congrArg Case.expiries (step_case_of_ne subject))
  early id early := by
    refine ⟨?_, (step_quoteKept m.world own apart id (held.columns id)).1⟩
    cases own with
    | funding op => exact (not_cancelledEarly _ early).elim
    | settlement asOf op =>
      by_cases subject : id = op.subject
      · subst subject
        rcases cancels_or_quiet apart with ⟨input, rfl⟩ | ⟨-, keeps⟩
        · exact (cancelSettlement_step (m.quotes)).2 early
        · refine (keeps ?_).elim
          have moved : StoreMove digest (m.world.read asOf op) (m.world.now.store op.subject) op
              (settlementStep digest (m.world.read asOf op) (m.world.now.store op.subject) op) :=
            settlementStep_move op
          refine moved.rowTurn.cancelledEarly ?_
          rw [← step_case_subject]
          exact early
      · rw [show (m.step digest iso (.other (.settlement asOf op) apart)).caseOf id = m.caseOf id
          from step_case_of_ne subject] at early
        exact (not_cancelledEarly _ early).elim

theorem Market.step_steps (held : m.InOrder) : m.Steps iso op (m.step digest iso op) := by
  cases op with
  | createQuote quoteId price =>
    exact Market.steps_onTable rfl fun _ _ done => createQuote_advances done
  | expireDueQuotes now =>
    exact Market.steps_onTable rfl fun _ _ done => expireDueQuotes_advances done
  | attachQuote asOf quotesAsOf input => exact Market.attachQuote_steps held
  | expireAttachedQuote asOf quotesAsOf input => exact Market.expireAttachedQuote_steps held
  | authorizeSettlement asOf quotesAsOf input => exact Market.authorizeSettlement_steps held
  | other own apart => exact Market.other_steps held

end Steps

/-! ### Runs and the changes made in them -/

/-- A market with every change of a quote to EXPIRED so far, and the settlements cancelled before
they were authorized. -/
structure ExpiryLog where
  market : Market
  expired : List String
  cancelled : List String

/-- The quotes a step moved to EXPIRED. -/
def newlyExpired (qs qs' : List QuoteRow) : List String :=
  (qs'.filter fun q' => decide (q'.status = .expired ∧
    ∀ q ∈ qs, q.id = q'.id → q.status ≠ .expired)).map (·.id)

namespace ExpiryLog

def empty : ExpiryLog := ⟨Market.empty, [], []⟩

def step (digest : AuthorizedInstruction → String) (iso : Instant → String) (log : ExpiryLog)
    (op : MarketOp) : ExpiryLog :=
  let market := log.market.step digest iso op
  { market := market
    expired := log.expired ++ newlyExpired log.market.quotes market.quotes
    cancelled := log.cancelled ++ op.subjects.filter fun id =>
      decide (CancelledEarly (log.market.caseOf id) (market.caseOf id)) }

end ExpiryLog

/-- A settlement cancelled before authorization holds no live quote, and each quote was said to have
expired at most once, by one settlement, and changed to EXPIRED exactly once if it was. -/
structure ExpiriesMatched (log : ExpiryLog) : Prop where
  released : ∀ id ∈ log.cancelled, ∀ q ∈ log.market.quotes,
    log.market.holds id = some q.id → q.status.isLive = false
  once : ∀ id, (log.market.caseOf id).expiries.Nodup
  apart : ∀ id other, ∀ quoteId ∈ (log.market.caseOf id).expiries,
    quoteId ∈ (log.market.caseOf other).expiries → id = other
  changed : ∀ id, ∀ quoteId ∈ (log.market.caseOf id).expiries, log.expired.count quoteId = 1

/-- The operation cancels no settlement that holds a live quote, and says only of a quote nobody has
said it of that it has expired: one that has, or a live one that it asks to expire. -/
def Matched (iso : Instant → String) (m : Market) (op : MarketOp) : Prop :=
  (∀ id ∈ (m.cancelling op).toList, ∀ q ∈ m.quotes, m.holds id = some q.id →
      q.status.isLive = false) ∧
    ∀ quoteId ∈ (m.expiring iso op).toList, (∀ id ∈ m.named, quoteId ∉ (m.caseOf id).expiries) ∧
      ∃ q ∈ m.quotes, q.id = quoteId ∧
        (q.status = .expired ∨ op.expires = true ∧ q.status.isLive = true)

instance (iso : Instant → String) (m : Market) (op : MarketOp) : Decidable (Matched iso m op) := by
  unfold Matched
  infer_instance

/-- What holds along the runs whose steps match. -/
structure ExpiryLog.InOrder (log : ExpiryLog) : Prop where
  market : log.market.InOrder
  bound : ∀ id quoteId, log.market.holds id = some quoteId →
    ∃ q ∈ log.market.quotes, q.id = quoteId
  unspoken : ∀ id ∉ log.market.named, (log.market.caseOf id).expiries = []
  nodup : log.expired.Nodup
  expired : ∀ quoteId, quoteId ∈ log.expired ↔
    ∃ q ∈ log.market.quotes, q.id = quoteId ∧ q.status = .expired
  once : ∀ id, (log.market.caseOf id).expiries.Nodup
  apart : ∀ id other, ∀ quoteId ∈ (log.market.caseOf id).expiries,
    quoteId ∈ (log.market.caseOf other).expiries → id = other
  told : ∀ id, ∀ quoteId ∈ (log.market.caseOf id).expiries, quoteId ∈ log.expired
  cancelled : ∀ id ∈ log.cancelled, (log.market.caseOf id).status = some .cancelled ∧
    ∀ q ∈ log.market.quotes, log.market.holds id = some q.id → q.status.isLive = false

theorem ExpiryLog.InOrder.matched {log : ExpiryLog} (held : log.InOrder) : ExpiriesMatched log where
  released id mem := (held.cancelled id mem).2
  once := held.once
  apart := held.apart
  changed id quoteId mem := List.count_eq_one_of_mem held.nodup (held.told id quoteId mem)

section Log

variable {digest : AuthorizedInstruction → String} {iso : Instant → String} {m m' : Market}
  {op : MarketOp} {qs qs' : List QuoteRow}

theorem mem_newlyExpired {quoteId : String} : quoteId ∈ newlyExpired qs qs' ↔
    ∃ q' ∈ qs', q'.id = quoteId ∧ q'.status = .expired ∧
      ∀ q ∈ qs, q.id = q'.id → q.status ≠ .expired := by
  simp only [newlyExpired, List.mem_map, List.mem_filter, decide_eq_true_eq]
  constructor
  · rintro ⟨q, ⟨mem, expired, fresh⟩, is⟩
    exact ⟨q, mem, is, expired, fresh⟩
  · rintro ⟨q, mem, is, expired, fresh⟩
    exact ⟨q, ⟨mem, expired, fresh⟩, is⟩

/-- A quote that is not live stays as it is. -/
theorem QuotesAdvance.stays (advance : QuotesAdvance qs qs') (later : QuotesLater qs qs')
    (distinct : (qs.map (·.id)).Nodup) {q : QuoteRow} (mem : q ∈ qs)
    (done : q.status.isLive = false) : ∃ q' ∈ qs', q'.id = q.id ∧ q'.status = q.status := by
  obtain ⟨q', mem', step⟩ := later q mem
  refine ⟨q', mem', step.id, ?_⟩
  rcases advance q' mem' with ⟨fresh, -⟩ | ⟨old, is, same, status⟩
  · exact (fresh q mem step.id.symm).elim
  · obtain rfl : old = q := Table.eq_of_key distinct is mem (same.trans step.id)
    exact status.resolve_right (by simp [done])

/-- A settlement that holds no live quote holds none later, if it holds the same one. -/
theorem QuotesAdvance.notLive (advance : QuotesAdvance qs qs') {held : Option String}
    (bound : ∀ quoteId, held = some quoteId → ∃ q ∈ qs, q.id = quoteId)
    (done : ∀ q ∈ qs, held = some q.id → q.status.isLive = false) :
    ∀ q' ∈ qs', held = some q'.id → q'.status.isLive = false := by
  intro q' mem' holds
  rcases advance q' mem' with ⟨fresh, -⟩ | ⟨q, mem, same, status⟩
  · obtain ⟨q, mem, is⟩ := bound q'.id holds
    exact (fresh q mem is).elim
  · have ended := done q mem (holds.trans (congrArg some same.symm))
    rcases status with status | live
    · rw [status, ended]
    · simp [ended] at live

theorem MarketOp.subject_unique {id other : String} (first : id ∈ op.subjects)
    (second : other ∈ op.subjects) : id = other := by
  cases op with
  | other own apart => cases own <;> simp_all [MarketOp.subjects, WorldOp.subjects]
  | _ => simp_all [MarketOp.subjects]

/-- What the settlements say after a step: what they said, and one of them perhaps the quote that the
operation names. -/
theorem Market.Steps.mem_expiries (steps : m.Steps iso op m') {id quoteId : String}
    (mem : quoteId ∈ (m'.caseOf id).expiries) :
    quoteId ∈ (m.caseOf id).expiries ∨ m.expiring iso op = some quoteId ∧ id ∈ op.subjects ∧
      (op.expires = true → ∀ q ∈ m.quotes, q.id = quoteId → q.status.isLive = true →
        ∃ q' ∈ m'.quotes, q'.id = quoteId ∧ q'.status = .expired) := by
  by_cases subject : id ∈ op.subjects
  · rcases steps.tells id with same | ⟨named, names, appended, expires⟩
    · exact .inl (same ▸ mem)
    rw [appended] at mem
    rcases List.mem_append.mp mem with old | new
    · exact .inl old
    · obtain rfl := List.mem_singleton.mp new
      exact .inr ⟨names, subject, expires⟩
  · exact .inl (steps.others id subject ▸ mem)

/-- The quote a matching operation names is one that no settlement has named. -/
theorem Matched.unsaid {log : ExpiryLog} (held : log.InOrder) (matched : Matched iso log.market op)
    {quoteId : String} (names : log.market.expiring iso op = some quoteId) (id : String) :
    quoteId ∉ (log.market.caseOf id).expiries := by
  by_cases named : id ∈ log.market.named
  · exact (matched.2 quoteId (by simp [names])).1 id named
  · simp [held.unspoken id named]

theorem ExpiryLog.step_expired {log : ExpiryLog} (held : log.InOrder) (quoteId : String) :
    quoteId ∈ (log.step digest iso op).expired ↔
      ∃ q ∈ (log.step digest iso op).market.quotes, q.id = quoteId ∧ q.status = .expired := by
  have steps : log.market.Steps iso op (log.market.step digest iso op) :=
    Market.step_steps held.market
  refine List.mem_append.trans ⟨?_, ?_⟩
  · rintro (old | new)
    · obtain ⟨q, mem, is, expired⟩ := (held.expired quoteId).mp old
      obtain ⟨q', mem', same, status⟩ := steps.advances.stays
        (log.market.step_later op held.market) held.market.table.distinct mem (by rw [expired]; rfl)
      exact ⟨q', mem', same.trans is, status.trans expired⟩
    · obtain ⟨q', mem', is, expired, -⟩ := mem_newlyExpired.mp new
      exact ⟨q', mem', is, expired⟩
  · rintro ⟨q', mem', is, expired⟩
    by_cases before : ∃ q ∈ log.market.quotes, q.id = q'.id ∧ q.status = .expired
    · obtain ⟨q, mem, same, was⟩ := before
      exact .inl ((held.expired quoteId).mpr ⟨q, mem, same.trans is, was⟩)
    · refine .inr (mem_newlyExpired.mpr ⟨q', mem', is, expired, fun q mem same was => ?_⟩)
      exact before ⟨q, mem, same, was⟩

theorem ExpiryLog.step_nodup {log : ExpiryLog} (held : log.InOrder) :
    (log.step digest iso op).expired.Nodup := by
  have next : (log.market.step digest iso op).InOrder := log.market.step_inOrder op held.market
  refine List.nodup_append'.mpr ⟨held.nodup, ?_, ?_⟩
  · exact (next.table.distinct.sublist (List.filter_sublist.map _))
  · intro quoteId old new
    obtain ⟨q, mem, is, expired⟩ := (held.expired quoteId).mp old
    obtain ⟨q', -, same, -, fresh⟩ := mem_newlyExpired.mp new
    exact fresh q mem (is.trans same.symm) expired

theorem ExpiryLog.step_told {log : ExpiryLog} (held : log.InOrder)
    (matched : Matched iso log.market op) (id quoteId : String)
    (mem : quoteId ∈ ((log.step digest iso op).market.caseOf id).expiries) :
    quoteId ∈ (log.step digest iso op).expired := by
  have steps : log.market.Steps iso op (log.market.step digest iso op) :=
    Market.step_steps held.market
  rcases steps.mem_expiries mem with old | ⟨names, -, expires⟩
  · exact List.mem_append_left _ (held.told id quoteId old)
  obtain ⟨-, q, mem, is, expired | ⟨asks, live⟩⟩ := matched.2 quoteId (by simp [names])
  · exact List.mem_append_left _ ((held.expired quoteId).mpr ⟨q, mem, is, expired⟩)
  · exact (ExpiryLog.step_expired held quoteId).mpr (expires asks q mem is live)

theorem ExpiryLog.step_cancelled {log : ExpiryLog} (held : log.InOrder)
    (matched : Matched iso log.market op) (id : String)
    (mem : id ∈ (log.step digest iso op).cancelled) :
    ((log.step digest iso op).market.caseOf id).status = some .cancelled ∧
      ∀ q ∈ (log.step digest iso op).market.quotes,
        (log.step digest iso op).market.holds id = some q.id → q.status.isLive = false := by
  have steps : log.market.Steps iso op (log.market.step digest iso op) :=
    Market.step_steps held.market
  rcases List.mem_append.mp mem with old | new
  · obtain ⟨status, done⟩ := held.cancelled id old
    obtain ⟨own, moved⟩ := steps.rows id
    have row := moved.cancelled status
    have holds : (log.step digest iso op).market.holds id = log.market.holds id :=
      congrArg (fun row : Option SettlementRow => row.bind (·.quoteId)) row
    refine ⟨(congrArg (Option.map SettlementRow.status) row).trans status, ?_⟩
    rw [holds]
    exact steps.advances.notLive (held.bound id) done
  · obtain ⟨-, early⟩ := List.mem_filter.mp new
    have early := of_decide_eq_true early
    obtain ⟨cancels, holds⟩ := steps.early id early
    have holds : (log.step digest iso op).market.holds id = log.market.holds id := holds
    refine ⟨early.2, ?_⟩
    rw [holds]
    exact steps.advances.notLive (held.bound id) (matched.1 id (by simp [cancels]))

theorem ExpiryLog.step_inOrder {log : ExpiryLog} (held : log.InOrder)
    (matched : Matched iso log.market op) : (log.step digest iso op).InOrder := by
  have steps : log.market.Steps iso op (log.market.step digest iso op) :=
    Market.step_steps held.market
  refine ⟨log.market.step_inOrder op held.market, ?bound, ?unspoken, step_nodup held,
    step_expired held, ?once, ?apart, step_told held matched, step_cancelled held matched⟩
  case bound =>
    intro id quoteId holds
    rcases steps.bound id quoteId holds with before | there
    · obtain ⟨q, mem, is⟩ := held.bound id quoteId before
      have next : QuotesLater log.market.quotes (log.market.step digest iso op).quotes :=
        log.market.step_later op held.market
      obtain ⟨q', mem', later⟩ := next q mem
      exact ⟨q', mem', later.id.trans is⟩
    · exact there
  case unspoken =>
    intro id unnamed
    have apart : id ∉ op.subjects ∧ id ∉ log.market.named := by
      simpa [ExpiryLog.step, steps.named] using unnamed
    exact (congrArg Case.expiries (steps.others id apart.1)).trans (held.unspoken id apart.2)
  case once =>
    intro id
    rcases steps.tells id with same | ⟨quoteId, names, appended, -⟩
    · exact same ▸ held.once id
    · refine appended ▸ List.nodup_append'.mpr ⟨held.once id, List.nodup_singleton _, ?_⟩
      exact List.disjoint_singleton.mpr (matched.unsaid held names id)
  case apart =>
    intro id other quoteId mem mem'
    rcases steps.mem_expiries mem with old | ⟨names, subject, -⟩ <;>
      rcases steps.mem_expiries mem' with old' | ⟨names', subject', -⟩
    · exact held.apart id other quoteId old old'
    · exact (matched.unsaid held names' id old).elim
    · exact (matched.unsaid held names other old').elim
    · exact MarketOp.subject_unique subject subject'

theorem ExpiryLog.empty_inOrder : ExpiryLog.empty.InOrder where
  market := Market.empty_inOrder
  bound _ _ is := by cases is
  unspoken _ _ := rfl
  nodup := List.nodup_nil
  expired _ := by simp [ExpiryLog.empty, Market.empty]
  once _ := List.nodup_nil
  apart _ _ _ mem := by cases mem
  told _ _ mem := by cases mem
  cancelled _ mem := by cases mem

end Log

/-! ### Over whole runs -/

/-- In every run in which no settlement with a live quote is cancelled before authorization and each
quote is said to have expired by the step that expires it, or once after it, the quotes said to have
expired are matched by the changes. -/
theorem expiries_matched (digest : AuthorizedInstruction → String) (iso : Instant → String)
    (ops : List MarketOp)
    (steps : Along (ExpiryLog.step digest iso) (fun log op => Matched iso log.market op)
      ExpiryLog.empty ops) :
    ExpiriesMatched (run (ExpiryLog.step digest iso) ExpiryLog.empty ops) :=
  (steps.invariant (fun _ _ held matched => ExpiryLog.step_inOrder held matched)
    ExpiryLog.empty_inOrder).matched

def cancellingNow (settlementId : String) : MarketOp :=
  .other (fresh (.cancelSettlement {
    settlementId := settlementId, actor := creator, mayCancel := true, now := 103 })) rfl

/-- The sweeper expires the quote, the settlement gives it up, and is cancelled. -/
def expiringOnce : List MarketOp :=
  preparing "s" ++ [pricing "q" 100, attaching "s" "q" 0 1, .expireDueQuotes 101,
    .expireAttachedQuote 0 0 ⟨"s", "q", worker, 102⟩, cancellingNow "s"]

def expiriesAfter (ops : List MarketOp) : ExpiryLog :=
  run (ExpiryLog.step (fun _ => "digest") fun _ => "") ExpiryLog.empty ops

theorem expiries_matched_once : ExpiriesMatched (expiriesAfter expiringOnce) ∧
    (expiriesAfter expiringOnce).expired = ["q"] ∧
    (expiriesAfter expiringOnce).cancelled = ["s"] ∧
    ((expiriesAfter expiringOnce).market.caseOf "s").expiries = ["q"] := by
  refine ⟨expiries_matched _ _ _ ?_, ?_⟩
  · decide +kernel
  · decide +kernel

/-- A settlement is cancelled while its quote is locked: the quote is said to have expired, and
stays as it was. -/
def cancelledQuoted : List MarketOp :=
  preparing "s" ++ [pricing "q" 100, attaching "s" "q" 0 1, cancellingNow "s"]

theorem cancelled_unreleased : ¬ExpiriesMatched (expiriesAfter cancelledQuoted) ∧
    (expiriesAfter cancelledQuoted).market.quotes.map (·.status) = [.locked] ∧
    (expiriesAfter cancelledQuoted).cancelled = ["s"] ∧
    ((expiriesAfter cancelledQuoted).market.caseOf "s").expiries = ["q"] ∧
    (expiriesAfter cancelledQuoted).expired = [] := by
  have told : ((expiriesAfter cancelledQuoted).market.caseOf "s").expiries = ["q"] ∧
      (expiriesAfter cancelledQuoted).expired = [] := by decide +kernel
  refine ⟨fun matched => ?_, by decide +kernel, by decide +kernel, told⟩
  have changed := matched.changed "s" "q" (by simp [told.1])
  simp [told.2] at changed

end InrSettle
