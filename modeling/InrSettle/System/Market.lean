import InrSettle.Service.Quote
import InrSettle.System.Transitions

/-!
# Settlements and the quotes they hold

A tenant's settlements together with its quotes. The services that attach, expire
and consume a quote run over both tables; every other operation is the one the
settlements and funding tables already have.
-/

namespace InrSettle

open Transaction CaseTables

/-! ### The state -/

/-- The operations that move a settlement because of its quote. -/
def WorldOp.movesQuotes : WorldOp → Bool
  | .settlement _ (.attachQuote ..) | .settlement _ (.expireAttachedQuote ..)
  | .settlement _ (.authorizeSettlement _) => true
  | _ => false

def WorldOp.subjects : WorldOp → List String
  | .settlement _ op => [op.subject]
  | .funding _ => []

/-- The settlements and quotes of a tenant, what was committed before, latest first, and the
settlements an operation has named so far. -/
structure Market where
  world : World
  quotes : List QuoteRow
  pastQuotes : List (List QuoteRow)
  named : List String

namespace Market

def empty : Market := ⟨World.empty, [], [], []⟩

def caseOf (m : Market) (settlementId : String) : Case := m.world.now.cases settlementId

/-- The quote the settlement holds. -/
def holds (m : Market) (settlementId : String) : Option String :=
  (m.caseOf settlementId).settlement.bind (·.quoteId)

def quoteStore (m : Market) (settlementId : String) : QuoteStore where
  case := m.caseOf settlementId
  quotes := m.quotes
  heldElsewhere := (m.named.filter (· ≠ settlementId)).filterMap m.holds

end Market

/-! ### Operations -/

inductive MarketOp where
  | createQuote (quoteId : String) (price : QuotePrice)
  | expireDueQuotes (now : Instant)
  | attachQuote (asOf quotesAsOf : Nat) (input : Quotes.QuotingInput)
  | expireAttachedQuote (asOf quotesAsOf : Nat) (input : Quotes.QuotingInput)
  | authorizeSettlement (asOf quotesAsOf : Nat) (input : AuthorizeInput)
  | other (op : WorldOp) (apart : op.movesQuotes = false)

namespace Market

/-- The quotes as they were some commits ago. -/
def quotesAsOf (m : Market) : Nat → List QuoteRow
  | 0 => m.quotes
  | n + 1 => (m.pastQuotes[n]?).getD m.quotes

theorem quotesAsOf_mem (m : Market) (n : Nat) : m.quotesAsOf n ∈ m.quotes :: m.pastQuotes := by
  cases n with
  | zero => exact List.mem_cons_self
  | succ n =>
    unfold quotesAsOf
    cases found : m.pastQuotes[n]? with
    | none => simp [found]
    | some quotes => simp [found, List.mem_of_getElem? found]

/-- Two statements read the settlement and the quote, each what was committed by then. -/
def read (m : Market) (asOf quotesAsOf : Nat) (settlementId : String) : Quotes.Snapshot where
  settlement := ((m.world.asOf asOf).cases settlementId).settlement
  quotes := m.quotesAsOf quotesAsOf

/-- A transaction on the quotes alone. -/
def onTable (m : Market) (t : QuotesTx PUnit) : Market :=
  { m with quotes := after t m.quotes, pastQuotes := m.quotes :: m.pastQuotes }

/-- The tables with what a transaction about one settlement and its quote left. -/
def put (m : Market) (settlementId : String) (s : QuoteStore) : Market :=
  { m with
    world := { m.world with
      now := m.world.now.put settlementId ⟨s.case, m.world.now.liquidity⟩
      past := m.world.now :: m.world.past }
    quotes := s.quotes
    pastQuotes := m.quotes :: m.pastQuotes
    named := settlementId :: m.named }

/-- A transaction about one settlement and its quote. -/
def about {α : Type} (m : Market) (settlementId : String) (t : QuoteTx α) : Market :=
  m.put settlementId (after t (m.quoteStore settlementId))

variable (digest : AuthorizedInstruction → String) (iso : Instant → String)

def step (m : Market) : MarketOp → Market
  | .createQuote quoteId price => m.onTable (createQuote quoteId price)
  | .expireDueQuotes now => m.onTable (expireDueQuotes now)
  | .attachQuote asOf quotesAsOf input =>
    m.about input.settlementId
      (Quotes.attachQuote iso (m.read asOf quotesAsOf input.settlementId) input)
  | .expireAttachedQuote asOf quotesAsOf input =>
    m.about input.settlementId
      (Quotes.expireAttachedQuote iso (m.read asOf quotesAsOf input.settlementId) input)
  | .authorizeSettlement asOf quotesAsOf input =>
    m.about input.settlementId
      (Quotes.authorizeSettlement iso digest (m.read asOf quotesAsOf input.settlementId) input)
  | .other op _ =>
    { m with world := m.world.step digest op, named := op.subjects ++ m.named }

end Market

/-! ### Transactions over both tables -/

theorem commits_onSettlement {α : Type} {m : CaseTx α} {s s' : QuoteStore} {r : α}
    (h : Commits (onSettlement m) s r s') :
    ∃ c, Commits m s.case r c ∧ s' = { s with case := c } ∧ heldOnce s' = true := by
  obtain ⟨a, t, ran, h⟩ := commits_bind.mp h
  simp only [commits_get_bind, commits_require_bind, commits_pure] at h
  obtain ⟨once, rfl, rfl⟩ := h
  obtain ⟨c, inner, rfl⟩ := commits_focus.mp ran
  exact ⟨c, inner, rfl, once⟩

theorem commits_onQuotes {α : Type} {m : QuotesTx α} {s s' : QuoteStore} {r : α} :
    Commits (onQuotes m) s r s' ↔
      ∃ quotes, Commits m s.quotes r quotes ∧ s' = { s with quotes := quotes } := commits_focus

/-! ### The quote transitions -/

/-- The transition was refused, for a quote the machine did not let move or a consumer that was not
named, or the quote moved. -/
theorem transitionQuote_spec {args : QuoteArgs} {qs qs' : List QuoteRow}
    {r : Except QuoteRefusal QuoteStatus} (h : Commits (transitionQuote args) qs r qs') :
    qs' = qs ∧ (∀ q, (qs.find? fun q => decide (q.id = args.quoteId)) = some q →
        ∀ row, quoteMachine.evaluate (some q.status) args.trigger = some row →
          row.target = .consumed) ∨
      ∃ old row, old ∈ qs ∧ old.id = args.quoteId ∧
        quoteMachine.evaluate (some old.status) args.trigger = some row ∧
        quoteMayBecome old (args.moved row.target old) = true ∧
        Table.admits (·.consumedBySettlementId) (qs.filter fun q => decide (q.id ≠ old.id))
          (args.moved row.target old) = true ∧
        qs' = Table.setWhere (fun q => decide (q.id = old.id))
          (fun _ => args.moved row.target old) qs := by
  unfold transitionQuote at h
  simp only [commits_get_bind] at h
  split at h
  · rename_i absent
    exact .inl ⟨(commits_pure.mp h).2, fun q found => by simp [absent] at found⟩
  rename_i old found
  split at h
  · rename_i none
    refine .inl ⟨(commits_pure.mp h).2, fun q is row evaluated => ?_⟩
    obtain rfl := Option.some.inj (found.symm.trans is)
    rw [none] at evaluated
    cases evaluated
  rename_i row evaluated
  split at h
  · rename_i unnamed
    refine .inl ⟨(commits_pure.mp h).2, fun q is row' evaluated' => ?_⟩
    obtain rfl := Option.some.inj (found.symm.trans is)
    obtain rfl := Option.some.inj (evaluated.symm.trans evaluated')
    exact unnamed.1
  simp only [updateQuote, bind_assoc, commits_get_bind, commits_require_bind,
    commits_modify_bind, commits_pure] at h
  obtain ⟨mayBecome, admitted, rfl, rfl⟩ := h
  exact .inr ⟨old, row, List.mem_of_find?_eq_some found,
    by simpa using List.find?_some found, evaluated, mayBecome, admitted, rfl⟩

end InrSettle
