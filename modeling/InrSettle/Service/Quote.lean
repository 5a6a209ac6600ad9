import InrSettle.Service.Settlement

/-!
# The quote service

The quotes table with the trigger and the index it is held to, the quote machine
Q01–Q05, and the services that move a settlement and then ask for its quote's
transition in the same transaction.
-/

namespace InrSettle

open Transaction

/-! ### The quote machine -/

inductive QuoteTrigger where
  | create | lock | consume | expire | void
  deriving DecidableEq

inductive QuoteTransitionId where
  | q01 | q02 | q03 | q04 | q05
  deriving DecidableEq

structure QuoteTransition where
  id : QuoteTransitionId
  source : List QuoteStatus
  trigger : QuoteTrigger
  target : QuoteStatus
  deriving DecidableEq

open QuoteStatus in
/-- `QUOTE_TRANSITIONS`. -/
def quoteMachine : Machine QuoteStatus QuoteTrigger QuoteTransition where
  rows := [
    ⟨.q01, [], .create, active⟩,
    ⟨.q02, [active], .lock, locked⟩,
    ⟨.q03, [locked], .consume, consumed⟩,
    ⟨.q04, [active, locked], .expire, expired⟩,
    ⟨.q05, [active, locked], .void, void⟩]
  source := (·.source)
  trigger := (·.trigger)
  target := (·.target)

/-- `TERMINAL_QUOTE_STATUSES`. -/
def QuoteStatus.isTerminal : QuoteStatus → Bool
  | consumed | expired | void => true
  | active | locked => false

/-! ### The table -/

/-- What a quote is priced at, from its creation on. -/
structure QuotePrice where
  direction : String
  recipientAmount : Money
  fundingAmount : Money
  fxRateScaled : Int
  fxPair : String
  fxQuotedAt : Instant
  fxSource : String
  feeComponents : List FeeComponent
  residualCurrency : String
  residualAmount : String
  residualScale : Nat
  estimatedDelivery : String
  pricingVersion : String
  expiresAt : Instant
  createdAt : Instant
  createdBy : String
  deriving DecidableEq

structure QuoteRow where
  id : String
  price : QuotePrice
  status : QuoteStatus := .active
  lockedAt : Option Instant := none
  consumedBySettlementId : Option String := none
  deriving DecidableEq

/-- The CHECK constraints of `quotes`. -/
def quoteChecks (q : QuoteRow) : Bool :=
  decide (0 ≤ q.price.recipientAmount.minorUnits) &&
    q.price.recipientAmount.currency == "INR" &&
    decide (0 ≤ q.price.fundingAmount.minorUnits) && decide (0 < q.price.fxRateScaled)

/-- `reject_quote_mutation`, within one tenant. -/
def quoteMayBecome (old new : QuoteRow) : Bool :=
  new.price.direction == old.price.direction &&
    new.price.recipientAmount == old.price.recipientAmount &&
    new.price.fundingAmount == old.price.fundingAmount &&
    new.price.fxRateScaled == old.price.fxRateScaled &&
    new.price.fxPair == old.price.fxPair &&
    new.price.feeComponents == old.price.feeComponents &&
    new.price.residualCurrency == old.price.residualCurrency &&
    new.price.residualAmount == old.price.residualAmount &&
    new.price.residualScale == old.price.residualScale &&
    new.price.expiresAt == old.price.expiresAt && new.price.createdAt == old.price.createdAt &&
    new.price.pricingVersion == old.price.pricingVersion &&
    (!old.status.isTerminal || new.status == old.status) &&
    (old.consumedBySettlementId.isNone ||
      new.consumedBySettlementId == old.consumedBySettlementId)

abbrev QuotesTx := Tx (List QuoteRow) DbError

/-- Q01, at the price the pricing configuration gave. -/
def createQuote (quoteId : String) (price : QuotePrice) : QuotesTx PUnit := do
  let quotes ← get
  require (∀ q ∈ quotes, q.id ≠ quoteId) (.uniqueViolation "quotes_pkey")
  require (quoteChecks { id := quoteId, price := price } = true) (.checkViolation "quotes")
  modify fun quotes => quotes ++ [{ id := quoteId, price := price }]

/-- `UPDATE quotes SET … WHERE id = $1`, from the row the transaction holds locked. -/
def updateQuote (old new : QuoteRow) : QuotesTx PUnit := do
  let quotes ← get
  require (quoteMayBecome old new = true) (.restrictViolation "reject_quote_mutation")
  require (Table.admits (·.consumedBySettlementId) (quotes.filter fun q => decide (q.id ≠ old.id))
    new = true) (.uniqueViolation "quotes_single_consumption")
  modify (Table.setWhere (fun q => decide (q.id = old.id)) fun _ => new)

inductive QuoteRefusal where
  | quoteNotFound | invalidQuoteTransition | consumerRequired
  deriving DecidableEq

structure QuoteArgs where
  quoteId : String
  trigger : QuoteTrigger
  consumedBySettlementId : Option String := none
  now : Instant
  deriving DecidableEq

/-- The row `transitionQuote` writes. -/
def QuoteArgs.moved (args : QuoteArgs) (target : QuoteStatus) (q : QuoteRow) : QuoteRow :=
  { q with
    status := target
    lockedAt := if target = .locked then some args.now else q.lockedAt
    consumedBySettlementId := if target = .consumed then args.consumedBySettlementId
      else q.consumedBySettlementId }

/-- Under the row lock, whatever the caller read of the quote before. -/
def transitionQuote (args : QuoteArgs) : QuotesTx (Except QuoteRefusal QuoteStatus) := do
  let quotes ← get
  match quotes.find? fun q => decide (q.id = args.quoteId) with
  | none => return .error .quoteNotFound
  | some current =>
    match quoteMachine.evaluate (some current.status) args.trigger with
    | none => return .error .invalidQuoteTransition
    | some row =>
      if row.target = .consumed ∧ ¬args.consumedBySettlementId.any (· ≠ "") = true then
        return .error .consumerRequired
      else
        updateQuote current (args.moved row.target current)
        return .ok row.target

/-- What the sweeper finds. -/
def isDue (now : Instant) (q : QuoteRow) : Bool :=
  (q.status == .active || q.status == .locked) && decide (q.price.expiresAt < now)

/-- Q04 by the sweeper, in one statement. -/
def expireDueQuotes (now : Instant) : QuotesTx PUnit :=
  modify (Table.setWhere (isDue now) fun q => { q with status := .expired })

/-! ### Reading a quote -/

/-- `toQuote`, as the settlement service uses it; `iso` renders an instant. -/
def QuoteRow.view (iso : Instant → String) (q : QuoteRow) : QuoteView where
  terms := {
    quoteId := q.id
    direction := q.price.direction
    recipientAmount := q.price.recipientAmount
    fundingAmount := q.price.fundingAmount
    fxPair := q.price.fxPair
    fxRateScaled := toString q.price.fxRateScaled
    fxScale := 10
    fxQuotedAt := iso q.price.fxQuotedAt
    feeComponents := q.price.feeComponents
    residualCurrency := q.price.residualCurrency
    residualAmount := q.price.residualAmount
    residualScale := q.price.residualScale
    quotedAt := iso q.price.createdAt
    expiresAt := iso q.price.expiresAt }
  sameTenant := true
  status := q.status
  consumedBySettlementId := q.consumedBySettlementId
  expiresAt := q.price.expiresAt

/-- `getQuote`. -/
def getQuote (iso : Instant → String) (quotes : List QuoteRow) (quoteId : String) :
    Option QuoteView :=
  (quotes.find? fun q => decide (q.id = quoteId)).map (·.view iso)

/-! ### The services over both tables -/

/-- What a transaction about one settlement and its quote can reach. -/
structure QuoteStore where
  case : Case
  quotes : List QuoteRow
  /-- The quotes the other settlements hold, as `settlements_quote_once` indexes them. -/
  heldElsewhere : List String
  deriving DecidableEq

abbrev QuoteTx := Tx QuoteStore DbError

/-- `settlements_quote_once`, for the row the transaction wrote. -/
def heldOnce (s : QuoteStore) : Bool :=
  (s.case.settlement.bind (·.quoteId)).all fun quoteId => decide (quoteId ∉ s.heldElsewhere)

def onSettlement {α : Type} (m : CaseTx α) : QuoteTx α := do
  let answered ← focus QuoteStore.case (fun s c => { s with case := c }) m
  let s ← get
  require (heldOnce s = true) (.uniqueViolation "settlements_quote_once")
  return answered

def onQuotes {α : Type} (m : QuotesTx α) : QuoteTx α :=
  focus QuoteStore.quotes (fun s quotes => { s with quotes := quotes }) m

namespace Quotes

/-- What the service read of the settlement and of the quotes before it locked anything. -/
structure Snapshot where
  settlement : Option SettlementRow
  quotes : List QuoteRow

structure QuotingInput where
  settlementId : String
  quoteId : String
  actor : PrincipalRef
  now : Instant
  deriving DecidableEq

variable (iso : Instant → String)

def QuotingInput.reading (input : QuotingInput) (quote : Option QuoteView) : QuoteInput where
  quoteId := input.quoteId
  quote := quote
  actor := input.actor
  now := input.now

/-- T06, and the lock asked for after it; its refusal is not looked at. -/
def attachQuote (read : Snapshot) (input : QuotingInput) : QuoteTx TransitionOutcome := do
  let outcome ← onSettlement (InrSettle.attachQuote read.settlement
    (input.reading (getQuote iso read.quotes input.quoteId)))
  match outcome with
  | .error _ => return outcome
  | .ok _ => do
    let _ ← onQuotes (transitionQuote {
      quoteId := input.quoteId, trigger := .lock, now := input.now })
    return outcome

/-- T07, for the quote the settlement was read with. -/
def expireAttachedQuote (read : Snapshot) (input : QuotingInput) :
    QuoteTx TransitionOutcome := do
  match read.settlement.bind (·.quoteId) with
  | none => return .error .settlementNotFound
  | some quoteId =>
    let outcome ← onSettlement (InrSettle.expireAttachedQuote read.settlement
      (input.reading (getQuote iso read.quotes quoteId)))
    match outcome with
    | .error _ => return outcome
    | .ok _ => do
      let _ ← onQuotes (transitionQuote {
        quoteId := quoteId, trigger := .expire, now := input.now })
      return outcome

/-- T08, and the consumption of the quote the settlement was read with. -/
def authorizeSettlement (digest : AuthorizedInstruction → String) (read : Snapshot)
    (input : AuthorizeInput) : QuoteTx (Except AuthorizeRefusal String) := do
  match read.settlement.bind (·.quoteId) with
  | none => onSettlement (InrSettle.authorizeSettlement digest read.settlement input)
  | some quoteId =>
    let outcome ← onSettlement (InrSettle.authorizeSettlement digest read.settlement
      { input with quote := getQuote iso read.quotes quoteId, quoteConsumed := true })
    match outcome with
    | .error _ => return outcome
    | .ok _ => do
      let consumed ← onQuotes (transitionQuote {
        quoteId := quoteId, trigger := .consume
        consumedBySettlementId := some input.settlementId, now := input.now })
      match consumed with
      | .error _ => return .error .quoteNotConsumed
      | .ok _ => return outcome

end Quotes

end InrSettle
