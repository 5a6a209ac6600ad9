import InrSettle.Library.DoubleEntry
import InrSettle.Library.Run
import InrSettle.Funding.Moves

/-!
# The books of a facility

The facility's stored totals, its reservations, its repayments and its ledger are
four accounts of the same money. Every committed operation moves all four alike.
-/

namespace InrSettle

open Transaction FundingTables DoubleEntry

/-! ### Operations and runs -/

/-- The operations on facilities, each one committed transaction. -/
inductive LiquidityOp where
  | createFacility (input : FacilityInput)
  | setFacilityLimit (ctx : OperatorContext) (facilityId : String) (limit : Money)
  | setFacilityStatus (ctx : OperatorContext) (facilityId : String) (suspend : Bool)
  | reserveLiquidity (input : ReserveInput)
  | releaseReservation (input : ReleaseInput)
  | consumeReservation (input : ConsumeInput)
  | requestRepayment (input : RepayInput)
  | advanceRepayment (input : AdvanceInput)
  deriving DecidableEq

/-- The funding tables after one operation; a refused or aborted one leaves them as they were. -/
def liquidityStep (l : Liquidity) : LiquidityOp → Liquidity
  | .createFacility input => after (createFacility input) l
  | .setFacilityLimit ctx facilityId limit => after (setFacilityLimit ctx facilityId limit) l
  | .setFacilityStatus ctx facilityId suspend => after (setFacilityStatus ctx facilityId suspend) l
  | .reserveLiquidity input => after (reserveLiquidity input) l
  | .releaseReservation input => after (releaseReservation input) l
  | .consumeReservation input => after (consumeReservation input) l
  | .requestRepayment input => after (requestRepayment input) l
  | .advanceRepayment input => after (advanceRepayment input) l

def Liquidity.empty : Liquidity := {}

/-- Everything one committed operation can do to the funding tables. -/
inductive FundingMove (l : Liquidity) : Liquidity → Prop where
  | refused : FundingMove l l
  | created {input : FacilityInput} {audits : List AuditRow} :
      (∀ g ∈ l.facilities, g.id ≠ input.facilityId) → facilityChecks input.row = true →
      FundingMove l { l with facilities := l.facilities ++ [input.row], audits := audits }
  | adjusted {facilityId : String} {set : FacilityRow → FacilityRow} {audits : List AuditRow} :
      KeepsPosition set →
      (∀ f ∈ l.facilities, f.id = facilityId → facilityChecks (set f) = true) →
      FundingMove l { adjusting facilityId set l with audits := audits }
  | reserved {input : ReserveInput} {events : List EventRow} :
      ReserveAllowed input l → FundingMove l { reserving input l with events := events }
  | left {res : ReservationRow} {row : ReservationTransition} {now : Instant}
      {reason : Option String} {actor : PrincipalRef} {transferId : String}
      {events : List EventRow} :
      res ∈ l.reservations → res.status = .active →
      row ∈ reservationMachine.rows → row.trigger ≠ .reserve →
      PostAllowed (res.movement row.movement actor transferId) l →
      FundingMove l { leaving res.id row.target now reason
        (res.movement row.movement actor transferId) l with events := events }
  | requested {input : RepayInput} {fingerprint : String} {events : List EventRow} :
      RepayAllowed input l → Table.admits liveCause l.repayments (input.row fingerprint) = true →
      FundingMove l
        { l with repayments := l.repayments ++ [input.row fingerprint], events := events }
  | advanced {current : RepaymentRow} {row : RepaymentTransition} {input : AdvanceInput}
      {fingerprint : String} {events : List EventRow} {audits : List AuditRow} :
      current ∈ l.repayments → current.id = input.repaymentId →
      repaymentMachine.evaluate (some current.status) input.trigger = some row →
      (row.restoresCapacity = true → PostAllowed (current.movement input) l) →
      Table.admits liveCause (l.repayments.filter fun q => decide (q.id ≠ current.id))
        (advancedRepayment current row input fingerprint) = true →
      FundingMove l { (if row.restoresCapacity then posted (current.movement input)
          (advancing current (advancedRepayment current row input fingerprint) l)
        else advancing current (advancedRepayment current row input fingerprint) l) with
          events := events, audits := audits }

section Specs

variable {l l' : Liquidity}

theorem createFacility_move {input : FacilityInput} {r : String}
    (h : Commits (createFacility input) l r l') : FundingMove l l' := by
  obtain ⟨fresh, checked, _, rfl⟩ := createFacility_spec h
  exact .created fresh checked

theorem setFacilityLimit_move {ctx : OperatorContext} {facilityId : String} {limit : Money}
    {r : Except FacilityRefusal Money} (h : Commits (setFacilityLimit ctx facilityId limit) l r l') :
    FundingMove l l' := by
  rcases setFacilityLimit_spec h with ⟨_, -, rfl⟩ | ⟨_, _, kept, checked, -, rfl⟩
  · exact .refused
  · exact .adjusted kept checked

theorem setFacilityStatus_move {ctx : OperatorContext} {facilityId : String} {suspend : Bool}
    {r : Except FacilityRefusal FacilityStatus}
    (h : Commits (setFacilityStatus ctx facilityId suspend) l r l') : FundingMove l l' := by
  rcases setFacilityStatus_spec h with ⟨_, -, rfl⟩ | ⟨_, _, kept, checked, -, rfl⟩
  · exact .refused
  · exact .adjusted kept checked

theorem reserveLiquidity_move {input : ReserveInput} {r : Except ReserveRefusal Reserved}
    (h : Commits (reserveLiquidity input) l r l') : FundingMove l l' := by
  rcases reserveLiquidity_spec h with ⟨_, -, rfl⟩ | ⟨_, -, allowed, _, rfl⟩
  · exact .refused
  · exact .reserved allowed

/-- The reservation a settlement's transaction locks is one of its own. -/
theorem lockReservation_some {settlementId : String} {res : ReservationRow}
    (h : lockReservation l settlementId = some res) :
    res ∈ l.reservations ∧ res.settlementId = settlementId := by
  have mine : res ∈ l.reservations.filter fun r => decide (r.settlementId = settlementId) := by
    simp only [lockReservation] at h
    split at h
    · rename_i found
      obtain rfl := Option.some.inj h
      exact (List.mem_filter.mp (Table.latestBy_some found).1).1
    · exact (Table.latestBy_some h).1
  simpa using List.mem_filter.mp mine

theorem releaseReservation_move {input : ReleaseInput}
    {r : Except ReservationRefusal ReservationDone}
    (h : Commits (releaseReservation input) l r l') : FundingMove l l' := by
  rcases releaseReservation_spec h with ⟨rfl, -⟩ | ⟨rfl, -⟩ |
    ⟨res, row, _, locked, active, mem, answers, -, allowed, rfl⟩
  · exact .refused
  · exact .refused
  · refine .left (lockReservation_some locked).1 active mem ?_ allowed
    rw [answers]
    cases input.expired <;> decide

theorem consumeReservation_move {input : ConsumeInput}
    {r : Except ReservationRefusal ReservationDone}
    (h : Commits (consumeReservation input) l r l') : FundingMove l l' := by
  rcases consumeReservation_spec h with ⟨rfl, -⟩ | ⟨res, locked, active, -, allowed, rfl⟩
  · exact .refused
  · have moved : FundingMove l { leaving res.id consuming.target input.now none
        (res.movement consuming.movement input.actor input.transferId) l with
          events := l.events } :=
      .left (lockReservation_some locked).1 active consuming_mem (by decide) allowed
    exact moved

theorem requestRepayment_move {input : RepayInput} {r : Except RepaymentRefusal RepaymentDone}
    (h : Commits (requestRepayment input) l r l') : FundingMove l l' := by
  rcases requestRepayment_spec h with ⟨_, -, rfl⟩ | ⟨-, allowed, _, _, admitted, rfl⟩
  · exact .refused
  · exact .requested allowed admitted

theorem advanceRepayment_move {input : AdvanceInput} {r : Except RepaymentRefusal RepaymentDone}
    (h : Commits (advanceRepayment input) l r l') : FundingMove l l' := by
  rcases advanceRepayment_spec h with ⟨_, -, rfl⟩ |
    ⟨current, row, _, found, evaluated, -, allowed, admitted, _, _, rfl⟩
  · exact .refused
  · exact .advanced (List.mem_of_find?_eq_some found) (by simpa using List.find?_some found)
      evaluated allowed admitted

/-- A transaction whose commits are funding moves is one, committed or not. -/
theorem after_move {α : Type} {m : LiquidityTx α}
    (moves : ∀ {l r l'}, Commits m l r l' → FundingMove l l') (l : Liquidity) :
    FundingMove l (after m l) :=
  after_induction .refused fun _ _ done => moves done

end Specs

theorem liquidityStep_move (l : Liquidity) (op : LiquidityOp) :
    FundingMove l (liquidityStep l op) := by
  cases op with
  | createFacility input => exact after_move createFacility_move l
  | setFacilityLimit ctx facilityId limit => exact after_move setFacilityLimit_move l
  | setFacilityStatus ctx facilityId suspend => exact after_move setFacilityStatus_move l
  | reserveLiquidity input => exact after_move reserveLiquidity_move l
  | releaseReservation input => exact after_move releaseReservation_move l
  | consumeReservation input => exact after_move consumeReservation_move l
  | requestRepayment input => exact after_move requestRepayment_move l
  | advanceRepayment input => exact after_move advanceRepayment_move l

/-! ### The four accounts of a facility -/

/-- The reservations of a facility in one status, summed. -/
def reservationsIn (status : ReservationStatus) (l : Liquidity) (facilityId : String) : Int :=
  Table.sumWhere (fun r => decide (r.facilityId = facilityId) && decide (r.status = status))
    (·.amountMinor) l.reservations

def confirmedRepayments (l : Liquidity) (facilityId : String) : Int :=
  Table.sumWhere (fun r => decide (r.facilityId = facilityId) && decide (r.status = .confirmed))
    (·.amountMinor) l.repayments

/-- What the reservation and repayment rows say a facility has on one of its accounts. -/
def rowTotal (account : LedgerAccount) (l : Liquidity) (facilityId : String) : Int :=
  match account with
  | .reserved => reservationsIn .active l facilityId
  | .drawn => reservationsIn .consumed l facilityId - confirmedRepayments l facilityId
  | .available => 0

/-- What the facility's own row says. -/
def FacilityRow.column (f : FacilityRow) : LedgerAccount → Int
  | .reserved => f.reservedMinor
  | .drawn => f.drawnMinor
  | .available => 0

/-- A ledger entry as a posting on one account of one facility. -/
def LedgerEntry.posting (e : LedgerEntry) : Posting (String × LedgerAccount) :=
  ⟨(e.facilityId, e.account), decide (e.direction = .debit), e.amountMinor⟩

def Movement.transfer (m : Movement) : Transfer (String × LedgerAccount) :=
  ⟨(m.facilityId, m.movement.pair.source), (m.facilityId, m.movement.pair.target),
    m.amount.minorUnits⟩

/-- What a movement adds to one account of one facility. -/
def Movement.adds (m : Movement) (account : LedgerAccount) (facilityId : String) : Int :=
  if m.facilityId = facilityId then m.delta account else 0

theorem projectAccount_eq_balance (l : Liquidity) (facilityId : String) (account : LedgerAccount) :
    projectAccount l facilityId account =
      balance (facilityId, account) (l.ledger.map LedgerEntry.posting) := by
  simp only [projectAccount, balance, List.map_map]
  induction l.ledger with
  | nil => rfl
  | cons e rest ih =>
    rw [Table.sumWhere_cons, ih, List.map_cons, List.sum_cons]
    congr 1
    simp only [Function.comp_apply, LedgerEntry.posting, Prod.mk.injEq, Posting.signed,
      LedgerEntry.signed, Bool.and_eq_true, decide_eq_true_eq]

/-- The two entries of a movement are the postings of its transfer. -/
theorem posted_ledger (m : Movement) (l : Liquidity) :
    (posted m l).ledger.map LedgerEntry.posting =
      l.ledger.map LedgerEntry.posting ++ m.transfer.postings := by
  simp [posted, LedgerEntry.posting, Movement.entry, Movement.transfer, Transfer.postings,
    ledgerPairFor]

theorem projectAccount_posted (m : Movement) (l : Liquidity) (facilityId : String)
    (account : LedgerAccount) :
    projectAccount (posted m l) facilityId account =
      projectAccount l facilityId account + m.adds account facilityId := by
  rw [projectAccount_eq_balance, posted_ledger, balance_append, ← projectAccount_eq_balance,
    balance_transfer]
  by_cases same : m.facilityId = facilityId <;>
    by_cases target : m.movement.pair.target = account <;>
    by_cases source : m.movement.pair.source = account <;>
    simp [Movement.transfer, Movement.adds, Movement.delta, ledgerPairFor, same, target, source]

/-! ### The invariant -/

/-- Every amount is carried on a facility that exists. -/
structure Referenced (l : Liquidity) : Prop where
  ledger : ∀ e ∈ l.ledger, ∃ f ∈ l.facilities, f.id = e.facilityId
  reservations : ∀ r ∈ l.reservations, ∃ f ∈ l.facilities, f.id = r.facilityId
  repayments : ∀ r ∈ l.repayments, ∃ f ∈ l.facilities, f.id = r.facilityId

/-- A transfer: one debit and one credit of the same amount, on two accounts of one facility. -/
def IsTransfer : List LedgerEntry → Prop
  | [a, b] => a.direction = .debit ∧ b.direction = .credit ∧ a.amountMinor = b.amountMinor ∧
      a.amountCurrency = b.amountCurrency ∧ a.facilityId = b.facilityId ∧ a.account ≠ b.account ∧
      0 < a.amountMinor
  | _ => False

def transferOf (l : Liquidity) (transferId : String) : List LedgerEntry :=
  l.ledger.filter fun e => decide (e.transferId = transferId)

/-- The invariant of the funding tables. -/
structure Books (l : Liquidity) : Prop where
  facilityIds : (l.facilities.map (·.id)).Nodup
  reservationIds : (l.reservations.map (·.id)).Nodup
  repaymentIds : (l.repayments.map (·.id)).Nodup
  referenced : Referenced l
  transfers : ∀ e ∈ l.ledger, IsTransfer (transferOf l e.transferId)
  checked : ∀ f ∈ l.facilities, facilityChecks f = true
  rows : ∀ f ∈ l.facilities, ∀ account, account ≠ .available →
    f.column account = rowTotal account l f.id
  projected : ∀ f ∈ l.facilities, ∀ account, account ≠ .available →
    f.column account = projectAccount l f.id account
  positive : (∀ r ∈ l.reservations, 0 < r.amountMinor) ∧ ∀ r ∈ l.repayments, 0 < r.amountMinor

theorem books_empty : Books Liquidity.empty where
  facilityIds := .nil
  reservationIds := .nil
  repaymentIds := .nil
  referenced := ⟨by simp [Liquidity.empty], by simp [Liquidity.empty], by simp [Liquidity.empty]⟩
  transfers := by simp [Liquidity.empty]
  checked := by simp [Liquidity.empty]
  rows := by simp [Liquidity.empty]
  projected := by simp [Liquidity.empty]
  positive := by simp [Liquidity.empty]

/-! ### What each move does to the books -/

/-- The rows beside the facilities and the ledger changed, and are still rows of these facilities. -/
structure RowsChanged (l l₁ : Liquidity) : Prop where
  facilities : l₁.facilities = l.facilities
  ledger : l₁.ledger = l.ledger
  reservationIds : (l₁.reservations.map (·.id)).Nodup
  repaymentIds : (l₁.repayments.map (·.id)).Nodup
  reservations : ∀ r ∈ l₁.reservations, 0 < r.amountMinor ∧ ∃ f ∈ l.facilities, f.id = r.facilityId
  repayments : ∀ r ∈ l₁.repayments, 0 < r.amountMinor ∧ ∃ f ∈ l.facilities, f.id = r.facilityId

variable {l l₁ : Liquidity}

theorem Books.withEvents (books : Books l) (events : List EventRow) (audits : List AuditRow) :
    Books { l with events := events, audits := audits } :=
  ⟨books.facilityIds, books.reservationIds, books.repaymentIds,
    ⟨books.referenced.ledger, books.referenced.reservations, books.referenced.repayments⟩,
    books.transfers, books.checked, books.rows, books.projected, books.positive⟩

theorem RowsChanged.referenced (books : Books l) (changed : RowsChanged l l₁) :
    Referenced l₁ where
  ledger := by
    rw [changed.ledger, changed.facilities]
    exact books.referenced.ledger
  reservations := by
    rw [changed.facilities]
    exact fun r hr => (changed.reservations r hr).2
  repayments := by
    rw [changed.facilities]
    exact fun r hr => (changed.repayments r hr).2

/-- Rows that change without moving money keep the books. -/
theorem Books.rowsChanged (books : Books l) (changed : RowsChanged l l₁)
    (same : ∀ account, account ≠ .available → ∀ facilityId,
      rowTotal account l₁ facilityId = rowTotal account l facilityId) : Books l₁ where
  facilityIds := by
    rw [changed.facilities]
    exact books.facilityIds
  reservationIds := changed.reservationIds
  repaymentIds := changed.repaymentIds
  referenced := changed.referenced books
  transfers := by
    simp only [transferOf, changed.ledger]
    exact books.transfers
  checked := by
    rw [changed.facilities]
    exact books.checked
  rows := by
    intro f hf account held
    rw [changed.facilities] at hf
    rw [same account held]
    exact books.rows f hf account held
  projected := by
    intro f hf account held
    rw [changed.facilities] at hf
    simp only [projectAccount, changed.ledger]
    exact books.projected f hf account held
  positive := ⟨fun r hr => (changed.reservations r hr).1, fun r hr => (changed.repayments r hr).1⟩

/-- The facility rows after a movement, each with the row it was. -/
theorem mem_posted_facilities {m : Movement} {g : FacilityRow}
    (h : g ∈ (posted m l).facilities) :
    ∃ f ∈ l.facilities, g.id = f.id ∧ (∀ account, account ≠ .available →
      g.column account = f.column account + m.adds account f.id) ∧
      (g = f ∨ f.id = m.facilityId ∧ facilityChecks g = facilityChecks (m.apply f)) := by
  rcases Table.mem_setWhere.mp h with ⟨f, hf, here, rfl⟩ | ⟨hg, elsewhere⟩
  · simp only [decide_eq_true_eq] at here
    refine ⟨f, hf, by simp [Movement.apply], fun account held => ?_, .inr ⟨here, by simp⟩⟩
    cases account with
    | available => exact (held rfl).elim
    | reserved => simp [FacilityRow.column, Movement.apply, Movement.adds, here]
    | drawn => simp [FacilityRow.column, Movement.apply, Movement.adds, here]
  · simp only [decide_eq_false_iff_not] at elsewhere
    refine ⟨g, hg, rfl, fun account _ => ?_, .inl rfl⟩
    simp [Movement.adds, Ne.symm elsewhere]

theorem posted_facilityIds (m : Movement) (l : Liquidity) :
    (posted m l).facilities.map (·.id) = l.facilities.map (·.id) :=
  Table.map_setWhere fun _ _ _ => by simp [Movement.apply]

/-- A movement is a transfer of its own; the other transfers are as they were. -/
theorem transfers_posted {m : Movement} (allowed : PostAllowed m l)
    (before : ∀ e ∈ l.ledger, IsTransfer (transferOf l e.transferId)) :
    ∀ e ∈ (posted m l).ledger, IsTransfer (transferOf (posted m l) e.transferId) := by
  have split : ∀ transferId, transferOf (posted m l) transferId =
      transferOf l transferId ++ if m.transferId = transferId then
        [m.entry (ledgerPairFor m.movement).1 .debit, m.entry (ledgerPairFor m.movement).2 .credit]
      else [] := by
    intro transferId
    by_cases same : m.transferId = transferId <;>
      simp [transferOf, posted, Movement.entry, List.filter_append, same]
  have none : transferOf l m.transferId = [] :=
    List.filter_eq_nil_iff.mpr fun e he => by simpa using allowed.fresh e he
  have itself : IsTransfer (transferOf (posted m l) m.transferId) := by
    rw [split, none, if_pos rfl]
    exact ⟨rfl, rfl, rfl, rfl, rfl, ledgerPairFor_distinct m.movement, allowed.positive⟩
  intro e he
  rcases List.mem_append.mp he with old | new
  · rw [split, if_neg (Ne.symm (allowed.fresh e old)), List.append_nil]
    exact before e old
  · simp only [List.mem_cons, List.not_mem_nil, or_false] at new
    rcases new with rfl | rfl <;> exact itself

/-- Rows that change by what a movement posts keep the books. -/
theorem Books.afterPosting {m : Movement} (books : Books l) (changed : RowsChanged l l₁)
    (moved : ∀ account, account ≠ .available → ∀ facilityId,
      rowTotal account l₁ facilityId = rowTotal account l facilityId + m.adds account facilityId)
    (allowed : PostAllowed m l) : Books (posted m l₁) := by
  have allowed₁ : PostAllowed m l₁ := by
    have sameFacilities : l.facilities = l₁.facilities := changed.facilities.symm
    have sameLedger : l.ledger = l₁.ledger := changed.ledger.symm
    exact allowed.congr sameFacilities sameLedger
  have kept : ∀ facilityId, (∃ f ∈ l₁.facilities, f.id = facilityId) →
      ∃ f ∈ (posted m l₁).facilities, f.id = facilityId := by
    intro facilityId known
    have : facilityId ∈ l₁.facilities.map (·.id) := by simpa using known
    rw [← posted_facilityIds m l₁] at this
    simpa using this
  have referenced := changed.referenced books
  refine ⟨?_, changed.reservationIds, changed.repaymentIds, ⟨?_, ?_, ?_⟩, ?_, ?_, ?_, ?_,
    ⟨fun r hr => (changed.reservations r hr).1, fun r hr => (changed.repayments r hr).1⟩⟩
  · rw [posted_facilityIds, changed.facilities]
    exact books.facilityIds
  · intro e he
    refine kept _ ?_
    rcases List.mem_append.mp he with old | new
    · exact referenced.ledger e old
    · obtain ⟨f, hf, same, -⟩ := allowed₁.references
      simp only [List.mem_cons, List.not_mem_nil, or_false] at new
      rcases new with rfl | rfl <;> exact ⟨f, hf, same⟩
  · exact fun r hr => kept _ (referenced.reservations r hr)
  · exact fun r hr => kept _ (referenced.repayments r hr)
  · refine transfers_posted allowed₁ ?_
    simp only [transferOf, changed.ledger]
    exact books.transfers
  · intro g hg
    obtain ⟨f, hf, -, -, rfl | ⟨here, checks⟩⟩ := mem_posted_facilities hg
    · exact books.checked g (changed.facilities ▸ hf)
    · rw [checks]
      exact allowed₁.checked f hf here
  · intro g hg account held
    obtain ⟨f, hf, same, moves, -⟩ := mem_posted_facilities hg
    have before := books.rows f (changed.facilities ▸ hf) account held
    have after : rowTotal account (posted m l₁) g.id = rowTotal account l₁ f.id := by
      rw [same]
      cases account <;> rfl
    rw [moves account held, after, moved account held, before]
  · intro g hg account held
    obtain ⟨f, hf, same, moves, -⟩ := mem_posted_facilities hg
    have before := books.projected f (changed.facilities ▸ hf) account held
    rw [moves account held, projectAccount_posted, same, before]
    simp only [projectAccount, changed.ledger]

theorem nodup_append_singleton {ids : List String} {id : String} (distinct : ids.Nodup)
    (fresh : id ∉ ids) : (ids ++ [id]).Nodup :=
  List.nodup_append.mpr ⟨distinct, List.nodup_singleton id, fun _ old _ new same =>
    fresh (List.mem_singleton.mp new ▸ same ▸ old)⟩

theorem Books.reserved {input : ReserveInput} (books : Books l) (allowed : ReserveAllowed input l) :
    Books (reserving input l) := by
  refine books.afterPosting ⟨rfl, rfl, ?_, books.repaymentIds, ?_, ?_⟩ ?_ allowed.posts
  · simpa using nodup_append_singleton books.reservationIds fun known => by
      obtain ⟨q, hq, same⟩ := List.mem_map.mp known
      exact allowed.freshId q hq same
  · intro r hr
    rcases List.mem_append.mp hr with old | new
    · exact ⟨books.positive.1 r old, books.referenced.reservations r old⟩
    · obtain rfl := List.mem_singleton.mp new
      obtain ⟨f, hf, same, -⟩ := allowed.posts.references
      exact ⟨allowed.posts.positive, f, hf, same⟩
  · exact fun r hr => ⟨books.positive.2 r hr, books.referenced.repayments r hr⟩
  · intro account held facilityId
    by_cases here : input.facilityId = facilityId <;> cases account <;>
      simp [rowTotal, reservationsIn, confirmedRepayments, Table.sumWhere_append,
        Table.sumWhere_singleton, ReserveInput.row, ReserveInput.movement, Movement.adds,
        Movement.delta, ledgerPairFor, LedgerMovement.pair, here] at held ⊢

/-- What leaving ACTIVE keeps of a reservation. -/
theorem leaveActive_kept (reservationId : String) (target : ReservationStatus) (now : Instant)
    (reason : Option String) (r : ReservationRow) :
    (leaveActive reservationId target now reason r).id = r.id ∧
      (leaveActive reservationId target now reason r).facilityId = r.facilityId ∧
      (leaveActive reservationId target now reason r).settlementId = r.settlementId ∧
      (leaveActive reservationId target now reason r).amountMinor = r.amountMinor ∧
      (leaveActive reservationId target now reason r).amountCurrency = r.amountCurrency ∧
      (leaveActive reservationId target now reason r).createdAt = r.createdAt := by
  unfold leaveActive
  split
  · cases target <;> simp
  · simp

theorem leaveActive_status {reservationId : String} {target : ReservationStatus} {now : Instant}
    {reason : Option String} {r : ReservationRow} (here : r.id = reservationId)
    (active : r.status = .active) :
    (leaveActive reservationId target now reason r).status = target := by
  simp only [leaveActive, here, active, and_self, if_true]
  cases target <;> simp [active]

theorem leaveActive_of_ne {reservationId : String} {target : ReservationStatus} {now : Instant}
    {reason : Option String} {r : ReservationRow} (h : r.id ≠ reservationId ∨ r.status ≠ .active) :
    leaveActive reservationId target now reason r = r := by
  unfold leaveActive
  rw [if_neg fun both => h.elim (· both.1) (· both.2)]

theorem map_leaveActive (reservationId : String) (target : ReservationStatus) (now : Instant)
    (reason : Option String) (rows : List ReservationRow) :
    rows.map (leaveActive reservationId target now reason) =
      Table.setWhere (fun r => decide (r.id = reservationId))
        (leaveActive reservationId target now reason) rows := by
  refine List.map_congr_left fun r _ => ?_
  by_cases here : r.id = reservationId
  · simp [here]
  · simp [here, leaveActive_of_ne (.inl here)]

/-- A reservation that leaves ACTIVE takes its amount from there to its new status. -/
theorem reservationsIn_leave {res : ReservationRow} (distinct : (l.reservations.map (·.id)).Nodup)
    (mem : res ∈ l.reservations) (active : res.status = .active) (status target : ReservationStatus)
    (now : Instant) (reason : Option String) (facilityId : String) :
    reservationsIn status { l with
        reservations := l.reservations.map (leaveActive res.id target now reason) } facilityId =
      reservationsIn status l facilityId
      - (if res.facilityId = facilityId ∧ status = .active then res.amountMinor else 0)
      + (if res.facilityId = facilityId ∧ status = target then res.amountMinor else 0) := by
  obtain ⟨-, facility, -, amount, -, -⟩ := leaveActive_kept res.id target now reason res
  rw [reservationsIn, map_leaveActive, Table.sumWhere_setWhere distinct mem, facility, amount,
    leaveActive_status rfl active, active]
  simp only [Bool.and_eq_true, decide_eq_true_eq, reservationsIn, eq_comm (b := status)]

theorem Books.left {res : ReservationRow} {row : ReservationTransition} {now : Instant}
    {reason : Option String} {actor : PrincipalRef} {transferId : String} (books : Books l)
    (mem : res ∈ l.reservations) (active : res.status = .active)
    (inTable : row ∈ reservationMachine.rows) (leaves : row.trigger ≠ .reserve)
    (allowed : PostAllowed (res.movement row.movement actor transferId) l) :
    Books (leaving res.id row.target now reason (res.movement row.movement actor transferId) l) := by
  have kept := leaveActive_kept res.id row.target now reason
  refine books.afterPosting ⟨rfl, rfl, ?_, books.repaymentIds, ?_, ?_⟩ ?_ allowed
  · have ids : (l.reservations.map (leaveActive res.id row.target now reason)).map (·.id) =
        l.reservations.map (·.id) := by
      rw [map_leaveActive, Table.map_setWhere fun r _ _ => (kept r).1]
    exact ids ▸ books.reservationIds
  · intro r hr
    obtain ⟨old, hold, rfl⟩ := List.mem_map.mp hr
    rw [(kept old).2.2.2.1, (kept old).2.1]
    exact ⟨books.positive.1 old hold, books.referenced.reservations old hold⟩
  · exact fun r hr => ⟨books.positive.2 r hr, books.referenced.repayments r hr⟩
  · intro account held facilityId
    have sums := fun status =>
      reservationsIn_leave books.reservationIds mem active status row.target now reason facilityId
    simp only [reservationMachine, List.mem_cons, List.not_mem_nil, or_false] at inTable
    rcases inTable with rfl | rfl | rfl | rfl
    · exact (leaves rfl).elim
    all_goals
      by_cases here : res.facilityId = facilityId <;> cases account <;>
        simp [rowTotal, sums, confirmedRepayments, ReservationRow.movement, Movement.adds,
          Movement.delta, ledgerPairFor, LedgerMovement.pair, here] at held ⊢
    all_goals omega

theorem Books.requested {input : RepayInput} {fingerprint : String} (books : Books l)
    (allowed : RepayAllowed input l) :
    Books { l with repayments := l.repayments ++ [input.row fingerprint] } := by
  refine books.rowsChanged ⟨rfl, rfl, books.reservationIds, ?_, ?_, ?_⟩ ?_
  · simpa using nodup_append_singleton books.repaymentIds fun known => by
      obtain ⟨q, hq, same⟩ := List.mem_map.mp known
      exact allowed.freshId q hq same
  · exact fun r hr => ⟨books.positive.1 r hr, books.referenced.reservations r hr⟩
  · intro r hr
    rcases List.mem_append.mp hr with old | new
    · exact ⟨books.positive.2 r old, books.referenced.repayments r old⟩
    · obtain rfl := List.mem_singleton.mp new
      obtain ⟨f, hf, same, -⟩ := allowed.references
      exact ⟨allowed.positive, f, hf, same⟩
  · intro account _ facilityId
    cases account <;> simp [rowTotal, reservationsIn, confirmedRepayments, Table.sumWhere_append,
      Table.sumWhere_singleton, RepayInput.row]

/-- Replacing one repayment by its successor, which keeps its identity and its amount. -/
theorem RowsChanged.advanced {current next : RepaymentRow} (books : Books l)
    (mem : current ∈ l.repayments) (id : next.id = current.id)
    (facility : next.facilityId = current.facilityId)
    (amount : next.amountMinor = current.amountMinor) :
    RowsChanged l (advancing current next l) := by
  refine ⟨rfl, rfl, books.reservationIds, ?_, ?_, ?_⟩
  · have ids : (advancing current next l).repayments.map (·.id) =
        l.repayments.map (·.id) := by
      simp only [advancing, Table.setWhere, List.map_map]
      refine List.map_congr_left fun q _ => ?_
      by_cases here : q.id = current.id <;> simp [here, id]
    exact ids ▸ books.repaymentIds
  · exact fun r hr => ⟨books.positive.1 r hr, books.referenced.reservations r hr⟩
  · intro r hr
    rcases Table.mem_setWhere.mp hr with ⟨_, -, -, rfl⟩ | ⟨hr, -⟩
    · rw [amount, facility]
      exact ⟨books.positive.2 current mem, books.referenced.repayments current mem⟩
    · exact ⟨books.positive.2 r hr, books.referenced.repayments r hr⟩

theorem confirmedRepayments_advancing {current next : RepaymentRow} (books : Books l)
    (mem : current ∈ l.repayments) (facility : next.facilityId = current.facilityId)
    (amount : next.amountMinor = current.amountMinor) (open' : current.status ≠ .confirmed)
    (facilityId : String) :
    confirmedRepayments (advancing current next l) facilityId = confirmedRepayments l facilityId +
      if current.facilityId = facilityId ∧ next.status = .confirmed then current.amountMinor
      else 0 := by
  simp only [confirmedRepayments, advancing]
  rw [Table.sumWhere_setWhere books.repaymentIds mem, facility, amount]
  simp [open']

theorem Books.advanced {current : RepaymentRow} {row : RepaymentTransition} {input : AdvanceInput}
    {fingerprint : String} (books : Books l) (mem : current ∈ l.repayments)
    (evaluated : repaymentMachine.evaluate (some current.status) input.trigger = some row)
    (allowed : row.restoresCapacity = true → PostAllowed (current.movement input) l) :
    Books (if row.restoresCapacity then posted (current.movement input)
        (advancing current (advancedRepayment current row input fingerprint) l)
      else advancing current (advancedRepayment current row input fingerprint) l) := by
  obtain ⟨inTable, -, source⟩ := Machine.evaluate_some evaluated
  obtain ⟨restores, -, -, -, -, notConfirmed⟩ := repaymentMachine_rows inTable source
  obtain ⟨id, facility, amount, -⟩ := advancedRepayment_kept current row input fingerprint
  have changed := RowsChanged.advanced books mem id facility amount
  have sums := confirmedRepayments_advancing books mem facility amount notConfirmed
  simp only [advancedRepayment_status] at sums
  cases restored : row.restoresCapacity with
  | true =>
    refine books.afterPosting changed ?_ (allowed restored)
    intro account held facilityId
    have total := sums facilityId
    rw [restores.mp restored] at total
    cases account with
    | available => exact (held rfl).elim
    | reserved =>
      simp [rowTotal, reservationsIn, RepaymentRow.movement, Movement.adds,
        Movement.delta, ledgerPairFor, LedgerMovement.pair]
    | drawn =>
      by_cases here : current.facilityId = facilityId <;>
        simp only [here, true_and, false_and, if_true, if_false] at total <;>
        simp [rowTotal, reservationsIn, total, RepaymentRow.movement, Movement.adds,
          Movement.delta, ledgerPairFor, LedgerMovement.pair, here]
      omega
  | false =>
    have unconfirmed : row.target ≠ .confirmed := fun target => by
      simp [restores.mpr target] at restored
    refine books.rowsChanged changed fun account _ facilityId => ?_
    have total := sums facilityId
    simp only [unconfirmed, and_false, if_false, add_zero] at total
    cases account <;> simp [rowTotal, reservationsIn, total]

/-- A new facility has nothing on any account: no row and no entry refers to it yet. -/
theorem Books.created {input : FacilityInput} (books : Books l)
    (fresh : ∀ g ∈ l.facilities, g.id ≠ input.facilityId)
    (checked : facilityChecks input.row = true) :
    Books { l with facilities := l.facilities ++ [input.row] } := by
  have unknown : ∀ facilityId, (∃ f ∈ l.facilities, f.id = facilityId) →
      facilityId ≠ input.facilityId := fun facilityId ⟨f, hf, same⟩ => same ▸ fresh f hf
  have grown : ∀ facilityId, (∃ f ∈ l.facilities, f.id = facilityId) →
      ∃ f ∈ l.facilities ++ [input.row], f.id = facilityId :=
    fun _ ⟨f, hf, same⟩ => ⟨f, List.mem_append_left _ hf, same⟩
  have noRows : ∀ status, reservationsIn status l input.facilityId = 0 := fun status =>
    Table.sumWhere_eq_zero fun r hr => by
      simp [unknown _ (books.referenced.reservations r hr)]
  have noRepayments : confirmedRepayments l input.facilityId = 0 :=
    Table.sumWhere_eq_zero fun r hr => by simp [unknown _ (books.referenced.repayments r hr)]
  have noEntries : ∀ account, projectAccount l input.facilityId account = 0 := fun account =>
    Table.sumWhere_eq_zero fun e he => by simp [unknown _ (books.referenced.ledger e he)]
  refine ⟨?_, books.reservationIds, books.repaymentIds,
    ⟨fun e he => grown _ (books.referenced.ledger e he),
      fun r hr => grown _ (books.referenced.reservations r hr),
      fun r hr => grown _ (books.referenced.repayments r hr)⟩,
    books.transfers, ?_, ?_, ?_, books.positive⟩
  · simpa using nodup_append_singleton books.facilityIds fun known => by
      obtain ⟨g, hg, same⟩ := List.mem_map.mp known
      exact fresh g hg same
  · intro f hf
    rcases List.mem_append.mp hf with old | new
    · exact books.checked f old
    · exact List.mem_singleton.mp new ▸ checked
  · intro f hf account held
    rcases List.mem_append.mp hf with old | new
    · rw [books.rows f old account held]
      cases account <;> rfl
    · obtain rfl := List.mem_singleton.mp new
      cases account with
      | available => exact (held rfl).elim
      | reserved => exact (noRows .active).symm
      | drawn =>
        have total : rowTotal .drawn l input.facilityId = 0 := by
          simp [rowTotal, noRows, noRepayments]
        exact total.symm
  · intro f hf account held
    rcases List.mem_append.mp hf with old | new
    · rw [books.projected f old account held]
      rfl
    · obtain rfl := List.mem_singleton.mp new
      cases account with
      | available => exact (held rfl).elim
      | reserved => exact (noEntries .reserved).symm
      | drawn => exact (noEntries .drawn).symm

theorem Books.adjusted {facilityId : String} {set : FacilityRow → FacilityRow} (books : Books l)
    (kept : KeepsPosition set)
    (checked : ∀ f ∈ l.facilities, f.id = facilityId → facilityChecks (set f) = true) :
    Books (adjusting facilityId set l) := by
  have ids : (adjusting facilityId set l).facilities.map (·.id) = l.facilities.map (·.id) :=
    Table.map_setWhere fun f _ _ => by simp [kept.id]
  have known : ∀ id, (∃ f ∈ l.facilities, f.id = id) →
      ∃ f ∈ (adjusting facilityId set l).facilities, f.id = id := by
    intro id here
    have : id ∈ l.facilities.map (·.id) := by simpa using here
    rw [← ids] at this
    simpa using this
  have was : ∀ g ∈ (adjusting facilityId set l).facilities, ∃ f ∈ l.facilities, g.id = f.id ∧
      (∀ account, g.column account = f.column account) ∧ facilityChecks g = true := by
    intro g hg
    rcases Table.mem_setWhere.mp hg with ⟨f, hf, here, rfl⟩ | ⟨hg, -⟩
    · refine ⟨f, hf, by simp [kept.id], fun account => ?_, ?_⟩
      · cases account <;> simp [FacilityRow.column, kept.reserved, kept.drawn]
      · simpa using checked f hf (by simpa using here)
    · exact ⟨g, hg, rfl, fun _ => rfl, books.checked g hg⟩
  refine ⟨ids ▸ books.facilityIds, books.reservationIds, books.repaymentIds,
    ⟨fun e he => known _ (books.referenced.ledger e he),
      fun r hr => known _ (books.referenced.reservations r hr),
      fun r hr => known _ (books.referenced.repayments r hr)⟩,
    books.transfers, fun g hg => ?_, ?_, ?_, books.positive⟩
  · obtain ⟨_, -, -, -, checks⟩ := was g hg
    exact checks
  · intro g hg account held
    obtain ⟨f, hf, same, column, -⟩ := was g hg
    rw [column, same, books.rows f hf account held]
    cases account <;> rfl
  · intro g hg account held
    obtain ⟨f, hf, same, column, -⟩ := was g hg
    rw [column, same, books.projected f hf account held]
    rfl

/-! ### Every run -/

theorem FundingMove.books {l' : Liquidity} (move : FundingMove l l') (books : Books l) :
    Books l' := by
  cases move with
  | refused => exact books
  | created fresh checked => exact (books.created fresh checked).withEvents _ _
  | adjusted kept checked => exact (books.adjusted kept checked).withEvents _ _
  | reserved allowed => exact (books.reserved allowed).withEvents _ _
  | left mem active inTable leaves allowed =>
    exact (books.left mem active inTable leaves allowed).withEvents _ _
  | requested allowed _ => exact (books.requested allowed).withEvents _ _
  | advanced mem _ evaluated allowed _ =>
    exact (books.advanced mem evaluated allowed).withEvents _ _

theorem books_run (ops : List LiquidityOp) : Books (Run.run liquidityStep .empty ops) :=
  Run.run_invariant (fun l op books => (liquidityStep_move l op).books books) books_empty ops

/-- The four representations of a facility's money agree, and none of it is negative. -/
structure FacilityAgrees (l : Liquidity) (f : FacilityRow) : Prop where
  reserved : f.reservedMinor = reservationsIn .active l f.id
  drawn : f.drawnMinor = reservationsIn .consumed l f.id - confirmedRepayments l f.id
  projected : (f.drawnMinor, f.reservedMinor) = projectFacilityPosition l f.id
  available : 0 ≤ f.limitMinor - f.drawnMinor - f.reservedMinor
  drawnNonneg : 0 ≤ f.drawnMinor
  reservedNonneg : 0 ≤ f.reservedMinor

theorem Books.agrees (books : Books l) {f : FacilityRow} (hf : f ∈ l.facilities) :
    FacilityAgrees l f := by
  have checks := books.checked f hf
  simp only [facilityChecks, Bool.and_eq_true, decide_eq_true_eq] at checks
  obtain ⟨⟨⟨-, drawn⟩, reserved⟩, available⟩ := checks
  refine ⟨books.rows f hf .reserved (by decide), books.rows f hf .drawn (by decide), ?_,
    available, drawn, reserved⟩
  exact Prod.ext (books.projected f hf .drawn (by decide))
    (books.projected f hf .reserved (by decide))

/-- Over every run of the operations on facilities, the ledger is a set of balanced transfers and
every facility's columns, reservations, repayments and ledger agree. -/
theorem facility_books_agree (ops : List LiquidityOp) :
    (∀ e ∈ (Run.run liquidityStep .empty ops).ledger,
      IsTransfer (transferOf (Run.run liquidityStep .empty ops) e.transferId)) ∧
    ∀ f ∈ (Run.run liquidityStep .empty ops).facilities,
      FacilityAgrees (Run.run liquidityStep .empty ops) f :=
  ⟨(books_run ops).transfers, fun _ hf => (books_run ops).agrees hf⟩

end InrSettle
