import InrSettle.System.Attempts

/-!
# Returns against their attempts

What the operations do to the returns of a settlement, how much of each attempt's
delivery the counted ones take back, and the total the attempt keeps of them.
-/

namespace InrSettle

open Transaction CaseTables Run

/-! ### What an operation does to the returns -/

/-- An update of a return that keeps what it is a return of. -/
def KeepsReturn (set : SettlementReturnRow → SettlementReturnRow) : Prop :=
  ∀ r, (set r).id = r.id ∧ (set r).payoutAttemptId = r.payoutAttemptId ∧
    (set r).amountMinor = r.amountMinor

/-- The updates the services make of a return they do not count. -/
inductive ReturnWrite (op : SettlementOp) (current : SettlementReturnRow) :
    (SettlementReturnRow → SettlementReturnRow) → Prop where
  | escalated {input : EscalateInput} : op = .escalateReturn input → current.id = input.returnId →
    (current.status = .observed ∨ current.status = .confirmed) → ReturnWrite op current escalated
  | capped {input : ConfirmInput} : op = .confirmReturn input → current.status = .observed →
    ReturnWrite op current escalated
  | refused {input : RejectInput} : op = .rejectReturn input →
    (current.status = .observed ∨ current.status = .manualReview) →
    ReturnWrite op current (refused input)
  | repaid {input : RepaidInput} : op = .markReturnRepaid input → current.status = .confirmed →
    ReturnWrite op current (repaidReturn input.now)

/-- The attempts of before, with their keys, their totals and what is known of their delivery, and
new ones of which nothing is. -/
structure AttemptsKept (c c' : Case) : Prop where
  stay : ∀ a ∈ c.attempts, ∃ a' ∈ c'.attempts, a'.id = a.id
  from_ : ∀ a' ∈ c'.attempts,
    (∃ a ∈ c.attempts, a.id = a'.id ∧ a'.idempotencyKey = a.idempotencyKey ∧
      a'.returnedTotalMinor = a.returnedTotalMinor ∧
      ∀ delivered, a.creditedMinor = some delivered → a'.creditedMinor = some delivered) ∨
    (∀ a ∈ c.attempts, a.id ≠ a'.id) ∧ a'.returnedTotalMinor = 0

/-- What one operation can do to the returns, and to the attempts with them. -/
inductive ReturnsMove (op : SettlementOp) (c c' : Case) : Prop where
  | still : c'.returns = c.returns → AttemptsKept c c' → ReturnsMove op c c'
  | opened {input : OpenReturnInput} {attemptId : String} {ret : SettlementReturnRow} :
    c.settlement.bind (·.payoutAttemptId) = some attemptId → Opened input c attemptId ret →
    0 < ret.amountMinor → c'.returns = c.returns ++ [ret] → AttemptsKept c c' →
    ReturnsMove op c c'
  | written {current : SettlementReturnRow} {set : SettlementReturnRow → SettlementReturnRow} :
    current ∈ c.returns → ReturnWrite op current set →
    c'.returns = (withReturn c current.id set).returns → c'.attempts = c.attempts →
    ReturnsMove op c c'
  | counted {input : ConfirmInput} {current : SettlementReturnRow} {attempt : PayoutAttemptRow}
      {total : Int} {observation : ReturnObservationRow}
      {set : SettlementReturnRow → SettlementReturnRow} :
    op = .confirmReturn input → Counts c input current attempt total observation →
    KeepsReturn set → (∀ r, (set r).status = .confirmed) →
    c'.returns = (withReturn c current.id set).returns →
    c'.attempts = (withAttempt c attempt.id (totalled total)).attempts → ReturnsMove op c c'

section Kept

variable {c c' : Case} {op : SettlementOp}

theorem ReturnWrite.keeps {current : SettlementReturnRow}
    {set : SettlementReturnRow → SettlementReturnRow} (write : ReturnWrite op current set) :
    KeepsReturn set := by
  cases write <;> exact fun _ => ⟨rfl, rfl, rfl⟩

theorem attemptsKept_of_same (attempts : c'.attempts = c.attempts) : AttemptsKept c c' := by
  refine ⟨fun a mem => ⟨a, attempts ▸ mem, rfl⟩, fun a mem => .inl ⟨a, attempts ▸ mem, rfl, rfl, rfl, ?_⟩⟩
  exact fun _ known => known

theorem attemptsKept_of_added {a : PayoutAttemptRow} (fresh : ∀ b ∈ c.attempts, b.id ≠ a.id)
    (whole : a.returnedTotalMinor = 0) (attempts : c'.attempts = c.attempts ++ [a]) :
    AttemptsKept c c' := by
  refine ⟨fun b mem => ⟨b, by simp [attempts, mem], rfl⟩, fun b mem => ?_⟩
  rw [attempts] at mem
  rcases List.mem_append.mp mem with old | new
  · exact .inl ⟨b, old, rfl, rfl, rfl, fun _ known => known⟩
  · obtain rfl := List.mem_singleton.mp new
    exact .inr ⟨fresh, whole⟩

theorem attempts_stay {attemptId : String} {set : PayoutAttemptRow → PayoutAttemptRow}
    (attempts : c'.attempts = (withAttempt c attemptId set).attempts)
    (sameId : ∀ a, (set a).id = a.id) :
    ∀ a ∈ c.attempts, ∃ a' ∈ c'.attempts, a'.id = a.id := by
  intro a mem
  have ids : c'.attempts.map (·.id) = c.attempts.map (·.id) := by
    rw [attempts]
    exact Table.map_setWhere fun a _ _ => sameId a
  have inIds : a.id ∈ c'.attempts.map (·.id) := ids ▸ List.mem_map_of_mem mem
  exact List.mem_map.mp inIds

theorem attemptsKept_of_updated {attemptId : String} {set : PayoutAttemptRow → PayoutAttemptRow}
    (attempts : c'.attempts = (withAttempt c attemptId set).attempts)
    (sameId : ∀ a, (set a).id = a.id)
    (kept : ∀ a ∈ c.attempts, a.id = attemptId → (set a).idempotencyKey = a.idempotencyKey ∧
      (set a).returnedTotalMinor = a.returnedTotalMinor ∧
      ∀ delivered, a.creditedMinor = some delivered → (set a).creditedMinor = some delivered) :
    AttemptsKept c c' := by
  refine ⟨attempts_stay attempts sameId, fun a' mem => ?_⟩
  rw [attempts] at mem
  rcases Table.mem_setWhere.mp mem with ⟨a, old, found, rfl⟩ | ⟨old, -⟩
  · exact .inl ⟨a, old, (sameId a).symm, kept a old (of_decide_eq_true found)⟩
  · exact .inl ⟨a', old, rfl, rfl, rfl, fun _ known => known⟩

/-- A trusted outcome writes what was delivered once: of an attempt on its way nothing is known. -/
theorem attemptsKept_of_outcome {input : PayoutOutcomeInput} {a : PayoutAttemptRow}
    (held : InOrder c) (checked : AttemptsChecked c) (latest : latestAttempt c = some a)
    (permits : input.Permits a) (attempts : c'.attempts = (withAttempt c a.id input.set).attempts) :
    AttemptsKept c c' := by
  refine attemptsKept_of_updated attempts (PayoutOutcomeInput.set_id input) fun b mem is => ?_
  obtain rfl := Table.eq_of_key held.ids mem (held.latest latest).1 is
  unfold PayoutOutcomeInput.Permits at permits
  unfold PayoutOutcomeInput.set
  cases outcome : input.outcome with
  | credited =>
    simp only [outcome] at permits
    refine ⟨rfl, rfl, fun delivered known => ?_⟩
    rw [uncredited_of_inFlight (checked b mem) permits.1] at known
    cases known
  | rejected | accepted | returned | unknown => exact ⟨rfl, rfl, fun _ known => known⟩

end Kept

section Projection

variable {digest : AuthorizedInstruction → String} {read : Reads} {s s' : Store}
  {op : SettlementOp}

theorem Turn.attempts {input : ApplyTransitionInput} {c c' : Case} (turn : Turn input c c') :
    c'.attempts = c.attempts ∧ c'.returns = c.returns := by
  rcases turn with rfl | ⟨old, new, t, -, -, rfl⟩
  · exact ⟨rfl, rfl⟩
  · exact ⟨rfl, rfl⟩

/-- A transition writes neither attempts nor returns. -/
theorem returnsMove_of_turn {input : ApplyTransitionInput} {c₁ c₂ c' : Case}
    (turn : Turn input c₁ c₂) (attempts : c₁.attempts = s.case.attempts)
    (returns : c₁.returns = s.case.returns) (same : c'.attempts = c₂.attempts)
    (sameReturns : c'.returns = c₂.returns) : ReturnsMove op s.case c' := by
  refine .still ?_ (attemptsKept_of_same ?_)
  · rw [sameReturns, turn.attempts.2, returns]
  · rw [same, turn.attempts.1, attempts]

theorem returnsMove_of_open {input : OpenReturnInput} {r : ReturnResult} {c₁ c' : Case}
    (h : Commits (openReturn input) c₁ r c') (settlement : c₁.settlement = s.case.settlement)
    (returns : c₁.returns = s.case.returns) (kept : AttemptsKept s.case c₁) :
    ReturnsMove op s.case c' := by
  have about := openReturn_about h
  have kept' : AttemptsKept s.case c' := ⟨by simpa [about.attempts] using kept.stay,
    by simpa [about.attempts] using kept.from_⟩
  rcases openReturn_spec h with ⟨-, rfl, -⟩ | ⟨attemptId, opens, -, result⟩
  · exact .still returns kept
  · rcases result with ⟨same, -⟩ | ⟨ret, opened, appended⟩
    · exact .still (same.trans returns) kept'
    · have here : Opened input s.case attemptId ret := ⟨opened.against, returns ▸ opened.fresh,
        opened.amount, opened.status, opened.repayment⟩
      exact .opened (settlement ▸ opens.pointer) here (opened.amount ▸ opens.positive)
        (returns ▸ appended) kept'

theorem repaying_counted {input : ConfirmInput} {current : SettlementReturnRow}
    {attempt : PayoutAttemptRow} {total : Int} {observation : ReturnObservationRow} {c : Case}
    (repaymentId : String) :
    (withReturn (input.counted current attempt total observation c) current.id
        (repaying repaymentId)).returns =
      (withReturn c current.id (repaying repaymentId ∘ confirmed input)).returns := by
  simp only [withReturn, ConfirmInput.counted, Case.observing, withAttempt]
  exact Table.setWhere_setWhere fun _ => rfl

theorem StoreMove.returns (moved : StoreMove digest read s op s') (held : InOrder s.case)
    (checked : AttemptsChecked s.case) : ReturnsMove op s.case s'.case := by
  cases moved with
  | noted audits => exact .still rfl (attemptsKept_of_same rfl)
  | created absent checks => exact .still rfl (attemptsKept_of_same rfl)
  | plain answers patch moved => exact returnsMove_of_turn (.inr moved) rfl rfl rfl rfl
  | authorized found asks actor moved => exact returnsMove_of_turn (.inr moved) rfl rfl rfl rfl
  | dispatched found before version none numbered asks moved fresh =>
    obtain ⟨old, new, t, -, -, rfl⟩ := moved
    exact .still rfl (attemptsKept_of_added fresh.ids rfl rfl)
  | openedException found asks answers moved ids single =>
    exact returnsMove_of_turn (.inr moved) rfl rfl rfl rfl
  | resolvedException found asks stated before moved =>
    exact returnsMove_of_turn (.inr moved) rfl rfl rfl rfl
  | @submitted _ input allowed =>
    have attempts : (s.withCase (withAttempt s.case input.attemptId (acknowledged input))).case.attempts =
        (withAttempt s.case input.attemptId (acknowledged input)).attempts := rfl
    refine .still rfl (attemptsKept_of_updated attempts (fun _ => rfl) ?_)
    exact fun _ _ _ => ⟨rfl, rfl, fun _ known => known⟩
  | outcome reports latest trusted permits allowed result =>
    rcases result with rfl | ⟨-, -, old, new, t, -, -, rfl⟩
    · exact .still rfl (attemptsKept_of_outcome held checked latest permits rfl)
    · exact .still rfl (attemptsKept_of_outcome held checked latest permits rfl)
  | swept latest waiting elapsed allowed asks turn =>
    obtain ⟨attempts, returns⟩ := turn.attempts
    refine .still returns (attemptsKept_of_updated attempts (fun _ => rfl) ?_)
    exact fun _ _ _ => ⟨rfl, rfl, fun _ known => known⟩
  | retried latest rejected numbered fresh =>
    exact .still rfl (attemptsKept_of_added fresh.ids rfl rfl)
  | reserved pending allowed asks turn => exact returnsMove_of_turn turn rfl rfl rfl rfl
  | reservationFailed pending refused asks moved =>
    exact returnsMove_of_turn (.inr moved) rfl rfl rfl rfl
  | drawn active asks moved ids single => exact returnsMove_of_turn (.inr moved) rfl rfl rfl rfl
  | drawdownResolved latest evaluated followed result =>
    rcases result with rfl | ⟨-, moved⟩
    · exact .still rfl (attemptsKept_of_same rfl)
    · exact returnsMove_of_turn (.inr moved) rfl rfl rfl rfl
  | compensated done => exact .still rfl (attemptsKept_of_same rfl)
  | released done => exact .still rfl (attemptsKept_of_same rfl)
  | operatorResolved found isOpen before gave result =>
    rcases result with rfl | ⟨compensation, c, audits, -, moved, rfl⟩
    · exact .still rfl (attemptsKept_of_same rfl)
    · exact returnsMove_of_turn (.inr moved) rfl rfl rfl rfl
  | reconciliationBegun none present checks turn => exact returnsMove_of_turn turn rfl rfl rfl rfl
  | observationMatched found pending matched => exact .still rfl (attemptsKept_of_same rfl)
  | observationDiffered found pending differed turn =>
    exact returnsMove_of_turn turn rfl rfl rfl rfl
  | reconciliationSwept found pending elapsed turn => exact returnsMove_of_turn turn rfl rfl rfl rfl
  | reconciliationResolved found evaluated => exact .still rfl (attemptsKept_of_same rfl)
  | evaluated => exact .still rfl (attemptsKept_of_same rfl)
  | settled gathered final moved => exact returnsMove_of_turn (.inr moved) rfl rfl rfl rfl
  | returned opens => exact returnsMove_of_open opens rfl rfl (attemptsKept_of_same rfl)
  | @eventReturned _ input opening a r c₁ c latest trusted is applied opens =>
    rcases applied with ⟨paid, allowed, rfl⟩ | ⟨-, rfl⟩
    · refine returnsMove_of_open opens rfl rfl ?_
      refine attemptsKept_of_outcome held checked latest ?_ rfl
      simpa [PayoutOutcomeInput.Permits, is] using paid
    · exact returnsMove_of_open opens rfl rfl (attemptsKept_of_same rfl)
  | returnEscalated found source =>
    obtain ⟨mem, is⟩ := findReturn_some found
    exact .written mem (.escalated rfl is source) rfl rfl
  | returnCapped found source =>
    exact .written (findReturn_some found).1 (.capped rfl source) rfl rfl
  | @returnCounted input current attempt total observation counts =>
    have keeps : KeepsReturn (confirmed input) := fun _ => ⟨rfl, rfl, rfl⟩
    exact .counted rfl counts keeps (fun _ => rfl) rfl rfl
  | @returnConfirmed input current attempt total observation _ _ _ _ _ counts drawn asked =>
    have keeps : KeepsReturn (repaying input.repaymentId ∘ confirmed input) :=
      fun _ => ⟨rfl, rfl, rfl⟩
    exact .counted rfl counts keeps (fun _ => rfl) (repaying_counted _) rfl
  | returnRejected found source =>
    exact .written (findReturn_some found).1 (.refused rfl source) rfl rfl
  | returnRepaid found source requested paid =>
    exact .written (findReturn_some found).1 (.repaid rfl source) rfl rfl

end Projection

/-! ### Returns against attempts -/

/-- The returns are told apart, take something back, and are of an attempt that is there. -/
structure Against (c : Case) : Prop where
  ids : (c.returns.map (·.id)).Nodup
  positive : ∀ r ∈ c.returns, 0 < r.amountMinor
  attempts : ∀ r ∈ c.returns, ∃ a ∈ c.attempts, a.id = r.payoutAttemptId

theorem against_empty : Against {} where
  ids := .nil
  positive := by simp
  attempts := by simp

section Against

variable {c c' : Case} {op : SettlementOp}

theorem withReturn_rows {returnId : String}
    {set : SettlementReturnRow → SettlementReturnRow} (keeps : KeepsReturn set)
    (returns : c'.returns = (withReturn c returnId set).returns) :
    c'.returns.map (·.id) = c.returns.map (·.id) ∧
      ∀ r' ∈ c'.returns, ∃ r ∈ c.returns, r'.payoutAttemptId = r.payoutAttemptId ∧
        r'.amountMinor = r.amountMinor := by
  refine ⟨?_, fun r' mem => ?_⟩
  · rw [returns]
    exact Table.map_setWhere fun r _ _ => (keeps r).1
  · rw [returns] at mem
    rcases Table.mem_setWhere.mp mem with ⟨r, old, -, rfl⟩ | ⟨old, -⟩
    · exact ⟨r, old, (keeps r).2⟩
    · exact ⟨r', old, rfl, rfl⟩

theorem Against.updated (held : Against c) {returnId : String}
    {set : SettlementReturnRow → SettlementReturnRow} (keeps : KeepsReturn set)
    (returns : c'.returns = (withReturn c returnId set).returns)
    (stay : ∀ a ∈ c.attempts, ∃ a' ∈ c'.attempts, a'.id = a.id) : Against c' := by
  obtain ⟨ids, rows⟩ := withReturn_rows keeps returns
  refine ⟨ids ▸ held.ids, fun r' mem => ?_, fun r' mem => ?_⟩
  · obtain ⟨r, old, -, amount⟩ := rows r' mem
    exact amount ▸ held.positive r old
  · obtain ⟨r, old, same, -⟩ := rows r' mem
    obtain ⟨a, found, is⟩ := held.attempts r old
    obtain ⟨a', found', is'⟩ := stay a found
    exact ⟨a', found', by rw [is', is, same]⟩

theorem Against.find (held : Against c) {r : SettlementReturnRow} (mem : r ∈ c.returns) :
    findReturn c r.id = some r := by
  cases found : findReturn c r.id with
  | none => simpa using List.find?_eq_none.mp found r mem
  | some other =>
    obtain ⟨otherMem, same⟩ := findReturn_some found
    exact congrArg some (Table.eq_of_key held.ids otherMem mem same)

/-- The attempt a settlement points at is there. -/
theorem InOrder.points (held : InOrder c) {attemptId : String}
    (pointer : c.settlement.bind (·.payoutAttemptId) = some attemptId) :
    ∃ a ∈ c.attempts, a.id = attemptId := by
  rw [held.pointer] at pointer
  obtain ⟨a, first, is⟩ := Option.map_eq_some_iff.mp pointer
  exact ⟨a, List.mem_of_mem_head? first, is⟩

theorem ReturnsMove.against (moved : ReturnsMove op c c') (inOrder : InOrder c)
    (held : Against c) : Against c' := by
  cases moved with
  | still returns kept =>
    refine ⟨returns ▸ held.ids, returns ▸ held.positive, fun r mem => ?_⟩
    obtain ⟨a, found, is⟩ := held.attempts r (returns ▸ mem)
    obtain ⟨a', found', is'⟩ := kept.stay a found
    exact ⟨a', found', is'.trans is⟩
  | opened pointer made positive returns kept =>
    refine ⟨?_, fun r mem => ?_, fun r mem => ?_⟩
    · rw [returns, List.map_append, List.nodup_append]
      refine ⟨held.ids, List.nodup_singleton _, ?_⟩
      intro x hx y hy same
      obtain ⟨q, hq, rfl⟩ := List.mem_map.mp hx
      exact made.fresh q hq (same.trans (List.mem_singleton.mp hy))
    · rcases List.mem_append.mp (returns ▸ mem) with old | new
      · exact held.positive r old
      · exact List.mem_singleton.mp new ▸ positive
    · have earlier : ∃ a ∈ c.attempts, a.id = r.payoutAttemptId := by
        rcases List.mem_append.mp (returns ▸ mem) with old | new
        · exact held.attempts r old
        · rw [List.mem_singleton.mp new, made.against]
          exact inOrder.points pointer
      obtain ⟨a, found, is⟩ := earlier
      obtain ⟨a', found', is'⟩ := kept.stay a found
      exact ⟨a', found', is'.trans is⟩
  | written mem write returns attempts =>
    exact held.updated write.keeps returns fun a found => ⟨a, attempts ▸ found, rfl⟩
  | counted _ counts keeps _ returns attempts =>
    exact held.updated keeps returns (attempts_stay attempts fun _ => rfl)

end Against

/-! ### What the counted returns take back -/

/-- What a return takes back of an attempt's delivery. -/
def share (attemptId : String) (r : SettlementReturnRow) : Int :=
  if decide (r.payoutAttemptId = attemptId) && countsTowardCap r.status then r.amountMinor else 0

section Shares

variable {c c' : Case} {op : SettlementOp} {current : SettlementReturnRow}
  {set : SettlementReturnRow → SettlementReturnRow}

theorem share_uncounted {attemptId : String} {r : SettlementReturnRow}
    (uncounted : countsTowardCap r.status = false) : share attemptId r = 0 := by
  simp [share, uncounted]

theorem share_nonneg {r : SettlementReturnRow} (positive : 0 < r.amountMinor) (attemptId : String) :
    0 ≤ share attemptId r := by
  unfold share
  split <;> omega

theorem confirmedSoFar_of_same (returns : c'.returns = c.returns) (attemptId : String) :
    confirmedSoFar c' attemptId = confirmedSoFar c attemptId := by
  rw [confirmedSoFar, confirmedSoFar, returns]

theorem confirmedSoFar_opened {ret : SettlementReturnRow} (returns : c'.returns = c.returns ++ [ret])
    (status : ret.status = .observed ∨ ret.status = .manualReview) (attemptId : String) :
    confirmedSoFar c' attemptId = confirmedSoFar c attemptId := by
  have uncounted : countsTowardCap ret.status = false := by
    rcases status with is | is <;> rw [is] <;> rfl
  rw [confirmedSoFar, returns, Table.sumWhere_append, Table.sumWhere_singleton, confirmedSoFar]
  simp [uncounted]

theorem confirmedSoFar_written (held : Against c) (mem : current ∈ c.returns)
    (returns : c'.returns = (withReturn c current.id set).returns) (attemptId : String) :
    confirmedSoFar c' attemptId =
      confirmedSoFar c attemptId - share attemptId current + share attemptId (set current) := by
  rw [confirmedSoFar, returns, withReturn, confirmedSoFar, share, share]
  exact Table.sumWhere_setWhere held.ids mem

/-- Nothing is taken back of an attempt no return is against. -/
theorem confirmedSoFar_none (held : Against c) {attemptId : String}
    (none : ∀ a ∈ c.attempts, a.id ≠ attemptId) : confirmedSoFar c attemptId = 0 := by
  refine Table.sumWhere_eq_zero fun r mem => ?_
  obtain ⟨a, found, is⟩ := held.attempts r mem
  simp [← is, none a found]

theorem confirmedSoFar_nonneg (held : Against c) (attemptId : String) :
    0 ≤ confirmedSoFar c attemptId :=
  Table.sumWhere_nonneg fun r (mem : r ∈ c.returns) => (held.positive r mem).le

/-- Only escalation takes a return out of the counted ones, and only a counted one. -/
theorem ReturnWrite.counts (write : ReturnWrite op current set) :
    countsTowardCap (set current).status = countsTowardCap current.status ∨
      current.status = .confirmed ∧ countsTowardCap (set current).status = false ∧
        ∃ input, op = .escalateReturn input ∧ current.id = input.returnId := by
  cases write with
  | escalated is named source =>
    rcases source with status | status
    · exact .inl (by rw [status]; rfl)
    · exact .inr ⟨status, rfl, _, is, named⟩
  | capped _ status => exact .inl (by rw [status]; rfl)
  | refused _ source => exact .inl (by rcases source with status | status <;> rw [status] <;> rfl)
  | repaid _ status => exact .inl (by rw [status]; rfl)

theorem share_written (keeps : KeepsReturn set)
    (same : countsTowardCap (set current).status = countsTowardCap current.status)
    (attemptId : String) : share attemptId (set current) = share attemptId current := by
  rw [share, share, same, (keeps current).2.1, (keeps current).2.2]

/-- What a counted return adds, and to which attempt. -/
theorem Counts.shares {input : ConfirmInput} {attempt : PayoutAttemptRow} {total : Int}
    {observation : ReturnObservationRow} (counts : Counts c input current attempt total observation)
    (keeps : KeepsReturn set) (confirms : ∀ r, (set r).status = .confirmed) (attemptId : String) :
    share attemptId current = 0 ∧
      share attemptId (set current) = if attempt.id = attemptId then current.amountMinor else 0 := by
  have against : attempt.id = current.payoutAttemptId := by simpa using List.find?_some counts.against
  constructor
  · refine share_uncounted ?_
    rcases counts.pending with is | is <;> rw [is] <;> rfl
  · simp [share, confirms, keeps current, countsTowardCap, against]

end Shares

/-- What one operation does to what the counted returns take back of one of the attempts. -/
inductive AttemptReturns (op : SettlementOp) (c c' : Case) (a' : PayoutAttemptRow) : Prop where
  | kept {a : PayoutAttemptRow} : a ∈ c.attempts → a.id = a'.id →
    a'.idempotencyKey = a.idempotencyKey → a'.returnedTotalMinor = a.returnedTotalMinor →
    (∀ delivered, a.creditedMinor = some delivered → a'.creditedMinor = some delivered) →
    confirmedSoFar c' a'.id = confirmedSoFar c a.id → AttemptReturns op c c' a'
  | lowered {current : SettlementReturnRow} {input : EscalateInput} : a' ∈ c.attempts →
    op = .escalateReturn input → current ∈ c.returns → current.id = input.returnId →
    current.status = .confirmed → confirmedSoFar c' a'.id ≤ confirmedSoFar c a'.id →
    AttemptReturns op c c' a'
  | fresh : a'.returnedTotalMinor = 0 → confirmedSoFar c' a'.id = 0 → AttemptReturns op c c' a'
  | counted {input : ConfirmInput} {current : SettlementReturnRow} {attempt : PayoutAttemptRow}
      {total : Int} {observation : ReturnObservationRow} : op = .confirmReturn input →
    Counts c input current attempt total observation → a' = totalled total attempt →
    confirmedSoFar c' a'.id = total → AttemptReturns op c c' a'

/-! ### The cap -/

/-- What the counted returns of an attempt take back is covered by what is known to have been
delivered. -/
def Covered (c : Case) : Prop :=
  ∀ a ∈ c.attempts, confirmedSoFar c a.id = 0 ∨
    ∃ delivered, a.creditedMinor = some delivered ∧ confirmedSoFar c a.id ≤ delivered

section Cap

variable {c c' : Case} {op : SettlementOp}

/-- The attempt the counted return is against, and the others. -/
theorem Counts.attempts {input : ConfirmInput} {current : SettlementReturnRow}
    {attempt : PayoutAttemptRow} {total : Int} {observation : ReturnObservationRow}
    (counts : Counts c input current attempt total observation) (inOrder : InOrder c)
    (attempts : c'.attempts = (withAttempt c attempt.id (totalled total)).attempts) :
    ∀ a ∈ c'.attempts, a = totalled total attempt ∨ a ∈ c.attempts ∧ attempt.id ≠ a.id := by
  intro a mem
  rw [attempts] at mem
  rcases Table.mem_setWhere.mp mem with ⟨old, oldMem, found, rfl⟩ | ⟨oldMem, other⟩
  · have is : old = attempt := Table.eq_of_key inOrder.ids oldMem
      (List.mem_of_find?_eq_some counts.against) (of_decide_eq_true found)
    exact .inl (by rw [is])
  · exact .inr ⟨oldMem, fun same => of_decide_eq_false other same.symm⟩

/-- Counting a return brings its attempt to the total that was checked, and no other. -/
theorem Counts.total {input : ConfirmInput} {current : SettlementReturnRow}
    {attempt : PayoutAttemptRow} {total : Int} {observation : ReturnObservationRow}
    {set : SettlementReturnRow → SettlementReturnRow}
    (counts : Counts c input current attempt total observation) (against : Against c)
    (keeps : KeepsReturn set) (confirms : ∀ r, (set r).status = .confirmed)
    (returns : c'.returns = (withReturn c current.id set).returns) (attemptId : String) :
    confirmedSoFar c' attemptId =
      if attempt.id = attemptId then total else confirmedSoFar c attemptId := by
  have is : attempt.id = current.payoutAttemptId := by simpa using List.find?_some counts.against
  have sum : total = confirmedSoFar c current.payoutAttemptId + current.amountMinor :=
    (checkReturnCap_ok counts.covered).2.1
  obtain ⟨before, now⟩ := counts.shares keeps confirms attemptId
  rw [confirmedSoFar_written against (findReturn_some counts.found).1 returns, before, now]
  by_cases same : attempt.id = attemptId
  · rw [if_pos same, if_pos same, sum, ← is, same]
    omega
  · rw [if_neg same, if_neg same]
    omega

theorem AttemptsKept.returns (kept : AttemptsKept c c') (against : Against c)
    (same : ∀ attemptId, confirmedSoFar c' attemptId = confirmedSoFar c attemptId) :
    ∀ a ∈ c'.attempts, AttemptReturns op c c' a := by
  intro a' mem
  rcases kept.from_ a' mem with ⟨a, old, is, key, total, credited⟩ | ⟨fresh, whole⟩
  · exact .kept old is key total credited (by rw [same, is])
  · exact .fresh whole (by rw [same, confirmedSoFar_none against fresh])

theorem ReturnsMove.attempts (moved : ReturnsMove op c c') (inOrder : InOrder c)
    (against : Against c) : ∀ a ∈ c'.attempts, AttemptReturns op c c' a := by
  cases moved with
  | still returns kept => exact kept.returns against (confirmedSoFar_of_same returns)
  | opened _ made _ returns kept =>
    exact kept.returns against (confirmedSoFar_opened returns made.status)
  | @written current _ mem write returns attempts =>
    intro a found
    rw [attempts] at found
    have written := confirmedSoFar_written against mem returns a.id
    rcases write.counts with same | ⟨confirmed, uncounted, input, is, named⟩
    · rw [share_written write.keeps same] at written
      exact .kept found rfl rfl rfl (fun _ known => known) (by omega)
    · have positive := share_nonneg (against.positive current mem) a.id
      rw [share_uncounted uncounted] at written
      exact .lowered found is mem named confirmed (by omega)
  | counted is counts keeps confirms returns attempts =>
    intro a found
    have total := counts.total against keeps confirms returns a.id
    rcases counts.attempts inOrder attempts a found with rfl | ⟨old, other⟩
    · exact .counted is counts rfl (total.trans (if_pos rfl))
    · rw [if_neg other] at total
      exact .kept old rfl rfl rfl (fun _ known => known) total

theorem AttemptReturns.covered {a : PayoutAttemptRow} (moved : AttemptReturns op c c' a)
    (held : Covered c) (least : 0 ≤ confirmedSoFar c' a.id) :
    confirmedSoFar c' a.id = 0 ∨
      ∃ delivered, a.creditedMinor = some delivered ∧ confirmedSoFar c' a.id ≤ delivered := by
  cases moved with
  | @kept old mem _ _ _ credited same =>
    rw [same]
    rcases held old mem with nothing | ⟨delivered, known, within⟩
    · exact .inl nothing
    · exact .inr ⟨delivered, credited delivered known, within⟩
  | lowered mem _ _ _ _ lower =>
    rcases held a mem with nothing | ⟨delivered, known, within⟩
    · exact .inl (by omega)
    · exact .inr ⟨delivered, known, by omega⟩
  | fresh _ nothing => exact .inl nothing
  | counted _ counts is total =>
    obtain ⟨-, -, delivered, known, within⟩ := checkReturnCap_ok counts.covered
    exact .inr ⟨delivered, is ▸ known, total ▸ within⟩

theorem ReturnsMove.covered (moved : ReturnsMove op c c') (inOrder : InOrder c)
    (against : Against c) (held : Covered c) : Covered c' := fun a mem =>
  (moved.attempts inOrder against a mem).covered held
    (confirmedSoFar_nonneg (moved.against inOrder against) a.id)

/-- The amounts of exactly those returns of an attempt that are CONFIRMED or REPAID. -/
def takenBack (c : Case) (attemptId : String) : Int :=
  ((c.returns.filter fun r => decide (r.payoutAttemptId = attemptId ∧
    (r.status = .confirmed ∨ r.status = .repaid))).map (·.amountMinor)).sum

/-- The counted returns of a settlement's attempts: of each, what was delivered is known, and of
none more than that. -/
structure CapHeld (c : Case) : Prop where
  known : ∀ r ∈ c.returns, (r.status = .confirmed ∨ r.status = .repaid) →
    ∃ a ∈ c.attempts, a.id = r.payoutAttemptId ∧ a.creditedMinor.isSome = true
  within : ∀ a ∈ c.attempts, ∀ delivered, a.creditedMinor = some delivered →
    takenBack c a.id ≤ delivered

theorem counted_iff (status : ReturnStatus) :
    countsTowardCap status = true ↔ status = .confirmed ∨ status = .repaid := by
  cases status <;> simp [countsTowardCap]

theorem confirmedSoFar_eq (c : Case) (attemptId : String) :
    confirmedSoFar c attemptId = takenBack c attemptId := by
  have same : (fun r : SettlementReturnRow =>
      decide (r.payoutAttemptId = attemptId) && countsTowardCap r.status) =
      fun r => decide (r.payoutAttemptId = attemptId ∧
        (r.status = .confirmed ∨ r.status = .repaid)) := by
    funext r
    rw [Bool.eq_iff_iff]
    simp [counted_iff]
  rw [confirmedSoFar, Table.sumWhere, same, takenBack]

/-- The database admits no credited amount but a positive one. -/
theorem credited_positive {a : PayoutAttemptRow} (checks : attemptChecks a = true) {delivered : Int}
    (known : a.creditedMinor = some delivered) : 0 < delivered := by
  simp only [attemptChecks, known, Option.all_some, Bool.and_eq_true, decide_eq_true_eq] at checks
  exact checks.1.1.2.1

theorem Covered.capHeld (held : Covered c) (against : Against c) (checked : AttemptsChecked c) :
    CapHeld c := by
  constructor
  · intro r mem counted
    obtain ⟨a, found, is⟩ := against.attempts r mem
    refine ⟨a, found, is, ?_⟩
    rcases held a found with nothing | ⟨delivered, known, -⟩
    · have part : r.amountMinor ≤ confirmedSoFar c a.id := by
        refine Table.le_sumWhere (fun q hq => (against.positive q hq).le) mem ?_
        simp [is, (counted_iff _).mpr counted]
      have positive := against.positive r mem
      omega
    · rw [known]
      rfl
  · intro a found delivered known
    rw [← confirmedSoFar_eq]
    rcases held a found with nothing | ⟨_, known', within⟩
    · have positive := credited_positive (checked a found) known
      omega
    · obtain rfl := Option.some.inj (known.symm.trans known')
      exact within

end Cap

/-! ### Over runs -/

/-- What holds of a settlement's attempts and returns after every run. -/
structure ReturnsInOrder (c : Case) : Prop where
  inOrder : InOrder c
  checked : AttemptsChecked c
  against : Against c

theorem returnsInOrder_empty : ReturnsInOrder {} :=
  ⟨inOrder_empty, (fun _ mem => by cases mem), against_empty⟩

section Runs

variable {digest : AuthorizedInstruction → String} {read : Reads} {s s' : Store}
  {op : SettlementOp}

theorem StoreMove.returnsInOrder (moved : StoreMove digest read s op s')
    (held : ReturnsInOrder s.case) : ReturnsInOrder s'.case where
  inOrder := moved.payout.inOrder held.inOrder
  checked := moved.payout.attempts.checked held.checked
  against := (moved.returns held.inOrder held.checked).against held.inOrder held.against

theorem step_returnsInOrder (settlementId : String) (w : World) (op : WorldOp)
    (held : ReturnsInOrder (w.now.cases settlementId)) :
    ReturnsInOrder ((w.step digest op).now.cases settlementId) := by
  cases op with
  | funding op => exact held
  | settlement asOf op =>
    exact step_cases (R := fun c c' => ReturnsInOrder c → ReturnsInOrder c') (fun _ h => h)
      (fun _ moved before => moved.returnsInOrder before) settlementId held

variable (digest)

theorem returnsInOrder_run (ops : List WorldOp) (settlementId : String) :
    ReturnsInOrder (caseAfter digest ops settlementId) :=
  run_invariant (I := fun w : World => ReturnsInOrder (w.now.cases settlementId))
    (step_returnsInOrder settlementId) returnsInOrder_empty ops

/-- However returns are opened, confirmed, escalated and repaid, in any order and among any other
operations. -/
theorem returns_within_delivery (ops : List WorldOp) (settlementId : String) :
    CapHeld (caseAfter digest ops settlementId) := by
  have held : ∀ id, ReturnsInOrder (caseAfter digest ops id) ∧ Covered (caseAfter digest ops id) := by
    refine caseInvariant (P := fun _ c => ReturnsInOrder c ∧ Covered c) ?_
      (fun _ => ⟨returnsInOrder_empty, fun _ mem => by cases mem⟩) (Along.trivial World.empty ops)
    rintro w asOf op s' - ⟨inOrder, covered⟩ moved
    exact ⟨moved.returnsInOrder inOrder, (moved.returns inOrder.inOrder inOrder.checked).covered
      inOrder.inOrder inOrder.against covered⟩
  obtain ⟨inOrder, covered⟩ := held settlementId
  exact covered.capHeld inOrder.against inOrder.checked

end Runs

end InrSettle
