import InrSettle.System.Runs

/-!
# Dispatch

What the operations do to a settlement's mark of no return and to its payout
attempts, and what holds of them after every run.
-/

namespace InrSettle

open Transaction CaseTables Run

/-! ### Payout moves -/

/-- A patch that writes neither the mark nor the attempt the settlement points at. -/
def KeepsMarks (patch : List ColumnWrite) : Prop :=
  ∀ row, (applyPatch patch row).pointOfNoReturnAt = row.pointOfNoReturnAt ∧
    (applyPatch patch row).payoutAttemptId = row.payoutAttemptId

theorem keepsMarks_nil : KeepsMarks [] := fun _ => ⟨rfl, rfl⟩

theorem PlainPatch.keepsMarks {patch : List ColumnWrite} (plain : PlainPatch patch) :
    KeepsMarks patch := by
  intro row
  obtain ⟨_, _, _, written⟩ := plain row
  simp [written]

/-- The updates the services make of one payout attempt. -/
inductive AttemptWrite (c : Case) :
    SettlementOp → String → (PayoutAttemptRow → PayoutAttemptRow) → Prop where
  | acknowledged {settlementId : String} {input : SubmissionInput} :
    AttemptWrite c (.recordSubmission settlementId input) input.attemptId (acknowledged input)
  | outcome {op : SettlementOp} {input : PayoutOutcomeInput} {a : PayoutAttemptRow} :
    op.reports = some input → input.trusted = true → latestAttempt c = some a →
    input.Permits a → AttemptWrite c op a.id input.set
  | overdue {settlementId : String} {input : SweepInput} {a : PayoutAttemptRow} :
    latestAttempt c = some a → (a.status = .submitted ∨ a.status = .accepted) →
    AttemptWrite c (.sweepPayoutSla settlementId input) a.id overdue
  | totalled {input : ConfirmInput} {current : SettlementReturnRow} {a : PayoutAttemptRow}
      {total : Int} {observation : ReturnObservationRow} :
    Counts c input current a total observation →
    AttemptWrite c (.confirmReturn input) a.id (totalled total)

/-- A new attempt, as it is allocated. -/
structure Allocated (op : SettlementOp) (a : PayoutAttemptRow) (n : Nat) : Prop where
  number : a.attemptNumber = n
  status : a.status = .submitted
  settlement : a.settlementId = op.subject
  key : payoutIdempotencyKey op.subject n = some a.idempotencyKey
  checks : attemptChecks a = true
  uncredited : a.creditedMinor = none
  whole : a.returnedTotalMinor = 0

/-- What one operation can do to the mark and the attempts of a settlement. -/
inductive PayoutMove (read : Reads) (op : SettlementOp) (c c' : Case) : Prop where
  | still : c'.settlement = c.settlement → c'.attempts = c.attempts → PayoutMove read op c c'
  | created {row : SettlementRow} : c.settlement = none → c'.settlement = some row →
    row.pointOfNoReturnAt = none → row.payoutAttemptId = none → row.status = .draft →
    c'.attempts = c.attempts → PayoutMove read op c c'
  | moved {input : ApplyTransitionInput} {old new : SettlementRow} {t : Transition} :
    c.settlement = some old → c'.settlement = some new → Takes input t old new →
    KeepsMarks input.patch → input.trigger ≠ .dispatchPayout →
    (input.trigger = .resolveFail ∨ input.trigger = .resolveCancel → old.pointOfNoReturnAt = none ∨
      ∃ resolve row, op = .resolveException resolve ∧ read.settlement = some row ∧
        resolve.resolution ≠ .resume ∧ isStated resolve.reason = true ∧
        row.pointOfNoReturnAt = none) →
    c'.attempts = c.attempts → PayoutMove read op c c'
  | dispatched {input : ApplyTransitionInput} {old new : SettlementRow} {t : Transition}
      {now : Instant} {a : PayoutAttemptRow} :
    c.settlement = some old → c'.settlement = some new → Takes input t old new →
    Asks input .dispatchPayout [.pointOfNoReturnAt now, .payoutAttemptId a.id] none →
    old.pointOfNoReturnAt = none → c.attempts = [] → c'.attempts = [a] → Allocated op a 1 →
    old.destinationVersionId = some a.destinationVersionId → PayoutMove read op c c'
  | updated {attemptId : String} {set : PayoutAttemptRow → PayoutAttemptRow} :
    c'.settlement = c.settlement → AttemptWrite c op attemptId set →
    AttemptAllowed c attemptId set → c'.attempts = (withAttempt c attemptId set).attempts →
    PayoutMove read op c c'
  | updatedMoved {input : ApplyTransitionInput} {old new : SettlementRow} {t : Transition}
      {attemptId : String} {set : PayoutAttemptRow → PayoutAttemptRow} :
    c.settlement = some old → c'.settlement = some new → Takes input t old new →
    input.patch = [] →
    (input.trigger = .payoutCredited ∨ input.trigger = .payoutRejected ∨
      input.trigger = .payoutTimeout) →
    AttemptWrite c op attemptId set → AttemptAllowed c attemptId set →
    c'.attempts = (withAttempt c attemptId set).attempts → PayoutMove read op c c'
  | retried {previous a : PayoutAttemptRow} :
    latestAttempt c = some previous → previous.status = .rejected →
    c'.settlement = c.settlement → c'.attempts = c.attempts ++ [a] → AttemptFresh c a →
    Allocated op a (previous.attemptNumber + 1) →
    a.destinationVersionId = previous.destinationVersionId → PayoutMove read op c c'

section Projection

variable {digest : AuthorizedInstruction → String} {read : Reads} {s s' : Store}
  {op : SettlementOp}

/-- The triggers of the plain operations. -/
def plainList : List Trigger :=
  [.runPreflight, .preflightPassed, .preflightBlocked, .attachQuote, .quoteExpired, .cancel,
    .requestCancellation, .cancellationHonoured, .beginReservation]

theorem mem_plainList : ∀ trigger ∈ op.plainTriggers, trigger ∈ plainList := by
  cases op <;> simp [SettlementOp.plainTriggers, plainList]

theorem plainList_neither : ∀ trigger ∈ plainList, trigger ≠ .dispatchPayout ∧
    trigger ≠ .resolveFail ∧ trigger ≠ .resolveCancel := by decide

/-- A moved settlement whose other rows stand is a payout move. -/
theorem payoutMove_of_moved {input : ApplyTransitionInput} {c₁ c₂ c' : Case}
    (moved : Moved input c₁ c₂) (settlement : c₁.settlement = s.case.settlement)
    (attempts : c₁.attempts = s.case.attempts) (row : c'.settlement = c₂.settlement)
    (same : c'.attempts = c₂.attempts) (patch : KeepsMarks input.patch)
    (notDispatch : input.trigger ≠ .dispatchPayout)
    (ends : ∀ old, s.case.settlement = some old →
      input.trigger = .resolveFail ∨ input.trigger = .resolveCancel →
      old.pointOfNoReturnAt = none ∨
      ∃ resolve row, op = .resolveException resolve ∧ read.settlement = some row ∧
        resolve.resolution ≠ .resume ∧ isStated resolve.reason = true ∧
        row.pointOfNoReturnAt = none) :
    PayoutMove read op s.case c' := by
  obtain ⟨old, new, t, found, takes, rfl⟩ := moved
  rw [settlement] at found
  exact .moved found row takes patch notDispatch (ends old found) (same.trans attempts)

/-- The same, for a trigger that ends no exception. -/
theorem payoutMove_of_ordinary {input : ApplyTransitionInput} {c₁ c₂ c' : Case}
    (moved : Moved input c₁ c₂) (settlement : c₁.settlement = s.case.settlement)
    (attempts : c₁.attempts = s.case.attempts) (row : c'.settlement = c₂.settlement)
    (same : c'.attempts = c₂.attempts) (patch : KeepsMarks input.patch)
    (ordinary : input.trigger ≠ .dispatchPayout ∧ input.trigger ≠ .resolveFail ∧
      input.trigger ≠ .resolveCancel) : PayoutMove read op s.case c' := by
  refine payoutMove_of_moved moved settlement attempts row same patch ordinary.1 ?_
  rintro old - (fail | cancel)
  · exact (ordinary.2.1 fail).elim
  · exact (ordinary.2.2 cancel).elim

theorem payoutMove_of_turn {input : ApplyTransitionInput} {c₁ c' : Case}
    (turn : Turn input c₁ c') (settlement : c₁.settlement = s.case.settlement)
    (attempts : c₁.attempts = s.case.attempts) (patch : KeepsMarks input.patch)
    (ordinary : input.trigger ≠ .dispatchPayout ∧ input.trigger ≠ .resolveFail ∧
      input.trigger ≠ .resolveCancel) : PayoutMove read op s.case c' := by
  rcases turn with rfl | moved
  · exact .still settlement attempts
  · exact payoutMove_of_ordinary moved settlement attempts rfl rfl patch ordinary

theorem Asks.ordinary {input : ApplyTransitionInput} {trigger : Trigger}
    {patch : List ColumnWrite} {code : Option ExceptionCode} (asks : Asks input trigger patch code)
    (ordinary : trigger ≠ .dispatchPayout ∧ trigger ≠ .resolveFail ∧ trigger ≠ .resolveCancel) :
    input.trigger ≠ .dispatchPayout ∧ input.trigger ≠ .resolveFail ∧
      input.trigger ≠ .resolveCancel := by
  rw [asks.trigger]
  exact ordinary

theorem Asks.keepsMarks {input : ApplyTransitionInput} {trigger : Trigger}
    {code : Option ExceptionCode} (asks : Asks input trigger [] code) :
    KeepsMarks input.patch := by
  rw [asks.patch]
  exact keepsMarks_nil

theorem Resolution.trigger_ends (resolution : Resolution) :
    resolution.trigger ≠ .dispatchPayout ∧
      (resolution.trigger = .resolveFail ∨ resolution.trigger = .resolveCancel →
        resolution ≠ .resume) := by
  cases resolution <;> simp [Resolution.trigger]

theorem ExceptionTrigger.ordinary (trigger : ExceptionTrigger) :
    trigger.trigger ≠ .dispatchPayout ∧ trigger.trigger ≠ .resolveFail ∧
      trigger.trigger ≠ .resolveCancel := by
  cases trigger <;> decide

theorem drawdownTransition_ordinary (input : ResolveDrawdownInput) (target : DrawdownStatus) :
    (drawdownTransition input target).patch = [] ∧
      (drawdownTransition input target).trigger ≠ .dispatchPayout ∧
      (drawdownTransition input target).trigger ≠ .resolveFail ∧
      (drawdownTransition input target).trigger ≠ .resolveCancel := by
  cases target <;> simp [drawdownTransition]

theorem outcomeTransition_patch (input : PayoutOutcomeInput) (a : PayoutAttemptRow) :
    (outcomeTransition input a).patch = [] := by
  unfold outcomeTransition
  split <;> rfl

theorem outcomeTransition_trigger (input : PayoutOutcomeInput) (a : PayoutAttemptRow) :
    (outcomeTransition input a).trigger =
      if input.outcome = .credited then .payoutCredited else .payoutRejected := by
  unfold outcomeTransition
  split <;> rfl

theorem PayoutOutcomeInput.set_id (input : PayoutOutcomeInput) (a : PayoutAttemptRow) :
    (input.set a).id = a.id := by
  unfold PayoutOutcomeInput.set
  split <;> rfl

theorem AttemptWrite.id {c : Case} {attemptId : String}
    {set : PayoutAttemptRow → PayoutAttemptRow} (write : AttemptWrite c op attemptId set)
    (a : PayoutAttemptRow) : (set a).id = a.id := by
  cases write with
  | acknowledged => rfl
  | outcome => exact PayoutOutcomeInput.set_id _ a
  | overdue => rfl
  | totalled => rfl

theorem StoreMove.payout (moved : StoreMove digest read s op s') :
    PayoutMove read op s.case s'.case := by
  cases moved with
  | noted audits => exact .still rfl rfl
  | created absent checks => exact .created absent rfl rfl rfl rfl rfl
  | plain answers patch moved =>
    exact payoutMove_of_ordinary moved rfl rfl rfl rfl patch.keepsMarks
      (plainList_neither _ (mem_plainList _ answers))
  | authorized found asks actor moved =>
    refine payoutMove_of_ordinary moved rfl rfl rfl rfl ?_ (asks.ordinary (by decide))
    rw [asks.patch]
    exact fun _ => ⟨rfl, rfl⟩
  | @dispatched dispatch _ versionId key _ _ found before version none numbered asks moved
      fresh =>
    obtain ⟨old, new, t, found', takes, rfl⟩ := moved
    obtain rfl := Option.some.inj (found.symm.trans found')
    exact .dispatched (a := dispatch.attempt versionId key) found rfl takes asks before none
      (by simp [Store.withCase, none]) ⟨rfl, rfl, rfl, numbered, fresh.checks, rfl, rfl⟩ version
  | openedException found asks answers moved ids single =>
    exact payoutMove_of_ordinary moved rfl rfl rfl rfl asks.keepsMarks
      (asks.ordinary (ExceptionTrigger.ordinary _))
  | @resolvedException resolve row _ _ found asks stated before moved =>
    refine payoutMove_of_moved moved rfl rfl rfl rfl asks.keepsMarks ?_ ?_
    · rw [asks.trigger]
      exact (Resolution.trigger_ends _).1
    · intro _ _ ends
      rw [asks.trigger] at ends
      have notResume := (Resolution.trigger_ends _).2 ends
      exact .inr ⟨resolve, row, rfl, found, notResume, stated, before notResume⟩
  | submitted allowed => exact .updated rfl .acknowledged allowed rfl
  | outcome reports latest trusted permits allowed result =>
    rcases result with rfl | ⟨-, is, moved⟩
    · exact .updated rfl (.outcome reports trusted latest permits) allowed rfl
    · obtain ⟨old, new, t, found, takes, rfl⟩ := moved
      refine .updatedMoved found rfl takes (outcomeTransition_patch _ _) ?_
        (.outcome reports trusted latest permits) allowed rfl
      rw [outcomeTransition_trigger]
      rcases is with is | is <;> simp [is]
  | swept latest waiting elapsed allowed asks turn =>
    rcases turn with rfl | ⟨old, new, t, found, takes, rfl⟩
    · exact .updated rfl (.overdue latest waiting) allowed rfl
    · exact .updatedMoved found rfl takes asks.patch (.inr (.inr asks.trigger))
        (.overdue latest waiting) allowed rfl
  | retried latest rejected numbered fresh =>
    exact .retried latest rejected rfl rfl fresh ⟨rfl, rfl, rfl, numbered, fresh.checks, rfl, rfl⟩ rfl
  | reserved pending allowed asks turn =>
    exact payoutMove_of_turn turn rfl rfl asks.keepsMarks (asks.ordinary (by decide))
  | reservationFailed pending refused asks moved =>
    exact payoutMove_of_ordinary moved rfl rfl rfl rfl asks.keepsMarks (asks.ordinary (by decide))
  | drawn active asks moved ids single =>
    exact payoutMove_of_ordinary moved rfl rfl rfl rfl asks.keepsMarks (asks.ordinary (by decide))
  | @drawdownResolved input _ row _ _ _ latest evaluated followed result =>
    obtain ⟨patch, ordinary⟩ := drawdownTransition_ordinary input row.target
    rcases result with rfl | ⟨-, moved⟩
    · exact .still rfl rfl
    · exact payoutMove_of_ordinary moved rfl rfl rfl rfl (patch ▸ keepsMarks_nil) ordinary
  | compensated done => exact .still rfl rfl
  | released done => exact .still rfl rfl
  | @operatorResolved ctx resolve _ _ _ _ _ found isOpen before gave result =>
    rcases result with rfl | ⟨compensation, c, audits, -, moved, rfl⟩
    · exact .still rfl rfl
    · refine payoutMove_of_moved moved rfl rfl rfl rfl keepsMarks_nil
        (Resolution.trigger_ends resolve.resolution).1 ?_
      intro old found' ends
      obtain rfl := Option.some.inj (found.symm.trans found')
      exact .inl (before ((Resolution.trigger_ends resolve.resolution).2 ends))
  | reconciliationBegun none present checks turn =>
    exact payoutMove_of_turn turn rfl rfl keepsMarks_nil (by simp [BeginInput.transition])
  | observationMatched found pending matched => exact .still rfl rfl
  | observationDiffered found pending differed turn =>
    exact payoutMove_of_turn turn rfl rfl keepsMarks_nil (by simp [ObservationInput.transition])
  | reconciliationSwept found pending elapsed turn =>
    exact payoutMove_of_turn turn rfl rfl keepsMarks_nil
      (by simp [ReconciliationSweepInput.transition])
  | reconciliationResolved found evaluated => exact .still rfl rfl
  | evaluated => exact .still rfl rfl
  | settled gathered final moved =>
    exact payoutMove_of_ordinary moved rfl rfl rfl rfl (fun _ => ⟨rfl, rfl⟩)
      (by simp [EvaluateInput.transition])
  | returned opens =>
    have about := openReturn_about opens
    exact .still about.settlement about.attempts
  | @eventReturned settlementId input opening a r c₁ c latest trusted is applied opens =>
    have about := openReturn_about opens
    rcases applied with ⟨paid, allowed, rfl⟩ | ⟨-, rfl⟩
    · refine .updated about.settlement (.outcome rfl trusted latest ?_) allowed about.attempts
      simpa [PayoutOutcomeInput.Permits, is] using paid
    · exact .still about.settlement about.attempts
  | returnEscalated found source => exact .still rfl rfl
  | returnCapped found source => exact .still rfl rfl
  | returnCounted counts => exact .updated rfl (.totalled counts) counts.allowed rfl
  | returnConfirmed counts drawn asked =>
    exact .updated rfl (.totalled counts) counts.allowed rfl
  | returnRejected found source => exact .still rfl rfl
  | returnRepaid found source requested paid => exact .still rfl rfl

end Projection

/-! ### Numbered attempts -/

/-- When the settlement passed the point of no return. -/
def mark (c : Case) : Option Instant := c.settlement.bind (·.pointOfNoReturnAt)

/-- The attempts are numbered as they were made, all but the last were rejected, the first is the
one the settlement points at, and there are some exactly past the point of no return. -/
structure InOrder (c : Case) : Prop where
  numbered : c.attempts.map (·.attemptNumber) = List.range' 1 c.attempts.length
  ids : (c.attempts.map (·.id)).Nodup
  superseded : ∀ a ∈ c.attempts, a.attemptNumber < c.attempts.length → a.status = .rejected
  marked : (mark c).isSome = true ↔ c.attempts ≠ []
  pointer : c.settlement.bind (·.payoutAttemptId) = c.attempts.head?.map (·.id)

theorem inOrder_empty : InOrder {} where
  numbered := rfl
  ids := .nil
  superseded := by simp
  marked := by simp [mark]
  pointer := rfl

section InOrder

variable {c c' : Case}

theorem InOrder.congr (held : InOrder c) (settlement : mark c' = mark c)
    (pointer : c'.settlement.bind (·.payoutAttemptId) = c.settlement.bind (·.payoutAttemptId))
    (attempts : c'.attempts = c.attempts) : InOrder c' where
  numbered := by rw [attempts, held.numbered]
  ids := by rw [attempts]; exact held.ids
  superseded := by rw [attempts]; exact held.superseded
  marked := by rw [settlement, attempts]; exact held.marked
  pointer := by rw [pointer, attempts]; exact held.pointer

/-- The number of the latest attempt is how many there are. -/
theorem InOrder.latest (held : InOrder c) {a : PayoutAttemptRow}
    (latest : latestAttempt c = some a) : a ∈ c.attempts ∧ a.attemptNumber = c.attempts.length := by
  obtain ⟨mem, most⟩ := Table.latestBy_some latest
  refine ⟨mem, Nat.le_antisymm ?_ ?_⟩
  · have inRange : a.attemptNumber ∈ List.range' 1 c.attempts.length := by
      rw [← held.numbered]
      exact List.mem_map_of_mem mem
    simp only [List.mem_range'_1] at inRange
    omega
  · have some' : 0 < c.attempts.length := List.length_pos_of_mem mem
    have last : c.attempts.length ∈ c.attempts.map (·.attemptNumber) := by
      rw [held.numbered, List.mem_range'_1]
      omega
    obtain ⟨b, hb, number⟩ := List.mem_map.mp last
    exact number ▸ most b hb

/-- An update the database allows keeps the attempts in order. -/
theorem InOrder.updated (held : InOrder c) {attemptId : String}
    {set : PayoutAttemptRow → PayoutAttemptRow} (sameId : ∀ a, (set a).id = a.id)
    (allowed : AttemptAllowed c attemptId set) (settlement : mark c' = mark c)
    (pointer : c'.settlement.bind (·.payoutAttemptId) = c.settlement.bind (·.payoutAttemptId))
    (attempts : c'.attempts = (withAttempt c attemptId set).attempts) : InOrder c' := by
  have kept : ∀ a ∈ c.attempts, decide (a.id = attemptId) = true →
      (set a).attemptNumber = a.attemptNumber ∧ (a.status = .rejected → (set a).status = .rejected) := by
    intro a mem found
    obtain ⟨mayBecome, -⟩ := allowed a mem (of_decide_eq_true found)
    simp only [attemptMayBecome, Bool.and_eq_true, Bool.or_eq_true, beq_iff_eq] at mayBecome
    refine ⟨mayBecome.1.1.1.1.2, fun rejected => ?_⟩
    simpa [rejected, PayoutAttemptStatus.isTerminal] using mayBecome.2
  have ids : c'.attempts.map (·.id) = c.attempts.map (·.id) := by
    rw [attempts]
    exact Table.map_setWhere fun a _ _ => sameId a
  have numbers : c'.attempts.map (·.attemptNumber) = c.attempts.map (·.attemptNumber) := by
    rw [attempts]
    exact Table.map_setWhere fun a mem found => (kept a mem found).1
  have length : c'.attempts.length = c.attempts.length := by
    simpa using congrArg List.length ids
  refine ⟨?_, ?_, ?_, ?_, ?_⟩
  · rw [numbers, held.numbered, length]
  · rw [ids]
    exact held.ids
  · rw [length, attempts]
    intro a mem below
    rcases Table.mem_setWhere.mp mem with ⟨old, oldMem, found, rfl⟩ | ⟨oldMem, -⟩
    · have := kept old oldMem found
      exact this.2 (held.superseded old oldMem (this.1 ▸ below))
    · exact held.superseded a oldMem below
  · rw [settlement, held.marked, ← List.length_pos_iff, ← List.length_pos_iff, length]
  · rw [pointer, held.pointer, ← List.head?_map, ← List.head?_map, ids]

/-- A new attempt under the next number keeps the attempts in order. -/
theorem InOrder.retried (held : InOrder c) {previous a : PayoutAttemptRow}
    (latest : latestAttempt c = some previous) (rejected : previous.status = .rejected)
    (number : a.attemptNumber = previous.attemptNumber + 1)
    (settlement : c'.settlement = c.settlement) (attempts : c'.attempts = c.attempts ++ [a])
    (fresh : AttemptFresh c a) : InOrder c' := by
  obtain ⟨mem, last⟩ := held.latest latest
  have some' : c.attempts ≠ [] := List.ne_nil_of_mem mem
  refine ⟨?_, ?_, ?_, ?_, ?_⟩
  · rw [attempts, List.map_append, held.numbered, List.length_append, List.map_singleton, number,
      last, List.length_singleton, List.range'_1_concat, Nat.add_comm]
  · rw [attempts, List.map_append, List.nodup_append]
    refine ⟨held.ids, List.nodup_singleton _, ?_⟩
    intro x hx y hy same
    obtain ⟨b, hb, rfl⟩ := List.mem_map.mp hx
    exact fresh.ids b hb (same.trans (List.mem_singleton.mp hy))
  · rw [attempts, List.length_append, List.length_singleton]
    intro b hb below
    rcases List.mem_append.mp hb with old | new
    · by_cases isLast : b.attemptNumber = c.attempts.length
      · have distinct : (c.attempts.map (·.attemptNumber)).Nodup :=
          held.numbered ▸ List.nodup_range'
        exact Table.eq_of_key distinct old mem (isLast.trans last.symm) ▸ rejected
      · exact held.superseded b old (by omega)
    · rw [List.mem_singleton.mp new, number, last] at below
      omega
  · rw [mark, settlement, attempts]
    exact iff_of_true (held.marked.mpr some') (by simp)
  · rw [settlement, held.pointer, attempts]
    cases first : c.attempts with
    | nil => exact (some' first).elim
    | cons b rest => rfl

theorem Takes.keepsMarks {input : ApplyTransitionInput} {t : Transition} {old new : SettlementRow}
    (takes : Takes input t old new) (patch : KeepsMarks input.patch) :
    new.pointOfNoReturnAt = old.pointOfNoReturnAt ∧ new.payoutAttemptId = old.payoutAttemptId := by
  obtain ⟨version, rfl⟩ := takes.eq
  simp [patch old]

theorem PayoutMove.inOrder {read : Reads} {op : SettlementOp} (moved : PayoutMove read op c c')
    (held : InOrder c) : InOrder c' := by
  cases moved with
  | still settlement attempts =>
    exact held.congr (by rw [mark, settlement, mark]) (by rw [settlement]) attempts
  | created absent row before pointer _ attempts =>
    exact held.congr (by simp [mark, absent, row, before]) (by simp [absent, row, pointer]) attempts
  | moved found row takes patch _ _ attempts =>
    obtain ⟨before, pointer⟩ := takes.keepsMarks patch
    exact held.congr (by simp [mark, found, row, before]) (by simp [found, row, pointer]) attempts
  | @dispatched input old new t now a found row takes asks before none attempts made =>
    obtain ⟨version, rfl⟩ := takes.eq
    have number := made.number
    refine ⟨by simp [attempts, number], by simp [attempts], by simp [attempts, number], ?_, ?_⟩
    · simp [mark, row, asks.patch, ColumnWrite.apply, attempts]
    · simp [row, asks.patch, ColumnWrite.apply, attempts]
  | updated settlement write allowed attempts =>
    exact held.updated write.id allowed (by rw [mark, settlement, mark]) (by rw [settlement]) attempts
  | updatedMoved found row takes patch _ write allowed attempts =>
    obtain ⟨before, pointer⟩ := takes.keepsMarks (patch ▸ keepsMarks_nil)
    exact held.updated write.id allowed (by simp [mark, found, row, before])
      (by simp [found, row, pointer]) attempts
  | retried latest rejected settlement attempts fresh made =>
    exact held.retried latest rejected made.number settlement attempts fresh

end InOrder

/-! ### Runs -/

theorem inOrder_run (digest : AuthorizedInstruction → String) (ops : List WorldOp)
    (settlementId : String) :
    InOrder ((run (World.step digest) World.empty ops).now.cases settlementId) :=
  caseInvariant (P := fun _ => InOrder) (fun _ _ _ _ _ held moved => moved.payout.inOrder held)
    (fun _ => inOrder_empty) (Along.trivial World.empty ops) settlementId

/-- No operation clears the mark of no return or moves it. -/
theorem mark_step (digest : AuthorizedInstruction → String) (w : World) (op : WorldOp)
    (settlementId : String) (at' : Instant)
    (marked : mark (w.now.cases settlementId) = some at') :
    mark ((w.step digest op).now.cases settlementId) = some at' := by
  cases op with
  | funding op => exact marked
  | settlement asOf op =>
    refine step_cases (R := fun c c' => mark c = some at' → mark c' = some at') (fun _ h => h)
      (fun s' moved marked => ?_) settlementId marked
    cases moved.payout with
    | still settlement => rwa [mark, settlement]
    | created absent =>
      simp only [mark, Tenant.store] at marked absent
      simp [absent] at marked
    | moved found row takes patch =>
      simp only [mark, Tenant.store] at marked found
      simp only [mark, row]
      simpa [found, (takes.keepsMarks patch).1] using marked
    | dispatched found row takes asks before =>
      simp only [mark, Tenant.store] at marked found
      simp [found, before] at marked
    | updated settlement => rwa [mark, settlement]
    | updatedMoved found row takes patch =>
      simp only [mark, Tenant.store] at marked found
      simp only [mark, row]
      simpa [found, (takes.keepsMarks (patch ▸ keepsMarks_nil)).1] using marked
    | retried _ _ settlement => rwa [mark, settlement]

end InrSettle
