import InrSettle.System.Dispatch
import InrSettle.System.Returns
import InrSettle.System.Transitions

/-!
# Returned money

Finality, receipts and returns all join the settlement to the payout attempt it
points at. It points at the first one, whichever attempt is credited.
Whether a settled payout that came back has a return opened for it, in whatever order
the provider's events, the reconciliation and the finality evaluation are processed.
-/

namespace InrSettle

open Transaction CaseTables Run

/-! ### The attempt that paid -/

/-- The attempt a settlement joins to is its first. -/
theorem joinedAttempt_eq_head {c : Case} (held : InOrder c) :
    joinedAttempt c = c.attempts.head? := by
  rw [joinedAttempt, held.pointer]
  cases c.attempts with
  | nil => rfl
  | cons a rest => simp

/-- An attempt that is the settlement's first and was not rejected is its only one. -/
theorem only_of_first {c : Case} {a : PayoutAttemptRow} (held : InOrder c)
    (first : c.attempts.head? = some a) (kept : a.status ≠ .rejected) : c.attempts = [a] := by
  obtain ⟨rest, attempts⟩ := List.head?_eq_some_iff.mp first
  have number : a.attemptNumber = 1 := by
    have numbered := held.numbered
    rw [attempts] at numbered
    simp only [List.map_cons, List.length_cons, List.range'_succ, List.cons.injEq] at numbered
    exact numbered.1
  cases rest with
  | nil => exact attempts
  | cons b rest =>
    exact (kept (held.superseded a (by simp [attempts]) (by simp [attempts, number]))).elim

/-- A return is opened against the attempt the settlement points at. -/
theorem openReturn_against {input : OpenReturnInput} {c c' : Case} {r : ReturnResult}
    (h : Commits (openReturn input) c r c') :
    ∀ ret ∈ c'.returns, ret.payoutAttemptId ∈ c.returns.map (·.payoutAttemptId) ∨
      c.settlement.bind (·.payoutAttemptId) = some ret.payoutAttemptId := by
  intro ret mem
  rcases openReturn_spec h with ⟨-, rfl, -⟩ | ⟨attemptId, opens, -, ⟨same, -⟩ | ⟨new, opened, added⟩⟩
  · exact .inl (List.mem_map_of_mem mem)
  · exact .inl (List.mem_map_of_mem (same ▸ mem))
  · rw [added] at mem
    rcases List.mem_append.mp mem with old | is
    · exact .inl (List.mem_map_of_mem old)
    · rw [List.mem_singleton.mp is, opened.against]
      exact .inr opens.pointer

/-- Finality, the receipt and new returns all follow the attempt `a`. -/
structure Follows (s : Store) (a : PayoutAttemptRow) : Prop where
  evidence : (gatherEvidence s).bind (·.attempt) = some a
  receipt : ∀ source, readReceiptSource s.case = some source → source.attempt = some a
  returns : ∀ input r c', Commits (openReturn input) s.case r c' → ∀ ret ∈ c'.returns,
    ret.payoutAttemptId ∈ s.case.returns.map (·.payoutAttemptId) ∨ ret.payoutAttemptId = a.id

theorem follows_iff {s : Store} {a : PayoutAttemptRow} (held : InOrder s.case)
    (paid : a.status = .credited) :
    Follows s a ↔ s.case.attempts = [a] := by
  have joined := joinedAttempt_eq_head held
  constructor
  · intro follows
    have evidence := follows.evidence
    cases found : s.case.settlement with
    | none => simp [gatherEvidence, found] at evidence
    | some row =>
      simp only [gatherEvidence, found, Option.map_some, Option.bind_some, joined] at evidence
      exact only_of_first held evidence (by rw [paid]; decide)
  · intro only
    have first : joinedAttempt s.case = some a := by rw [joined, only, List.head?_cons]
    refine ⟨?_, ?_, ?_⟩
    · cases found : s.case.settlement with
      | none => simp [joinedAttempt, found] at first
      | some row => simp [gatherEvidence, found, first]
    · intro source read
      cases found : s.case.settlement with
      | none => simp [readReceiptSource, found] at read
      | some row =>
        simp only [readReceiptSource, found, Option.bind_some] at read
        obtain ⟨version, -, rfl⟩ := Option.map_eq_some_iff.mp read
        exact first
    · intro input r c' done ret hr
      refine (openReturn_against done ret hr).imp_right fun points => ?_
      rw [held.pointer, only] at points
      exact (Option.some.inj points).symm

/-- After every run: finality, the receipt and new returns follow a credited attempt exactly where
it is the settlement's only one. -/
theorem credited_followed_iff (digest : AuthorizedInstruction → String) (ops : List WorldOp)
    (settlementId : String) (a : PayoutAttemptRow) (paid : a.status = .credited) :
    Follows ((run (World.step digest) World.empty ops).now.store settlementId) a ↔
      ((run (World.step digest) World.empty ops).now.cases settlementId).attempts = [a] :=
  follows_iff (inOrder_run digest ops settlementId) paid

section Example

/-- The attempt the provider is asked to pay, numbered `n`, as it stands after a run. -/
def attemptOf (ops : List WorldOp) (n : Nat) : Option PayoutAttemptRow :=
  (reached ops).case.attempts.find? fun a => decide (a.attemptNumber = n)

/-- The first attempt is credited. -/
def paidAtOnce : List WorldOp := funded ++ [dispatching, reporting .credited 7]

/-- The first attempt is rejected and the second credited. -/
def paidOnRetry : List WorldOp :=
  funded ++ [dispatching, reporting .rejected 7, retrying, reporting .credited 10]

theorem credited_followed_at_once :
    (attemptOf paidAtOnce 1).any (fun a => a.status == .credited) = true ∧
      ∀ a ∈ attemptOf paidAtOnce 1, Follows (reached paidAtOnce) a := by
  refine ⟨by decide +kernel, fun a found => ?_⟩
  have paid : ∀ a ∈ attemptOf paidAtOnce 1, a.status = .credited := by decide +kernel
  have only : ∀ a ∈ attemptOf paidAtOnce 1, (reached paidAtOnce).case.attempts = [a] := by
    decide +kernel
  exact (credited_followed_iff _ paidAtOnce "s" a (paid a found)).mpr (only a found)

/-- After a retry the second attempt is credited and the settlement still joins to the first. -/
theorem credited_not_followed_on_retry :
    (attemptOf paidOnRetry 2).any (fun a => a.status == .credited) = true ∧
      ∀ a ∈ attemptOf paidOnRetry 2, ¬ Follows (reached paidOnRetry) a := by
  refine ⟨by decide +kernel, fun a found follows => ?_⟩
  have joined : (gatherEvidence (reached paidOnRetry)).bind (·.attempt) =
      attemptOf paidOnRetry 1 := by decide +kernel
  have apart : ∀ a ∈ attemptOf paidOnRetry 2, attemptOf paidOnRetry 1 ≠ some a := by
    decide +kernel
  exact apart a found (joined.symm.trans follows.evidence)

end Example

/-! ### What is tracked -/

/-- Every attempt of a settled settlement that came back has a return. -/
def Tracked (c : Case) : Prop :=
  c.status = some .settled → ∀ a ∈ c.attempts, a.status = .returned →
    ∃ r ∈ c.returns, r.payoutAttemptId = a.id

/-- A settled settlement has one attempt, and it was credited. -/
def PaidOnce (c : Case) : Prop :=
  c.status = some .settled →
    ∃ a, c.attempts = [a] ∧ (a.status = .credited ∨ a.status = .returned)

/-- The opening a provider's event is handed on with. -/
def SettlementOp.opening : SettlementOp → Option OpenReturnInput
  | applyEvent _ _ onReturn => onReturn
  | _ => none

/-- An opening that `openReturn` takes for a settled settlement. -/
def opensReturn (input : OpenReturnInput) : Bool :=
  decide (0 < input.amountMinor) && isStated input.providerReturnReference

section Moves

variable {digest : AuthorizedInstruction → String} {read : Reads} {s s' : Store}
  {op : SettlementOp} {c c' : Case}

/-- Becoming settled: from RECONCILING, on final evidence, with the attempts and returns as they
were. -/
theorem StoreMove.settling (moved : StoreMove digest read s op s') (kept : ColumnsKept s.case)
    (before : s.case.status ≠ some .settled) (after : s'.case.status = some .settled) :
    ∃ asked evidence, op = .evaluateAndSettle asked ∧ s.case.status = some .reconciling ∧
      gatherEvidence s = some evidence ∧
      (evaluateFinality (toEvidence digest evidence)).final = true ∧
      s'.case.attempts = s.case.attempts ∧ s'.case.returns = s.case.returns := by
  obtain ⟨asked, t, old, new, evaluation, rfl, -⟩ := moved.row.settles kept before after
  cases moved with
  | noted audits => exact (before after).elim
  | plain answers => cases answers
  | outcome reports => cases reports
  | evaluated => exact (before after).elim
  | settled gathered final moved =>
    obtain ⟨old, new, t, found, takes, rfl⟩ := moved
    refine ⟨asked, _, rfl, ?_, gathered, final, rfl, rfl⟩
    have source : old.status ∈ [SettlementStatus.reconciling] := takes.source
    rw [Case.status, show s.case.settlement = some old from found]
    exact congrArg some (List.mem_singleton.mp source)

/-- A returns move loses no return. -/
theorem ReturnsMove.stay (moved : ReturnsMove op c c') {attemptId : String}
    (there : ∃ r ∈ c.returns, r.payoutAttemptId = attemptId) :
    ∃ r ∈ c'.returns, r.payoutAttemptId = attemptId := by
  obtain ⟨r, mem, is⟩ := there
  have updated : ∀ {returnId : String} {set : SettlementReturnRow → SettlementReturnRow},
      KeepsReturn set → c'.returns = (withReturn c returnId set).returns →
      ∃ r ∈ c'.returns, r.payoutAttemptId = attemptId := by
    intro returnId set keeps returns
    have same : c'.returns.map (·.payoutAttemptId) = c.returns.map (·.payoutAttemptId) := by
      rw [returns]
      exact Table.map_setWhere fun r _ _ => (keeps r).2.1
    have inColumn : attemptId ∈ c'.returns.map (·.payoutAttemptId) :=
      same ▸ is ▸ List.mem_map_of_mem mem
    exact List.mem_map.mp inColumn
  cases moved with
  | still returns => exact ⟨r, returns ▸ mem, is⟩
  | opened _ _ _ returns => exact ⟨r, returns ▸ List.mem_append_left _ mem, is⟩
  | written _ write returns => exact updated write.keeps returns
  | counted _ _ keeps _ returns => exact updated keeps returns

/-- Final evidence is of a payout that was credited. -/
theorem paid_of_final {evidence : EvidenceRow}
    (final : (evaluateFinality (toEvidence digest evidence)).final = true) :
    ∃ a, evidence.attempt = some a ∧ (a.status = .credited ∨ a.status = .returned) := by
  have met := (evaluateFinality_final.mp final).2.2.1
  unfold f3 at met
  split at met
  · cases met
  rename_i credited
  rw [not_and_or, not_not, not_not] at credited
  rcases credited with is | is <;> obtain ⟨a, found, status⟩ := Option.map_eq_some_iff.mp is
  · exact ⟨a, found, .inl status⟩
  · exact ⟨a, found, .inr status⟩

theorem gathered_attempt {evidence : EvidenceRow} (gathered : gatherEvidence s = some evidence) :
    evidence.attempt = joinedAttempt s.case := by
  obtain ⟨row, -, rfl⟩ := Option.map_eq_some_iff.mp gathered
  rfl

/-- A paid attempt stays the only one. -/
theorem PayoutMove.paidOnly {a : PayoutAttemptRow} (moved : PayoutMove read op c c')
    (only : c.attempts = [a]) (paid : a.status = .credited ∨ a.status = .returned) :
    ∃ a', c'.attempts = [a'] ∧ a'.id = a.id ∧
      (a'.status = .credited ∨ a'.status = .returned) := by
  have updated : ∀ {attemptId : String} {set : PayoutAttemptRow → PayoutAttemptRow},
      AttemptWrite c op attemptId set → AttemptAllowed c attemptId set →
      c'.attempts = (withAttempt c attemptId set).attempts →
      ∃ a', c'.attempts = [a'] ∧ a'.id = a.id ∧
        (a'.status = .credited ∨ a'.status = .returned) := by
    intro attemptId set write allowed attempts
    simp only [withAttempt, only, Table.setWhere, List.map_singleton] at attempts
    by_cases named : a.id = attemptId
    · rw [if_pos (decide_eq_true named)] at attempts
      exact ⟨set a, attempts, write.id a,
        attemptMayBecome_paid (allowed a (by simp [only]) named).1 paid⟩
    · rw [if_neg (by simpa using named)] at attempts
      exact ⟨a, attempts, rfl, paid⟩
  cases moved with
  | still _ attempts => exact ⟨a, attempts.trans only, rfl, paid⟩
  | created _ _ _ _ _ attempts => exact ⟨a, attempts.trans only, rfl, paid⟩
  | moved _ _ _ _ _ _ attempts => exact ⟨a, attempts.trans only, rfl, paid⟩
  | dispatched _ _ _ _ _ none => simp [only] at none
  | updated _ write allowed attempts => exact updated write allowed attempts
  | updatedMoved _ _ _ _ _ write allowed attempts => exact updated write allowed attempts
  | retried latest rejected =>
    have mem := (Table.latestBy_some latest).1
    rw [only, List.mem_singleton] at mem
    rcases paid with is | is <;> rw [← mem, rejected] at is <;> cases is

theorem StoreMove.paidOnce (moved : StoreMove digest read s op s') (inOrder : InOrder s.case)
    (kept : ColumnsKept s.case) (held : PaidOnce s.case) : PaidOnce s'.case := by
  intro settled
  by_cases before : s.case.status = some .settled
  · obtain ⟨a, only, paid⟩ := held before
    obtain ⟨a', only', -, paid'⟩ := moved.payout.paidOnly only paid
    exact ⟨a', only', paid'⟩
  · obtain ⟨asked, evidence, -, -, gathered, final, attempts, -⟩ :=
      moved.settling kept before settled
    obtain ⟨a, joined, paid⟩ := paid_of_final final
    rw [gathered_attempt gathered, joinedAttempt_eq_head inOrder] at joined
    have accepted : a.status ≠ .rejected := by
      rcases paid with is | is <;> rw [is] <;> decide
    exact ⟨a, attempts.trans (only_of_first inOrder joined accepted), paid⟩

/-- A returned outcome that is refused writes nothing. -/
theorem applyPayoutOutcome_returned_refused {status : Option SettlementStatus}
    {input : PayoutOutcomeInput} {refusal : PayoutRefusal} (is : input.outcome = .returned)
    (h : Commits (applyPayoutOutcome status input) c (.error refusal) c') : c' = c := by
  unfold applyPayoutOutcome at h
  split at h
  · exact (commits_pure.mp h).2
  simp only [commits_get_bind] at h
  split at h
  · exact (commits_pure.mp h).2
  simp only [is] at h
  split at h
  · simp at h
  split at h
  · exact (commits_pure.mp h).2
  · obtain ⟨_, _, -, h⟩ := commits_bind.mp h
    simp at h

/-- A return that is applied to a settled settlement and handed on is opened. -/
theorem applyEvent_opens {status : Option SettlementStatus} {input : PayoutOutcomeInput}
    {opening : OpenReturnInput} {r : PayoutResult} {attemptId : String}
    (h : Commits (applyEvent status input (some opening)) c r c') (is : input.outcome = .returned)
    (stated : opensReturn opening = true) (settled : c.status = some .settled)
    (pointer : c.settlement.bind (·.payoutAttemptId) = some attemptId) :
    c' = c ∨ ∃ ret ∈ c'.returns, ret.payoutAttemptId = attemptId := by
  unfold applyEvent at h
  obtain ⟨applied, c₁, done, h⟩ := commits_bind.mp h
  cases applied with
  | error refusal =>
    obtain ⟨-, rfl⟩ := commits_pure.mp h
    exact .inl (applyPayoutOutcome_returned_refused is done)
  | ok answer =>
    simp only [is, if_true] at h
    obtain ⟨result, c₂, opens, h⟩ := commits_bind.mp h
    obtain ⟨-, rfl⟩ := commits_pure.mp h
    have settlement : c₁.settlement = c.settlement := by
      obtain ⟨_, -, -, ⟨-, -, rfl⟩ | ⟨-, rfl⟩⟩ := applyPayoutOutcome_returned is done <;> rfl
    simp only [opensReturn, Bool.and_eq_true, decide_eq_true_eq] at stated
    have may : Opens opening c₁ attemptId := by
      refine ⟨?_, ?_, stated.1, stated.2⟩
      · rw [settlement]
        exact settled
      · rw [settlement]
        exact pointer
    rcases openReturn_spec opens with ⟨-, -, refused⟩ | ⟨other, opened, -, result⟩
    · exact (refused attemptId may).elim
    · obtain rfl := Option.some.inj (may.pointer.symm.trans opened.pointer)
      rcases result with ⟨same, there⟩ | ⟨ret, made, appended⟩
      · exact .inr (same ▸ there)
      · exact .inr ⟨ret, by simp [appended], made.against⟩

end Moves

/-! ### Losing track -/

section Losing

variable (digest : AuthorizedInstruction → String)

/-- The settlement would settle while its payout is already RETURNED. -/
def settlesReturned (w : World) : WorldOp → Bool
  | .settlement _ (.evaluateAndSettle input) =>
    let s := w.now.store input.settlementId
    s.case.status == some .reconciling && s.case.attempts.any (·.status == .returned) &&
      (gatherEvidence s).any fun row => (evaluateFinality (toEvidence digest row)).final
  | _ => false

/-- A trusted return of a settled payout for which there is no return yet is applied without a
complete opening: by a status pull, or by an event that is handed to nobody or states no
amount or no reference. -/
def returnsUnopened (w : World) : WorldOp → Bool
  | .settlement _ op =>
    op.reports.any (fun input => input.trusted && input.outcome == .returned) &&
      !op.opening.any opensReturn && (w.now.cases op.subject).status == some .settled &&
      (w.now.cases op.subject).attempts.any fun a => a.status == .credited &&
        !(w.now.cases op.subject).returns.any fun r => r.payoutAttemptId == a.id
  | .funding _ => false

def losesReturn (w : World) (op : WorldOp) : Bool :=
  settlesReturned digest w op || returnsUnopened w op

/-- A credited attempt comes back by a trusted report only. -/
theorem PayoutMove.reported {read : Reads} {op : SettlementOp} {c c' : Case}
    {a a' : PayoutAttemptRow} (moved : PayoutMove read op c c') (only : c.attempts = [a])
    (credited : a.status = .credited) (only' : c'.attempts = [a'])
    (came : a'.status = .returned) :
    ∃ input, op.reports = some input ∧ input.trusted = true ∧ input.outcome = .returned := by
  have still : c'.attempts ≠ c.attempts := by
    rw [only, only']
    rintro ⟨⟩
    rw [credited] at came
    cases came
  cases moved.attempts with
  | still attempts => exact (still attempts).elim
  | added made attempts => simp [only, only'] at attempts
  | @updated attemptId set write allowed attempts =>
    simp only [withAttempt, only, only', Table.setWhere, List.map_singleton,
      List.cons.injEq, and_true] at attempts
    by_cases named : a.id = attemptId
    · rw [if_pos (decide_eq_true named)] at attempts
      subst attempts
      cases write with
      | acknowledged =>
        unfold acknowledged at came
        split at came
        · cases came
        · rw [credited] at came
          cases came
      | @outcome _ input b reports trusted latest permits =>
        refine ⟨input, reports, trusted, ?_⟩
        cases outcome : input.outcome <;>
          simp [PayoutOutcomeInput.set, outcome, InrSettle.credited, rejected, accepted,
            credited] at came ⊢
      | overdue => cases came
      | totalled counts =>
        exact absurd (credited.symm.trans came) (by decide)
    · rw [if_neg (by simpa using named)] at attempts
      rw [attempts, credited] at came
      cases came

/-- What holds of a settlement while no return is lost. -/
structure Following (c : Case) : Prop where
  inOrder : ReturnsInOrder c
  kept : ColumnsKept c
  paid : PaidOnce c
  tracked : Tracked c

theorem following_empty : Following {} where
  inOrder := returnsInOrder_empty
  kept := columnsKept_none rfl
  paid := by rintro ⟨⟩
  tracked := by rintro ⟨⟩

variable {digest}

theorem settlesReturned_of {w : World} {asOf : Nat} {asked : EvaluateInput} {evidence : EvidenceRow}
    (reconciling : (w.now.store asked.settlementId).case.status = some .reconciling)
    (came : (w.now.store asked.settlementId).case.attempts.any (·.status == .returned) = true)
    (gathered : gatherEvidence (w.now.store asked.settlementId) = some evidence)
    (final : (evaluateFinality (toEvidence digest evidence)).final = true) :
    settlesReturned digest w (.settlement asOf (.evaluateAndSettle asked)) = true := by
  simp only [settlesReturned, reconciling, came, gathered, Option.any_some, final]
  rfl

/-- An event that is handed on with a complete opening leaves a return, if it applies one. -/
theorem opened_step {w : World} {asOf : Nat} {op : SettlementOp} {input : PayoutOutcomeInput}
    {attemptId : String} (reports : op.reports = some input)
    (handed : op.opening.any opensReturn = true) (is : input.outcome = .returned)
    (settled : (w.now.cases op.subject).status = some .settled)
    (pointer : (w.now.cases op.subject).settlement.bind (·.payoutAttemptId) = some attemptId)
    (changed : (settlementStep digest (w.read asOf op) (w.now.store op.subject) op).case ≠
      w.now.cases op.subject) :
    ∃ r ∈ (settlementStep digest (w.read asOf op) (w.now.store op.subject) op).case.returns,
      r.payoutAttemptId = attemptId := by
  rw [Option.any_eq_true] at handed
  obtain ⟨opening, found, stated⟩ := handed
  cases op
  case applyEvent settlementId reported onReturn =>
    obtain rfl := Option.some.inj reports
    obtain rfl : onReturn = some opening := found
    simp only [settlementStep, after_onCase_case] at changed ⊢
    rcases after_cases (applyEvent _ reported (some opening))
      (w.now.cases settlementId) with ⟨r, done⟩ | same
    · exact (applyEvent_opens done is stated settled pointer).resolve_left changed
    · exact (changed same).elim
  all_goals cases found

theorem tracked_step {w : World} {asOf : Nat} {op : SettlementOp}
    (calm : losesReturn digest w (.settlement asOf op) = false)
    (held : Following (w.now.cases op.subject)) :
    Tracked (settlementStep digest (w.read asOf op) (w.now.store op.subject) op).case := by
  have moved : StoreMove digest (w.read asOf op) (w.now.store op.subject) op _ :=
    settlementStep_move op
  intro settled a' mem' came
  simp only [losesReturn, Bool.or_eq_false_iff] at calm
  by_cases before : (w.now.cases op.subject).status = some .settled
  · obtain ⟨a, only, paid⟩ := held.paid before
    obtain ⟨b, only', sameId, -⟩ := moved.payout.paidOnly only paid
    obtain rfl : a' = b := by simpa [only'] using mem'
    have returns := moved.returns held.inOrder.inOrder held.inOrder.checked
    rw [sameId]
    by_cases there : ∃ r ∈ (w.now.cases op.subject).returns, r.payoutAttemptId = a.id
    · exact returns.stay there
    rcases paid with credited | returned
    · -- The report was handed on with a complete opening, or it would have lost the return.
      obtain ⟨input, reports, trusted, is⟩ := moved.payout.reported only credited only' came
      have handed : op.opening.any opensReturn = true := by
        by_contra nobody
        have lost : op.opening.any opensReturn = false := by simpa using nobody
        have unlost := calm.2
        simp [returnsUnopened, reports, trusted, is, before, only, credited, lost] at unlost
        exact there unlost
      have pointer : (w.now.cases op.subject).settlement.bind (·.payoutAttemptId) = some a.id := by
        rw [held.inOrder.inOrder.pointer, only]
        rfl
      refine opened_step reports handed is before pointer fun same => ?_
      rw [same, only, List.singleton_inj] at only'
      rw [← only', credited] at came
      cases came
    · exact returns.stay (held.tracked before a (by simp [only]) returned)
  · obtain ⟨asked, evidence, rfl, reconciling, gathered, final, attempts, -⟩ :=
      moved.settling held.kept before settled
    have came' : (w.now.store asked.settlementId).case.attempts.any (·.status == .returned) = true :=
      List.any_eq_true.mpr ⟨a', attempts ▸ mem', by simp [came]⟩
    rw [settlesReturned_of reconciling came' gathered final] at calm
    cases calm.1

variable (digest)

/-- In every run in which no return is lost, each settled payout that came back has one. -/
theorem returned_money_tracked (ops : List WorldOp)
    (calm : Along (World.step digest) (fun w op => losesReturn digest w op = false)
      World.empty ops) (settlementId : String) :
    Tracked (caseAfter digest ops settlementId) := by
  refine (stepInvariant (P := fun _ => Following) ?_ (fun _ => following_empty) calm
    settlementId).tracked
  intro w asOf op calm held
  have moved : StoreMove digest (w.read asOf op) (w.now.store op.subject) op _ :=
    settlementStep_move op
  exact ⟨moved.returnsInOrder held.inOrder, moved.row.columnsKept held.kept,
    moved.paidOnce held.inOrder.inOrder held.kept held.paid, tracked_step calm held⟩

/-- Of an event that comes after the settlement settled and is handed on. -/
theorem returned_money_tracked_by_event :
    Tracked (caseAfter (fun _ => "hash") (delivered ++ [comingBack "r1" 400]) "s") :=
  returned_money_tracked (fun _ => "hash") _ (by decide +kernel) "s"

/-- The event comes before the finality evaluation: no return can be opened yet, and the
settlement settles on the RETURNED payout. -/
theorem returned_money_lost_before_finality :
    ¬ Tracked (caseAfter (fun _ => "hash")
      (funded ++ [dispatching, reporting .credited 10, comingBack "r1" 400] ++ closing) "s") := by
  unfold Tracked
  decide +kernel

end Losing

end InrSettle
