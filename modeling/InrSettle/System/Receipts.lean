import InrSettle.Service.Receipt
import InrSettle.System.Refusals
import InrSettle.System.Transitions

/-!
# Receipts and reconciliations behind a refusal

Both the reconciliation and the receipt are written before the settlement is asked to move. A
receipt is the receipt of a SETTLED settlement as long as none is cut outside RECONCILING.
-/

namespace InrSettle

open Transaction CaseTables Run

/-! ### Beginning a reconciliation -/

/-- The call is answered before anything is written, or the settlement can begin. -/
def BeginInput.begins (input : BeginInput) (c : Case) : Bool :=
  decide (input.slaSeconds ≤ 0) || c.reconciliation.isSome || c.isIn .payoutConfirmed

theorem beginReconciliation_refusals (c : Case) (input : BeginInput) :
    RefusalKeepsExactly Case.reconciliation (beginReconciliation input) c
      (input.begins c = true) := by
  refine refusalKeepsExactly_of_commits fun answer c' h => ?_
  unfold beginReconciliation at h
  split at h
  · rename_i zero
    exact .inl ⟨by simp [BeginInput.begins, zero], .inl (by rw [(commits_pure.mp h).2])⟩
  rename_i positive
  simp only [commits_get_bind] at h
  cases none : c.reconciliation with
  | some existing =>
    simp only [none] at h
    exact .inl ⟨by simp [BeginInput.begins, none], .inl (by rw [(commits_pure.mp h).2, none])⟩
  | none =>
    have begun : reconciliationMachine.evaluate Option.none .begin =
        some ⟨.r01, [], .begin, .pending, false⟩ := rfl
    simp only [none, begun] at h
    obtain ⟨_, c₁, inserted, h⟩ := commits_bind.mp h
    simp only [insertReconciliation, commits_get_bind, commits_require_bind,
      commits_modify] at inserted
    obtain ⟨-, -, -, rfl⟩ := inserted
    obtain ⟨outcome, c₂, applied, h⟩ := commits_bind.mp h
    have answers : input.transition.Answers _ :=
      ⟨rfl, by decide, rfl, rfl, by simp, by simp [BeginInput.transition]⟩
    rcases answers.commits applied with ⟨waits, ⟨done, rfl⟩, -⟩ | ⟨elsewhere, ⟨failure, rfl⟩, rfl⟩
    · obtain ⟨rfl, -⟩ := commits_pure.mp h
      refine .inl ⟨?_, .inr ⟨_, rfl⟩⟩
      rw [isIn_source] at waits
      simp only [BeginInput.begins, Bool.or_eq_true]
      exact .inr waits
    · obtain ⟨rfl, rfl⟩ := commits_pure.mp h
      rw [isIn_source] at elsewhere
      refine .inr ⟨?_, ⟨_, rfl⟩, by simp⟩
      have elsewhere : c.isIn .payoutConfirmed = false := elsewhere
      simp [BeginInput.begins, none, elsewhere, positive]

/-! ### Evaluating and settling -/

/-- A receipt is cut: the evidence is final, and the settlement was not settled before. -/
def cutsReceipt (digest : AuthorizedInstruction → String) (s : Store) : Bool :=
  (gatherEvidence s).any fun row => decide (row.settlement.status ≠ .settled) &&
    (evaluateFinality (toEvidence digest row)).final

/-- No receipt is cut, or there is one already, or the settlement can settle. -/
def ReceiptStore.settles (digest : AuthorizedInstruction → String) (s : ReceiptStore) : Bool :=
  !cutsReceipt digest s.store || s.receipt.isSome || s.store.case.isIn .reconciling

section

variable {contentHash : ReceiptSource → String} {digest : AuthorizedInstruction → String}

/-- A receipt that is issued is the one there is; no other row of the settlement moves. -/
theorem issueReceipt_ok {settlementId receiptId : String} {actor : PrincipalRef}
    {s s' : ReceiptStore} {issued : IssuedReceipt}
    (h : Commits (issueReceipt contentHash settlementId receiptId actor) s (.ok issued) s') :
    (s.receipt.isSome = true → s' = s) ∧ s'.receipt.isSome = true ∧
      ∃ audits, s'.store = s.store.withCase (s.store.case.noted audits) := by
  simp only [issueReceipt, commits_get_bind] at h
  cases found : s.receipt with
  | some existing =>
    simp only [found] at h
    obtain ⟨-, rfl⟩ := commits_pure.mp h
    exact ⟨fun _ => rfl, by simp [found], [], by simp [Store.withCase, Case.noted]⟩
  | none =>
    simp only [found] at h
    split at h
    · cases (commits_pure.mp h).1
    split at h
    · cases (commits_pure.mp h).1
    obtain ⟨_, s₁, inserted, h⟩ := commits_bind.mp h
    simp only [insertReceipt, commits_get_bind, commits_require_bind, commits_modify] at inserted
    obtain ⟨-, rfl⟩ := inserted
    obtain ⟨_, s₂, ran, h⟩ := commits_bind.mp h
    obtain ⟨store, onCase, rfl⟩ := commits_focus.mp ran
    obtain ⟨c, audited, rfl⟩ := commits_onCase.mp onCase
    obtain rfl := commits_modify.mp audited
    obtain ⟨-, rfl⟩ := commits_pure.mp h
    exact ⟨by simp, rfl, [_], rfl⟩

/-- What an evaluation does: no receipt is cut and the settlement's row stays; or one is, and the
settlement settles or the transition is refused behind the receipt. -/
theorem evaluateAndSettle_commits {input : EvaluateInput} {s s' : ReceiptStore}
    {r : FinalityResult}
    (h : Commits (Receipts.evaluateAndSettle contentHash digest input) s r s') :
    cutsReceipt digest s.store = false ∧ s'.receipt = s.receipt ∧
        s'.store.case.settlement = s.store.case.settlement ∨
      cutsReceipt digest s.store = true ∧ s'.receipt.isSome = true ∧
        (s.receipt.isSome = true → s'.receipt = s.receipt) ∧
        (s.store.case.isIn .reconciling = true ∧ (∃ done, r = .ok done) ∧
            s'.store.case.status = some .settled ∧
            (∃ issued, RowMove (.evaluateAndSettle { input with receipt := issued })
              s.store.case s'.store.case) ∨
          s.store.case.isIn .reconciling = false ∧ (∃ refusal, r = .error refusal) ∧
            s'.store.case.settlement = s.store.case.settlement) := by
  simp only [Receipts.evaluateAndSettle, commits_get_bind] at h
  cases gathered : gatherEvidence s.store with
  | none =>
    simp only [gathered] at h
    obtain ⟨-, rfl⟩ := commits_pure.mp h
    exact .inl ⟨by simp [cutsReceipt, gathered], rfl, rfl⟩
  | some row =>
    simp only [gathered] at h
    obtain ⟨_, s₁, ran, h⟩ := commits_bind.mp h
    obtain ⟨store, onStore, rfl⟩ := commits_focus.mp ran
    obtain ⟨c, recorded, rfl⟩ := commits_onCase.mp onStore
    obtain rfl := commits_modify.mp recorded
    split at h
    · rename_i settled
      obtain ⟨-, rfl⟩ := commits_pure.mp h
      exact .inl ⟨by simp [cutsReceipt, gathered, settled], rfl, rfl⟩
    rename_i unsettled
    split at h
    · rename_i missing
      obtain ⟨_, s₂, ran, h⟩ := commits_bind.mp h
      obtain ⟨store, onStore, rfl⟩ := commits_focus.mp ran
      obtain ⟨c, refused, rfl⟩ := commits_onCase.mp onStore
      obtain rfl := commits_modify.mp refused
      obtain ⟨-, rfl⟩ := commits_pure.mp h
      refine .inl ⟨?_, rfl, rfl⟩
      have missing : (evaluateFinality (toEvidence digest row)).final = false := by
        simpa using missing
      simp [cutsReceipt, gathered, missing]
    rename_i final
    have final : (evaluateFinality (toEvidence digest row)).final = true := by simpa using final
    have cuts : cutsReceipt digest s.store = true := by
      simp [cutsReceipt, gathered, final, unsettled]
    obtain ⟨issuing, s₂, issued, h⟩ := commits_bind.mp h
    cases issuing with
    | error refusal => exact (commits_abort.mp h).elim
    | ok receipt =>
      obtain ⟨idempotent, present, audits, store⟩ := issueReceipt_ok issued
      obtain ⟨moved, s₃, ran, h⟩ := commits_bind.mp h
      obtain ⟨t, onStore, rfl⟩ := commits_focus.mp ran
      obtain ⟨c, applied, rfl⟩ := commits_onCase.mp onStore
      rw [store] at applied
      have answers : ({ input with receipt := receipt } : EvaluateInput).transition.Answers _ :=
        ⟨rfl, by decide, rfl, rfl, by simp [EvaluateInput.transition],
          by simp [EvaluateInput.transition, Transition.permittedCompanions]⟩
      have kept (same : s.receipt.isSome = true) : s₂.receipt = s.receipt := by
        rw [idempotent same]
      rcases answers.commits applied with
        ⟨waits, ⟨done, rfl⟩, turned⟩ | ⟨elsewhere, ⟨failure, rfl⟩, rfl⟩
      · obtain ⟨rfl, rfl⟩ := commits_pure.mp h
        rw [isIn_source] at waits
        refine .inr ⟨cuts, present, kept, .inl ⟨waits, ⟨_, rfl⟩, ?_, receipt, ?_⟩⟩
        · obtain ⟨old, new, t, found, takes, rfl⟩ := turned
          exact congrArg some takes.status
        · obtain ⟨old, new, t, found, takes, rfl⟩ := turned
          exact .taken found rfl takes fun _ => ⟨_, _, rfl, rfl, final, rfl⟩
      · obtain ⟨rfl, rfl⟩ := commits_pure.mp h
        rw [isIn_source] at elsewhere
        exact .inr ⟨cuts, present, kept, .inr ⟨elsewhere, ⟨_, rfl⟩, rfl⟩⟩

theorem evaluateAndSettle_refusals (s : ReceiptStore) (input : EvaluateInput) :
    RefusalKeepsExactly ReceiptStore.receipt (Receipts.evaluateAndSettle contentHash digest input) s
      (s.settles digest = true) := by
  refine refusalKeepsExactly_of_commits fun answer s' h => ?_
  rcases evaluateAndSettle_commits h with
    ⟨uncut, kept, -⟩ | ⟨cuts, present, kept, ⟨waits, done, -⟩ | ⟨elsewhere, refusal, -⟩⟩
  · exact .inl ⟨by simp [ReceiptStore.settles, uncut], .inl kept⟩
  · exact .inl ⟨by simp [ReceiptStore.settles, waits], .inr done⟩
  · cases before : s.receipt with
    | some existing =>
      exact .inl ⟨by simp [ReceiptStore.settles, before],
        .inl ((kept (by simp [before])).trans before)⟩
    | none =>
      refine .inr ⟨by simp [ReceiptStore.settles, cuts, before, elsewhere], refusal, fun same => ?_⟩
      rw [same] at present
      cases present

end

/-! ### The receipts of a tenant -/

/-- The world, and the receipt of each settlement. -/
structure ReceiptWorld where
  world : World
  receipts : String → Option ReceiptRow

namespace ReceiptWorld

def empty : ReceiptWorld := ⟨World.empty, fun _ => none⟩

/-- What a transaction about one settlement and its receipt can reach. -/
def store (w : ReceiptWorld) (settlementId : String) : ReceiptStore :=
  ⟨w.world.now.store settlementId, w.receipts settlementId⟩

variable (contentHash : ReceiptSource → String) (digest : AuthorizedInstruction → String)

/-- Every operation as in the world without receipts, but the one that issues them. -/
def step (w : ReceiptWorld) : WorldOp → ReceiptWorld
  | .settlement asOf (.evaluateAndSettle input) =>
    let s := after (Receipts.evaluateAndSettle contentHash digest input)
      (w.store input.settlementId)
    { world := {
        now := w.world.now.put input.settlementId s.store
        past := w.world.now :: w.world.past
        pending := nextPending (w.world.read asOf (.evaluateAndSettle input))
          (w.world.now.store input.settlementId) w.world.pending (.evaluateAndSettle input) }
      receipts := Function.update w.receipts input.settlementId s.receipt }
  | op => { w with world := w.world.step digest op }

/-- Where a step issues a receipt, it settles. -/
def Settling (w : ReceiptWorld) : WorldOp → Prop
  | .settlement _ (.evaluateAndSettle input) =>
    (w.store input.settlementId).settles digest = true
  | _ => True

end ReceiptWorld

/-- SETTLED is left by no transition. -/
theorem settled_source : ∀ t ∈ transitions, SettlementStatus.settled ∉ t.source := by
  decide +kernel

theorem RowMove.staysSettled {op : SettlementOp} {c c' : Case} (moved : RowMove op c c')
    (before : c.status = some .settled) : c'.status = some .settled := by
  cases moved with
  | still settlement => rwa [Case.status, settlement]
  | created absent => rw [Case.status, absent] at before; cases before
  | taken found made takes =>
    have status : _ = SettlementStatus.settled := Option.some.inj ((congrArg _ found).symm.trans before)
    exact (settled_source _ takes.inTable (status ▸ takes.leaves)).elim

/-- An operation that does not settle leaves what is SETTLED and what is not. -/
theorem RowMove.settled_iff {op : SettlementOp} {c c' : Case} (moved : RowMove op c c')
    (held : ColumnsKept c) (other : ∀ asked, op ≠ .evaluateAndSettle asked) :
    c'.status = some .settled ↔ c.status = some .settled := by
  refine ⟨fun after => ?_, moved.staysSettled⟩
  by_contra before
  obtain ⟨asked, _, _, _, _, is, -⟩ := moved.settles held before after
  exact other asked is

/-- A settlement with its columns kept, and a receipt exactly if it is SETTLED. -/
structure Receipted (c : Case) (receipt : Option ReceiptRow) : Prop where
  columns : ColumnsKept c
  settled : receipt.isSome = true ↔ c.status = some .settled

section Runs

variable (contentHash : ReceiptSource → String) (digest : AuthorizedInstruction → String)

theorem receipted_evaluate (input : EvaluateInput) {s : ReceiptStore}
    (held : Receipted s.store.case s.receipt) (settles : s.settles digest = true) :
    Receipted (after (Receipts.evaluateAndSettle contentHash digest input) s).store.case
      (after (Receipts.evaluateAndSettle contentHash digest input) s).receipt := by
  refine after_induction (P := fun s : ReceiptStore => Receipted s.store.case s.receipt)
    held fun r s' h => ?_
  have still (settlement : s'.store.case.settlement = s.store.case.settlement) :
      ColumnsKept s'.store.case ∧ s'.store.case.status = s.store.case.status :=
    ⟨⟨fun row found => held.columns.projected row (settlement ▸ found),
      fun row found => held.columns.checked row (settlement ▸ found)⟩,
      congrArg (Option.map _) settlement⟩
  rcases evaluateAndSettle_commits h with
    ⟨-, receipt, settlement⟩ | ⟨cuts, present, kept, ⟨-, -, status, issued, moved⟩ |
      ⟨elsewhere, -, settlement⟩⟩
  · obtain ⟨columns, status⟩ := still settlement
    exact ⟨columns, by rw [receipt, status, held.settled]⟩
  · exact ⟨moved.columnsKept held.columns, iff_of_true present status⟩
  · obtain ⟨columns, status⟩ := still settlement
    have before : s.receipt.isSome = true := by
      simpa [ReceiptStore.settles, cuts, elsewhere] using settles
    exact ⟨columns, by rw [kept before, status, held.settled]⟩

theorem receipted_step (w : ReceiptWorld) (op : WorldOp)
    (held : ∀ id, Receipted (w.world.now.cases id) (w.receipts id))
    (settling : w.Settling digest op) (id : String) :
    Receipted ((w.step contentHash digest op).world.now.cases id)
      ((w.step contentHash digest op).receipts id) := by
  have others (other : ∀ asOf asked, op ≠ .settlement asOf (.evaluateAndSettle asked)) :
      Receipted ((w.world.step digest op).now.cases id) (w.receipts id) := by
    rcases step_row digest w.world op id with same | ⟨asOf, own, rfl, -, moved⟩
    · exact ⟨⟨fun row found => (held id).columns.projected row (same ▸ found),
        fun row found => (held id).columns.checked row (same ▸ found)⟩,
        by rw [Case.status, same]; exact (held id).settled⟩
    · refine ⟨moved.columnsKept (held id).columns, (held id).settled.trans ?_⟩
      exact (moved.settled_iff (held id).columns fun asked is => other asOf asked (is ▸ rfl)).symm
  cases op with
  | funding op => exact others fun _ _ is => by cases is
  | settlement asOf own =>
    cases own with
    | evaluateAndSettle input =>
      by_cases subject : id = input.settlementId
      · subst subject
        have here := receipted_evaluate contentHash digest input (held input.settlementId) settling
        simpa [ReceiptWorld.step, Tenant.put] using here
      · have there := held id
        simpa [ReceiptWorld.step, Tenant.put, Function.update_of_ne subject] using there
    | _ => exact others fun _ _ is => by cases is

/-- In a run whose evaluations settle where they issue, the receipts are those of the SETTLED
settlements. -/
theorem receipts_of_settled {ops : List WorldOp}
    (settling : Along (ReceiptWorld.step contentHash digest) (ReceiptWorld.Settling digest)
      ReceiptWorld.empty ops) (id : String) :
    Receipted ((run (ReceiptWorld.step contentHash digest) ReceiptWorld.empty ops).world.now.cases id)
      ((run (ReceiptWorld.step contentHash digest) ReceiptWorld.empty ops).receipts id) := by
  refine Along.invariant
    (I := fun w : ReceiptWorld => ∀ id, Receipted (w.world.now.cases id) (w.receipts id))
    (fun w op held allowed id => receipted_step contentHash digest w op held allowed id)
    (fun id => ⟨columnsKept_none rfl, ?_⟩) settling id
  simp [ReceiptWorld.empty, World.empty, Tenant.empty, Case.status]

/-- What a refusal leaves of the rows written before the settlement is asked to move. -/
structure CompanionRefusals (w : ReceiptWorld) (id : String) : Prop where
  begins : ∀ input : BeginInput, RefusalKeepsExactly Case.reconciliation
    (beginReconciliation input) (w.world.now.cases id) (input.begins (w.world.now.cases id) = true)
  issues : ∀ input : EvaluateInput, RefusalKeepsExactly ReceiptStore.receipt
    (Receipts.evaluateAndSettle contentHash digest input) (w.store id)
    ((w.store id).settles digest = true)

/-- In every state a run reaches, a refused beginning leaves no reconciliation and a refused
evaluation no receipt, exactly if they are answered before they write or the settlement can move;
and over the runs whose evaluations are of that kind the receipts are those of the SETTLED
settlements. -/
theorem companions_atomic (ops : List WorldOp) (settlementId : String) :
    CompanionRefusals contentHash digest
        (run (ReceiptWorld.step contentHash digest) ReceiptWorld.empty ops) settlementId ∧
      (Along (ReceiptWorld.step contentHash digest) (ReceiptWorld.Settling digest)
          ReceiptWorld.empty ops →
        (((run (ReceiptWorld.step contentHash digest) ReceiptWorld.empty ops).receipts
            settlementId).isSome = true ↔
          ((run (ReceiptWorld.step contentHash digest) ReceiptWorld.empty ops).world.now.cases
            settlementId).status = some .settled)) :=
  ⟨⟨fun input => beginReconciliation_refusals _ input,
      fun input => evaluateAndSettle_refusals _ input⟩,
    fun settling => (receipts_of_settled contentHash digest settling settlementId).settled⟩

end Runs

/-- From DRAWDOWN_CONFIRMED to a receipt without a settlement: the reconciliation begins while the
payout is on its way, and is not asked for again once it is credited. -/
def receiptedEarly : List WorldOp := funded ++ [
  dispatching,
  fresh (.beginReconciliation ⟨"s", rupees 1000, worker, 60, "reconciliation", 8⟩),
  reporting .credited 10,
  fresh (.applyObservation ⟨"s", .authoritativeStatusPull, some 1000, "INR", worker, 21⟩)]

def receiptedAfter (ops : List WorldOp) : ReceiptWorld :=
  run (ReceiptWorld.step (fun _ => "content") fun _ => "hash") ReceiptWorld.empty ops

def settling : EvaluateInput := ⟨"s", worker, ⟨"receipt", ""⟩, "evaluation", 22⟩

/-- The beginning is refused and its row stays; the receipt is issued for a settlement that is
PAYOUT_CONFIRMED. -/
theorem companions_left_behind :
    ¬RefusalKeeps Case.reconciliation
        (beginReconciliation ⟨"s", rupees 1000, worker, 60, "reconciliation", 8⟩)
        ((receiptedAfter (funded ++ [dispatching])).store "s").store.case ∧
      ¬RefusalKeeps ReceiptStore.receipt
        (Receipts.evaluateAndSettle (fun _ => "content") (fun _ => "hash") settling)
        ((receiptedAfter receiptedEarly).store "s") ∧
      ((receiptedAfter (receiptedEarly ++ [fresh (.evaluateAndSettle settling)])).receipts
          "s").isSome = true ∧
      ((receiptedAfter (receiptedEarly ++ [fresh (.evaluateAndSettle settling)])).world.now.cases
          "s").status = some .payoutConfirmed :=
  ⟨not_refusalKeeps (.transition (.invalidTransition .payoutSubmitted .beginReconciliation))
      (by decide +kernel) (by decide +kernel),
    not_refusalKeeps (.transition (.invalidTransition .payoutConfirmed .reconciledMatched))
      (by decide +kernel) (by decide +kernel),
    by decide +kernel, by decide +kernel⟩

end InrSettle
