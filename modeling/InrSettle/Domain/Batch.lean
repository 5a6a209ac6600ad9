import InrSettle.Domain.Exceptions
import InrSettle.Library.Machine

/-!
# Batches

The machine B01–B05 of the container, what a row of it has come to, and the counters and the last
status that are derived from the rows.
-/

namespace InrSettle.Batch

/-! ### The machine -/

inductive BatchStatus where
  | draft | validating | ready | executing | completed | partiallyCompleted
  deriving DecidableEq, Repr

inductive BatchSource where
  | csv | api
  deriving DecidableEq, Repr

inductive BatchTrigger where
  | beginValidation | validated | beginExecution | allRowsResolved | someRowsUnresolved
  deriving DecidableEq, Repr

inductive BatchTransitionId where
  | b01 | b02 | b03 | b04 | b05
  deriving DecidableEq, Repr

structure BatchTransition where
  id : BatchTransitionId
  source : List BatchStatus
  trigger : BatchTrigger
  target : BatchStatus
  customerEvent : Option String := none
  deriving DecidableEq, Repr

open BatchStatus in
/-- `BATCH_TRANSITIONS`. -/
def batchMachine : Machine BatchStatus BatchTrigger BatchTransition where
  rows := [
    { id := .b01, source := [], trigger := .beginValidation, target := validating },
    { id := .b02, source := [validating], trigger := .validated, target := ready,
      customerEvent := some "batch.validated" },
    { id := .b03, source := [ready], trigger := .beginExecution, target := executing },
    { id := .b04, source := [executing], trigger := .allRowsResolved, target := completed,
      customerEvent := some "batch.completed" },
    { id := .b05, source := [executing], trigger := .someRowsUnresolved,
      target := partiallyCompleted, customerEvent := some "batch.partially_completed" }]
  source := (·.source)
  trigger := (·.trigger)
  target := (·.target)

def evaluateBatchTransition (source : Option BatchStatus) (trigger : BatchTrigger) :
    Option BatchTransition :=
  batchMachine.evaluate source trigger

/-- `isTerminalBatchStatus`. -/
def BatchStatus.isTerminal : BatchStatus → Bool
  | completed | partiallyCompleted => true
  | _ => false

/-- The steps a batch has taken; the two ends are as far. -/
def BatchStatus.rank : BatchStatus → Nat
  | draft => 0 | validating => 1 | ready => 2 | executing => 3
  | completed | partiallyCompleted => 4

theorem final_iff (status : BatchStatus) :
    batchMachine.Final status ↔ status.isTerminal = true ∨ status = .draft := by
  cases status <;> decide

/-- A transition is one step on, and the two ends are told apart by the trigger. -/
theorem evaluateBatchTransition_some {status : BatchStatus} {trigger : BatchTrigger}
    {t : BatchTransition} (found : evaluateBatchTransition (some status) trigger = some t) :
    t.target.rank = status.rank + 1 ∧
      (t.target = .ready ↔ trigger = .validated) ∧
      (t.target = .completed ↔ trigger = .allRowsResolved) ∧
      (t.target = .partiallyCompleted ↔ trigger = .someRowsUnresolved) := by
  revert found
  cases status <;> cases trigger <;> rintro ⟨⟩ <;> decide

/-! ### Rows -/

inductive BatchRowOutcome where
  | invalid | accepted | actionRequired | settled | failed | cancelled
  deriving DecidableEq, Repr

def rowOutcomeFromCustomerStatus (customerStatus : Option CustomerStatus)
    (settlementStatus : Option SettlementStatus) : BatchRowOutcome :=
  if settlementStatus = some .failed then .failed
  else match customerStatus with
  | some .settled => .settled
  | some .actionRequired => .actionRequired
  | some .cancelled => .cancelled
  | some .ready | some .settling => .accepted
  | none => if settlementStatus = none then .invalid else .accepted

/-- `isResolvedOutcome`. -/
def BatchRowOutcome.isResolved : BatchRowOutcome → Bool
  | settled | failed | cancelled | invalid => true
  | _ => false

def BatchRowOutcome.needsAttention : BatchRowOutcome → Bool
  | invalid | actionRequired => true
  | _ => false

/-- A settlement that shows what its customer is to see is never an invalid row, and the row is
resolved exactly if the settlement has ended. -/
theorem rowOutcome_of_settlement (status : SettlementStatus) (code : Option ExceptionCode) :
    rowOutcomeFromCustomerStatus (customerStatusColumn status code) (some status) ≠ .invalid ∧
      ((rowOutcomeFromCustomerStatus (customerStatusColumn status code)
        (some status)).isResolved = true ↔ status.isTerminal = true) := by
  cases status with
  | exception =>
    rw [customerStatusColumn]
    split <;> decide
  | _ =>
    simp [rowOutcomeFromCustomerStatus, customerStatusColumn, BatchRowOutcome.isResolved,
      SettlementStatus.isTerminal]

/-! ### Aggregates -/

structure BatchAggregates where
  rowCount : Nat := 0
  validCount : Nat := 0
  actionRequiredCount : Nat := 0
  settledCount : Nat := 0
  failedCount : Nat := 0
  totalMinor : Int := 0
  totalCurrency : String := "INR"
  deriving DecidableEq, Repr

/-- The columns of a row that the counters are derived from. -/
structure Counted where
  outcome : BatchRowOutcome
  amountMinor : Option Int
  deriving DecidableEq, Repr

/-- One turn of the loop of `aggregate`. -/
def countRow (counts : BatchAggregates) (row : Counted) : BatchAggregates :=
  if row.outcome = .invalid then counts
  else { counts with
    validCount := counts.validCount + 1
    actionRequiredCount :=
      counts.actionRequiredCount + if row.outcome = .actionRequired then 1 else 0
    settledCount := counts.settledCount + if row.outcome = .settled then 1 else 0
    failedCount := counts.failedCount + if row.outcome = .failed then 1 else 0
    totalMinor := counts.totalMinor + row.amountMinor.getD 0 }

def aggregate (rows : List Counted) (currency : String) : BatchAggregates :=
  { rows.foldl countRow {} with rowCount := rows.length, totalCurrency := currency }

/-- How many rows have the outcome. -/
def countOf (outcome : BatchRowOutcome) (rows : List Counted) : Nat :=
  rows.countP fun row => row.outcome = outcome

/-- The amounts of the rows that became settlements. -/
def totalOf (rows : List Counted) : Int :=
  ((rows.filter fun row => row.outcome ≠ .invalid).map (·.amountMinor.getD 0)).sum

theorem foldl_countRow (rows : List Counted) (counts : BatchAggregates) :
    rows.foldl countRow counts = { counts with
      validCount := counts.validCount + (rows.length - countOf .invalid rows)
      actionRequiredCount := counts.actionRequiredCount + countOf .actionRequired rows
      settledCount := counts.settledCount + countOf .settled rows
      failedCount := counts.failedCount + countOf .failed rows
      totalMinor := counts.totalMinor + totalOf rows } := by
  induction rows generalizing counts with
  | nil => simp [countOf, totalOf]
  | cons row rest ih =>
    have fewer : countOf .invalid rest ≤ rest.length := List.countP_le_length
    rw [List.foldl_cons, ih]
    obtain ⟨outcome, amount⟩ := row
    cases outcome <;> simp [countRow, countOf, totalOf] at fewer ⊢ <;> omega

/-- The counters, one by one. -/
theorem aggregate_eq (rows : List Counted) (currency : String) : aggregate rows currency = {
    rowCount := rows.length
    validCount := rows.length - countOf .invalid rows
    actionRequiredCount := countOf .actionRequired rows
    settledCount := countOf .settled rows
    failedCount := countOf .failed rows
    totalMinor := totalOf rows
    totalCurrency := currency } := by
  rw [aggregate, foldl_countRow]
  simp

theorem totalOf_nonneg {rows : List Counted}
    (amounts : ∀ row ∈ rows, ∀ amount, row.amountMinor = some amount → 0 ≤ amount) :
    0 ≤ totalOf rows := by
  apply List.sum_nonneg
  intro amount mem
  obtain ⟨row, inside, rfl⟩ := List.mem_map.mp mem
  cases is : row.amountMinor with
  | none => exact le_rfl
  | some amount => exact amounts row (List.mem_filter.mp inside).1 amount is

/-- `terminalOutcome`: the trigger of the batch's last transition. -/
def terminalOutcome (outcomes : List BatchRowOutcome) : Option BatchTrigger :=
  if outcomes = [] then none
  else if outcomes.any fun outcome => !outcome.isResolved then none
  else if outcomes.any (·.needsAttention) then some .someRowsUnresolved
  else some .allRowsResolved

theorem terminalOutcome_some {outcomes : List BatchRowOutcome} {trigger : BatchTrigger}
    (reached : terminalOutcome outcomes = some trigger) :
    outcomes ≠ [] ∧ (∀ outcome ∈ outcomes, outcome.isResolved = true) ∧
      (trigger = .allRowsResolved ∧ .invalid ∉ outcomes ∨
        trigger = .someRowsUnresolved ∧ .invalid ∈ outcomes) := by
  unfold terminalOutcome at reached
  split at reached
  · cases reached
  rename_i nonempty
  split at reached
  · cases reached
  rename_i resolved
  have all : ∀ outcome ∈ outcomes, outcome.isResolved = true := by simpa using resolved
  -- An outcome that is resolved and needs attention is INVALID.
  have attention : ∀ outcome ∈ outcomes, outcome.needsAttention = true ↔ outcome = .invalid := by
    intro outcome mem
    have is := all outcome mem
    cases outcome <;> first | decide | cases is
  refine ⟨nonempty, all, ?_⟩
  split at reached
  · rename_i some_
    obtain ⟨outcome, mem, needs⟩ := List.any_eq_true.mp some_
    cases (attention outcome mem).mp needs
    exact .inr ⟨(Option.some.inj reached).symm, mem⟩
  · rename_i none_
    refine .inl ⟨(Option.some.inj reached).symm, ?_⟩
    intro mem
    exact none_ (List.any_eq_true.mpr ⟨_, mem, rfl⟩)

end InrSettle.Batch
