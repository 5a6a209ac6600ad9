import InrSettle.System.BatchImports

/-!
# Counters of batches

The counters of a batch are those of one reading of its rows, and of the settlements of its rows at
that time.
-/

namespace InrSettle.Batch

open Run
open BatchCsv (RowResult)

variable {F : Type} [DecidableEq F] {digest : AuthorizedInstruction → String}
  {sha256 : List Char → F} {toLowerCase : List Char → List Char}

/-! ### One reading -/

variable (digest sha256 toLowerCase) in
/-- What was read of the rows of a batch at one time of the run. -/
def Reading (ops : List BatchOp) (batchId : Nat) (resolved : List ResolvedRow) : Prop :=
  ∃ earlier, earlier <+: ops ∧
    resolved = readRows (run (step digest sha256 toLowerCase) .empty earlier) batchId

variable (digest sha256 toLowerCase) in
/-- What a refresh is to write, and what the counters are, is of one reading. -/
structure Counting (ops : List BatchOp) (w : BatchWorld F) : Prop where
  tasks : ∀ (task batchId : Nat) closes resolved,
    w.tasks[task]? = some (.refreshing batchId closes resolved) →
      Reading digest sha256 toLowerCase ops batchId resolved
  batches : ∀ (batchId : Nat) batch, w.batches[batchId]? = some batch → batch.counts = {} ∨
    ∃ resolved, Reading digest sha256 toLowerCase ops batchId resolved ∧
      batch.counts = aggregate (resolved.map (·.counted)) "INR"

theorem Reading.append {ops : List BatchOp} {batchId : Nat} {resolved : List ResolvedRow}
    (reading : Reading digest sha256 toLowerCase ops batchId resolved) (op : BatchOp) :
    Reading digest sha256 toLowerCase (ops ++ [op]) batchId resolved := by
  obtain ⟨earlier, before, is⟩ := reading
  exact ⟨earlier, before.trans (List.prefix_append _ _), is⟩

/-- The task that a call begins. -/
inductive NewTask (w : BatchWorld F) : BatchOp → Task → Prop where
  | importBatchCsv {input : ImportInput} {batchId : Nat} {actor : PrincipalRef}
      {remaining : List RowResult} :
    NewTask w (.importBatchCsv input) (.importing batchId actor remaining)
  | refresh {batchId : Nat} : NewTask w (.refreshBatchAggregates batchId) (.refresh batchId false)
  | close {batchId : Nat} : batchId < w.batches.length →
    NewTask w (.closeBatch batchId) (.refresh batchId true)
  | authorize {batchId : Nat} : NewTask w (.authorizeBatch batchId) (.listing batchId)

omit [DecidableEq F] in
theorem task_added {w v : BatchWorld F} (same : v.tasks = w.tasks) {op : BatchOp} {new : Task}
    (isNew : NewTask w op new) {task : Nat} {at_ : Task}
    (found : (v.addTask new).tasks[task]? = some at_) :
    w.tasks[task]? = some at_ ∨ NewTask w op at_ := by
  rw [BatchWorld.addTask, same] at found
  rcases Table.getElem?_concat_some.mp found with there | ⟨-, rfl⟩
  · exact .inl there
  · exact .inr isNew

/-- A task was there, or has just begun, or has taken its turn. -/
theorem task_step {w : BatchWorld F} (kept : Kept w) {op : BatchOp} {task : Nat} {at_' : Task}
    (found : (step digest sha256 toLowerCase w op).tasks[task]? = some at_') :
    w.tasks[task]? = some at_' ∨ NewTask w op at_' ∨
      ∃ at_, w.tasks[task]? = some at_ ∧ NextTask w at_ at_' := by
  cases op with
  | settlement op => exact .inl found
  | setSource batchId => exact .inl found
  | importBatchCsv input =>
    rw [step] at found
    rcases importBatchCsv_cases input w with ⟨same, -⟩ | ⟨parsed, -, -, -, is⟩
    · rw [same] at found
      exact .inl found
    · rw [is] at found
      exact (task_added (w := w) rfl .importBatchCsv found).imp_right .inl
  | refreshBatchAggregates batchId =>
    rw [step] at found
    split at found
    · exact (task_added rfl .refresh found).imp_right .inl
    · exact .inl found
  | closeBatch batchId =>
    rw [step] at found
    split at found
    · rename_i lt
      exact (task_added rfl (.close lt) found).imp_right .inl
    · exact .inl found
  | authorizeBatch batchId =>
    rw [step] at found
    split at found
    · exact (task_added rfl .authorize found).imp_right .inl
    · exact .inl found
  | goOn task' given =>
    rw [step] at found
    split at found
    · exact .inl found
    · rename_i at_ there
      obtain ⟨next, tasks, moves⟩ := tasks_goOn digest kept there given
      rw [tasks, List.getElem?_set] at found
      split at found
      · rename_i same
        subst same
        split at found
        · cases found
          exact .inr (.inr ⟨at_, there, moves⟩)
        · cases found
      · exact .inl found

/-- A refresh that has read was there, or has just read. -/
theorem refreshing_step {w : BatchWorld F} (kept : Kept w) {op : BatchOp} {task batchId : Nat}
    {closes : Bool} {resolved : List ResolvedRow}
    (found : (step digest sha256 toLowerCase w op).tasks[task]? =
      some (.refreshing batchId closes resolved)) :
    w.tasks[task]? = some (.refreshing batchId closes resolved) ∨
      resolved = readRows w batchId := by
  rcases task_step kept found with there | new | ⟨at_, -, next⟩
  · exact .inl there
  · cases new
  · generalize isTask : Task.refreshing batchId closes resolved = at_' at next
    cases next with
    | read =>
      cases isTask
      exact .inr rfl
    | @decided id status trigger reached =>
      split at isTask <;> cases isTask
    | _ => cases isTask

theorem counting_run (ops : List BatchOp) : Counting digest sha256 toLowerCase ops
    (run (step digest sha256 toLowerCase) .empty ops) := by
  induction ops using List.reverseRecOn with
  | nil =>
    constructor
    · intro task batchId closes resolved found
      cases found
    · intro batchId batch found
      cases found
  | append_singleton ops op ih =>
    have kept : Kept (run (step digest sha256 toLowerCase) .empty ops) := kept_run ops
    have now : ∀ batchId, Reading digest sha256 toLowerCase (ops ++ [op]) batchId
        (readRows (run (step digest sha256 toLowerCase) .empty ops) batchId) :=
      fun batchId => ⟨ops, List.prefix_append _ _, rfl⟩
    rw [run_append, run_cons, run_nil]
    generalize run (step digest sha256 toLowerCase) .empty ops = w at ih kept now
    have later : ∀ {batchId : Nat} {batch : BatchRecord F}, w.batches[batchId]? = some batch →
        batch.counts = {} ∨ ∃ resolved,
          Reading digest sha256 toLowerCase (ops ++ [op]) batchId resolved ∧
            batch.counts = aggregate (resolved.map (·.counted)) "INR" := by
      intro batchId batch found
      refine (ih.batches batchId batch found).imp_right ?_
      rintro ⟨resolved, reading, is⟩
      exact ⟨resolved, reading.append op, is⟩
    constructor
    · intro task batchId closes resolved found
      rcases refreshing_step kept found with there | is
      · exact (ih.tasks task batchId closes resolved there).append op
      · rw [is]
        exact now batchId
    · have moves : BatchesMove sha256 toLowerCase w
          (step digest sha256 toLowerCase w op).batches := batchesMove_step digest kept op
      intro batchId batch found
      cases moves with
      | same is =>
        rw [is] at found
        exact later found
      | started imports is =>
        rw [is] at found
        rcases Table.getElem?_concat_some.mp found with there | ⟨-, rfl⟩
        · exact later there
        · exact .inl rfl
      | sourced is =>
        rw [is] at found
        obtain ⟨old, was, new⟩ := Table.getElem?_modify_some.mp found
        have counts : batch.counts = old.counts := by
          rw [new]
          split <;> rfl
        rw [counts]
        exact later was
      | @counted task id closes resolved at_ is =>
        rw [is] at found
        obtain ⟨old, was, new⟩ := Table.getElem?_modify_some.mp found
        split at new
        · rename_i same
          subst same
          rw [new]
          exact .inr ⟨resolved, (ih.tasks task id closes resolved at_).append op, rfl⟩
        · rw [new]
          exact later was
      | advanced there evaluated by_ is =>
        rw [is] at found
        obtain ⟨old, was, new⟩ := Table.getElem?_modify_some.mp found
        have counts : batch.counts = old.counts := by
          rw [new]
          split <;> rfl
        rw [counts]
        exact later was

/-! ### Rows over a run -/

/-- Settlements go on, and rows are added and outcomes written. -/
structure Forward (w w' : BatchWorld F) : Prop where
  later : Later w.settlements w'.settlements
  rows : Grown w.rows w'.rows

theorem Stands.trans {c c' c'' : Case} (first : Stands c c') (second : Stands c' c'') :
    Stands c c'' := by
  intro row found
  obtain ⟨row', found', same, ended⟩ := first row found
  obtain ⟨row'', found'', same', ended'⟩ := second row' found'
  refine ⟨row'', found'', same'.trans same, ?_⟩
  intro terminal
  have is := ended terminal
  subst is
  exact ended' terminal

namespace Forward

omit [DecidableEq F] in
theorem of_tables {w w' : BatchWorld F} (settlements : w'.settlements = w.settlements)
    (rows : w'.rows = w.rows) : Forward w w' := by
  refine ⟨?_, ?_⟩
  · rw [settlements]
    exact .refl _
  · rw [rows]
    exact List.prefix_rfl

omit [DecidableEq F] in
theorem trans {w w' w'' : BatchWorld F} (first : Forward w w') (second : Forward w' w'') :
    Forward w w'' :=
  ⟨fun id => (first.later id).trans (second.later id), first.rows.trans second.rows⟩

omit [DecidableEq F] in
theorem advance (batchId : Nat) (trigger : BatchTrigger) (now : Instant) (w : BatchWorld F) :
    Forward w ((advanceBatch batchId trigger now w).getD w) := by
  cases done : advanceBatch batchId trigger now w with
  | none => exact of_tables rfl rfl
  | some w' =>
    obtain ⟨batch, t, -, -, rfl⟩ := advanceBatch_some done
    exact of_tables rfl rfl

omit [DecidableEq F] in
theorem goOn {w : BatchWorld F} (kept : Kept w) {task : Nat} {at_ : Task}
    (found : w.tasks[task]? = some at_) (given : Given) :
    Forward w (goOn digest task given w at_) := by
  have held := kept.tasks at_ (List.mem_of_getElem? found)
  cases at_ with
  | importing batchId actor remaining =>
    cases remaining with
    | cons result remaining =>
      rw [Batch.goOn]
      cases done : importRow digest batchId actor given w result with
      | none => exact of_tables rfl rfl
      | some w' =>
        obtain ⟨s, row, rfl, adds⟩ := importRow_some kept.projected done
        exact ⟨adds.later, grown_insert w.rows row⟩
    | nil =>
      obtain ⟨later, rows⟩ := advance batchId .validated given.now w
      exact ⟨later, rows⟩
  | refreshing batchId closes resolved =>
    obtain ⟨rows, done, -, same⟩ := writeCounts_kept kept.rows held
    rw [Batch.goOn, done]
    dsimp only
    split
    · exact ⟨.refl _, grown_of_same same⟩
    · exact ⟨.refl _, grown_of_same same⟩
  | closing batchId status =>
    rw [Batch.goOn]
    split <;> exact of_tables rfl rfl
  | executing batchId trigger =>
    have advanced := advance batchId .beginExecution given.now w
    rw [Batch.goOn]
    cases done : advanceBatch batchId .beginExecution given.now w with
    | none => exact of_tables rfl rfl
    | some w' =>
      rw [done] at advanced
      exact ⟨advanced.later, advanced.rows⟩
  | finishing batchId trigger =>
    obtain ⟨later, rows⟩ := advance batchId trigger given.now w
    exact ⟨later, rows⟩
  | authorizing batchId eligible authorized =>
    cases eligible with
    | cons settlementId eligible =>
      rw [Batch.goOn]
      split
      · exact of_tables rfl rfl
      · exact ⟨later_step digest _ _, List.prefix_rfl⟩
    | nil =>
      obtain ⟨later, rows⟩ := advance batchId .beginExecution given.now w
      rw [Batch.goOn]
      split
      · exact ⟨later, rows⟩
      · exact of_tables rfl rfl
  | _ => exact of_tables rfl rfl

theorem step {w : BatchWorld F} (kept : Kept w) (op : BatchOp) :
    Forward w (step digest sha256 toLowerCase w op) := by
  cases op with
  | settlement op => exact ⟨later_step digest _ _, List.prefix_rfl⟩
  | importBatchCsv input =>
    rw [Batch.step]
    rcases importBatchCsv_cases input w with ⟨same, -⟩ | ⟨parsed, -, -, -, is⟩
    · rw [same]
      exact of_tables rfl rfl
    · rw [is]
      exact of_tables rfl rfl
  | setSource batchId => exact of_tables rfl rfl
  | refreshBatchAggregates batchId =>
    rw [Batch.step]
    split <;> exact of_tables rfl rfl
  | closeBatch batchId =>
    rw [Batch.step]
    split <;> exact of_tables rfl rfl
  | authorizeBatch batchId =>
    rw [Batch.step]
    split <;> exact of_tables rfl rfl
  | goOn task given =>
    rw [Batch.step]
    split
    · exact of_tables rfl rfl
    · rename_i at_ found
      exact .goOn kept found given

theorem run {w : BatchWorld F} (kept : Kept w) (ops : List BatchOp) :
    Forward w (run (Batch.step digest sha256 toLowerCase) w ops) := by
  induction ops generalizing w with
  | nil => exact of_tables rfl rfl
  | cons op rest ih => exact (Forward.step kept op).trans (ih (kept.step op))

end Forward

omit [DecidableEq F] in
/-- The rows of a batch are the first of those it has later. -/
theorem rowsOf_grown {w w' : BatchWorld F} (grown : Grown w.rows w'.rows) (batchId : Nat) :
    (w.rowsOf batchId).map plain <+: (w'.rowsOf batchId).map plain := by
  have filtered : ∀ rows : List BatchRow, (rows.filter fun row => row.batchId = batchId).map plain =
      (rows.map plain).filter fun row => row.batchId = batchId := by
    intro rows
    rw [List.filter_map]
    rfl
  rw [BatchWorld.rowsOf, BatchWorld.rowsOf, filtered, filtered]
  exact grown.filter _

theorem onward_run {w : BatchWorld F} (kept : Kept w) (ops : List BatchOp) :
    Onward w (run (step digest sha256 toLowerCase) w ops) := by
  induction ops generalizing w with
  | nil => exact fun batchId batch found => ⟨batch, found, rfl, le_rfl, fun _ => rfl⟩
  | cons op rest ih =>
    intro batchId batch found
    obtain ⟨next, found', file, rank, terminal⟩ := onward_step digest kept op batchId batch found
    obtain ⟨last, found'', file', rank', terminal'⟩ := ih (kept.step op) batchId next found'
    refine ⟨last, found'', file'.trans file, rank.trans rank', ?_⟩
    intro is
    rw [terminal' (by rw [terminal is]; exact is), terminal is]

/-! ### What the counters are -/

/-- The outcome that a refresh makes of a row. -/
def shownRow (w : World) (row : BatchRow) : BatchRowOutcome := (resolve w 0 row).counted.outcome

/-- The settlements and amounts of the rows of a batch. -/
structure Totals where
  rowCount : Nat
  validCount : Nat
  totalMinor : Int

def totalsOf (rows : List BatchRow) : Totals where
  rowCount := rows.length
  validCount := (rows.filter fun row => row.settlementId.isSome).length
  totalMinor := ((rows.filter fun row => row.settlementId.isSome).map (·.amountMinor.getD 0)).sum

/-- The counters of the rows, of what the settlements show. -/
structure CountsOf (v : BatchWorld F) (batchId : Nat) (counts : BatchAggregates) : Prop where
  totals : totalsOf (v.rowsOf batchId) = ⟨counts.rowCount, counts.validCount, counts.totalMinor⟩
  actionRequired : counts.actionRequiredCount =
    (v.rowsOf batchId).countP fun row => shownRow v.settlements row = .actionRequired
  settled : counts.settledCount =
    (v.rowsOf batchId).countP fun row => shownRow v.settlements row = .settled
  failed : counts.failedCount =
    (v.rowsOf batchId).countP fun row => shownRow v.settlements row = .failed

omit [DecidableEq F] in
theorem readRows_counted (v : BatchWorld F) (batchId : Nat) :
    (readRows v batchId).map (·.counted) =
      (v.rowsOf batchId).map fun row => (resolve v.settlements 0 row).counted := by
  have each : ∀ (rows : List BatchRow) (n : Nat),
      ((rows.zipIdx n).filter fun row => row.1.batchId = batchId).map
          (fun row => (resolve v.settlements row.2 row.1).counted) =
        (rows.filter fun row => row.batchId = batchId).map
          fun row => (resolve v.settlements 0 row).counted := by
    intro rows
    induction rows with
    | nil => exact fun _ => rfl
    | cons row rest ih =>
      intro n
      rw [List.zipIdx_cons, List.filter_cons, List.filter_cons]
      by_cases own : row.batchId = batchId
      · rw [if_pos (decide_eq_true own), if_pos (decide_eq_true own), List.map_cons, List.map_cons,
          ih]
        rfl
      · rw [if_neg (by simpa using own), if_neg (by simpa using own), ih]
  rw [readRows, List.map_map]
  exact each v.rows 0

omit [DecidableEq F] in
theorem countsOf_readRows {v : BatchWorld F} (kept : Kept v) (batchId : Nat) :
    CountsOf v batchId (aggregate ((readRows v batchId).map (·.counted)) "INR") := by
  have settlement : ∀ row ∈ v.rowsOf batchId,
      (shownRow v.settlements row = .invalid ↔ row.settlementId = none) := by
    intro row mem
    have inside := (List.mem_filter.mp mem).1
    obtain ⟨i, found⟩ := List.mem_iff_getElem?.mp inside
    obtain ⟨row', found', -, invalid, -⟩ :=
      (resolve_kept kept.projected found (kept.rows.kept row inside)).row
    rw [show (resolve v.settlements i row).id = i from rfl] at found'
    cases found.symm.trans found'
    exact invalid
  have counted : ∀ outcome, countOf outcome ((v.rowsOf batchId).map fun row =>
      (resolve v.settlements 0 row).counted) =
        (v.rowsOf batchId).countP fun row => shownRow v.settlements row = outcome := by
    intro outcome
    rw [countOf, List.countP_map]
    rfl
  have valid : ∀ row ∈ v.rowsOf batchId, decide (shownRow v.settlements row ≠ .invalid) =
      row.settlementId.isSome := by
    intro row mem
    rw [Bool.eq_iff_iff, decide_eq_true_iff, ne_eq, settlement row mem, Option.isSome_iff_ne_none]
  rw [readRows_counted, aggregate_eq, List.length_map]
  have total : totalOf ((v.rowsOf batchId).map fun row =>
      (resolve v.settlements 0 row).counted) = (totalsOf (v.rowsOf batchId)).totalMinor := by
    rw [totalOf, List.filter_map, List.map_map, totalsOf, ← List.filter_congr valid]
    rfl
  have count : (v.rowsOf batchId).length - countOf .invalid ((v.rowsOf batchId).map fun row =>
      (resolve v.settlements 0 row).counted) = (totalsOf (v.rowsOf batchId)).validCount := by
    have parts := List.length_eq_countP_add_countP
      (fun row => decide (shownRow v.settlements row = .invalid)) (l := v.rowsOf batchId)
    rw [counted, totalsOf, ← List.filter_congr valid, ← List.countP_eq_length_filter]
    simp only [decide_eq_true_eq, ne_eq] at parts ⊢
    omega
  refine ⟨?_, counted _, counted _, counted _⟩
  rw [total, count]
  rfl

theorem totalsOf_plain {rows rows' : List BatchRow} (same : rows'.map plain = rows.map plain) :
    totalsOf rows' = totalsOf rows := by
  have of_plain : ∀ rows : List BatchRow, totalsOf (rows.map plain) = totalsOf rows := by
    intro rows
    simp only [totalsOf, List.length_map, List.filter_map, List.map_map]
    rfl
  rw [← of_plain rows', same, of_plain]

/-- No row is added to a batch that is past VALIDATING. -/
theorem rows_stay {w : BatchWorld F} (kept : Kept w) {batchId : Nat} {batch : BatchRecord F}
    (found : w.batches[batchId]? = some batch) (past : batch.status ≠ .validating)
    (ops : List BatchOp) :
    ((run (step digest sha256 toLowerCase) w ops).rowsOf batchId).map plain =
      (w.rowsOf batchId).map plain := by
  have forward : Forward w (run (step digest sha256 toLowerCase) w ops) := .run kept ops
  have kept' : Kept (run (step digest sha256 toLowerCase) w ops) :=
    run_invariant (fun _ op kept => kept.step op) kept ops
  obtain ⟨batch', found', file, -⟩ : ∃ batch',
      (run (step digest sha256 toLowerCase) w ops).batches[batchId]? = some batch' ∧
        fileOf batch' = fileOf batch ∧ _ := onward_run kept ops batchId batch found
  have parsed : batch'.parsed = batch.parsed := congrArg FileColumns.parsed file
  have before : (w.rowsOf batchId).length = batch.parsed.length :=
    (kept.batches batchId batch found).whole past
  have after := (kept'.batches batchId batch' found').length_le
  refine ((rowsOf_grown forward.rows batchId).eq_of_length_le ?_).symm
  rw [List.length_map, List.length_map, before, ← parsed]
  exact after

theorem countOf_le (rows : List Counted) :
    countOf .actionRequired rows + countOf .settled rows + countOf .failed rows +
      countOf .invalid rows ≤ rows.length := by
  induction rows with
  | nil => exact le_rfl
  | cons row rest ih =>
    obtain ⟨outcome, amount⟩ := row
    cases outcome <;> simp [countOf] at ih ⊢ <;> omega

variable (digest sha256 toLowerCase) in
/-- The counters of a batch are those of an earlier time: of all the rows that it had then, and of
what their settlements showed then; they are those of every later time where the batch was past
VALIDATING. -/
structure CountedAt (earlier ops : List BatchOp) (batchId : Nat) (batch : BatchRecord F) :
    Prop where
  counts : CountsOf (run (step digest sha256 toLowerCase) .empty earlier) batchId batch.counts
  parts : batch.counts.actionRequiredCount + batch.counts.settledCount +
    batch.counts.failedCount ≤ batch.counts.validCount
  valid : batch.counts.validCount ≤ batch.counts.rowCount
  rows : batch.counts.rowCount ≤ batch.parsed.length
  lasting : ∀ before,
    (run (step digest sha256 toLowerCase) .empty earlier).batches[batchId]? = some before →
    before.status ≠ .validating → batch.counts.rowCount = batch.parsed.length ∧
      totalsOf ((run (step digest sha256 toLowerCase) .empty ops).rowsOf batchId) =
        ⟨batch.counts.rowCount, batch.counts.validCount, batch.counts.totalMinor⟩

omit [DecidableEq F] in
theorem CountsOf.rowCount {v : BatchWorld F} {batchId : Nat} {counts : BatchAggregates}
    (countsOf : CountsOf v batchId counts) : counts.rowCount = (v.rowsOf batchId).length :=
  (congrArg Totals.rowCount countsOf.totals).symm

theorem countedAt_reading {earlier later : List BatchOp} {batchId : Nat} {batch : BatchRecord F}
    (found : (run (step digest sha256 toLowerCase) .empty (earlier ++ later)).batches[batchId]? =
      some batch)
    (counts : batch.counts = aggregate
      ((readRows (run (step digest sha256 toLowerCase) .empty earlier) batchId).map (·.counted))
      "INR") :
    CountedAt digest sha256 toLowerCase earlier (earlier ++ later) batchId batch := by
  have kept : Kept (run (step digest sha256 toLowerCase) .empty earlier) := kept_run earlier
  have kept' : Kept (run (step digest sha256 toLowerCase) .empty (earlier ++ later)) := kept_run _
  have countsOf := countsOf_readRows kept batchId
  have forward : Forward (run (step digest sha256 toLowerCase) .empty earlier)
      (run (step digest sha256 toLowerCase) .empty (earlier ++ later)) := by
    rw [run_append]
    exact .run kept later
  rw [← counts] at countsOf
  refine ⟨countsOf, ?_, ?_, ?_, ?_⟩
  · rw [counts, aggregate_eq]
    have parts := countOf_le ((readRows (run (step digest sha256 toLowerCase) .empty earlier)
      batchId).map (·.counted))
    exact Nat.le_sub_of_add_le parts
  · rw [counts, aggregate_eq]
    exact Nat.sub_le _ _
  · have rows := (rowsOf_grown forward.rows batchId).length_le
    rw [List.length_map, List.length_map, ← countsOf.rowCount] at rows
    exact rows.trans (kept'.batches batchId batch found).length_le
  · intro before isBefore past
    have stays : ((run (step digest sha256 toLowerCase) .empty
        (earlier ++ later)).rowsOf batchId).map plain =
          ((run (step digest sha256 toLowerCase) .empty earlier).rowsOf batchId).map plain := by
      rw [run_append]
      exact rows_stay kept isBefore past later
    obtain ⟨batch', isBatch', file, -⟩ : ∃ batch',
        (run (step digest sha256 toLowerCase) .empty (earlier ++ later)).batches[batchId]? =
          some batch' ∧ fileOf batch' = fileOf before ∧ _ := by
      rw [run_append]
      exact onward_run kept later batchId before isBefore
    cases found.symm.trans isBatch'
    have parsed : batch.parsed = before.parsed := congrArg FileColumns.parsed file
    refine ⟨?_, (totalsOf_plain stays).trans countsOf.totals⟩
    rw [parsed, countsOf.rowCount]
    exact (kept.batches batchId before isBefore).whole past

/-- In every run, whatever is interleaved with the reading and the writing of a refresh, the
counters of a batch are those of one time. -/
theorem counters_of_one_time {ops : List BatchOp} {batchId : Nat} {batch : BatchRecord F}
    (found : (run (step digest sha256 toLowerCase) .empty ops).batches[batchId]? = some batch) :
    batch.counts = {} ∨ ∃ earlier, earlier <+: ops ∧
      CountedAt digest sha256 toLowerCase earlier ops batchId batch := by
  rcases (counting_run ops).batches batchId batch found with none_ | ⟨resolved, reading, counts⟩
  · exact .inl none_
  · obtain ⟨earlier, ⟨later, rfl⟩, rfl⟩ := reading
    exact .inr ⟨earlier, List.prefix_append _ _, countedAt_reading found counts⟩

/-- The sample is imported, and refreshed. -/
def sampleRefreshed : List BatchOp :=
  [.importBatchCsv sampleImport, .goOn 0 {}, .goOn 0 {}, .goOn 0 {}, .goOn 0 {}]

theorem counts_sample : (sampleRun sampleRefreshed).batches[0]?.map (·.counts) =
    some { rowCount := 1, validCount := 1, totalMinor := 1200 } := by
  decide +kernel

theorem counters_of_one_time_sample : ∃ batch, (sampleRun sampleRefreshed).batches[0]? =
    some batch ∧ ∃ earlier, earlier <+: sampleRefreshed ∧
      CountedAt (fun _ => "") id id earlier sampleRefreshed 0 batch := by
  obtain ⟨batch, found, counts⟩ := Option.map_eq_some_iff.mp counts_sample
  refine ⟨batch, found, (counters_of_one_time found).resolve_left ?_⟩
  rw [counts]
  decide

end InrSettle.Batch
