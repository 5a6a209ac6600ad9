import InrSettle.System.BatchCounts

/-!
# Ends of batches

A batch is closed in several transactions, on what the first of them read. Where a batch is closed
only after its import, one that has come to its end has every row of its file, and every settlement
of its rows has ended.
-/

namespace InrSettle.Batch

open Run
open BatchCsv (RowResult)

variable {F : Type} [DecidableEq F] {digest : AuthorizedInstruction → String}
  {sha256 : List Char → F} {toLowerCase : List Char → List Char}

/-! ### What an end says -/

/-- The settlements of the rows of a batch, none for an invalid row. -/
def settlementsOf (w : BatchWorld F) (batchId : Nat) : List (Option String) :=
  (w.rowsOf batchId).map (·.settlementId)

/-- Each settlement of a row has ended. -/
def AllEnded (w : BatchWorld F) (batchId : Nat) : Prop :=
  ∀ id, some id ∈ settlementsOf w batchId →
    ∃ s, (w.settlements.now.cases id).settlement = some s ∧ s.status.isTerminal = true

/-- What the trigger of the last transition says of the rows. -/
structure Ended (w : BatchWorld F) (batchId : Nat) (trigger : BatchTrigger) : Prop where
  settled : AllEnded w batchId
  allRowsResolved : trigger = .allRowsResolved → none ∉ settlementsOf w batchId
  someRowsUnresolved : trigger = .someRowsUnresolved → none ∈ settlementsOf w batchId

def PastValidating (w : BatchWorld F) (batchId : Nat) : Prop :=
  ∃ batch, w.batches[batchId]? = some batch ∧ batch.status ≠ .validating

omit [DecidableEq F] in
theorem settlementsOf_plain {w w' : BatchWorld F} {batchId : Nat}
    (same : (w'.rowsOf batchId).map plain = (w.rowsOf batchId).map plain) :
    settlementsOf w' batchId = settlementsOf w batchId := by
  have columns := congrArg (List.map fun row : BatchRow => row.settlementId) same
  rw [List.map_map, List.map_map] at columns
  exact columns

omit [DecidableEq F] in
theorem AllEnded.later {w w' : BatchWorld F} {batchId : Nat} (ended : AllEnded w batchId)
    (later : Later w.settlements w'.settlements)
    (same : settlementsOf w' batchId = settlementsOf w batchId) : AllEnded w' batchId := by
  intro id mem
  rw [same] at mem
  obtain ⟨s, found, terminal⟩ := ended id mem
  obtain ⟨s', found', -, is⟩ := later id s found
  cases is terminal
  exact ⟨s, found', terminal⟩

omit [DecidableEq F] in
theorem Ended.later {w w' : BatchWorld F} {batchId : Nat} {trigger : BatchTrigger}
    (ended : Ended w batchId trigger) (later : Later w.settlements w'.settlements)
    (same : settlementsOf w' batchId = settlementsOf w batchId) : Ended w' batchId trigger := by
  refine ⟨ended.settled.later later same, ?_, ?_⟩
  · rw [same]
    exact ended.allRowsResolved
  · rw [same]
    exact ended.someRowsUnresolved

theorem settlementsOf_run {w : BatchWorld F} (kept : Kept w) {batchId : Nat}
    (past : PastValidating w batchId) (ops : List BatchOp) :
    settlementsOf (run (step digest sha256 toLowerCase) w ops) batchId =
      settlementsOf w batchId := by
  obtain ⟨batch, found, other⟩ := past
  exact settlementsOf_plain (rows_stay kept found other ops)

/-- What an end says stays true, whatever follows. -/
theorem Ended.run {w : BatchWorld F} {batchId : Nat} {trigger : BatchTrigger}
    (ended : Ended w batchId trigger) (kept : Kept w) (past : PastValidating w batchId)
    (ops : List BatchOp) :
    Ended (run (step digest sha256 toLowerCase) w ops) batchId trigger :=
  ended.later (Forward.run kept ops).later (settlementsOf_run kept past ops)

theorem Ended.step {w : BatchWorld F} {batchId : Nat} {trigger : BatchTrigger}
    (ended : Ended w batchId trigger) (kept : Kept w) (past : PastValidating w batchId)
    (op : BatchOp) : Ended (step digest sha256 toLowerCase w op) batchId trigger :=
  ended.run kept past [op]

theorem PastValidating.step {w : BatchWorld F} {batchId : Nat} (past : PastValidating w batchId)
    (kept : Kept w) (op : BatchOp) :
    PastValidating (step digest sha256 toLowerCase w op) batchId := by
  obtain ⟨batch, found, other⟩ := past
  exact past_validating kept found other [op]

omit [DecidableEq F] in
/-- The rows are read, and the trigger is decided of their outcomes. -/
theorem ended_of_outcomes {w : BatchWorld F} (kept : Kept w) {batchId : Nat}
    {trigger : BatchTrigger}
    (reached : terminalOutcome ((w.rowsOf batchId).map (·.outcome)) = some trigger) :
    Ended w batchId trigger := by
  obtain ⟨-, resolved, which⟩ := terminalOutcome_some reached
  have invalid : ∀ row ∈ w.rowsOf batchId, row.outcome = .invalid ↔ row.settlementId = none := by
    intro row mem
    have checks := (kept.rows.kept row (List.mem_filter.mp mem).1).checks.outcome
    rcases checks with ⟨is, none_, -⟩ | ⟨other, some_⟩
    · exact ⟨fun _ => none_, fun _ => is⟩
    · exact ⟨fun is => (other is).elim, fun is => (some_ is).elim⟩
  have none_iff : none ∈ settlementsOf w batchId ↔
      .invalid ∈ (w.rowsOf batchId).map (·.outcome) := by
    rw [settlementsOf, List.mem_map, List.mem_map]
    constructor
    · rintro ⟨row, mem, is⟩
      exact ⟨row, mem, (invalid row mem).mpr is⟩
    · rintro ⟨row, mem, is⟩
      exact ⟨row, mem, (invalid row mem).mp is⟩
  refine ⟨?_, ?_, ?_⟩
  · intro id mem
    obtain ⟨row, inside, is⟩ := List.mem_map.mp mem
    obtain ⟨s, found, ended⟩ :=
      (kept.rows.kept row (List.mem_filter.mp inside).1).backed id is
    exact ⟨s, found, (ended (resolved _ (List.mem_map_of_mem inside))).1⟩
  · rintro rfl
    rw [none_iff]
    rcases which with ⟨-, none_⟩ | ⟨other, -⟩
    · exact none_
    · cases other
  · rintro rfl
    rw [none_iff]
    rcases which with ⟨other, -⟩ | ⟨-, some_⟩
    · cases other
    · exact some_

/-! ### Closing -/

/-- Only a batch whose import is through is closed. -/
def ClosesImported (w : BatchWorld F) : BatchOp → Prop
  | .closeBatch batchId => w.batches[batchId]?.map (·.status) ≠ some .validating
  | _ => True

instance (w : BatchWorld F) (op : BatchOp) : Decidable (ClosesImported w op) := by
  cases op <;> unfold ClosesImported <;> infer_instance

/-- What a call that closes a batch may rely on. -/
def TaskEnds (w : BatchWorld F) : Task → Prop
  | .refresh batchId true | .refreshing batchId true _ | .closing batchId _ =>
    PastValidating w batchId
  | .executing batchId trigger | .finishing batchId trigger =>
    PastValidating w batchId ∧ Ended w batchId trigger
  | _ => True

/-- Every batch at its end is as the trigger said, and every call that closes one goes on so. -/
structure Ends (w : BatchWorld F) : Prop where
  kept : Kept w
  tasks : ∀ (task : Nat) at_, w.tasks[task]? = some at_ → TaskEnds w at_
  completed : ∀ (batchId : Nat) batch, w.batches[batchId]? = some batch →
    batch.status = .completed → Ended w batchId .allRowsResolved
  partiallyCompleted : ∀ (batchId : Nat) batch, w.batches[batchId]? = some batch →
    batch.status = .partiallyCompleted → Ended w batchId .someRowsUnresolved

theorem TaskEnds.step {w : BatchWorld F} {at_ : Task} (ends : TaskEnds w at_) (kept : Kept w)
    (op : BatchOp) : TaskEnds (step digest sha256 toLowerCase w op) at_ := by
  cases at_ with
  | refresh batchId closes =>
    cases closes with
    | true => exact PastValidating.step ends kept op
    | false => trivial
  | refreshing batchId closes resolved =>
    cases closes with
    | true => exact PastValidating.step ends kept op
    | false => trivial
  | closing batchId status => exact PastValidating.step ends kept op
  | executing batchId trigger => exact ⟨ends.1.step kept op, ends.2.step kept ends.1 op⟩
  | finishing batchId trigger => exact ⟨ends.1.step kept op, ends.2.step kept ends.1 op⟩
  | _ => trivial

omit [DecidableEq F] in
theorem taskEnds_next {w : BatchWorld F} (kept : Kept w) {at_ at_' : Task}
    (next : NextTask w at_ at_') (ends : TaskEnds w at_) : TaskEnds w at_' := by
  cases next with
  | @read batchId closes =>
    cases closes with
    | true => exact ends
    | false => trivial
  | counted found => exact ends
  | @decided batchId status trigger reached =>
    have ended := ended_of_outcomes kept reached
    split
    · exact ⟨ends, ended⟩
    · exact ⟨ends, ended⟩
  | executed => exact ends
  | _ => trivial

omit [DecidableEq F] in
theorem taskEnds_new {w : BatchWorld F} {op : BatchOp} {new : Task} (isNew : NewTask w op new)
    (closes : ClosesImported w op) : TaskEnds w new := by
  cases isNew with
  | @close batchId there =>
    refine ⟨w.batches[batchId], List.getElem?_eq_getElem there, ?_⟩
    intro is
    apply closes
    rw [List.getElem?_eq_getElem there, Option.map_some, is]
  | _ => trivial

theorem taskEnds_step {w : BatchWorld F} (ends : Ends w) {op : BatchOp}
    (closes : ClosesImported w op) {task : Nat} {at_ : Task}
    (found : (step digest sha256 toLowerCase w op).tasks[task]? = some at_) :
    TaskEnds (step digest sha256 toLowerCase w op) at_ := by
  have before : TaskEnds w at_ := by
    rcases task_step ends.kept found with there | new | ⟨at_₀, there, next⟩
    · exact ends.tasks task at_ there
    · exact taskEnds_new new closes
    · exact taskEnds_next ends.kept next (ends.tasks task at_₀ there)
  exact before.step ends.kept op

/-- A batch comes to an end only by the trigger that a closing call has decided. -/
theorem ended_step {w : BatchWorld F} (ends : Ends w) (op : BatchOp) {status : BatchStatus}
    {trigger : BatchTrigger}
    (isEnd : status = .completed ∧ trigger = .allRowsResolved ∨
      status = .partiallyCompleted ∧ trigger = .someRowsUnresolved)
    (before : ∀ (batchId : Nat) batch, w.batches[batchId]? = some batch →
      batch.status = status → Ended w batchId trigger)
    {batchId : Nat} {batch : BatchRecord F}
    (found : (step digest sha256 toLowerCase w op).batches[batchId]? = some batch)
    (is : batch.status = status) :
    Ended (step digest sha256 toLowerCase w op) batchId trigger := by
  have past : ∀ old, w.batches[batchId]? = some old → old.status = status →
      PastValidating w batchId := by
    rintro old was rfl
    refine ⟨old, was, ?_⟩
    rcases isEnd with ⟨is, -⟩ | ⟨is, -⟩ <;> rw [is] <;> decide
  have stays : ∀ old, w.batches[batchId]? = some old → old.status = status →
      Ended (step digest sha256 toLowerCase w op) batchId trigger :=
    fun old was isOld => (before batchId old was isOld).step ends.kept (past old was isOld) op
  have moves : BatchesMove sha256 toLowerCase w (step digest sha256 toLowerCase w op).batches :=
    batchesMove_step digest ends.kept op
  cases moves with
  | same eq =>
    rw [eq] at found
    exact stays batch found is
  | started imports eq =>
    rw [eq] at found
    rcases Table.getElem?_concat_some.mp found with there | ⟨-, rfl⟩
    · exact stays batch there is
    · rcases isEnd with ⟨isEnd, -⟩ | ⟨isEnd, -⟩ <;> rw [isEnd] at is <;> cases is
  | sourced eq =>
    rw [eq] at found
    obtain ⟨old, was, new⟩ := Table.getElem?_modify_some.mp found
    refine stays old was ?_
    rw [← is, new]
    split <;> rfl
  | counted at_ eq =>
    rw [eq] at found
    obtain ⟨old, was, new⟩ := Table.getElem?_modify_some.mp found
    refine stays old was ?_
    rw [← is, new]
    split <;> rfl
  | @advanced id by_ now old₀ t there evaluated cause eq =>
    rw [eq] at found
    obtain ⟨old, was, new⟩ := Table.getElem?_modify_some.mp found
    split at new
    · rename_i same
      subst same
      have target : t.target = status := by
        rw [← is, new]
        rfl
      obtain ⟨-, -, completed, partly⟩ := evaluateBatchTransition_some evaluated
      have isTrigger : by_ = trigger := by
        rcases isEnd with ⟨isStatus, isTrigger⟩ | ⟨isStatus, isTrigger⟩
        · exact (completed.mp (target.trans isStatus)).trans isTrigger.symm
        · exact (partly.mp (target.trans isStatus)).trans isTrigger.symm
      subst isTrigger
      rcases cause with other | other | ⟨task, at_⟩
      · rcases isEnd with ⟨-, isTrigger⟩ | ⟨-, isTrigger⟩ <;> rw [other] at isTrigger <;>
          cases isTrigger
      · rcases isEnd with ⟨-, isTrigger⟩ | ⟨-, isTrigger⟩ <;> rw [other] at isTrigger <;>
          cases isTrigger
      · obtain ⟨past', ended⟩ : PastValidating w id ∧ Ended w id by_ :=
          ends.tasks task _ at_
        exact ended.step ends.kept past' op
    · refine stays old was ?_
      rw [← is, new]

theorem Ends.step {w : BatchWorld F} (ends : Ends w) (op : BatchOp)
    (closes : ClosesImported w op) : Ends (step digest sha256 toLowerCase w op) where
  kept := ends.kept.step op
  tasks _ _ found := taskEnds_step ends closes found
  completed _ _ found is := ended_step ends op (.inl ⟨rfl, rfl⟩) ends.completed found is
  partiallyCompleted _ _ found is :=
    ended_step ends op (.inr ⟨rfl, rfl⟩) ends.partiallyCompleted found is

omit [DecidableEq F] in
theorem ends_empty : Ends (.empty : BatchWorld F) where
  kept := kept_empty
  tasks _ _ found := by cases found
  completed _ _ found := by cases found
  partiallyCompleted _ _ found := by cases found

theorem ends_run {ops : List BatchOp}
    (closes : Along (step digest sha256 toLowerCase) ClosesImported .empty ops) :
    Ends (run (step digest sha256 toLowerCase) .empty ops) :=
  closes.invariant (fun _ op ends closes => ends.step op closes) ends_empty

/-- What the end of a batch says of its rows. -/
structure BatchEnded (w : BatchWorld F) (batchId : Nat) (batch : BatchRecord F) : Prop where
  recorded : List.Forall₂ (Records w.settlements) batch.parsed (w.rowsOf batchId)
  settled : AllEnded w batchId
  status : batch.status =
    if none ∈ settlementsOf w batchId then .partiallyCompleted else .completed

/-- Where only batches whose import is through are closed, a batch at its end has every row of its
file, every settlement of a row has ended, and the batch is COMPLETED exactly if no row is invalid;
and so it stays, whatever follows. -/
theorem batch_ends {ops : List BatchOp}
    (closes : Along (step digest sha256 toLowerCase) ClosesImported .empty ops) {batchId : Nat}
    {batch : BatchRecord F}
    (found : (run (step digest sha256 toLowerCase) .empty ops).batches[batchId]? = some batch)
    (terminal : batch.status.isTerminal = true) (more : List BatchOp) : ∃ batch',
      (run (step digest sha256 toLowerCase) .empty (ops ++ more)).batches[batchId]? =
        some batch' ∧ batch'.status = batch.status ∧
      BatchEnded (run (step digest sha256 toLowerCase) .empty (ops ++ more)) batchId batch' := by
  have ends : Ends (run (step digest sha256 toLowerCase) .empty ops) := ends_run closes
  have kept : Kept (run (step digest sha256 toLowerCase) .empty (ops ++ more)) := kept_run _
  rw [run_append] at kept ⊢
  have past : PastValidating (run (step digest sha256 toLowerCase) .empty ops) batchId := by
    refine ⟨batch, found, ?_⟩
    intro is
    rw [is] at terminal
    cases terminal
  obtain ⟨batch', found', -, -, same⟩ := onward_run ends.kept more batchId batch found
  have status : batch'.status = batch.status := same terminal
  obtain ⟨trigger, ended, is⟩ : ∃ trigger,
      Ended (run (step digest sha256 toLowerCase) .empty ops) batchId trigger ∧
        (trigger = .allRowsResolved ∧ batch.status = .completed ∨
          trigger = .someRowsUnresolved ∧ batch.status = .partiallyCompleted) := by
    cases is : batch.status with
    | completed => exact ⟨_, ends.completed batchId batch found is, .inl ⟨rfl, rfl⟩⟩
    | partiallyCompleted =>
      exact ⟨_, ends.partiallyCompleted batchId batch found is, .inr ⟨rfl, rfl⟩⟩
    | _ =>
      rw [is] at terminal
      cases terminal
  have stays : Ended (run (step digest sha256 toLowerCase)
      (run (step digest sha256 toLowerCase) .empty ops) more) batchId trigger :=
    ended.run ends.kept past more
  refine ⟨batch', found', status, ?_, stays.settled, ?_⟩
  · have records := (kept.batches batchId batch' found').recorded
    have other : batch'.status ≠ .validating := by
      rw [status]
      intro is
      rw [is] at terminal
      cases terminal
    rw [(kept.batches batchId batch' found').whole other, List.take_length] at records
    exact records
  · rw [status]
    rcases is with ⟨isTrigger, is⟩ | ⟨isTrigger, is⟩
    · rw [is, if_neg (stays.allRowsResolved isTrigger)]
    · rw [is, if_pos (stays.someRowsUnresolved isTrigger)]

/-- The sample is imported, its settlement is cancelled, and the batch is closed. -/
def sampleClosed : List BatchOp :=
  [.importBatchCsv sampleImport, .goOn 0 { settlementId := "stl_1" }, .goOn 0 {},
    .settlement (.settlement 0 (.cancelSettlement {
      settlementId := "stl_1", actor := ⟨.user, "usr_1"⟩, mayCancel := true, now := 1 })),
    .closeBatch 0, .goOn 1 {}, .goOn 1 {}, .goOn 1 {}, .goOn 1 {}, .goOn 1 {}]

theorem completed_sample :
    (sampleRun sampleClosed).batches[0]?.map (·.status) = some .completed := by
  decide +kernel

theorem closes_sample : Along (step (F := List Char) (fun _ => "") id id) ClosesImported .empty
    sampleClosed := by
  decide +kernel

theorem batch_ends_sample : ∃ batch',
    (sampleRun (sampleClosed ++ [.goOn 0 {}])).batches[0]? = some batch' ∧
      batch'.status = .completed ∧
      BatchEnded (sampleRun (sampleClosed ++ [.goOn 0 {}])) 0 batch' := by
  obtain ⟨batch, found, status⟩ := Option.map_eq_some_iff.mp completed_sample
  rw [← status]
  exact batch_ends closes_sample found (by rw [status]; rfl) [.goOn 0 {}]

end InrSettle.Batch
