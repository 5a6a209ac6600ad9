import InrSettle.System.BatchLines
import InrSettle.System.Batches
import InrSettle.System.Rupees

/-!
# Imports of batches

A file that is imported again is found again, at every later time; and the turn of a row records it,
whatever has become of the others, until the import is through.
-/

namespace InrSettle.Batch

open Run CaseTables
open BatchCsv (Raw RowError RowResult parseBatchCsv)

variable {F : Type} [DecidableEq F] {digest : AuthorizedInstruction → String}
  {sha256 : List Char → F} {toLowerCase : List Char → List Char}

/-! ### The file of a batch -/

/-- What a batch keeps of its import. -/
structure FileColumns (F : Type) where
  name : List Char
  importFingerprint : F
  parsed : List RowResult

def fileOf (batch : BatchRecord F) : FileColumns F :=
  ⟨batch.name, batch.importFingerprint, batch.parsed⟩

variable (sha256 toLowerCase) in
/-- The columns are those of an import with this name and this text. -/
structure Imports (input : ImportInput) (file : FileColumns F) : Prop where
  name : file.name = input.name
  accepted : nameAccepted input.name = true
  importFingerprint : file.importFingerprint = importFingerprint sha256 input.name input.csv
  parsed : parseBatchCsv toLowerCase input.csv ⟨input.purposeCodes, input.maxRows⟩ = .ok file.parsed

/-! ### What a step does to the batches -/

variable (sha256 toLowerCase) in
/-- What one step can do to the table of batches. -/
inductive BatchesMove (w : BatchWorld F) (batches : List (BatchRecord F)) : Prop where
  | same : batches = w.batches → BatchesMove w batches
  | started {input : ImportInput} {parsed : List RowResult} :
    Imports sha256 toLowerCase input (fileOf (container sha256 input parsed)) →
    batches = w.batches ++ [container sha256 input parsed] → BatchesMove w batches
  | sourced {batchId : Nat} :
    batches = w.batches.modify batchId (fun batch => { batch with source := .api }) →
    BatchesMove w batches
  | counted {task batchId : Nat} {closes : Bool} {resolved : List ResolvedRow} :
    w.tasks[task]? = some (.refreshing batchId closes resolved) →
    batches = w.batches.modify batchId
      ({ · with counts := aggregate (resolved.map (·.counted)) "INR" }) → BatchesMove w batches
  | advanced {batchId : Nat} {trigger : BatchTrigger} {now : Instant} {batch : BatchRecord F}
      {t : BatchTransition} : w.batches[batchId]? = some batch →
    evaluateBatchTransition (some batch.status) trigger = some t →
    (trigger = .validated ∨ trigger = .beginExecution ∨
      ∃ task : Nat, w.tasks[task]? = some (.finishing batchId trigger)) →
    batches = w.batches.modify batchId (moved t.target now) → BatchesMove w batches

omit [DecidableEq F] in
theorem batchesMove_of_advance {w : BatchWorld F} {batchId : Nat} {trigger : BatchTrigger}
    (now : Instant) (by_ : trigger = .validated ∨ trigger = .beginExecution ∨
      ∃ task : Nat, w.tasks[task]? = some (.finishing batchId trigger)) :
    BatchesMove sha256 toLowerCase w ((advanceBatch batchId trigger now w).getD w).batches := by
  cases done : advanceBatch batchId trigger now w with
  | none => exact .same rfl
  | some w' =>
    obtain ⟨batch, t, found, evaluated, rfl⟩ := advanceBatch_some done
    exact .advanced found evaluated by_ rfl

omit [DecidableEq F] in
theorem batchesMove_goOn {w : BatchWorld F} (kept : Kept w) {task : Nat} {at_ : Task}
    (found : w.tasks[task]? = some at_) (given : Given) :
    BatchesMove sha256 toLowerCase w (goOn digest task given w at_).batches := by
  have held := kept.tasks at_ (List.mem_of_getElem? found)
  cases at_ with
  | importing batchId actor remaining =>
    cases remaining with
    | cons result remaining =>
      rw [goOn]
      cases done : importRow digest batchId actor given w result with
      | none => exact .same rfl
      | some w' =>
        obtain ⟨s, row, rfl, -⟩ := importRow_some kept.projected done
        exact .same rfl
    | nil => exact batchesMove_of_advance given.now (.inl rfl)
  | refreshing batchId closes resolved =>
    obtain ⟨rows, done, -, -⟩ := writeCounts_kept kept.rows held
    rw [goOn, done]
    dsimp only
    split
    · exact .counted found rfl
    · exact .counted found rfl
  | closing batchId status =>
    rw [goOn]
    split <;> exact .same rfl
  | executing batchId trigger =>
    have advances : BatchesMove sha256 toLowerCase w
        ((advanceBatch batchId .beginExecution given.now w).getD w).batches :=
      batchesMove_of_advance given.now (.inr (.inl rfl))
    rw [goOn]
    cases done : advanceBatch batchId .beginExecution given.now w with
    | none => exact .same rfl
    | some w' =>
      rw [done] at advances
      exact advances
  | finishing batchId trigger =>
    exact batchesMove_of_advance given.now (.inr (.inr ⟨task, found⟩))
  | authorizing batchId eligible authorized =>
    cases eligible with
    | cons settlementId eligible =>
      rw [goOn]
      split <;> exact .same rfl
    | nil =>
      rw [goOn]
      split
      · exact batchesMove_of_advance given.now (.inr (.inl rfl))
      · exact .same rfl
  | _ => exact .same rfl

variable (digest) in
theorem batchesMove_step {w : BatchWorld F} (kept : Kept w) (op : BatchOp) :
    BatchesMove sha256 toLowerCase w (step digest sha256 toLowerCase w op).batches := by
  cases op with
  | importBatchCsv input =>
    rw [step]
    rcases importBatchCsv_cases input w with ⟨same, -⟩ | ⟨parsed, read, -, accepted, is⟩
    · rw [same]
      exact .same rfl
    · rw [is]
      exact .started ⟨rfl, accepted, rfl, read⟩ rfl
  | setSource batchId => exact .sourced rfl
  | goOn task given =>
    rw [step]
    split
    · exact .same rfl
    · rename_i at_ found
      exact batchesMove_goOn kept found given
  | settlement op => exact .same rfl
  | refreshBatchAggregates batchId =>
    rw [step]
    split <;> exact .same rfl
  | closeBatch batchId =>
    rw [step]
    split <;> exact .same rfl
  | authorizeBatch batchId =>
    rw [step]
    split <;> exact .same rfl

variable (digest) in
/-- A step leaves the files that are there, or adds that of an import. -/
theorem files_step {w : BatchWorld F} (kept : Kept w) (op : BatchOp) :
    (step digest sha256 toLowerCase w op).batches.map fileOf = w.batches.map fileOf ∨
      ∃ input file, Imports sha256 toLowerCase input file ∧
        (step digest sha256 toLowerCase w op).batches.map fileOf =
          w.batches.map fileOf ++ [file] := by
  cases batchesMove_step digest kept op with
  | same is =>
    rw [is]
    exact .inl rfl
  | @started input parsed imports is =>
    rw [is]
    exact .inr ⟨input, _, imports, List.map_append⟩
  | sourced is =>
    rw [is]
    exact .inl (Table.map_modify fun _ => rfl)
  | counted at_ is =>
    rw [is]
    exact .inl (Table.map_modify fun _ => rfl)
  | advanced found evaluated by_ is =>
    rw [is]
    exact .inl (Table.map_modify fun _ => rfl)

/-- A batch is there later on, as far at least, and where it has come to its end it stays there. -/
def Onward (w w' : BatchWorld F) : Prop :=
  ∀ (batchId : Nat) batch, w.batches[batchId]? = some batch → ∃ batch',
    w'.batches[batchId]? = some batch' ∧ fileOf batch' = fileOf batch ∧
      batch.status.rank ≤ batch'.status.rank ∧
      (batch.status.isTerminal = true → batch'.status = batch.status)

omit [DecidableEq F] in
theorem onward_of_modify {w w' : BatchWorld F} {batchId : Nat} {f : BatchRecord F → BatchRecord F}
    (is : w'.batches = w.batches.modify batchId f)
    (columns : ∀ batch, w.batches[batchId]? = some batch → fileOf (f batch) = fileOf batch ∧
      batch.status.rank ≤ (f batch).status.rank ∧
      (batch.status.isTerminal = true → (f batch).status = batch.status)) : Onward w w' := by
  intro id batch found
  rw [is, List.getElem?_modify, found]
  by_cases here : batchId = id
  · subst here
    exact ⟨f batch, by simp, columns batch found⟩
  · exact ⟨batch, by simp [here], rfl, le_rfl, fun _ => rfl⟩

variable (digest) in
theorem onward_step {w : BatchWorld F} (kept : Kept w) (op : BatchOp) :
    Onward w (step digest sha256 toLowerCase w op) := by
  have moves : BatchesMove sha256 toLowerCase w (step digest sha256 toLowerCase w op).batches :=
    batchesMove_step digest kept op
  cases moves with
  | same is =>
    intro id batch found
    rw [is]
    exact ⟨batch, found, rfl, le_rfl, fun _ => rfl⟩
  | started imports is =>
    intro id batch found
    rw [is, List.getElem?_append_left (List.getElem?_eq_some_iff.mp found).1]
    exact ⟨batch, found, rfl, le_rfl, fun _ => rfl⟩
  | sourced is => exact onward_of_modify is fun _ _ => ⟨rfl, le_rfl, fun _ => rfl⟩
  | counted at_ is => exact onward_of_modify is fun _ _ => ⟨rfl, le_rfl, fun _ => rfl⟩
  | @advanced batchId trigger now batch t found evaluated by_ is =>
    apply onward_of_modify is
    intro batch' found'
    cases found.symm.trans found'
    have rank := (evaluateBatchTransition_some evaluated).1
    refine ⟨rfl, ?_, ?_⟩
    · show batch.status.rank ≤ t.target.rank
      omega
    · intro terminal
      have stays := ((final_iff batch.status).mpr (.inl terminal)).evaluate_none trigger
      cases stays.symm.trans evaluated

variable (sha256 toLowerCase) in
/-- Each batch is kept as its import had it. -/
structure Imported (w : BatchWorld F) : Prop where
  kept : Kept w
  files : ∀ file ∈ w.batches.map fileOf, ∃ input, Imports sha256 toLowerCase input file

theorem Imported.step {w : BatchWorld F} (imported : Imported sha256 toLowerCase w) (op : BatchOp) :
    Imported sha256 toLowerCase (step digest sha256 toLowerCase w op) := by
  refine ⟨imported.kept.step op, ?_⟩
  intro file mem
  rcases files_step digest imported.kept op with same | ⟨input, new, imports, added⟩
  · rw [same] at mem
    exact imported.files file mem
  · rw [added] at mem
    rcases List.mem_append.mp mem with there | is
    · exact imported.files file there
    · cases List.mem_singleton.mp is
      exact ⟨input, imports⟩

theorem imported_run (ops : List BatchOp) :
    Imported sha256 toLowerCase (run (step digest sha256 toLowerCase) .empty ops) :=
  run_invariant (fun _ op imported => imported.step op)
    ⟨kept_empty, fun _ mem => (List.not_mem_nil mem).elim⟩ ops

/-! ### One file, one batch -/

theorem takeWhile_name {name : List Char} (plain : '\x00' ∉ name) (csv : List Char) :
    (name ++ '\x00' :: csv).takeWhile (· ≠ '\x00') = name := by
  induction name with
  | nil => rfl
  | cons c rest ih =>
    obtain ⟨here, others⟩ := not_or.mp (List.mem_cons.not.mp plain)
    have other : c ≠ '\x00' := fun is => here is.symm
    rw [List.cons_append, List.takeWhile_cons, if_pos (decide_eq_true other), ih others]

omit [DecidableEq F] in
/-- The fingerprint tells names and texts apart, where the names are without NUL. -/
theorem importFingerprint_inj (injective : Function.Injective sha256)
    {name name' csv csv' : List Char} (plain : '\x00' ∉ name) (plain' : '\x00' ∉ name')
    (same : importFingerprint sha256 name csv = importFingerprint sha256 name' csv') :
    name = name' ∧ csv = csv' := by
  have texts : name ++ '\x00' :: csv = name' ++ '\x00' :: csv' := injective same
  have names : name = name' := by
    rw [← takeWhile_name plain csv, texts, takeWhile_name plain' csv']
  rw [names] at texts
  exact ⟨names, (List.cons.inj (List.append_cancel_left texts)).2⟩

theorem plain_of_accepted {name : List Char} (accepted : nameAccepted name = true) :
    '\x00' ∉ name := by
  have plain := (Bool.and_eq_true_iff.mp accepted).2
  exact of_decide_eq_true plain

/-- Where a batch has the fingerprint, it is found. -/
theorem findIdx?_fingerprint {w : BatchWorld F} (kept : Kept w) {batchId : Nat} {fingerprint : F} :
    (w.batches.findIdx? fun batch => batch.importFingerprint = fingerprint) = some batchId ↔
      ∃ batch, w.batches[batchId]? = some batch ∧ batch.importFingerprint = fingerprint := by
  rw [List.findIdx?_eq_some_iff_getElem]
  constructor
  · rintro ⟨lt, is, -⟩
    exact ⟨_, List.getElem?_eq_getElem lt, of_decide_eq_true is⟩
  · rintro ⟨batch, found, is⟩
    obtain ⟨lt, rfl⟩ := List.getElem?_eq_some_iff.mp found
    refine ⟨lt, decide_eq_true is, ?_⟩
    intro j before earlier
    have same : (w.batches.map (·.importFingerprint))[j]? =
        (w.batches.map (·.importFingerprint))[batchId]? := by
      rw [List.getElem?_map, List.getElem?_map, List.getElem?_eq_getElem lt,
        List.getElem?_eq_getElem (before.trans lt), Option.map_some, Option.map_some, is,
        of_decide_eq_true earlier]
    have inside : j < (w.batches.map (·.importFingerprint)).length := by
      rw [List.length_map]
      exact before.trans lt
    exact before.ne ((List.getElem?_inj inside kept.fingerprints).mp same)

/-- What is replayed is a batch with the fingerprint of the import. -/
theorem replay_iff {w : BatchWorld F} (kept : Kept w) {input : ImportInput} {batchId : Nat} :
    (importBatchCsv sha256 toLowerCase input w).1 = .replay batchId ↔
      (∃ parsed, parseBatchCsv toLowerCase input.csv ⟨input.purposeCodes, input.maxRows⟩ =
        .ok parsed) ∧
      ∃ batch, w.batches[batchId]? = some batch ∧
        batch.importFingerprint = importFingerprint sha256 input.name input.csv := by
  rw [← findIdx?_fingerprint kept]
  unfold importBatchCsv
  cases parseBatchCsv toLowerCase input.csv ⟨input.purposeCodes, input.maxRows⟩ with
  | error errors => simp
  | ok parsed =>
    dsimp only
    split
    · rename_i found
      simp [found]
    · rename_i none_
      rw [none_]
      split <;> simp

theorem replay_unchanged {w : BatchWorld F} {input : ImportInput} {batchId : Nat}
    (replays : (importBatchCsv sha256 toLowerCase input w).1 = .replay batchId) :
    importBatchCsv sha256 toLowerCase input w = (.replay batchId, w) := by
  revert replays
  unfold importBatchCsv
  split
  · intro replays
    cases replays
  · split
    · intro replays
      cases replays
      rfl
    · split <;> intro replays <;> cases replays

/-- The files only grow. -/
theorem files_run {w : BatchWorld F} (kept : Kept w) (ops : List BatchOp) :
    w.batches.map fileOf <+: (run (step digest sha256 toLowerCase) w ops).batches.map fileOf := by
  induction ops generalizing w with
  | nil => exact List.prefix_rfl
  | cons op rest ih =>
    refine List.IsPrefix.trans ?_ (ih (kept.step op))
    rcases files_step digest kept op with same | ⟨input, new, -, added⟩
    · rw [same]
    · rw [added]
      exact List.prefix_append _ _

/-- A verdict on the row of this line: what is accepted has an amount, what is rejected a reason. -/
def Verdict (line : Nat) : RowResult → Prop
  | .accepted row => row.line = line ∧ 0 < row.amountMinor
  | .rejected line' _ errors => line' = line ∧ errors ≠ []

theorem verdict_line {line : Nat} {result : RowResult} (verdict : Verdict line result) :
    result.line = line := by
  cases result with
  | accepted row => exact verdict.1
  | rejected line' raw errors => exact verdict.1

theorem verdict_of_cells (options : BatchCsv.CsvValidationOptions) (header : List (List Char))
    (line : Nat) (cells : Csv.Row) : Verdict line (BatchCsv.verdict options header line cells) := by
  unfold BatchCsv.verdict
  dsimp only
  split
  · rename_i errors
    exact ⟨rfl, errors⟩
  · rename_i none_
    refine ⟨rfl, ?_⟩
    have amount : BatchCsv.amountErrors (BatchCsv.parseRupees
        (BatchCsv.field (BatchCsv.rawOf header cells) .amountInr)) = [] := by
      have all := not_not.mp none_
      rw [BatchCsv.rowErrors, List.append_eq_nil_iff, List.append_eq_nil_iff] at all
      exact all.1.2
    rw [BatchCsv.parsedRow]
    cases read : BatchCsv.parseRupees (BatchCsv.field (BatchCsv.rawOf header cells) .amountInr) with
    | error refused =>
      rw [read] at amount
      cases amount
    | ok m =>
      obtain ⟨rupees, -, is, positive⟩ := BatchCsv.cleaned_of_accepted read
      exact is ▸ positive

theorem verdict_of_parsed {csv : List Char} {options : BatchCsv.CsvValidationOptions}
    {parsed : List RowResult} (read : parseBatchCsv toLowerCase csv options = .ok parsed) {i : Nat}
    {result : RowResult} (found : parsed[i]? = some result) : Verdict (i + 2) result := by
  unfold parseBatchCsv at read
  split at read
  · cases read
  · dsimp only at read
    split at read
    · cases read
    · cases read
      rw [BatchCsv.verdicts, List.getElem?_mapIdx] at found
      obtain ⟨cells, -, is⟩ := Option.map_eq_some_iff.mp found
      rw [← is]
      exact verdict_of_cells _ _ _ _

omit [DecidableEq F] in
/-- The verdicts of an import's batch. -/
theorem Imported.verdict {w : BatchWorld F} (imported : Imported sha256 toLowerCase w)
    {batchId : Nat} {batch : BatchRecord F} (found : w.batches[batchId]? = some batch) {i : Nat}
    {result : RowResult} (is : batch.parsed[i]? = some result) : Verdict (i + 2) result := by
  obtain ⟨input, imports⟩ :=
    imported.files (fileOf batch) (List.mem_map_of_mem (List.mem_of_getElem? found))
  exact verdict_of_parsed imports.parsed is

theorem getElem?_of_forall₂ {A B : Type} {R : A → B → Prop} {left : List A} {right : List B}
    (each : List.Forall₂ R left right) {i : Nat} {b : B} (found : right[i]? = some b) :
    ∃ a, left[i]? = some a ∧ R a b := by
  induction each generalizing i with
  | nil => cases found
  | @cons a b' left right first others ih =>
    cases i with
    | zero =>
      cases found
      exact ⟨a, rfl, first⟩
    | succ i => exact ih found

omit [DecidableEq F] in
/-- No row of the table stands on the line of the row whose turn it is. -/
theorem Imported.line_fresh {w : BatchWorld F} (imported : Imported sha256 toLowerCase w)
    {task batchId : Nat} {actor : PrincipalRef} {result : RowResult} {remaining : List RowResult}
    (found : w.tasks[task]? = some (.importing batchId actor (result :: remaining))) :
    Verdict ((w.rowsOf batchId).length + 2) result ∧ ∀ other ∈ w.rows, other.batchId = batchId →
      other.lineNumber ≠ result.line := by
  obtain ⟨batch, isBatch, goesOn⟩ := imported.kept.tasks _ (List.mem_of_getElem? found)
  have next : batch.parsed[(w.rowsOf batchId).length]? = some result := by
    rw [← List.head?_drop, ← goesOn]
    rfl
  have verdict := imported.verdict isBatch next
  refine ⟨verdict, ?_⟩
  intro other mem own same
  have inside : other ∈ w.rowsOf batchId := List.mem_filter.mpr ⟨mem, decide_eq_true own⟩
  obtain ⟨i, at_⟩ := List.mem_iff_getElem?.mp inside
  obtain ⟨earlier, isEarlier, records⟩ :=
    getElem?_of_forall₂ (imported.kept.batches batchId batch isBatch).recorded at_
  have before := (List.getElem?_eq_some_iff.mp at_).1
  rw [List.getElem?_take_of_lt before] at isEarlier
  have line := verdict_line (imported.verdict isBatch isEarlier)
  rw [records.line, line, verdict_line verdict] at same
  omega

omit [DecidableEq F] in
theorem created_of_fresh {input : CreateInput} {w : BatchWorld F}
    (fresh : (w.settlements.now.cases input.settlementId).settlement = none)
    (checks : settlementChecks input.row = true) : ∃ w', created digest input w = some w' := by
  have ends : Transaction.Ends (createSettlement input)
      (w.settlements.now.cases input.settlementId) fun _ _ => True := by
    simp only [createSettlement, CaseTables.insertSettlement, CaseTables.emit, CaseTables.audit,
      bind_assoc, Transaction.ends_get_bind, Transaction.ends_require_bind,
      Transaction.ends_modify_bind, Transaction.ends_pure]
    exact ⟨fresh, checks, trivial⟩
  have onStore : Transaction.Ends (onCase (createSettlement input))
      (w.settlements.now.store input.settlementId) fun _ _ => True :=
    Transaction.ends_focus.mpr ends
  obtain ⟨id, answered, -⟩ := onStore.answer
  refine ⟨_, if_pos ?_⟩
  rw [answered]
  rfl

theorem settlementChecks_created {actor : PrincipalRef} {settlementId : String}
    {row : BatchCsv.ParsedRow} (positive : 0 < row.amountMinor) :
    settlementChecks (createInput actor settlementId row).row = true := by
  rw [settlementChecks, Bool.and_eq_true]
  exact ⟨decide_eq_true (Int.natCast_pos.mpr positive), rfl⟩

/-- What the turn of a row adds: the row with a settlement where the file's row was accepted and the
database does not refuse it, else an invalid row. -/
structure Recorded (w : BatchWorld F) (batchId : Nat) (given : Given) (result : RowResult)
    (s : World) (row : BatchRow) : Prop where
  adds : Adds w batchId result s row
  accepted : given.refuses = false → ∀ parsed, result = .accepted parsed →
    (w.settlements.now.cases given.settlementId).settlement = none →
      row = acceptedRow batchId given.settlementId parsed
  rejected : given.refuses = false → ∀ line raw errors, result = .rejected line raw errors →
    row = invalidRow batchId line raw errors
  refused : given.refuses = true → s = w.settlements ∧
    row = invalidRow batchId result.line (rawOf result) [rowErrorFor given.message]

omit [DecidableEq F] in
theorem noClash_of_line {w : BatchWorld F} {row : BatchRow}
    (lines : ∀ other ∈ w.rows, other.batchId = row.batchId → other.lineNumber ≠ row.lineNumber)
    (settlement : ∀ other ∈ w.rows, other.settlementId ≠ none →
      other.settlementId ≠ row.settlementId) : ∀ other ∈ w.rows, ¬Clashes row other := by
  rintro other mem (⟨batch, line⟩ | ⟨some_, same⟩)
  · exact lines other mem batch line
  · exact settlement other mem some_ same

omit [DecidableEq F] in
/-- An accepted row whose settlement has a new id is stored. -/
theorem rowTransaction_of_fresh (digest : AuthorizedInstruction → String) (actor : PrincipalRef)
    {w : BatchWorld F} (kept : Kept w) {batchId : Nat} {given : Given}
    {parsed : BatchCsv.ParsedRow} (line : 0 < parsed.line)
    (positive : 0 < parsed.amountMinor) (storable : Storable parsed.raw)
    (fresh : ∀ other ∈ w.rows, other.batchId = batchId → other.lineNumber ≠ parsed.line)
    (unused : (w.settlements.now.cases given.settlementId).settlement = none) :
    ∃ s, rowTransaction digest batchId actor given w (.accepted parsed) = some { w with
      settlements := s, rows := w.rows ++ [acceptedRow batchId given.settlementId parsed] } := by
  have creates : ∃ w', created digest (createInput actor given.settlementId parsed) w = some w' :=
    created_of_fresh unused (settlementChecks_created positive)
  obtain ⟨w', creates⟩ := creates
  obtain ⟨s, rfl, -, -⟩ := created_some creates
  refine ⟨s, ?_⟩
  rw [rowTransaction, creates]
  refine insertRow_some.mpr ⟨⟨⟨line, storable, .inr ⟨?_, Option.some_ne_none _⟩, ?_⟩, ?_⟩, rfl⟩
  · intro is
    cases is
  · intro amount is
    cases is
    exact Int.natCast_pos.mpr positive
  · apply noClash_of_line fresh
    intro other mem some_ same
    obtain ⟨row, there, -⟩ := (kept.rows.kept other mem).backed _ same
    rw [unused] at there
    cases there

omit [DecidableEq F] in
variable (digest) in
/-- The turn of a row whose texts can be stored always adds a row. -/
theorem importRow_recorded {w : BatchWorld F} (imported : Imported sha256 toLowerCase w)
    {task batchId : Nat} {actor : PrincipalRef} {result : RowResult} {remaining : List RowResult}
    (found : w.tasks[task]? = some (.importing batchId actor (result :: remaining)))
    (storable : Storable (rawOf result)) (given : Given) :
    ∃ s row, importRow digest batchId actor given w result =
        some { w with settlements := s, rows := w.rows ++ [row] } ∧
      Recorded w batchId given result s row := by
  obtain ⟨verdict, fresh⟩ := imported.line_fresh found
  have projected := imported.kept.projected
  have positive : 0 < result.line := by
    rw [verdict_line verdict]
    exact Nat.succ_pos _
  have invalid : ∀ errors, errors ≠ [] → ((∃ line raw, result = .rejected line raw errors) ∨
      ∃ message, errors = [rowErrorFor message]) →
      w.insertRow (invalidRow batchId result.line (rawOf result) errors) = some { w with
        rows := w.rows ++ [invalidRow batchId result.line (rawOf result) errors] } ∧
      Adds w batchId result w.settlements
        (invalidRow batchId result.line (rawOf result) errors) := by
    intro errors some_ told
    have checks : RowChecks (invalidRow batchId result.line (rawOf result) errors) :=
      ⟨positive, storable, .inl ⟨rfl, rfl, some_⟩, fun amount is => by cases is⟩
    have apart : ∀ other ∈ w.rows,
        ¬Clashes (invalidRow batchId result.line (rawOf result) errors) other :=
      noClash_of_line fresh fun other mem some_ => some_
    exact ⟨insertRow_some.mpr ⟨⟨checks, apart⟩, rfl⟩, adds_invalid projected told rfl checks apart⟩
  obtain ⟨fallback, fallbackAdds⟩ := invalid [rowErrorFor given.message] (List.cons_ne_nil _ _)
    (.inr ⟨_, rfl⟩)
  rw [importRow]
  cases refuses : given.refuses with
  | true =>
    refine ⟨w.settlements, _, fallback, fallbackAdds, ?_, ?_, fun _ => ⟨rfl, rfl⟩⟩
    · intro is
      cases refuses.symm.trans is
    · intro is
      cases refuses.symm.trans is
  | false =>
    rw [if_neg Bool.false_ne_true]
    have notRefused : ∀ {P : Prop}, given.refuses = true → P := by
      intro P is
      cases refuses.symm.trans is
    cases result with
    | rejected line raw errors =>
      obtain ⟨inserted, adds⟩ := invalid errors verdict.2 (.inl ⟨line, raw, rfl⟩)
      refine ⟨w.settlements, invalidRow batchId line raw errors, ?_, adds, ?_, ?_, notRefused⟩
      · rw [rowTransaction]
        exact congrArg (Option.or · _) inserted
      · intro _ parsed is
        cases is
      · intro _ line' raw' errors' is
        cases is
        rfl
    | accepted parsed =>
      cases done : rowTransaction digest batchId actor given w (.accepted parsed) with
      | none =>
        refine ⟨w.settlements, _, fallback, fallbackAdds, ?_, ?_, notRefused⟩
        · intro _ parsed' is unused
          cases is
          obtain ⟨s, stored⟩ := rowTransaction_of_fresh digest actor imported.kept positive
            verdict.2 storable fresh unused
          cases done.symm.trans stored
        · intro _ line raw errors is
          cases is
      | some w' =>
        obtain ⟨s, row, rfl, adds⟩ := rowTransaction_some projected done
        refine ⟨s, row, rfl, adds, ?_, ?_, notRefused⟩
        · intro _ parsed' is unused
          cases is
          obtain ⟨s', stored⟩ := rowTransaction_of_fresh digest actor imported.kept positive
            verdict.2 storable fresh unused
          have same := congrArg BatchWorld.rows (Option.some.inj (done.symm.trans stored))
          exact (List.cons.inj (List.append_cancel_left same)).1
        · intro _ line raw errors is
          cases is

/-! ### Whole imports -/

omit [DecidableEq F] in
theorem tasks_advance (batchId : Nat) (trigger : BatchTrigger) (now : Instant) (w : BatchWorld F) :
    ((advanceBatch batchId trigger now w).getD w).tasks = w.tasks := by
  cases done : advanceBatch batchId trigger now w with
  | none => rfl
  | some w' =>
    obtain ⟨batch, t, -, -, rfl⟩ := advanceBatch_some done
    rfl

/-- Where a task can be after its next transaction. -/
inductive NextTask (w : BatchWorld F) : Task → Task → Prop where
  | recorded {batchId : Nat} {actor : PrincipalRef} {result : RowResult}
      {remaining : List RowResult} :
    NextTask w (.importing batchId actor (result :: remaining)) (.importing batchId actor remaining)
  | validated {batchId : Nat} {actor : PrincipalRef} :
    NextTask w (.importing batchId actor []) (.refresh batchId false)
  | read {batchId : Nat} {closes : Bool} :
    NextTask w (.refresh batchId closes) (.refreshing batchId closes (readRows w batchId))
  | counted {batchId : Nat} {resolved : List ResolvedRow} {batch : BatchRecord F} :
    w.batches[batchId]? = some batch →
    NextTask w (.refreshing batchId true resolved) (.closing batchId batch.status)
  | decided {batchId : Nat} {status : BatchStatus} {trigger : BatchTrigger} :
    terminalOutcome ((w.rowsOf batchId).map (·.outcome)) = some trigger →
    NextTask w (.closing batchId status)
      (if status = .ready then .executing batchId trigger else .finishing batchId trigger)
  | executed {batchId : Nat} {trigger : BatchTrigger} :
    NextTask w (.executing batchId trigger) (.finishing batchId trigger)
  | listed {batchId : Nat} : NextTask w (.listing batchId)
      (.authorizing batchId ((w.rowsOf batchId).filterMap (·.settlementId)) 0)
  | authorized {batchId : Nat} {settlementId : String} {eligible : List String}
      {before after : Nat} : NextTask w (.authorizing batchId (settlementId :: eligible) before)
      (.authorizing batchId eligible after)
  | through {batchId authorized : Nat} :
    NextTask w (.authorizing batchId [] authorized) (.refresh batchId false)
  | ended {at_ : Task} : NextTask w at_ .ended

omit [DecidableEq F] in
variable (digest) in
/-- A task moves itself and no other. -/
theorem tasks_goOn {w : BatchWorld F} (kept : Kept w) {task : Nat} {at_ : Task}
    (found : w.tasks[task]? = some at_) (given : Given) : ∃ next,
      (goOn digest task given w at_).tasks = w.tasks.set task next ∧ NextTask w at_ next := by
  have held := kept.tasks at_ (List.mem_of_getElem? found)
  have set : ∀ (v : BatchWorld F) (next : Task), v.tasks = w.tasks →
      (v.setTask task next).tasks = w.tasks.set task next := by
    intro v next same
    rw [BatchWorld.setTask, same]
  cases at_ with
  | importing batchId actor remaining =>
    cases remaining with
    | cons result remaining =>
      rw [goOn]
      cases done : importRow digest batchId actor given w result with
      | none => exact ⟨_, rfl, .ended⟩
      | some w' =>
        obtain ⟨s, row, rfl, -⟩ := importRow_some kept.projected done
        exact ⟨_, rfl, .recorded⟩
    | nil => exact ⟨_, set _ _ (tasks_advance batchId .validated given.now w), .validated⟩
  | refresh batchId closes => exact ⟨_, rfl, .read⟩
  | refreshing batchId closes resolved =>
    obtain ⟨rows, done, -, -⟩ := writeCounts_kept kept.rows held
    rw [goOn, done]
    dsimp only
    split
    · rename_i batch there
      obtain ⟨old, was, is⟩ := Table.getElem?_modify_some.mp there
      have status : batch.status = old.status := by
        rw [is]
        split <;> rfl
      rw [status]
      exact ⟨_, rfl, .counted was⟩
    · exact ⟨_, rfl, .ended⟩
  | closing batchId status =>
    rw [goOn]
    split
    · exact ⟨_, rfl, .ended⟩
    · rename_i trigger reached
      exact ⟨_, rfl, .decided reached⟩
  | executing batchId trigger =>
    have same := tasks_advance batchId .beginExecution given.now w
    rw [goOn]
    cases done : advanceBatch batchId .beginExecution given.now w with
    | none => exact ⟨_, rfl, .ended⟩
    | some w' =>
      rw [done] at same
      exact ⟨_, set w' _ same, .executed⟩
  | finishing batchId trigger =>
    exact ⟨_, set _ _ (tasks_advance batchId trigger given.now w), .ended⟩
  | listing batchId => exact ⟨_, rfl, .listed⟩
  | authorizing batchId eligible authorized =>
    cases eligible with
    | cons settlementId eligible =>
      rw [goOn]
      split
      · exact ⟨_, rfl, .authorized⟩
      · exact ⟨_, rfl, .authorized⟩
    | nil =>
      rw [goOn]
      split
      · exact ⟨_, set _ _ (tasks_advance batchId .beginExecution given.now w), .through⟩
      · exact ⟨_, rfl, .through⟩
  | ended =>
    obtain ⟨lt, is⟩ := List.getElem?_eq_some_iff.mp found
    have same : w.tasks.set task .ended = w.tasks := by rw [← is, List.set_getElem_self]
    exact ⟨.ended, same.symm, .ended⟩

/-- The turns a task takes in a run. -/
def turnsOf (task : Nat) (ops : List BatchOp) : Nat :=
  ops.countP fun op => match op with
    | .goOn task' _ => task' = task
    | _ => false

theorem task_stays {w : BatchWorld F} (kept : Kept w) {task : Nat} {at_ : Task}
    (found : w.tasks[task]? = some at_) {op : BatchOp} (other : turnsOf task [op] = 0) :
    (step digest sha256 toLowerCase w op).tasks[task]? = some at_ := by
  have lt := (List.getElem?_eq_some_iff.mp found).1
  have added : ∀ new, (w.addTask new).tasks[task]? = some at_ := by
    intro new
    rw [BatchWorld.addTask, List.getElem?_append_left lt]
    exact found
  cases op with
  | settlement op => exact found
  | setSource batchId => exact found
  | importBatchCsv input =>
    rw [step]
    rcases importBatchCsv_cases input w with ⟨same, -⟩ | ⟨parsed, -, -, -, is⟩
    · rw [same]
      exact found
    · rw [is]
      exact added _
  | refreshBatchAggregates batchId =>
    rw [step]
    split
    · exact added _
    · exact found
  | closeBatch batchId =>
    rw [step]
    split
    · exact added _
    · exact found
  | authorizeBatch batchId =>
    rw [step]
    split
    · exact added _
    · exact found
  | goOn task' given =>
    have apart : task' ≠ task := by simpa [turnsOf] using other
    rw [step]
    split
    · exact found
    · rename_i at_' found'
      obtain ⟨next, tasks, -⟩ := tasks_goOn digest kept found' given
      rw [tasks, List.getElem?_set_ne apart]
      exact found

omit [DecidableEq F] in
/-- The batch of an import that is through is past VALIDATING. -/
theorem advance_validated {w : BatchWorld F} (kept : Kept w) {batchId : Nat}
    {batch : BatchRecord F} (found : w.batches[batchId]? = some batch) (now : Instant) :
    ∃ batch', ((advanceBatch batchId .validated now w).getD w).batches[batchId]? = some batch' ∧
      batch'.status ≠ .validating := by
  by_cases validating : batch.status = .validating
  · have done : advanceBatch batchId .validated now w =
        some { w with batches := w.batches.modify batchId (moved .ready now) } := by
      rw [advanceBatch, found]
      dsimp only [Option.bind_eq_bind, Option.bind_some]
      rw [validating]
      rfl
    rw [done]
    refine ⟨moved .ready now batch, ?_, ?_⟩
    · show (w.batches.modify batchId (moved .ready now))[batchId]? = _
      rw [List.getElem?_modify, found]
      simp
    · show BatchStatus.ready ≠ .validating
      decide
  · have none_ : advanceBatch batchId .validated now w = none := by
      rw [advanceBatch, found]
      have drafted := (kept.batches batchId batch found).status
      cases is : batch.status with
      | draft => exact (drafted is).elim
      | validating => exact (validating is).elim
      | _ => simp [is, evaluateBatchTransition, Machine.evaluate, batchMachine, Machine.leaves]
    rw [none_]
    exact ⟨batch, found, validating⟩

variable (digest) in
theorem goOn_recorded {w : BatchWorld F} (imported : Imported sha256 toLowerCase w)
    {task batchId : Nat} {actor : PrincipalRef} {result : RowResult} {remaining : List RowResult}
    (found : w.tasks[task]? = some (.importing batchId actor (result :: remaining)))
    (storable : Storable (rawOf result)) (given : Given) :
    ∃ s row, step digest sha256 toLowerCase w (.goOn task given) =
        ({ w with settlements := s, rows := w.rows ++ [row] } : BatchWorld F).setTask task
          (.importing batchId actor remaining) ∧
      Recorded w batchId given result s row := by
  obtain ⟨s, row, done, recorded⟩ := importRow_recorded digest imported found storable given
  refine ⟨s, row, ?_, recorded⟩
  rw [step, found]
  dsimp only
  rw [goOn, done]

/-- In every run, the turn of a row adds it to the table, whatever has become of the others; and
each batch has the rows of its file in order, all of them once it is past VALIDATING, each accepted
one with a settlement of its own. -/
theorem rows_recorded (ops : List BatchOp) :
    Along (step digest sha256 toLowerCase) (fun w op =>
      ∀ task given batchId actor result remaining, op = .goOn task given →
        w.tasks[task]? = some (.importing batchId actor (result :: remaining)) →
        Storable (rawOf result) → ∃ s row, step digest sha256 toLowerCase w op =
          ({ w with settlements := s, rows := w.rows ++ [row] } : BatchWorld F).setTask task
            (.importing batchId actor remaining) ∧
          Recorded w batchId given result s row) .empty ops ∧
      (∀ batchId batch,
        (run (step digest sha256 toLowerCase) .empty ops).batches[batchId]? = some batch →
        BatchKept (run (step digest sha256 toLowerCase) .empty ops) batchId batch) ∧
      Table.Unique (·.settlementId) (run (step digest sha256 toLowerCase) .empty ops).rows := by
  have kept : Kept (run (step digest sha256 toLowerCase) .empty ops) := kept_run ops
  refine ⟨?_, kept.batches, kept.rows.settlements⟩
  apply along_of_invariant (I := Imported sha256 toLowerCase)
  · intro w op imported
    exact imported.step op
  · rintro w op imported task given batchId actor result remaining rfl found storable
    exact goOn_recorded digest imported found storable given
  · exact ⟨kept_empty, fun _ mem => (List.not_mem_nil mem).elim⟩

theorem turnsOf_cons (task : Nat) (op : BatchOp) (ops : List BatchOp) :
    turnsOf task (op :: ops) = turnsOf task ops + turnsOf task [op] := by
  rw [turnsOf, turnsOf, turnsOf, List.countP_cons, List.countP_singleton]

/-- A batch that is past VALIDATING stays past it. -/
theorem past_validating {w : BatchWorld F} (kept : Kept w) {batchId : Nat} {batch : BatchRecord F}
    (found : w.batches[batchId]? = some batch) (past : batch.status ≠ .validating)
    (ops : List BatchOp) : ∃ batch',
      (run (step digest sha256 toLowerCase) w ops).batches[batchId]? = some batch' ∧
        batch'.status ≠ .validating := by
  have far : 1 < batch.status.rank := by
    have drafted := (kept.batches batchId batch found).status
    cases is : batch.status <;> first | decide | exact (drafted is).elim | exact (past is).elim
  have still : ∃ batch', (run (step digest sha256 toLowerCase) w ops).batches[batchId]? =
      some batch' ∧ 1 < batch'.status.rank := by
    clear past
    induction ops generalizing w batch with
    | nil => exact ⟨batch, found, far⟩
    | cons op rest ih =>
      obtain ⟨next, found', -, rank, -⟩ := onward_step digest kept op batchId batch found
      exact ih (kept.step op) found' (far.trans_le rank)
  obtain ⟨batch', found', far'⟩ := still
  refine ⟨batch', found', ?_⟩
  intro is
  rw [is] at far'
  exact absurd far' (by decide)

/-- An import whose rows can be stored is through when it has taken one turn more than it has rows,
whatever is interleaved: its batch is past VALIDATING. -/
theorem import_through {w : BatchWorld F} (imported : Imported sha256 toLowerCase w)
    {task batchId : Nat} {actor : PrincipalRef} {remaining : List RowResult}
    (found : w.tasks[task]? = some (.importing batchId actor remaining))
    (storable : ∀ result ∈ remaining, Storable (rawOf result)) {ops : List BatchOp}
    (turns : remaining.length < turnsOf task ops) : ∃ batch,
      (run (step digest sha256 toLowerCase) w ops).batches[batchId]? = some batch ∧
        batch.status ≠ .validating := by
  induction ops generalizing w remaining with
  | nil => cases turns
  | cons op rest ih =>
    have next : Imported sha256 toLowerCase (step digest sha256 toLowerCase w op) :=
      imported.step op
    rw [turnsOf_cons] at turns
    rw [run_cons]
    by_cases other : turnsOf task [op] = 0
    · rw [other, Nat.add_zero] at turns
      exact ih next (task_stays imported.kept found other) storable turns
    · obtain ⟨given, rfl⟩ : ∃ given, op = .goOn task given := by
        cases op with
        | goOn task' given =>
          by_cases same : task' = task
          · exact ⟨given, by rw [same]⟩
          · exact (other (by simp [turnsOf, same])).elim
        | _ => exact (other rfl).elim
      have one : turnsOf task [.goOn task given] = 1 := by simp [turnsOf]
      rw [one] at turns
      cases remaining with
      | cons result remaining =>
        obtain ⟨s, row, is, -⟩ :=
          goOn_recorded digest imported found (storable result List.mem_cons_self) given
        refine ih next ?_ (fun result mem => storable result (List.mem_cons_of_mem _ mem)) ?_
        · rw [is, BatchWorld.setTask, List.getElem?_set_self]
          exact (List.getElem?_eq_some_iff.mp found).1
        · rw [List.length_cons] at turns
          omega
      | nil =>
        obtain ⟨batch, isBatch, -⟩ := imported.kept.tasks _ (List.mem_of_getElem? found)
        obtain ⟨batch', found', past⟩ := advance_validated imported.kept isBatch given.now
        have done : (step digest sha256 toLowerCase w (.goOn task given)).batches[batchId]? =
            some batch' := by
          rw [step, found]
          exact found'
        exact past_validating next.kept done past rest

/-- In every run, an import whose rows can be stored is through when it has taken one turn more than
it has rows: each row of its file is recorded. -/
theorem import_completes {before more : List BatchOp} {task batchId : Nat} {actor : PrincipalRef}
    {remaining : List RowResult}
    (found : (run (step digest sha256 toLowerCase) .empty before).tasks[task]? =
      some (.importing batchId actor remaining))
    (storable : ∀ result ∈ remaining, Storable (rawOf result))
    (turns : remaining.length < turnsOf task more) : ∃ batch,
      (run (step digest sha256 toLowerCase) .empty (before ++ more)).batches[batchId]? =
        some batch ∧ batch.status ≠ .validating ∧
      List.Forall₂
        (Records (run (step digest sha256 toLowerCase) .empty (before ++ more)).settlements)
        batch.parsed
        ((run (step digest sha256 toLowerCase) .empty (before ++ more)).rowsOf batchId) := by
  have kept : Kept (run (step digest sha256 toLowerCase) .empty (before ++ more)) := kept_run _
  rw [run_append] at kept ⊢
  obtain ⟨batch, isBatch, past⟩ := import_through (imported_run before) found storable turns
  have records := (kept.batches batchId batch isBatch).recorded
  rw [(kept.batches batchId batch isBatch).whole past, List.take_length] at records
  exact ⟨batch, isBatch, past, records⟩

/-! ### A file of one row, for example -/

def sampleImport : ImportInput where
  name := "September".toList
  csv := "beneficiary_id,amount_inr,purpose_code\nben_1,12,P".toList
  actor := ⟨.user, "usr_1"⟩
  purposeCodes := ["P".toList]

def sampleParsed : BatchCsv.ParsedRow where
  line := 2
  raw := [("beneficiary_id".toList, "ben_1".toList), ("amount_inr".toList, "12".toList),
    ("purpose_code".toList, "P".toList)]
  beneficiaryId := "ben_1".toList
  amountMinor := 1200
  purposeCode := "P".toList
  externalReference := none

theorem parse_sample : parseBatchCsv id sampleImport.csv
    ⟨sampleImport.purposeCodes, sampleImport.maxRows⟩ = .ok [.accepted sampleParsed] := by
  decide +kernel

/-- Runs with the texts themselves for fingerprints. -/
abbrev sampleRun (ops : List BatchOp) : BatchWorld (List Char) :=
  run (step (fun _ => "") id id) .empty ops

theorem import_sample : importBatchCsv id id sampleImport (sampleRun []) =
    (.started 0, ({ sampleRun [] with
      batches := [container id sampleImport [.accepted sampleParsed]] } :
        BatchWorld (List Char)).addTask
      (.importing 0 sampleImport.actor [.accepted sampleParsed])) := by
  unfold importBatchCsv
  rw [parse_sample]
  rfl

theorem import_completes_sample : ∃ batch,
    (sampleRun ([.importBatchCsv sampleImport] ++ [.goOn 0 {}, .goOn 0 {}])).batches[0]? =
      some batch ∧ batch.status ≠ .validating ∧ List.Forall₂
      (Records (sampleRun ([.importBatchCsv sampleImport] ++
        [.goOn 0 {}, .goOn 0 {}])).settlements) batch.parsed
      ((sampleRun ([.importBatchCsv sampleImport] ++ [.goOn 0 {}, .goOn 0 {}])).rowsOf 0) := by
  have found : (sampleRun [.importBatchCsv sampleImport]).tasks[0]? =
      some (.importing 0 sampleImport.actor [.accepted sampleParsed]) := by
    have imported := import_sample
    rw [sampleRun, run_nil] at imported
    rw [sampleRun, run_cons, run_nil, step, imported]
    rfl
  refine import_completes found ?_ (by decide)
  intro result mem
  cases List.mem_singleton.mp mem
  decide

end InrSettle.Batch
