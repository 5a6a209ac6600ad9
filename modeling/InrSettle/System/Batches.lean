import InrSettle.System.BatchOperations
import InrSettle.System.BatchRows
import InrSettle.System.Transitions

/-!
# Batches over runs

What the tables of batches hold in every state, whatever is interleaved with an import: each batch
has the rows of its file in order, a settlement of its own for each row that was accepted, and a
refresh writes what the settlements show.
-/

namespace InrSettle.Batch

open Transaction Run
open BatchCsv (Raw RowError RowResult ParsedRow)

/-! ### Settlements later on -/

/-- The columns of a settlement that say what was asked for. -/
structure AskedColumns where
  beneficiaryId : String
  recipientAmountMinor : Int
  purposeCode : Option String
  deriving DecidableEq

def asked (row : SettlementRow) : AskedColumns :=
  ⟨row.beneficiaryId, row.recipientAmountMinor, row.purposeCode⟩

theorem asked_applyPatch (patch : List ColumnWrite) (row : SettlementRow) :
    asked (applyPatch patch row) = asked row := by
  induction patch generalizing row with
  | nil => rfl
  | cons write rest ih =>
    rw [applyPatch_cons, ih]
    cases write <;> rfl

theorem asked_takes {input : ApplyTransitionInput} {t : Transition} {old new : SettlementRow}
    (takes : Takes input t old new) : asked new = asked old := by
  obtain ⟨version, rfl⟩ := takes.moved
  rw [← asked_applyPatch input.patch old]
  cases t.leadsTo old.exceptionEnteredFrom <;> rfl

/-- No trigger leaves a status that is terminal. -/
theorem terminal_source : ∀ t ∈ transitions, ∀ status ∈ t.source, status.isTerminal = false := by
  decide +kernel

/-- A settlement that is there stays, with what was asked for; one that has ended stays as it is. -/
def Stands (c c' : Case) : Prop :=
  ∀ row, c.settlement = some row → ∃ row', c'.settlement = some row' ∧ asked row' = asked row ∧
    (row.status.isTerminal = true → row' = row)

theorem Stands.refl (c : Case) : Stands c c := fun row found => ⟨row, found, rfl, fun _ => rfl⟩

theorem Stands.of_rowMove {op : SettlementOp} {c c' : Case} (moved : RowMove op c c') :
    Stands c c' := by
  intro row found
  cases moved with
  | still settlement => exact ⟨row, settlement.trans found, rfl, fun _ => rfl⟩
  | created absent => rw [absent] at found; cases found
  | @taken input old new t was made takes =>
    cases was.symm.trans found
    refine ⟨new, made, asked_takes takes, ?_⟩
    intro ended
    rw [terminal_source _ takes.inTable _ takes.leaves] at ended
    cases ended

/-- The settlements of a tenant later on. -/
def Later (w w' : World) : Prop := ∀ id, Stands (w.now.cases id) (w'.now.cases id)

theorem Later.refl (w : World) : Later w w := fun _ => .refl _

variable (digest : AuthorizedInstruction → String)

theorem later_step (w : World) (op : WorldOp) : Later w (w.step digest op) := by
  intro settlementId
  rcases step_row digest w op settlementId with same | ⟨_, _, -, -, moved⟩
  · exact fun row found => ⟨row, same.trans found, rfl, fun _ => rfl⟩
  · exact .of_rowMove moved

/-- What every settlement shows is the projection of where it is. -/
def Projected (w : World) : Prop := ∀ id, ColumnsKept (w.now.cases id)

theorem projected_step {w : World} (op : WorldOp) (held : Projected w) :
    Projected (w.step digest op) :=
  fun id => step_columnsKept digest id w op (held id)

variable {digest}

/-! ### Rows and what they record -/

/-- What a batch shows of a settlement. -/
def shown (s : SettlementRow) : BatchRowOutcome :=
  rowOutcomeFromCustomerStatus s.customerStatus (some s.status)

theorem shown_spec {w : World} (projected : Projected w) {id : String} {s : SettlementRow}
    (found : (w.now.cases id).settlement = some s) :
    shown s ≠ .invalid ∧ ((shown s).isResolved = true ↔ s.status.isTerminal = true) := by
  rw [shown, (projected id).projected s found]
  exact rowOutcome_of_settlement s.status s.openExceptionCode

/-- The settlement of a row is there, and an outcome that is resolved is that of a settlement that
has ended. -/
def Backed (w : World) (settlementId : Option String) (outcome : BatchRowOutcome) : Prop :=
  ∀ id, settlementId = some id → ∃ s, (w.now.cases id).settlement = some s ∧
    (outcome.isResolved = true → s.status.isTerminal = true ∧ outcome = shown s)

theorem Backed.later {w w' : World} {settlementId : Option String} {outcome : BatchRowOutcome}
    (later : Later w w') (backed : Backed w settlementId outcome) :
    Backed w' settlementId outcome := by
  intro id is
  obtain ⟨s, found, ended⟩ := backed id is
  obtain ⟨s', found', -, same⟩ := later id s found
  refine ⟨s', found', ?_⟩
  intro resolved
  obtain ⟨terminal, shows⟩ := ended resolved
  cases same terminal
  exact ⟨terminal, shows⟩

/-- What a row of the table records of the row of the file. -/
structure Records (w : World) (result : RowResult) (row : BatchRow) : Prop where
  line : row.lineNumber = result.line
  raw : row.raw = rawOf result
  refused : row.settlementId = none → (∃ line raw, result = .rejected line raw row.errors) ∨
    ∃ message, row.errors = [rowErrorFor message]
  accepted : ∀ id, row.settlementId = some id → ∃ parsed s, result = .accepted parsed ∧
    (w.now.cases id).settlement = some s ∧ row.amountMinor = some (parsed.amountMinor : Int) ∧
    asked s = ⟨String.ofList parsed.beneficiaryId, parsed.amountMinor,
      some (String.ofList parsed.purposeCode)⟩

theorem Records.later {w w' : World} {result : RowResult} {row : BatchRow} (later : Later w w')
    (records : Records w result row) : Records w' result row where
  line := records.line
  raw := records.raw
  refused := records.refused
  accepted id is := by
    obtain ⟨parsed, s, accepted, found, amount, columns⟩ := records.accepted id is
    obtain ⟨s', found', same, -⟩ := later id s found
    exact ⟨parsed, s', accepted, found', amount, same.trans columns⟩

/-! ### The table of rows -/

/-- A row but for its outcome. -/
def plain (row : BatchRow) : BatchRow := { row with outcome := .invalid }

theorem records_plain {w : World} {result : RowResult} {row : BatchRow} :
    Records w result (plain row) ↔ Records w result row := by
  constructor <;> intro records
  · exact ⟨records.line, records.raw, records.refused, records.accepted⟩
  · exact ⟨records.line, records.raw, records.refused, records.accepted⟩

structure RowKept (w : World) (row : BatchRow) : Prop where
  checks : RowChecks row
  backed : Backed w row.settlementId row.outcome

structure TableKept (w : World) (rows : List BatchRow) : Prop where
  kept : ∀ row ∈ rows, RowKept w row
  settlements : Table.Unique (·.settlementId) rows
  lines : (rows.map fun row => (row.batchId, row.lineNumber)).Nodup

theorem TableKept.later {w w' : World} {rows : List BatchRow} (later : Later w w')
    (kept : TableKept w rows) : TableKept w' rows where
  kept row mem := ⟨(kept.kept row mem).checks, (kept.kept row mem).backed.later later⟩
  settlements := kept.settlements
  lines := kept.lines

theorem TableKept.insert {w : World} {rows : List BatchRow} {row : BatchRow}
    (kept : TableKept w rows) (new : RowKept w row) (apart : ∀ other ∈ rows, ¬Clashes row other) :
    TableKept w (rows ++ [row]) where
  kept other mem := by
    rcases List.mem_append.mp mem with there | added
    · exact kept.kept other there
    · cases List.mem_singleton.mp added
      exact new
  settlements := by
    apply kept.settlements.append
    apply Table.admits_iff.mpr
    intro id is other mem same
    exact apart other mem (.inr ⟨by rw [same]; exact Option.some_ne_none id, same.trans is.symm⟩)
  lines := by
    rw [List.map_append]
    refine kept.lines.append (List.nodup_singleton _) (List.disjoint_singleton.mpr ?_)
    intro mem
    obtain ⟨other, there, same⟩ := List.mem_map.mp mem
    obtain ⟨batch, line⟩ := Prod.mk.inj same
    exact apart other there (.inl ⟨batch, line⟩)

/-- What has been read of a row stays right: which row it is, and whether it has a settlement. -/
structure ResolvedKept (w : World) (rows : List BatchRow) (batchId : Nat) (q : ResolvedRow) :
    Prop where
  row : ∃ row, rows[q.id]? = some row ∧ row.batchId = batchId ∧
    (q.counted.outcome = .invalid ↔ row.settlementId = none) ∧
    q.counted.amountMinor = row.amountMinor ∧ Backed w row.settlementId q.counted.outcome

/-- Rows are added, and outcomes are written. -/
def Grown (rows rows' : List BatchRow) : Prop := rows.map plain <+: rows'.map plain

theorem grown_of_same {rows rows' : List BatchRow} (same : rows'.map plain = rows.map plain) :
    Grown rows rows' := by
  rw [Grown, same]

theorem Grown.getElem? {rows rows' : List BatchRow} (grown : Grown rows rows') {i : Nat}
    {row : BatchRow} (found : rows[i]? = some row) :
    ∃ row', rows'[i]? = some row' ∧ plain row' = plain row := by
  obtain ⟨more, same⟩ := grown
  have there : (rows'.map plain)[i]? = some (plain row) := by
    rw [← same, List.getElem?_append_left]
    · rw [List.getElem?_map, found]
      rfl
    · rw [List.length_map]
      exact (List.getElem?_eq_some_iff.mp found).1
  rw [List.getElem?_map] at there
  exact Option.map_eq_some_iff.mp there

theorem plain_eq {row row' : BatchRow} (same : plain row' = plain row) :
    row'.batchId = row.batchId ∧ row'.lineNumber = row.lineNumber ∧
      row'.settlementId = row.settlementId ∧ row'.raw = row.raw ∧ row'.errors = row.errors ∧
        row'.amountMinor = row.amountMinor := by
  simpa [plain] using same

theorem ResolvedKept.grown {w w' : World} {rows rows' : List BatchRow} {batchId : Nat}
    {q : ResolvedRow} (kept : ResolvedKept w rows batchId q) (later : Later w w')
    (grown : Grown rows rows') : ResolvedKept w' rows' batchId q := by
  obtain ⟨row, found, batch, invalid, amount, backed⟩ := kept.row
  obtain ⟨row', found', same⟩ := grown.getElem? found
  obtain ⟨batch', -, settlement', -, -, amount'⟩ := plain_eq same
  refine ⟨row', found', batch'.trans batch, ?_, amount.trans amount'.symm, ?_⟩
  · rw [settlement']
    exact invalid
  · rw [settlement']
    exact backed.later later

/-! ### What a refresh reads and writes -/

theorem resolve_kept {w : World} (projected : Projected w) {rows : List BatchRow} {id : Nat}
    {row : BatchRow} (found : rows[id]? = some row) (kept : RowKept w row) :
    ResolvedKept w rows row.batchId (resolve w id row) := by
  refine ⟨row, found, rfl, ?_, rfl, ?_⟩
  all_goals
    rw [resolve]
    dsimp only
  · rcases kept.checks.outcome with ⟨invalid, none_, -⟩ | ⟨valid, some_⟩
    · simp [invalid, none_]
    · rw [if_neg valid]
      obtain ⟨settlementId, is⟩ := Option.ne_none_iff_exists'.mp some_
      obtain ⟨s, there, -⟩ := kept.backed settlementId is
      have shows := (shown_spec projected there).1
      simp [joined, is, there]
      exact shows
  · intro settlementId is
    obtain ⟨s, there, -⟩ := kept.backed settlementId is
    have valid : row.outcome ≠ .invalid := by
      rcases kept.checks.outcome with ⟨-, none_, -⟩ | ⟨valid, -⟩
      · rw [none_] at is
        cases is
      · exact valid
    refine ⟨s, there, ?_⟩
    intro resolved
    have same : (if row.outcome = .invalid then .invalid else rowOutcomeFromCustomerStatus
        ((joined w row).bind (·.customerStatus)) ((joined w row).map (·.status))) = shown s := by
      rw [if_neg valid]
      simp [joined, is, there, shown]
    rw [same] at resolved ⊢
    exact ⟨(shown_spec projected there).2.mp resolved, rfl⟩

theorem readRows_kept {F : Type} {w : BatchWorld F} (projected : Projected w.settlements)
    (kept : TableKept w.settlements w.rows) (batchId : Nat) :
    ∀ q ∈ readRows w batchId, ResolvedKept w.settlements w.rows batchId q := by
  intro q mem
  obtain ⟨⟨row, id⟩, inside, rfl⟩ := List.mem_map.mp mem
  obtain ⟨there, is⟩ := List.mem_filter.mp inside
  have found : w.rows[id]? = some row := List.mk_mem_zipIdx_iff_getElem?.mp there
  have batch : row.batchId = batchId := of_decide_eq_true is
  have read := resolve_kept projected found (kept.kept row (List.mem_of_getElem? found))
  rwa [batch] at read

theorem writeOutcome_kept {w : World} {rows : List BatchRow} {batchId : Nat} {q : ResolvedRow}
    (kept : TableKept w rows) (read : ResolvedKept w rows batchId q) :
    ∃ rows', writeOutcome rows q = some rows' ∧ TableKept w rows' ∧
      rows'.map plain = rows.map plain := by
  obtain ⟨row, found, -, invalid, -, backed⟩ := read.row
  have before := kept.kept row (List.mem_of_getElem? found)
  by_cases same : q.before = q.counted.outcome
  · exact ⟨rows, if_pos same, kept, rfl⟩
  have checks : RowChecks { row with outcome := q.counted.outcome } := by
    refine ⟨before.checks.line, before.checks.storable, ?_, before.checks.amount⟩
    rcases before.checks.outcome with ⟨-, none_, errors⟩ | ⟨-, some_⟩
    · exact .inl ⟨invalid.mpr none_, none_, errors⟩
    · exact .inr ⟨fun is => some_ (invalid.mp is), some_⟩
  have columns : (rows.modify q.id ({ · with outcome := q.counted.outcome })).map plain =
      rows.map plain := Table.map_modify fun _ => rfl
  refine ⟨_, ?_, ⟨?_, ?_, ?_⟩, columns⟩
  · rw [writeOutcome, if_neg same, found]
    exact if_pos checks
  · intro other mem
    obtain ⟨i, there⟩ := List.mem_iff_getElem?.mp mem
    obtain ⟨old, was, new⟩ := Table.getElem?_modify_some.mp there
    split at new
    · rename_i is
      subst is
      cases found.symm.trans was
      rw [new]
      exact ⟨checks, backed⟩
    · rw [new]
      exact kept.kept old (List.mem_of_getElem? was)
  · exact kept.settlements.of_map_eq (Table.map_modify fun _ => rfl)
  · have lines : ((rows.modify q.id ({ · with outcome := q.counted.outcome })).map fun row =>
        (row.batchId, row.lineNumber)) = rows.map fun row => (row.batchId, row.lineNumber) :=
      Table.map_modify fun _ => rfl
    rw [lines]
    exact kept.lines

theorem writeOutcomes_kept {w : World} {batchId : Nat} {resolved : List ResolvedRow}
    {rows : List BatchRow} (kept : TableKept w rows)
    (read : ∀ q ∈ resolved, ResolvedKept w rows batchId q) :
    ∃ rows', resolved.foldlM writeOutcome rows = some rows' ∧ TableKept w rows' ∧
      rows'.map plain = rows.map plain := by
  induction resolved generalizing rows with
  | nil => exact ⟨rows, rfl, kept, rfl⟩
  | cons q rest ih =>
    obtain ⟨rows₁, first, kept₁, same₁⟩ := writeOutcome_kept kept (read q List.mem_cons_self)
    have grown : Grown rows rows₁ := grown_of_same same₁
    obtain ⟨rows₂, others, kept₂, same₂⟩ := ih kept₁ fun q mem =>
      (read q (List.mem_cons_of_mem _ mem)).grown (.refl w) grown
    refine ⟨rows₂, ?_, kept₂, same₂.trans same₁⟩
    rw [List.foldlM_cons, first]
    exact others

/-- A refresh always commits. -/
theorem writeCounts_kept {F : Type} {w : BatchWorld F} {batchId : Nat}
    {resolved : List ResolvedRow} (kept : TableKept w.settlements w.rows)
    (read : ∀ q ∈ resolved, ResolvedKept w.settlements w.rows batchId q) :
    ∃ rows, writeCounts batchId resolved w = some { w with
        rows := rows
        batches := w.batches.modify batchId
          ({ · with counts := aggregate (resolved.map (·.counted)) "INR" }) } ∧
      TableKept w.settlements rows ∧ rows.map plain = w.rows.map plain := by
  obtain ⟨rows, written, kept', same⟩ := writeOutcomes_kept kept read
  refine ⟨rows, ?_, kept', same⟩
  have total : 0 ≤ totalOf (resolved.map (·.counted)) := by
    apply totalOf_nonneg
    intro counted mem amount is
    obtain ⟨q, there, rfl⟩ := List.mem_map.mp mem
    obtain ⟨row, found, -, -, same, -⟩ := (read q there).row
    rw [same] at is
    have positive := (kept.kept row (List.mem_of_getElem? found)).checks.amount amount is
    exact le_of_lt positive
  rw [writeCounts, written]
  dsimp only [Option.bind_eq_bind, Option.bind_some]
  rw [aggregate_eq]
  exact if_pos ⟨Nat.sub_le _ _, total⟩

/-! ### Batches and their files -/

section Kept

variable {F : Type}

/-- The rows of a batch record the rows of its file from the first, and all of them once it has been
validated. -/
structure BatchKept (w : BatchWorld F) (batchId : Nat) (batch : BatchRecord F) : Prop where
  recorded : List.Forall₂ (Records w.settlements)
    (batch.parsed.take (w.rowsOf batchId).length) (w.rowsOf batchId)
  status : batch.status ≠ .draft
  whole : batch.status ≠ .validating → (w.rowsOf batchId).length = batch.parsed.length

theorem BatchKept.length_le {w : BatchWorld F} {batchId : Nat} {batch : BatchRecord F}
    (kept : BatchKept w batchId batch) : (w.rowsOf batchId).length ≤ batch.parsed.length := by
  have same := kept.recorded.length_eq
  rw [List.length_take] at same
  omega

/-- The tasks have no part in it. -/
theorem BatchKept.of_tables {w : BatchWorld F} {tasks : List Task} {batchId : Nat}
    {batch : BatchRecord F} (kept : BatchKept w batchId batch) :
    BatchKept { w with tasks := tasks } batchId batch :=
  ⟨kept.recorded, kept.status, kept.whole⟩

/-- The batch that a task imports. -/
def importerOf : Task → Option Nat
  | .importing batchId _ _ => some batchId
  | _ => none

/-- An import goes on where the rows of its batch end. -/
def TaskKept (w : BatchWorld F) : Task → Prop
  | .importing batchId _ remaining => ∃ batch, w.batches[batchId]? = some batch ∧
      remaining = batch.parsed.drop (w.rowsOf batchId).length
  | .refreshing batchId _ resolved =>
    ∀ q ∈ resolved, ResolvedKept w.settlements w.rows batchId q
  | .executing _ trigger | .finishing _ trigger =>
    trigger = .allRowsResolved ∨ trigger = .someRowsUnresolved
  | _ => True

/-- What holds of the tables in every state. -/
structure Kept (w : BatchWorld F) : Prop where
  projected : Projected w.settlements
  rows : TableKept w.settlements w.rows
  within : ∀ row ∈ w.rows, row.batchId < w.batches.length
  fingerprints : (w.batches.map (·.importFingerprint)).Nodup
  batches : ∀ batchId batch, w.batches[batchId]? = some batch → BatchKept w batchId batch
  tasks : ∀ task ∈ w.tasks, TaskKept w task
  importers : Table.Unique importerOf w.tasks

theorem kept_empty : Kept (.empty : BatchWorld F) where
  projected _ := columnsKept_none rfl
  rows := ⟨fun _ mem => (List.not_mem_nil mem).elim, .nil, List.nodup_nil⟩
  within _ mem := (List.not_mem_nil mem).elim
  fingerprints := List.nodup_nil
  batches _ _ found := by cases found
  tasks _ mem := (List.not_mem_nil mem).elim
  importers := .nil

theorem rowsOf_length {w w' : BatchWorld F} (same : w'.rows.map plain = w.rows.map plain)
    (batchId : Nat) : (w'.rowsOf batchId).map plain = (w.rowsOf batchId).map plain := by
  have filtered : ∀ rows : List BatchRow, (rows.filter fun row => row.batchId = batchId).map plain =
      (rows.map plain).filter fun row => row.batchId = batchId := by
    intro rows
    rw [List.filter_map]
    rfl
  rw [BatchWorld.rowsOf, BatchWorld.rowsOf, filtered, filtered, same]

/-- Nothing is added to the rows, and the files are what they were. -/
structure Same (w w' : BatchWorld F) : Prop where
  later : Later w.settlements w'.settlements
  projected : Projected w'.settlements
  rows : w'.rows.map plain = w.rows.map plain
  table : TableKept w'.settlements w'.rows
  parsed : ∀ batchId batch', w'.batches[batchId]? = some batch' → ∃ batch,
    w.batches[batchId]? = some batch ∧ batch'.parsed = batch.parsed ∧
      batch'.importFingerprint = batch.importFingerprint ∧ batch'.status ≠ .draft ∧
      (batch'.status ≠ .validating → (w.rowsOf batchId).length = batch.parsed.length)
  count : w'.batches.length = w.batches.length

theorem Same.length {w w' : BatchWorld F} (same : Same w w') (batchId : Nat) :
    (w'.rowsOf batchId).length = (w.rowsOf batchId).length := by
  have columns := congrArg List.length (rowsOf_length same.rows batchId)
  simpa only [List.length_map] using columns

theorem Same.batchKept {w w' : BatchWorld F} (same : Same w w') (kept : Kept w) (batchId : Nat)
    (batch' : BatchRecord F) (found : w'.batches[batchId]? = some batch') :
    BatchKept w' batchId batch' := by
  obtain ⟨batch, was, parsed, -, status, whole⟩ := same.parsed batchId batch' found
  refine ⟨?_, status, ?_⟩
  · have records := (kept.batches batchId batch was).recorded
    have plainly : ∀ (v : World) (results : List RowResult) (rows : List BatchRow),
        List.Forall₂ (Records v) results (rows.map plain) ↔
          List.Forall₂ (Records v) results rows := by
      intro v results rows
      rw [List.forall₂_map_right_iff]
      simp only [records_plain]
    rw [same.length, parsed, ← plainly, rowsOf_length same.rows, plainly]
    exact records.imp fun _ _ record => record.later same.later
  · intro other
    rw [same.length, parsed]
    exact whole other

theorem Same.taskKept {w w' : BatchWorld F} (same : Same w w') {task : Task}
    (kept : TaskKept w task) : TaskKept w' task := by
  cases task with
  | importing batchId actor remaining =>
    obtain ⟨batch, found, is⟩ := kept
    have lt := (List.getElem?_eq_some_iff.mp found).1
    rw [← same.count] at lt
    obtain ⟨batch₀, was, parsed, -⟩ := same.parsed batchId _ (List.getElem?_eq_getElem lt)
    cases found.symm.trans was
    refine ⟨_, List.getElem?_eq_getElem lt, ?_⟩
    rw [parsed, same.length]
    exact is
  | refreshing batchId closes resolved =>
    intro q mem
    exact (kept q mem).grown same.later (grown_of_same same.rows)
  | _ => exact kept

theorem Same.kept {w w' : BatchWorld F} (same : Same w w') (kept : Kept w)
    (tasks : w'.tasks = w.tasks) : Kept w' where
  projected := same.projected
  rows := same.table
  within row mem := by
    obtain ⟨row₀, there, is⟩ : ∃ row₀ ∈ w.rows, plain row₀ = plain row := by
      rw [← List.mem_map, ← same.rows]
      exact List.mem_map_of_mem mem
    rw [same.count, (plain_eq is).1.symm]
    exact kept.within row₀ there
  fingerprints := by
    have column : w'.batches.map (·.importFingerprint) = w.batches.map (·.importFingerprint) := by
      refine List.ext_getElem (by simp [same.count]) ?_
      intro i lt' lt
      rw [List.length_map] at lt lt'
      obtain ⟨batch, was, -, is, -⟩ := same.parsed i _ (List.getElem?_eq_getElem lt')
      cases (List.getElem?_eq_getElem lt).symm.trans was
      simpa using is
    rw [column]
    exact kept.fingerprints
  batches := same.batchKept kept
  tasks task mem := by
    rw [tasks] at mem
    exact same.taskKept (kept.tasks task mem)
  importers := by
    rw [tasks]
    exact kept.importers

/-! ### What the transactions keep -/

theorem Kept.setTask {w : BatchWorld F} (kept : Kept w) {task : Nat} {old next : Task}
    (found : w.tasks[task]? = some old) (nextKept : TaskKept w next)
    (importer : importerOf next = none ∨ importerOf next = importerOf old) :
    Kept (w.setTask task next) where
  projected := kept.projected
  rows := kept.rows
  within := kept.within
  fingerprints := kept.fingerprints
  batches batchId batch found := (kept.batches batchId batch found).of_tables
  tasks other mem := by
    rcases List.mem_or_eq_of_mem_set mem with there | is
    · exact kept.tasks other there
    · rw [is]
      exact nextKept
  importers := by
    rcases importer with none_ | same
    · apply kept.importers.set
      intro batchId is
      rw [none_] at is
      cases is
    · apply kept.importers.of_map_eq
      have at_ : (w.tasks.map importerOf)[task]? = some (importerOf next) := by
        rw [List.getElem?_map, found, same]
        rfl
      obtain ⟨lt, is⟩ := List.getElem?_eq_some_iff.mp at_
      rw [BatchWorld.setTask, List.map_set, ← is, List.set_getElem_self]

theorem Kept.addTask {w : BatchWorld F} (kept : Kept w) {task : Task} (new : TaskKept w task)
    (importer : importerOf task = none) : Kept (w.addTask task) where
  projected := kept.projected
  rows := kept.rows
  within := kept.within
  fingerprints := kept.fingerprints
  batches batchId batch found := (kept.batches batchId batch found).of_tables
  tasks other mem := by
    rcases List.mem_append.mp mem with there | added
    · exact kept.tasks other there
    · cases List.mem_singleton.mp added
      exact new
  importers := by
    apply kept.importers.append
    apply Table.admits_iff.mpr
    intro batchId is
    rw [importer] at is
    cases is

theorem Kept.sameSettlements {w : BatchWorld F} (kept : Kept w) {s : World}
    (later : Later w.settlements s) (projected : Projected s) :
    Same w { w with settlements := s } where
  later := later
  projected := projected
  rows := rfl
  table := kept.rows.later later
  parsed batchId batch found :=
    ⟨batch, found, rfl, rfl, (kept.batches batchId batch found).status,
      (kept.batches batchId batch found).whole⟩
  count := rfl

theorem Kept.sameModify {w : BatchWorld F} (kept : Kept w) {batchId : Nat}
    {f : BatchRecord F → BatchRecord F}
    (columns : ∀ batch, w.batches[batchId]? = some batch → (f batch).parsed = batch.parsed ∧
      (f batch).importFingerprint = batch.importFingerprint ∧ (f batch).status ≠ .draft ∧
      ((f batch).status ≠ .validating → (w.rowsOf batchId).length = batch.parsed.length))
    {rows : List BatchRow} (table : TableKept w.settlements rows)
    (same : rows.map plain = w.rows.map plain) :
    Same w { w with rows := rows, batches := w.batches.modify batchId f } where
  later := .refl _
  projected := kept.projected
  rows := same
  table := table
  parsed id batch' found := by
    obtain ⟨batch, was, is⟩ := Table.getElem?_modify_some.mp found
    refine ⟨batch, was, ?_⟩
    split at is
    · rename_i here
      subst here
      rw [is]
      exact columns batch was
    · rw [is]
      exact ⟨rfl, rfl, (kept.batches id batch was).status, (kept.batches id batch was).whole⟩
  count := List.length_modify _ _ _

theorem advanceBatch_some {w w' : BatchWorld F} {batchId : Nat} {trigger : BatchTrigger}
    {now : Instant} (done : advanceBatch batchId trigger now w = some w') :
    ∃ batch t, w.batches[batchId]? = some batch ∧
      evaluateBatchTransition (some batch.status) trigger = some t ∧
      w' = { w with batches := w.batches.modify batchId (moved t.target now) } := by
  obtain ⟨batch, found, done⟩ := Option.bind_eq_some_iff.mp done
  obtain ⟨t, evaluated, is⟩ := Option.bind_eq_some_iff.mp done
  exact ⟨batch, t, found, evaluated, (Option.some.inj is).symm⟩

theorem target_of_evaluate {status : BatchStatus} {trigger : BatchTrigger} {t : BatchTransition}
    (found : evaluateBatchTransition (some status) trigger = some t) :
    t.target ≠ .draft ∧ (status = .validating → trigger = .validated) := by
  revert found
  cases status <;> cases trigger <;> rintro ⟨⟩ <;> decide

/-- A batch moves on: out of VALIDATING only by the trigger of its import, when all rows are there. -/
theorem Kept.advance {w w' : BatchWorld F} (kept : Kept w) {batchId : Nat} {trigger : BatchTrigger}
    {now : Instant} (done : advanceBatch batchId trigger now w = some w')
    (whole : trigger = .validated → ∀ batch, w.batches[batchId]? = some batch →
      (w.rowsOf batchId).length = batch.parsed.length) : Same w w' ∧ w'.tasks = w.tasks := by
  obtain ⟨batch, t, found, evaluated, rfl⟩ := advanceBatch_some done
  obtain ⟨target, source⟩ := target_of_evaluate evaluated
  refine ⟨?_, rfl⟩
  apply kept.sameModify ?_ kept.rows rfl
  intro batch' found'
  cases found.symm.trans found'
  refine ⟨rfl, rfl, target, fun _ => ?_⟩
  by_cases validating : batch.status = .validating
  · exact whole (source validating) batch found
  · exact (kept.batches batchId batch found).whole validating

/-- The same, where an answer that it did not move is not looked at. -/
theorem Kept.advanced {w : BatchWorld F} (kept : Kept w) {batchId : Nat} (trigger : BatchTrigger)
    (now : Instant) (whole : trigger = .validated → ∀ batch, w.batches[batchId]? = some batch →
      (w.rowsOf batchId).length = batch.parsed.length) :
    Kept ((advanceBatch batchId trigger now w).getD w) ∧
      ((advanceBatch batchId trigger now w).getD w).tasks = w.tasks := by
  cases done : advanceBatch batchId trigger now w with
  | none => exact ⟨kept, rfl⟩
  | some w' =>
    obtain ⟨same, tasks⟩ := kept.advance done whole
    exact ⟨same.kept kept tasks, tasks⟩

/-! ### The transaction of a row -/

theorem insertRow_some {w w' : BatchWorld F} {row : BatchRow} :
    w.insertRow row = some w' ↔ (RowChecks row ∧ ∀ other ∈ w.rows, ¬Clashes row other) ∧
      w' = { w with rows := w.rows ++ [row] } := by
  unfold BatchWorld.insertRow
  rw [Option.ite_none_right_eq_some, Option.some.injEq, eq_comm (b := w')]

theorem createSettlement_commits {input : CreateInput} {c c' : Case} {id : String}
    (done : Commits (createSettlement input) c id c') : c'.settlement = some input.row := by
  simp only [createSettlement, CaseTables.insertSettlement, CaseTables.emit, CaseTables.audit,
    bind_assoc, commits_get_bind, commits_require_bind, commits_modify_bind, commits_pure] at done
  obtain ⟨-, -, -, rfl⟩ := done
  rfl

theorem created_some {input : CreateInput} {w w' : BatchWorld F}
    (done : created digest input w = some w') : ∃ s, w' = { w with settlements := s } ∧
      s = w.settlements.step digest (.settlement 0 (.createSettlement input)) ∧
      (s.now.cases input.settlementId).settlement = some input.row := by
  unfold created at done
  split at done
  · rename_i answered
    obtain ⟨id, is⟩ := Option.isSome_iff_exists.mp answered
    obtain ⟨c, inner, same⟩ := commits_onCase.mp (answer_some is)
    refine ⟨_, (Option.some.inj done).symm, rfl, ?_⟩
    have subject : (w.settlements.step digest (.settlement 0 (.createSettlement input))).now.cases
        input.settlementId = (settlementStep digest
          (w.settlements.read 0 (.createSettlement input))
          (w.settlements.now.store input.settlementId) (.createSettlement input)).case :=
      step_case_subject
    have case_ : (settlementStep digest (w.settlements.read 0 (.createSettlement input))
        (w.settlements.now.store input.settlementId) (.createSettlement input)).case = c :=
      congrArg Store.case same
    exact (congrArg Case.settlement (subject.trans case_)).trans (createSettlement_commits inner)
  · cases done

/-- A row is added that records the row of the file. -/
structure Adds (w : BatchWorld F) (batchId : Nat) (result : RowResult) (s : World)
    (row : BatchRow) : Prop where
  later : Later w.settlements s
  projected : Projected s
  batch : row.batchId = batchId
  kept : RowKept s row
  apart : ∀ other ∈ w.rows, ¬Clashes row other
  records : Records s result row

theorem adds_invalid {w : BatchWorld F} (projected : Projected w.settlements) {batchId : Nat}
    {result : RowResult} {errors : List RowError}
    (told : (∃ line raw, result = .rejected line raw errors) ∨
      ∃ message, errors = [rowErrorFor message])
    {row : BatchRow} (is : row = invalidRow batchId result.line (rawOf result) errors)
    (checks : RowChecks row) (apart : ∀ other ∈ w.rows, ¬Clashes row other) :
    Adds w batchId result w.settlements row := by
  subst is
  refine ⟨.refl _, projected, rfl, ⟨checks, ?_⟩, apart, ?_⟩
  · intro id is
    cases is
  · refine ⟨rfl, rfl, fun _ => told, ?_⟩
    intro id is
    cases is

theorem rowTransaction_some {w w' : BatchWorld F} (projected : Projected w.settlements)
    {batchId : Nat} {actor : PrincipalRef} {given : Given} {result : RowResult}
    (done : rowTransaction digest batchId actor given w result = some w') :
    ∃ s row, w' = { w with settlements := s, rows := w.rows ++ [row] } ∧
      Adds w batchId result s row := by
  cases result with
  | rejected line raw errors =>
    obtain ⟨⟨checks, apart⟩, rfl⟩ := insertRow_some.mp done
    exact ⟨w.settlements, _, rfl, adds_invalid projected (.inl ⟨line, raw, rfl⟩) rfl checks apart⟩
  | accepted parsed =>
    obtain ⟨w₁, creates, inserts⟩ := Option.bind_eq_some_iff.mp done
    obtain ⟨s, rfl, is, found⟩ := created_some creates
    obtain ⟨⟨checks, apart⟩, rfl⟩ := insertRow_some.mp inserts
    refine ⟨s, _, rfl, ?_, ?_, rfl, ⟨checks, ?_⟩, apart, ?_⟩
    · rw [is]
      exact later_step digest _ _
    · rw [is]
      exact projected_step digest _ projected
    · intro id isId
      cases isId
      exact ⟨_, found, fun resolved => by cases resolved⟩
    · refine ⟨rfl, rfl, ?_, ?_⟩
      · intro none_
        cases none_
      · intro id isId
        cases isId
        exact ⟨parsed, _, rfl, found, rfl, rfl⟩

theorem importRow_some {w w' : BatchWorld F} (projected : Projected w.settlements)
    {batchId : Nat} {actor : PrincipalRef} {given : Given} {result : RowResult}
    (done : importRow digest batchId actor given w result = some w') :
    ∃ s row, w' = { w with settlements := s, rows := w.rows ++ [row] } ∧
      Adds w batchId result s row := by
  unfold importRow at done
  rcases Option.or_eq_some_iff.mp done with tried | ⟨-, inserted⟩
  · split at tried
    · cases tried
    · exact rowTransaction_some projected tried
  · obtain ⟨⟨checks, apart⟩, rfl⟩ := insertRow_some.mp inserted
    exact ⟨w.settlements, _, rfl, adds_invalid projected (.inr ⟨_, rfl⟩) rfl checks apart⟩

theorem rowsOf_insert (w : BatchWorld F) (s : World) (row : BatchRow) (batchId : Nat) :
    ({ w with settlements := s, rows := w.rows ++ [row] } : BatchWorld F).rowsOf batchId =
      w.rowsOf batchId ++ if row.batchId = batchId then [row] else [] := by
  rw [BatchWorld.rowsOf, List.filter_append, List.filter_singleton]
  by_cases is : row.batchId = batchId <;> simp [is, BatchWorld.rowsOf]

theorem grown_insert (rows : List BatchRow) (row : BatchRow) : Grown rows (rows ++ [row]) := by
  rw [Grown, List.map_append]
  exact List.prefix_append _ _

theorem take_drop_cons {A : Type} {all rest : List A} {n : Nat} {a : A}
    (is : a :: rest = all.drop n) : all.take (n + 1) = all.take n ++ [a] ∧ rest = all.drop (n + 1) := by
  have at_ : all[n]? = some a := by
    rw [← List.head?_drop, ← is]
    rfl
  constructor
  · rw [List.take_add_one, at_]
    rfl
  · rw [← List.drop_drop, ← is]
    rfl

/-- An import takes one step on. -/
theorem Kept.added {w : BatchWorld F} (kept : Kept w) {task batchId : Nat} {actor : PrincipalRef}
    {result : RowResult} {remaining : List RowResult} {s : World} {row : BatchRow}
    (found : w.tasks[task]? = some (.importing batchId actor (result :: remaining)))
    (adds : Adds w batchId result s row) :
    Kept (({ w with settlements := s, rows := w.rows ++ [row] } : BatchWorld F).setTask task
      (.importing batchId actor remaining)) := by
  obtain ⟨batch, isBatch, goesOn⟩ := kept.tasks _ (List.mem_of_getElem? found)
  obtain ⟨taken, dropped⟩ := take_drop_cons goesOn
  have settled := kept.sameSettlements adds.later adds.projected
  have own : row.batchId = batchId := adds.batch
  refine ⟨adds.projected, settled.table.insert adds.kept adds.apart, ?_, kept.fingerprints, ?_, ?_, ?_⟩
  · intro other mem
    rcases List.mem_append.mp mem with there | new
    · exact kept.within other there
    · cases List.mem_singleton.mp new
      rw [own]
      exact (List.getElem?_eq_some_iff.mp isBatch).1
  · intro id other isOther
    have before := settled.batchKept kept id other isOther
    apply BatchKept.of_tables
    have rowsOf := rowsOf_insert w s row id
    by_cases here : id = batchId
    · subst here
      cases isBatch.symm.trans isOther
      rw [if_pos own] at rowsOf
      refine ⟨?_, before.status, ?_⟩
      · rw [rowsOf, List.length_append, List.length_singleton, taken]
        exact List.rel_append before.recorded (.cons adds.records .nil)
      · intro validated
        have all := before.whole validated
        have nothing : batch.parsed.drop (w.rowsOf id).length = [] := by
          rw [show (w.rowsOf id).length = batch.parsed.length from all]
          exact List.drop_length
        rw [nothing] at goesOn
        cases goesOn
    · rw [if_neg fun is => here (is.symm.trans own), List.append_nil] at rowsOf
      refine ⟨?_, before.status, ?_⟩
      · rw [rowsOf]
        exact before.recorded
      · rw [rowsOf]
        exact before.whole
  · intro other mem
    have same : ∀ id, id ≠ batchId → ({ w with
        settlements := s, rows := w.rows ++ [row] } : BatchWorld F).rowsOf id = w.rowsOf id := by
      intro id apart
      rw [rowsOf_insert, if_neg fun is => apart (is.symm.trans own), List.append_nil]
    obtain ⟨i, at_⟩ := List.mem_iff_getElem?.mp mem
    rw [BatchWorld.setTask, List.getElem?_set] at at_
    split at at_
    · split at at_
      · cases at_
        refine ⟨batch, isBatch, ?_⟩
        show remaining = batch.parsed.drop (({ w with
          settlements := s, rows := w.rows ++ [row] } : BatchWorld F).rowsOf batchId).length
        rw [rowsOf_insert, if_pos own, List.length_append, List.length_singleton]
        exact dropped
      · cases at_
    · rename_i elsewhere
      have held := kept.tasks other (List.mem_of_getElem? at_)
      cases other with
      | importing id actor' left =>
        have apart : id ≠ batchId := by
          rintro rfl
          exact elsewhere (kept.importers.index_eq found at_ rfl rfl)
        obtain ⟨batch', isBatch', is⟩ := held
        refine ⟨batch', isBatch', ?_⟩
        rw [is]
        exact congrArg (fun rows : List BatchRow => batch'.parsed.drop rows.length)
          (same id apart).symm
      | refreshing id closes resolved =>
        intro q inside
        exact (held q inside).grown adds.later (grown_insert w.rows row)
      | _ => exact held
  · apply kept.importers.of_map_eq
    obtain ⟨lt, is⟩ := List.getElem?_eq_some_iff.mp found
    have at_ : (w.tasks.map importerOf)[task]? = some (some batchId) := by
      rw [List.getElem?_map, found]
      rfl
    obtain ⟨lt', is'⟩ := List.getElem?_eq_some_iff.mp at_
    rw [BatchWorld.setTask, List.map_set]
    show (w.tasks.map importerOf).set task (some batchId) = _
    rw [← is', List.set_getElem_self]

/-! ### Steps -/

theorem Kept.goOn {w : BatchWorld F} (kept : Kept w) {task : Nat} {at_ : Task}
    (found : w.tasks[task]? = some at_) (given : Given) :
    Kept (goOn digest task given w at_) := by
  have held := kept.tasks at_ (List.mem_of_getElem? found)
  cases at_ with
  | importing batchId actor remaining =>
    cases remaining with
    | cons result remaining =>
      rw [Batch.goOn]
      cases done : importRow digest batchId actor given w result with
      | none => exact kept.setTask found trivial (.inl rfl)
      | some w' =>
        obtain ⟨s, row, rfl, adds⟩ := importRow_some kept.projected done
        exact kept.added found adds
    | nil =>
      obtain ⟨batch, isBatch, ended⟩ := held
      have whole : ∀ batch, w.batches[batchId]? = some batch →
          (w.rowsOf batchId).length = batch.parsed.length := by
        intro batch' isBatch'
        cases isBatch.symm.trans isBatch'
        have most := (kept.batches batchId batch isBatch).length_le
        have least := List.drop_eq_nil_iff.mp ended.symm
        omega
      obtain ⟨advanced, tasks⟩ := kept.advanced .validated given.now fun _ => whole
      exact advanced.setTask (tasks ▸ found) trivial (.inl rfl)
  | refresh batchId closes =>
    exact kept.setTask found (readRows_kept kept.projected kept.rows batchId) (.inl rfl)
  | refreshing batchId closes resolved =>
    obtain ⟨rows, done, table, same⟩ := writeCounts_kept kept.rows held
    have written : Kept { w with
        rows := rows
        batches := w.batches.modify batchId
          ({ · with counts := aggregate (resolved.map (·.counted)) "INR" }) } := by
      refine (kept.sameModify ?_ table same).kept kept rfl
      intro batch isBatch
      exact ⟨rfl, rfl, (kept.batches batchId batch isBatch).status,
        (kept.batches batchId batch isBatch).whole⟩
    rw [Batch.goOn, done]
    dsimp only
    split
    · exact written.setTask found trivial (.inl rfl)
    · exact written.setTask found trivial (.inl rfl)
  | closing batchId status =>
    rw [Batch.goOn]
    split
    · exact kept.setTask found trivial (.inl rfl)
    · rename_i trigger reached
      obtain ⟨-, -, which⟩ := terminalOutcome_some reached
      have ends : trigger = .allRowsResolved ∨ trigger = .someRowsUnresolved :=
        which.imp And.left And.left
      split
      · exact kept.setTask found ends (.inl rfl)
      · exact kept.setTask found ends (.inl rfl)
  | executing batchId trigger =>
    rw [Batch.goOn]
    cases done : advanceBatch batchId .beginExecution given.now w with
    | none => exact kept.setTask found trivial (.inl rfl)
    | some w' =>
      obtain ⟨same, tasks⟩ := kept.advance done fun is => by cases is
      exact (same.kept kept tasks).setTask (tasks ▸ found) held (.inl rfl)
  | finishing batchId trigger =>
    have other : trigger ≠ .validated := by
      intro is
      rcases held with other | other <;> rw [is] at other <;> cases other
    obtain ⟨advanced, tasks⟩ := kept.advanced trigger given.now fun is => (other is).elim
    exact advanced.setTask (tasks ▸ found) trivial (.inl rfl)
  | listing batchId => exact kept.setTask found trivial (.inl rfl)
  | authorizing batchId eligible authorized =>
    cases eligible with
    | cons settlementId eligible =>
      rw [Batch.goOn]
      split
      · exact kept.setTask found trivial (.inl rfl)
      · rename_i input _
        let op := WorldOp.settlement given.asOf
          (.authorizeSettlement { input with settlementId := settlementId })
        have settled := kept.sameSettlements (later_step digest w.settlements op)
          (projected_step digest op kept.projected)
        exact (settled.kept kept rfl).setTask found trivial (.inl rfl)
    | nil =>
      rw [Batch.goOn]
      split
      · obtain ⟨advanced, tasks⟩ := kept.advanced .beginExecution given.now fun is => by cases is
        exact advanced.setTask (tasks ▸ found) trivial (.inl rfl)
      · exact kept.setTask found trivial (.inl rfl)
  | ended => exact kept

theorem rowsOf_fresh {w : BatchWorld F} (kept : Kept w) : w.rowsOf w.batches.length = [] := by
  apply List.filter_eq_nil_iff.mpr
  intro row mem is
  have lt := kept.within row mem
  rw [of_decide_eq_true is] at lt
  exact lt.false

/-- A container is added, with the task that imports it. -/
theorem Kept.started {w : BatchWorld F} (kept : Kept w) {batch : BatchRecord F}
    (status : batch.status = .validating)
    (fresh : batch.importFingerprint ∉ w.batches.map (·.importFingerprint)) (actor : PrincipalRef) :
    Kept (({ w with batches := w.batches ++ [batch] } : BatchWorld F).addTask
      (.importing w.batches.length actor batch.parsed)) := by
  have stays : ∀ (id : Nat) other, w.batches[id]? = some other →
      (w.batches ++ [batch])[id]? = some other := by
    intro id other found
    rw [List.getElem?_append_left (List.getElem?_eq_some_iff.mp found).1]
    exact found
  refine ⟨kept.projected, kept.rows, ?_, ?_, ?_, ?_, ?_⟩
  · intro row mem
    show row.batchId < (w.batches ++ [batch]).length
    rw [List.length_append]
    exact Nat.lt_of_lt_of_le (kept.within row mem) (Nat.le_add_right _ _)
  · show ((w.batches ++ [batch]).map (·.importFingerprint)).Nodup
    rw [List.map_append]
    exact kept.fingerprints.append (List.nodup_singleton _) (List.disjoint_singleton.mpr fresh)
  · intro id other found
    apply BatchKept.of_tables
    rcases Table.getElem?_concat_some.mp found with there | ⟨is, rfl⟩
    · have before := kept.batches id other there
      exact ⟨before.recorded, before.status, before.whole⟩
    · have none_ : (⟨w.settlements, w.batches ++ [other], w.rows, w.tasks⟩ :
          BatchWorld F).rowsOf id = [] := is ▸ rowsOf_fresh kept
      refine ⟨?_, by rw [status]; decide, fun validated => (validated status).elim⟩
      rw [none_]
      exact .nil
  · intro task mem
    rcases List.mem_append.mp mem with there | new
    · have held := kept.tasks task there
      cases task with
      | importing id actor' remaining =>
        obtain ⟨other, found, goesOn⟩ := held
        exact ⟨other, stays id other found, goesOn⟩
      | _ => exact held
    · cases List.mem_singleton.mp new
      refine ⟨batch, List.getElem?_concat_length, ?_⟩
      show batch.parsed = batch.parsed.drop (w.rowsOf w.batches.length).length
      rw [rowsOf_fresh kept]
      rfl
  · apply kept.importers.append
    apply Table.admits_iff.mpr
    intro id is task mem same
    cases is
    have held := kept.tasks task mem
    cases task with
    | importing id actor' remaining =>
      obtain ⟨other, found, -⟩ := held
      cases same
      exact (List.getElem?_eq_some_iff.mp found).1.false
    | _ => cases same

variable [DecidableEq F] {sha256 : List Char → F} {toLowerCase : List Char → List Char}

/-- What comes of an import, up to its container. -/
theorem importBatchCsv_cases (input : ImportInput) (w : BatchWorld F) :
    (importBatchCsv sha256 toLowerCase input w).2 = w ∧
        (∀ batchId, (importBatchCsv sha256 toLowerCase input w).1 ≠ .started batchId) ∨ ∃ parsed,
      BatchCsv.parseBatchCsv toLowerCase input.csv ⟨input.purposeCodes, input.maxRows⟩ =
        .ok parsed ∧
      importFingerprint sha256 input.name input.csv ∉ w.batches.map (·.importFingerprint) ∧
      nameAccepted input.name = true ∧ importBatchCsv sha256 toLowerCase input w =
        (.started w.batches.length,
          ({ w with batches := w.batches ++ [container sha256 input parsed] } :
            BatchWorld F).addTask (.importing w.batches.length input.actor parsed)) := by
  unfold importBatchCsv
  cases BatchCsv.parseBatchCsv toLowerCase input.csv ⟨input.purposeCodes, input.maxRows⟩ with
  | error errors => exact .inl ⟨rfl, fun _ is => by cases is⟩
  | ok parsed =>
    dsimp only
    split
    · exact .inl ⟨rfl, fun _ is => by cases is⟩
    · rename_i fresh
      split
      · rename_i accepted
        refine .inr ⟨parsed, rfl, ?_, (Bool.and_eq_true_iff.mp accepted).1, rfl⟩
        intro mem
        obtain ⟨batch, there, same⟩ := List.mem_map.mp mem
        have other := List.findIdx?_eq_none_iff.mp fresh batch there
        exact absurd same (of_decide_eq_false other)
      · exact .inl ⟨rfl, fun _ is => by cases is⟩

theorem Kept.step {w : BatchWorld F} (kept : Kept w) (op : BatchOp) :
    Kept (step digest sha256 toLowerCase w op) := by
  cases op with
  | settlement op =>
    exact (kept.sameSettlements (later_step digest _ op)
      (projected_step digest op kept.projected)).kept kept rfl
  | importBatchCsv input =>
    rw [Batch.step]
    rcases importBatchCsv_cases input w with ⟨same, -⟩ | ⟨parsed, -, fresh, -, is⟩
    · rw [same]
      exact kept
    · rw [is]
      exact kept.started rfl fresh input.actor
  | setSource batchId =>
    refine (kept.sameModify ?_ kept.rows rfl).kept kept rfl
    intro batch found
    exact ⟨rfl, rfl, (kept.batches batchId batch found).status,
      (kept.batches batchId batch found).whole⟩
  | refreshBatchAggregates batchId =>
    rw [Batch.step]
    split
    · exact kept.addTask trivial rfl
    · exact kept
  | closeBatch batchId =>
    rw [Batch.step]
    split
    · exact kept.addTask trivial rfl
    · exact kept
  | authorizeBatch batchId =>
    rw [Batch.step]
    split
    · exact kept.addTask trivial rfl
    · exact kept
  | goOn task given =>
    rw [Batch.step]
    split
    · exact kept
    · rename_i at_ found
      exact kept.goOn found given

theorem kept_run (ops : List BatchOp) : Kept (run (step digest sha256 toLowerCase) .empty ops) :=
  run_invariant (fun _ op kept => kept.step op) kept_empty ops

end Kept

end InrSettle.Batch
