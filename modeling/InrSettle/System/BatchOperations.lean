import InrSettle.Domain.Batch
import InrSettle.Domain.BatchCsv
import InrSettle.System.Operations

/-!
# The batch service

The tables of batches and their rows beside a tenant's settlements. Every call of the service is a
task that goes on one transaction at a time; between two of them any other task, and any operation
on a settlement, may go first.
-/

namespace InrSettle.Batch

open Transaction
open BatchCsv (Raw RowError RowResult parseBatchCsv)

/-! ### The tables -/

/-- A row of `batches`. What its file was parsed into is no column of it. -/
structure BatchRecord (F : Type) where
  name : List Char
  source : BatchSource
  status : BatchStatus
  counts : BatchAggregates := {}
  importFingerprint : F
  createdBy : String
  validatedAt : Option Instant := none
  completedAt : Option Instant := none
  parsed : List RowResult

/-- A row of `batch_rows`; a batch is known by its position. -/
structure BatchRow where
  batchId : Nat
  lineNumber : Nat
  outcome : BatchRowOutcome
  settlementId : Option String
  raw : Raw
  errors : List RowError
  amountMinor : Option Int
  deriving DecidableEq

/-- What a refresh reads of a row, and what it makes of it. -/
structure ResolvedRow where
  id : Nat
  before : BatchRowOutcome
  counted : Counted

/-- Where a call of the service is. -/
inductive Task where
  | importing (batchId : Nat) (actor : PrincipalRef) (remaining : List RowResult)
  | refresh (batchId : Nat) (closes : Bool)
  | refreshing (batchId : Nat) (closes : Bool) (resolved : List ResolvedRow)
  | closing (batchId : Nat) (status : BatchStatus)
  | executing (batchId : Nat) (trigger : BatchTrigger)
  | finishing (batchId : Nat) (trigger : BatchTrigger)
  | listing (batchId : Nat)
  | authorizing (batchId : Nat) (eligible : List String) (authorized : Nat)
  | ended

structure BatchWorld (F : Type) where
  settlements : World
  batches : List (BatchRecord F)
  rows : List BatchRow
  tasks : List Task

/-! ### Columns -/

/-- The text of a jsonb column cannot hold NUL. -/
def Storable (raw : Raw) : Prop := ∀ cell ∈ raw, '\x00' ∉ cell.1 ∧ '\x00' ∉ cell.2

instance (raw : Raw) : Decidable (Storable raw) :=
  inferInstanceAs (Decidable (∀ cell ∈ raw, '\x00' ∉ cell.1 ∧ '\x00' ∉ cell.2))

/-- The checks on a row of `batch_rows`. -/
structure RowChecks (row : BatchRow) : Prop where
  line : 0 < row.lineNumber
  storable : Storable row.raw
  outcome : row.outcome = .invalid ∧ row.settlementId = none ∧ row.errors ≠ [] ∨
    row.outcome ≠ .invalid ∧ row.settlementId ≠ none
  amount : ∀ amount, row.amountMinor = some amount → 0 < amount

theorem rowChecks_iff {row : BatchRow} : RowChecks row ↔
    0 < row.lineNumber ∧ Storable row.raw ∧
      (row.outcome = .invalid ∧ row.settlementId = none ∧ row.errors ≠ [] ∨
        row.outcome ≠ .invalid ∧ row.settlementId ≠ none) ∧
      ∀ amount ∈ row.amountMinor, 0 < amount := by
  constructor
  · intro checks
    exact ⟨checks.line, checks.storable, checks.outcome, checks.amount⟩
  · rintro ⟨line, storable, outcome, amount⟩
    exact ⟨line, storable, outcome, amount⟩

instance (row : BatchRow) : Decidable (RowChecks row) := decidable_of_iff _ rowChecks_iff.symm

/-- The two unique indexes of `batch_rows`. -/
def Clashes (row other : BatchRow) : Prop :=
  other.batchId = row.batchId ∧ other.lineNumber = row.lineNumber ∨
    other.settlementId ≠ none ∧ other.settlementId = row.settlementId

instance (row other : BatchRow) : Decidable (Clashes row other) :=
  inferInstanceAs (Decidable (_ ∨ _))

namespace BatchWorld

variable {F : Type}

def empty : BatchWorld F := ⟨.empty, [], [], []⟩

def setTask (w : BatchWorld F) (task : Nat) (next : Task) : BatchWorld F :=
  { w with tasks := w.tasks.set task next }

def addTask (w : BatchWorld F) (task : Task) : BatchWorld F :=
  { w with tasks := w.tasks ++ [task] }

/-- `INSERT INTO batch_rows`; nothing where the table refuses the row. -/
def insertRow (w : BatchWorld F) (row : BatchRow) : Option (BatchWorld F) :=
  if RowChecks row ∧ ∀ other ∈ w.rows, ¬Clashes row other
  then some { w with rows := w.rows ++ [row] }
  else none

/-- `listBatchRows`. -/
def rowsOf (w : BatchWorld F) (batchId : Nat) : List BatchRow :=
  w.rows.filter fun row => row.batchId = batchId

end BatchWorld

/-! ### Import -/

section Import

variable {F : Type} (sha256 : List Char → F)

def importFingerprint (name csv : List Char) : F := sha256 (name ++ '\x00' :: csv)

structure ImportInput where
  name : List Char
  csv : List Char
  actor : PrincipalRef
  purposeCodes : List (List Char)
  maxRows : Option Nat := none
  /-- Whether `withinContainerTransaction` throws. -/
  hookThrows : Bool := false

/-- The name is not blank, and a column can hold it. -/
def nameAccepted (name : List Char) : Bool := name.any (· ≠ ' ') && '\x00' ∉ name

inductive ImportAnswer where
  | fileInvalid (errors : List RowError)
  | replay (batchId : Nat)
  | thrown
  | started (batchId : Nat)
  deriving DecidableEq

/-- The row of the container. -/
def container (input : ImportInput) (parsed : List RowResult) : BatchRecord F where
  name := input.name
  source := .csv
  status := .validating
  importFingerprint := importFingerprint sha256 input.name input.csv
  createdBy := input.actor.id
  parsed := parsed

/-- Up to the transaction that creates the container: the look-up, or the index that refuses the
second container of a fingerprint and the look-up after it, finds what is replayed. -/
def importBatchCsv [DecidableEq F] (toLowerCase : List Char → List Char) (input : ImportInput)
    (w : BatchWorld F) : ImportAnswer × BatchWorld F :=
  match parseBatchCsv toLowerCase input.csv ⟨input.purposeCodes, input.maxRows⟩ with
  | .error errors => (.fileInvalid errors, w)
  | .ok parsed =>
    match w.batches.findIdx? fun batch =>
        batch.importFingerprint = importFingerprint sha256 input.name input.csv with
    | some batchId => (.replay batchId, w)
    | none =>
      if nameAccepted input.name && !input.hookThrows then
        (.started w.batches.length,
          ({ w with batches := w.batches ++ [container sha256 input parsed] } :
            BatchWorld F).addTask (.importing w.batches.length input.actor parsed))
      else (.thrown, w)

end Import

/-- `/text/i.test(message)`, of a text in lower case. -/
def mentions (message text : String) : Bool :=
  text.toList <:+: message.toList.map Char.toLower

def rowErrorFor (message : String) : RowError :=
  if mentions message "beneficiary_id" || mentions message "foreign key" then
    ⟨some .beneficiaryId, "no beneficiary with that id exists in this workspace",
      "check the id on the beneficiary page — and check you are in the right environment"⟩
  else
    ⟨none, "this row could not be created",
      "check the row against the other rows in the file, and contact support if it looks correct"⟩

/-- What a transaction is given: the id that `newId` makes, whether the database refuses it for a
reason outside these tables and with what message, the clock, and what the authorization of one
settlement is given. -/
structure Given where
  settlementId : String := ""
  refuses : Bool := false
  message : String := ""
  now : Instant := 0
  asOf : Nat := 0
  authorize : Option AuthorizeInput := none

section Transactions

variable {F : Type} (digest : AuthorizedInstruction → String)

/-- What the settlement of an accepted row is created from. -/
def createInput (actor : PrincipalRef) (settlementId : String) (row : BatchCsv.ParsedRow) :
    CreateInput where
  settlementId := settlementId
  beneficiaryId := String.ofList row.beneficiaryId
  recipientAmountMinor := row.amountMinor
  fundingCurrency := "USDT"
  purposeCode := some (String.ofList row.purposeCode)
  actor := actor

/-- `createSettlement` in the row's transaction. -/
def created (input : CreateInput) (w : BatchWorld F) : Option (BatchWorld F) :=
  if (answer (onCase (createSettlement input)) (w.settlements.now.store input.settlementId)).isSome
  then some { w with
    settlements := w.settlements.step digest (.settlement 0 (.createSettlement input)) }
  else none

def invalidRow (batchId line : Nat) (raw : Raw) (errors : List RowError) : BatchRow where
  batchId := batchId
  lineNumber := line
  outcome := .invalid
  settlementId := none
  raw := raw
  errors := errors
  amountMinor := none

def acceptedRow (batchId : Nat) (settlementId : String) (row : BatchCsv.ParsedRow) : BatchRow where
  batchId := batchId
  lineNumber := row.line
  outcome := .accepted
  settlementId := some settlementId
  raw := row.raw
  errors := []
  amountMinor := some row.amountMinor

/-- The transaction of one row. -/
def rowTransaction (batchId : Nat) (actor : PrincipalRef) (given : Given) (w : BatchWorld F) :
    RowResult → Option (BatchWorld F)
  | .rejected line raw errors => w.insertRow (invalidRow batchId line raw errors)
  | .accepted row => do
    let w' ← created digest (createInput actor given.settlementId row) w
    w'.insertRow (acceptedRow batchId given.settlementId row)

def rawOf : RowResult → Raw
  | .accepted row => row.raw
  | .rejected _ raw _ => raw

/-- One turn of the loop: a row whose transaction fails becomes an invalid row. -/
def importRow (batchId : Nat) (actor : PrincipalRef) (given : Given) (w : BatchWorld F)
    (result : RowResult) : Option (BatchWorld F) :=
  let tried := if given.refuses then none else rowTransaction digest batchId actor given w result
  tried.or
    (w.insertRow (invalidRow batchId result.line (rawOf result) [rowErrorFor given.message]))

/-! ### Aggregates -/

/-- The settlement of a row, joined. -/
def joined (w : World) (row : BatchRow) : Option SettlementRow :=
  row.settlementId.bind fun id => (w.now.cases id).settlement

def resolve (w : World) (id : Nat) (row : BatchRow) : ResolvedRow where
  id := id
  before := row.outcome
  counted := {
    outcome := if row.outcome = .invalid then .invalid
      else rowOutcomeFromCustomerStatus ((joined w row).bind (·.customerStatus))
        ((joined w row).map (·.status))
    amountMinor := row.amountMinor }

/-- What the first statement of a refresh reads. -/
def readRows (w : BatchWorld F) (batchId : Nat) : List ResolvedRow :=
  (w.rows.zipIdx.filter fun (row, _) => row.batchId = batchId).map
    fun (row, id) => resolve w.settlements id row

/-- The update of one row's outcome; nothing where a check refuses it. -/
def writeOutcome (rows : List BatchRow) (resolved : ResolvedRow) : Option (List BatchRow) :=
  if resolved.before = resolved.counted.outcome then some rows
  else match rows[resolved.id]? with
  | none => some rows
  | some row =>
    if RowChecks { row with outcome := resolved.counted.outcome } then
      some (rows.modify resolved.id ({ · with outcome := resolved.counted.outcome }))
    else none

/-- What `refreshBatchAggregates` writes of what it has read; nothing where a check refuses it. -/
def writeCounts (batchId : Nat) (resolved : List ResolvedRow) (w : BatchWorld F) :
    Option (BatchWorld F) := do
  let rows ← resolved.foldlM writeOutcome w.rows
  let counts := aggregate (resolved.map (·.counted)) "INR"
  if counts.validCount ≤ counts.rowCount ∧ 0 ≤ counts.totalMinor then
    some { w with
      rows := rows
      batches := w.batches.modify batchId ({ · with counts := counts }) }
  else none

/-! ### The lifecycle -/

/-- The columns of a batch that has moved. -/
def moved (status : BatchStatus) (now : Instant) (batch : BatchRecord F) : BatchRecord F :=
  { batch with
    status := status
    validatedAt := if status = .ready then some now else batch.validatedAt
    completedAt := if status.isTerminal then some now else batch.completedAt }

/-- `advanceBatch`; nothing where it answers that it did not. -/
def advanceBatch (batchId : Nat) (trigger : BatchTrigger) (now : Instant) (w : BatchWorld F) :
    Option (BatchWorld F) := do
  let batch ← w.batches[batchId]?
  let t ← evaluateBatchTransition (some batch.status) trigger
  return { w with batches := w.batches.modify batchId (moved t.target now) }

/-! ### Authorization -/

/-- `authorizeSettlement` of one row, in its own transaction: whether it authorized. -/
def authorizeRow (asOf : Nat) (input : AuthorizeInput) (w : World) : Bool × World :=
  let op := SettlementOp.authorizeSettlement input
  let ok := match answer (onCase (authorizeSettlement digest (w.read asOf op).settlement input))
      (w.now.store input.settlementId) with
    | some (.ok _) => true
    | _ => false
  (ok, w.step digest (.settlement asOf op))

/-! ### Tasks -/

/-- The next transaction of a task. -/
def goOn (task : Nat) (given : Given) (w : BatchWorld F) : Task → BatchWorld F
  | .importing batchId actor (result :: remaining) =>
    match importRow digest batchId actor given w result with
    | some w' => w'.setTask task (.importing batchId actor remaining)
    | none => w.setTask task .ended
  | .importing batchId _ [] =>
    ((advanceBatch batchId .validated given.now w).getD w).setTask task (.refresh batchId false)
  | .refresh batchId closes =>
    w.setTask task (.refreshing batchId closes (readRows w batchId))
  | .refreshing batchId closes resolved =>
    match writeCounts batchId resolved w with
    | none => w.setTask task .ended
    | some w' =>
      match closes, w'.batches[batchId]? with
      | true, some batch => w'.setTask task (.closing batchId batch.status)
      | _, _ => w'.setTask task .ended
  | .closing batchId status =>
    match terminalOutcome ((w.rowsOf batchId).map (·.outcome)) with
    | none => w.setTask task .ended
    | some trigger =>
      w.setTask task
        (if status = .ready then .executing batchId trigger else .finishing batchId trigger)
  | .executing batchId trigger =>
    match advanceBatch batchId .beginExecution given.now w with
    | none => w.setTask task .ended
    | some w' => w'.setTask task (.finishing batchId trigger)
  | .finishing batchId trigger =>
    ((advanceBatch batchId trigger given.now w).getD w).setTask task .ended
  | .listing batchId =>
    w.setTask task (.authorizing batchId ((w.rowsOf batchId).filterMap (·.settlementId)) 0)
  | .authorizing batchId (settlementId :: eligible) authorized =>
    match given.authorize with
    | none => w.setTask task (.authorizing batchId eligible authorized)
    | some input =>
      let (ok, settlements) :=
        authorizeRow digest given.asOf { input with settlementId := settlementId } w.settlements
      { w with settlements := settlements }.setTask task
        (.authorizing batchId eligible (authorized + if ok then 1 else 0))
  | .authorizing batchId [] authorized =>
    (if 0 < authorized then (advanceBatch batchId .beginExecution given.now w).getD w
      else w).setTask task (.refresh batchId false)
  | .ended => w

end Transactions

/-! ### Steps -/

inductive BatchOp where
  | settlement (op : WorldOp)
  | importBatchCsv (input : ImportInput)
  | setSource (batchId : Nat)
  | refreshBatchAggregates (batchId : Nat)
  | closeBatch (batchId : Nat)
  | authorizeBatch (batchId : Nat)
  | goOn (task : Nat) (given : Given)

section Steps

variable {F : Type} [DecidableEq F] (digest : AuthorizedInstruction → String)
  (sha256 : List Char → F) (toLowerCase : List Char → List Char)

/-- A call that names no batch does nothing. -/
def step (w : BatchWorld F) : BatchOp → BatchWorld F
  | .settlement op => { w with settlements := w.settlements.step digest op }
  | .importBatchCsv input => (importBatchCsv sha256 toLowerCase input w).2
  | .setSource batchId =>
    { w with batches := w.batches.modify batchId fun batch => { batch with source := .api } }
  | .refreshBatchAggregates batchId =>
    if batchId < w.batches.length then w.addTask (.refresh batchId false) else w
  | .closeBatch batchId =>
    if batchId < w.batches.length then w.addTask (.refresh batchId true) else w
  | .authorizeBatch batchId =>
    if w.batches[batchId]?.map (·.status) = some .ready then w.addTask (.listing batchId) else w
  | .goOn task given =>
    match w.tasks[task]? with
    | none => w
    | some at_ => goOn digest task given w at_

end Steps

end InrSettle.Batch
