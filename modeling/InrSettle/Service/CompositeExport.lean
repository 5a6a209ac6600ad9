import InrSettle.Library.JsConvert
import InrSettle.Domain.AuthorizedTerms
import InrSettle.Service.ArtifactStore

/-!
# Composites

The third artifact of a settlement, composed of its receipt and its return notices, and the export
that reads both from `financial_artifacts` and inserts a row of its own.
-/

namespace InrSettle.Composite

open Js Js.NumberFormat ArtifactStore Terms

variable {N : Type} [Js.NumberFormat N]

/-! ### The document -/

/-- `ARTIFACT_SCHEMA_VERSION`. -/
def artifactSchemaVersion : Text := ofString "v1"

/-- What a composite embeds of an artifact. -/
structure Source (N : Type) where
  document : Value N
  contentHash : Text

def Source.doc (source : Source N) : Value N :=
  record [("content_hash", .string source.contentHash), ("document", source.document)]

/-- `String(document['id'] ?? '')`; nothing where it throws. -/
def Source.id (source : Source N) : Option Text :=
  match memberOf "id" source.document with
  | none => none
  | some .undefined | some .null => some []
  | some value => stringOf value

/-- The notices by their ids; nothing where the comparison throws, which a single notice never
comes to. -/
def sortedNotices : List (Source N) → Option (List (Source N))
  | [] => some []
  | [notice] => some [notice]
  | notices => do
    let keyed ← notices.mapM fun notice => notice.id.map fun id => (id, notice)
    return (keyed.insertionSort fun a b => a.1 ≤ b.1).map (·.2)

structure CompositeInput (N : Type) where
  compositeId : Text
  settlementId : Text
  workspaceId : Text
  environment : Text
  createdAt : Text
  receipt : Source N
  notices : List (Source N)

/-- The members of a composite's document, its notices sorted. -/
def compositeMembers (input : CompositeInput N) (sorted : List (Source N)) :
    List (String × Value N) :=
  [("artifact", .string (ofString "receipt_composite")),
    ("schema", .string artifactSchemaVersion),
    ("id", .string input.compositeId),
    ("settlement_id", .string input.settlementId),
    ("workspace_id", .string input.workspaceId),
    ("environment", .string input.environment),
    ("created_at", .string input.createdAt),
    ("receipt", input.receipt.doc),
    ("return_notices", .array (sorted.map Source.doc))]

def compositeDocument (input : CompositeInput N) : Option (CanonicalArtifact N) :=
  (sortedNotices input.notices).map fun sorted =>
    ⟨.receiptComposite, record (compositeMembers input sorted)⟩

/-! ### The table -/

def rank : ArtifactKind → Nat
  | .settlementReceipt => 0
  | .returnNotice => 1
  | .receiptComposite => 2

/-- `ORDER BY kind, created_at, id`. -/
def Before (a b : PrintedRow) : Prop :=
  rank a.kind < rank b.kind ∨ rank a.kind = rank b.kind ∧
    (a.createdAt < b.createdAt ∨ a.createdAt = b.createdAt ∧ a.id ≤ b.id)

instance : DecidableRel Before := fun _ _ => inferInstanceAs (Decidable (_ ∨ _))

def listArtifacts (settlementId : Text) (rows : List PrintedRow) : List PrintedRow :=
  (rows.filter fun row => row.settlementId = settlementId).insertionSort Before

structure TenantScope where
  workspaceId : Text
  environment : Text

structure IssuedArtifact where
  artifactId : Text
  kind : ArtifactKind
  contentHash : Text
  pdfObjectKey : Text
  canonicalBytes : Text
  deriving DecidableEq

inductive ArtifactResult where
  | ok (issued : IssuedArtifact)
  | receiptNotFound
  deriving DecidableEq

/-- What ends a transaction without a result. -/
inductive Thrown where
  | type (error : TypeError)
  | unreadable
  | unordered
  | uniqueViolation
  deriving DecidableEq

/-- The unique columns: the id, the key of the printed object, and one receipt for a settlement. -/
def Free (row : PrintedRow) (rows : List PrintedRow) : Prop :=
  ∀ old ∈ rows, old.id ≠ row.id ∧ old.pdfObjectKey ≠ row.pdfObjectKey ∧
    (old.kind = .settlementReceipt → row.kind = .settlementReceipt →
      old.settlementId ≠ row.settlementId)

instance (row : PrintedRow) (rows : List PrintedRow) : Decidable (Free row rows) :=
  inferInstanceAs (Decidable (∀ _ ∈ rows, _))

/-- No row is ever updated or deleted. -/
def insertArtifact (row : PrintedRow) (rows : List PrintedRow) :
    Except Thrown (List PrintedRow) :=
  if Free row rows then .ok (rows ++ [row]) else .error .uniqueViolation

/-! ### Exporting -/

section Export

-- the hexadecimal SHA-256 of a text as UTF-8
variable (sha256 : Text → Text)

def persistArtifact (artifactId : Text) (artifact : CanonicalArtifact N) (settlementId : Text)
    (receiptId sourceContentHash : Option Text) (now : Nat) (rows : List PrintedRow) :
    Except Thrown (ArtifactResult × List PrintedRow) := do
  let hash ← (contentHash sha256 artifact).mapError .type
  let bytes ← (canonicalBytes artifact).mapError .type
  let key := artifactObjectKey artifact.kind artifactId
  let rows' ← insertArtifact
    ⟨⟨artifactId, artifact.kind, settlementId, receiptId, sourceContentHash, bytes, hash, now⟩,
      key⟩ rows
  return (.ok ⟨artifactId, artifact.kind, hash, key, bytes⟩, rows')

variable (N) in
/-- An artifact as a composite embeds it; nothing where its bytes are no JSON. -/
def sourceOf (row : PrintedRow) : Option (Source N) :=
  (parseJson row.canonicalBytes).map fun document => ⟨document, row.contentHash⟩

/-- What an export reads: the receipt's row, and the receipt and the notices as they are embedded. -/
structure Sources (N : Type) where
  row : PrintedRow
  receipt : Source N
  notices : List (Source N)

variable (N) in
/-- Nothing where the settlement has no receipt. -/
def readSources (settlementId : Text) (rows : List PrintedRow) :
    Except Thrown (Option (Sources N)) :=
  let artifacts := listArtifacts settlementId rows
  match artifacts.find? fun row => row.kind = .settlementReceipt with
  | none => .ok none
  | some row =>
    let notices := artifacts.filter fun row => row.kind = .returnNotice
    match sourceOf N row, notices.mapM (sourceOf N) with
    | some receipt, some notices => .ok (some ⟨row, receipt, notices⟩)
    | _, _ => .error .unreadable

/-- The time of an export is no part of its content. -/
def compositeInput (scope : TenantScope) (settlementId : Text) (found : Sources N)
    (compositeId : Text) : CompositeInput N where
  compositeId := compositeId
  settlementId := settlementId
  workspaceId := scope.workspaceId
  environment := scope.environment
  createdAt := ofString "composed"
  receipt := found.receipt
  notices := found.notices

variable (N) in
def exportComposite (scope : TenantScope) (settlementId compositeId : Text) (now : Nat)
    (rows : List PrintedRow) : Except Thrown (ArtifactResult × List PrintedRow) :=
  match readSources N settlementId rows with
  | .error thrown => .error thrown
  | .ok none => .ok (.receiptNotFound, rows)
  | .ok (some found) =>
    match compositeDocument (compositeInput scope settlementId found compositeId) with
    | none => .error .unordered
    | some artifact =>
      persistArtifact sha256 compositeId artifact settlementId (some found.row.id)
        (some found.row.contentHash) now rows

/-! ### Runs -/

/-- What inserts an artifact: an export, or the issue of a receipt or a notice. -/
inductive Call where
  | exportComposite (scope : TenantScope) (settlementId compositeId : Text) (now : Nat)
  | issue (row : PrintedRow)

variable (N) in
def step (rows : List PrintedRow) : Call → List PrintedRow
  | .exportComposite scope settlementId compositeId now =>
    match exportComposite N sha256 scope settlementId compositeId now rows with
    | .ok (_, rows') => rows'
    | .error _ => rows
  | .issue row =>
    match insertArtifact row rows with
    | .ok rows' => rows'
    | .error _ => rows

end Export

/-- What a composite is made of: the receipt and the notices of a settlement. -/
def sources (settlementId : Text) (rows : List PrintedRow) : List PrintedRow :=
  (listArtifacts settlementId rows).filter fun row => row.kind ≠ .receiptComposite

end InrSettle.Composite
