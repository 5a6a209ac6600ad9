import InrSettle.Domain.Destination
import InrSettle.Store.Verification

/-!
# Beneficiary tables

The beneficiaries of a tenant, their payout destinations and the versions of these, with
the verifications of the versions. A row's id is its position, and nothing is deleted.
-/

namespace InrSettle

open Transaction

structure Beneficiary where
  identity : BeneficiaryIdentity
  status : BeneficiaryStatus := .draft
  defaultDestinationId : Option Nat := none
  disabledAt : Option Instant := none
  deriving DecidableEq

structure PayoutDestination where
  beneficiaryId : Nat
  kind : DestinationKind
  currentVersionId : Option Nat := none
  disabledAt : Option Instant := none
  deriving DecidableEq

/-- A row of `payout_destination_versions`. -/
structure DestinationVersionRow where
  destinationId : Nat
  versionNumber : Nat
  details : PayoutDetails
  detailsFingerprint : String
  supersededAt : Option Instant := none
  deriving DecidableEq

inductive BeneficiaryEvent where
  | beneficiaryCreated (beneficiaryId : Nat) (displayName : String) (type : BeneficiaryType)
  | versionAdded (type : String) (destinationId beneficiaryId versionId versionNumber : Nat)
    (summary : String)
  deriving DecidableEq

structure BeneficiaryTables where
  beneficiaries : List Beneficiary
  destinations : List PayoutDestination
  versions : List DestinationVersionRow
  events : List BeneficiaryEvent
  verification : VerificationTables
  deriving DecidableEq

inductive BeneficiaryErrorCode where
  | beneficiaryNotFound | destinationNotFound | destinationDisabled | invalidIdentity
  | invalidPayoutDetails | kindChangeNotAllowed
  deriving DecidableEq

inductive BeneficiaryFailure where
  | refused (code : BeneficiaryErrorCode)
  | database (error : DbError)
  deriving DecidableEq

abbrev BeneficiaryTx := Tx BeneficiaryTables BeneficiaryFailure

namespace BeneficiaryTables

def empty : BeneficiaryTables := ⟨[], [], [], [], ⟨[], [], [], []⟩⟩

/-- The key `UNIQUE (destination_id, version_number)`. -/
def versionKey (row : DestinationVersionRow) : Option (Nat × Nat) :=
  some (row.destinationId, row.versionNumber)

/-! ### Writes -/

/-- What the verification services join of a version. -/
def asVerified (row : DestinationVersionRow) (beneficiaryId : Nat) : DestinationVersion where
  destinationId := row.destinationId
  beneficiaryId := beneficiaryId
  kind := row.details.kind
  accountHolderName := match row.details with
    | .bankAccount _ _ _ accountHolderName => some accountHolderName
    | .upi _ => none

def insertVersion (row : DestinationVersionRow) (beneficiaryId : Nat) : BeneficiaryTx Nat := do
  let tables ← get
  require (Table.admits versionKey tables.versions row = true)
    (.database (.uniqueViolation "payout_destination_versions_destination_id_version_number_key"))
  modify fun t => { t with
    versions := t.versions ++ [row]
    verification := { t.verification with
      versions := t.verification.versions ++ [asVerified row beneficiaryId] } }
  return tables.versions.length

/-- `UPDATE payout_destination_versions SET superseded_at = … WHERE id = $1`, under the trigger
`pdv_append_only`. -/
def setSuperseded (versionId : Nat) (now : Instant) : BeneficiaryTx PUnit := do
  let tables ← get
  require ((tables.versions[versionId]?.all fun row =>
      row.supersededAt.all fun supersededAt => decide (supersededAt = now)) = true)
    (.database (.restrictViolation "superseded_at is write-once"))
  modify fun t => { t with versions := t.versions.modify versionId fun row =>
    { row with supersededAt := some now } }

def setCurrentVersion (destinationId versionId : Nat) (t : BeneficiaryTables) :
    BeneficiaryTables :=
  { t with destinations := t.destinations.modify destinationId fun row =>
    { row with currentVersionId := some versionId } }

def updateBeneficiary (beneficiaryId : Nat) (set : Beneficiary → Beneficiary)
    (t : BeneficiaryTables) : BeneficiaryTables :=
  { t with beneficiaries := t.beneficiaries.modify beneficiaryId set }

def appendEvent (event : BeneficiaryEvent) (t : BeneficiaryTables) : BeneficiaryTables :=
  { t with events := t.events ++ [event] }

end BeneficiaryTables

end InrSettle
