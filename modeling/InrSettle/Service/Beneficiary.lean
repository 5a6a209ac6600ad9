import InrSettle.Service.Verification
import InrSettle.Store.Beneficiary

/-!
# Beneficiaries and payout destinations

Each statement of a transaction sees its own snapshot of what is committed, and what the
transaction itself has written. Editing payout details appends a version, and the status
of the beneficiary is recomputed after each change of a destination.
-/

namespace InrSettle

open Transaction BeneficiaryTables

/-! ### The fingerprint -/

structure TenantScope where
  workspaceId : String
  environment : String
  deriving DecidableEq

/-- What `createDestinationFingerprinter` digests. -/
def fingerprintMessage (scope : TenantScope) (details : PayoutDetails) : String :=
  "\x00".intercalate ["v1", scope.workspaceId, scope.environment, canonicalDetails details]

/-- `hmac` is HMAC-SHA256 under the secret, as base64url. -/
def fingerprint (hmac : String → String) (scope : TenantScope) (details : PayoutDetails) : String :=
  "v1:" ++ hmac (fingerprintMessage scope details)

theorem fingerprintMessage_inj {scope : TenantScope} {a b : PayoutDetails} :
    fingerprintMessage scope a = fingerprintMessage scope b ↔
      normalisePayoutDetails a = normalisePayoutDetails b := by
  have message : ∀ details, fingerprintMessage scope details =
      "v1" ++ "\x00" ++ scope.workspaceId ++ "\x00" ++ scope.environment ++ "\x00" ++
        canonicalDetails details := fun _ => rfl
  rw [message, message, String.append_right_inj, canonicalDetails_eq_iff]

theorem fingerprint_eq_iff {hmac : String → String} {scope : TenantScope} {a b : PayoutDetails} :
    fingerprint hmac scope a = fingerprint hmac scope b ↔
      hmac (fingerprintMessage scope a) = hmac (fingerprintMessage scope b) := by
  rw [fingerprint, fingerprint, String.append_right_inj]

/-! ### What is read -/

/-- The committed states the statements of one transaction see. -/
structure Snapshots where
  subject : BeneficiaryTables
  current : BeneficiaryTables
  beneficiary : BeneficiaryTables
  destinations : BeneficiaryTables
  verifications : BeneficiaryTables

/-- The rows a transaction has written. -/
structure OwnRows where
  beneficiary : Option Nat := none
  destination : Option Nat := none
  verification : Option Nat := none

def owns (row : Option Nat) (id : Nat) : Bool := decide (row = some id)

/-- The versions of a destination, each with its id. -/
def versionsOf (t : BeneficiaryTables) (destinationId : Nat) : List (DestinationVersionRow × Nat) :=
  t.versions.zipIdx.filter fun version => decide (version.1.destinationId = destinationId)

/-- `ORDER BY version_number DESC LIMIT 1`. -/
def latestVersion (t : BeneficiaryTables) (destinationId : Nat) :
    Option (DestinationVersionRow × Nat) :=
  Table.latestBy (fun version => version.1.versionNumber) (versionsOf t destinationId)

def VerificationStatus.rank : VerificationStatus → Nat
  | .verified => 3
  | .failed => 2
  | .verifying | .unverified => 1

/-- The better description of a version: the one of the higher rank, else the first. -/
def betterOf (best : Option DestinationVerification) (row : DestinationVerification) :
    Option DestinationVerification :=
  match best with
  | none => some row
  | some existing => if existing.status.rank < row.status.rank then some row else some existing

/-- The verification that describes a version: of those asked for latest first, the first of the
highest rank. -/
def describing (verifications : List DestinationVerification) (versionId : Nat) :
    Option DestinationVerification :=
  (verifications.filter fun row =>
    decide (row.destinationVersionId = versionId)).reverse.foldl betterOf none

def usableDestinations (destinations : List PayoutDestination) (beneficiaryId : Nat) :
    List PayoutDestination :=
  destinations.filter fun row =>
    decide (row.beneficiaryId = beneficiaryId) && row.disabledAt.isNone

/-- What `refreshBeneficiaryStatus` gives to `deriveBeneficiaryStatus`. -/
def statusFacts (beneficiary : Beneficiary) (destinations : List PayoutDestination)
    (verifications : List DestinationVerification) : StatusFacts where
  disabled := beneficiary.disabledAt.isSome
  rejected := decide (beneficiary.status = .rejected)
  destinationCount := destinations.length
  anyCurrentVersionVerified := (destinations.filterMap (·.currentVersionId)).any fun id =>
    (describing verifications id).any fun row => decide (row.status = .verified)

/-! ### The status -/

/-- The beneficiary and the facts as the statements of `refreshBeneficiaryStatus` see them. -/
def seenFacts (seenAt : Snapshots) (own : OwnRows) (t : BeneficiaryTables) (beneficiaryId : Nat) :
    Option (Beneficiary × StatusFacts) :=
  (Table.seen (owns own.beneficiary) seenAt.beneficiary.beneficiaries t.beneficiaries
    beneficiaryId).map fun beneficiary =>
      (beneficiary, statusFacts beneficiary
        (usableDestinations (Table.seenRows (owns own.destination)
          seenAt.destinations.destinations t.destinations) beneficiaryId)
        (Table.seenRows (owns own.verification) seenAt.verifications.verification.verifications
          t.verification.verifications))

def refreshBeneficiaryStatus (seenAt : Snapshots) (own : OwnRows) (beneficiaryId : Nat) :
    BeneficiaryTx BeneficiaryStatus := do
  let tables ← get
  match seenFacts seenAt own tables beneficiaryId with
  | none => abort (.refused .beneficiaryNotFound)
  | some (beneficiary, facts) => do
    let status := deriveBeneficiaryStatus facts
    if status ≠ beneficiary.status then
      modify (updateBeneficiary beneficiaryId fun row => { row with status })
    return status

/-! ### Destinations and their versions -/

structure NewVersion where
  destinationId : Nat
  beneficiaryId : Nat
  details : PayoutDetails
  versionNumber : Nat
  action : String

variable (fingerprinter : PayoutDetails → String)

/-- The row `appendVersion` inserts: the details the fingerprint is taken over. -/
def NewVersion.row (version : NewVersion) : DestinationVersionRow where
  destinationId := version.destinationId
  versionNumber := version.versionNumber
  details := normalisePayoutDetails version.details
  detailsFingerprint := fingerprinter (normalisePayoutDetails version.details)

def appendVersion (version : NewVersion) : BeneficiaryTx Nat := do
  let versionId ← insertVersion (version.row fingerprinter) version.beneficiaryId
  modify (setCurrentVersion version.destinationId versionId)
  modify (appendEvent (.versionAdded version.action version.destinationId version.beneficiaryId
    versionId version.versionNumber
    (destinationSummary (normalisePayoutDetails version.details))))
  return versionId

structure AddDestinationInput where
  beneficiaryId : Nat
  details : PayoutDetails
  makeDefault : Bool := false

/-- What is written before the status is recomputed: the destination, its first version and
perhaps the default of the beneficiary. -/
def insertDestination (seenAt : Snapshots) (own : OwnRows) (input : AddDestinationInput) :
    BeneficiaryTx (Nat × OwnRows) := do
  require (validatePayoutDetails input.details = []) (.refused .invalidPayoutDetails)
  let tables ← get
  match Table.seen (owns own.beneficiary) seenAt.subject.beneficiaries tables.beneficiaries
      input.beneficiaryId with
  | none => abort (.refused .beneficiaryNotFound)
  | some beneficiary => do
    let destinationId := tables.destinations.length
    modify fun t => { t with destinations := t.destinations ++
      [{ beneficiaryId := input.beneficiaryId, kind := input.details.kind }] }
    let _ ← appendVersion fingerprinter
      ⟨destinationId, input.beneficiaryId, input.details, 1, "payout_destination.created"⟩
    if input.makeDefault || beneficiary.defaultDestinationId.isNone then do
      modify (updateBeneficiary input.beneficiaryId fun row =>
        { row with defaultDestinationId := some destinationId })
      return (destinationId,
        { beneficiary := some input.beneficiaryId, destination := some destinationId })
    else
      return (destinationId, { own with destination := some destinationId })

def addPayoutDestination (seenAt : Snapshots) (own : OwnRows) (input : AddDestinationInput) :
    BeneficiaryTx Nat := do
  let (destinationId, own) ← insertDestination fingerprinter seenAt own input
  let _ ← refreshBeneficiaryStatus seenAt own input.beneficiaryId
  return destinationId

structure EditDestinationInput where
  destinationId : Nat
  details : PayoutDetails
  now : Instant

/-- What is written before the status is recomputed: the beneficiary it is recomputed for, unless
the details are those of the current version. -/
def replaceVersion (seenAt : Snapshots) (input : EditDestinationInput) :
    BeneficiaryTx (Option Nat) := do
  require (validatePayoutDetails input.details = []) (.refused .invalidPayoutDetails)
  match seenAt.subject.destinations[input.destinationId]? with
  | none => abort (.refused .destinationNotFound)
  | some destination => do
    require (destination.disabledAt = none) (.refused .destinationDisabled)
    require (destination.kind = input.details.kind) (.refused .kindChangeNotAllowed)
    let current := latestVersion seenAt.current input.destinationId
    if current.any fun version =>
        decide (version.1.detailsFingerprint = fingerprinter input.details) then
      return none
    else do
      if let some version := current then setSuperseded version.2 input.now
      let _ ← appendVersion fingerprinter
        ⟨input.destinationId, destination.beneficiaryId, input.details,
          (current.map (·.1.versionNumber)).getD 0 + 1, "payout_destination.version_created"⟩
      return some destination.beneficiaryId

/-- Whether a version was created. -/
def editPayoutDestination (seenAt : Snapshots) (input : EditDestinationInput) :
    BeneficiaryTx Bool := do
  match ← replaceVersion fingerprinter seenAt input with
  | none => return false
  | some beneficiaryId => do
    let _ ← refreshBeneficiaryStatus seenAt { destination := some input.destinationId }
      beneficiaryId
    return true

/-! ### Beneficiaries -/

structure CreateBeneficiaryInput where
  identity : BeneficiaryIdentity
  destination : Option PayoutDetails := none

/-- The columns `createBeneficiary` writes. -/
def BeneficiaryIdentity.stored (identity : BeneficiaryIdentity) : BeneficiaryIdentity where
  displayName := String.ofList (trimChars identity.displayName.toList)
  legalName := identity.legalName.map fun name => String.ofList (trimChars name.toList)
  type := identity.type
  taxId := (identity.taxId.map fun taxId => String.ofList (trimChars taxId.toList)).filter (· ≠ "")

def createBeneficiary (seenAt : Snapshots) (input : CreateBeneficiaryInput) :
    BeneficiaryTx Nat := do
  require (validateBeneficiaryIdentity input.identity = []) (.refused .invalidIdentity)
  require ((input.destination.all fun details => decide (validatePayoutDetails details = [])) = true)
    (.refused .invalidPayoutDetails)
  let tables ← get
  let beneficiaryId := tables.beneficiaries.length
  modify fun t => { t with beneficiaries := t.beneficiaries ++
    [{ identity := input.identity.stored }] }
  modify (appendEvent (.beneficiaryCreated beneficiaryId input.identity.displayName
    input.identity.type))
  if let some details := input.destination then
    let _ ← addPayoutDestination fingerprinter seenAt { beneficiary := some beneficiaryId }
      ⟨beneficiaryId, details, true⟩
  return beneficiaryId

/-- `disableBeneficiaryHandler`: the status is written, not derived. -/
def disableBeneficiary (seenAt : Snapshots) (beneficiaryId : Nat) (now : Instant) :
    BeneficiaryTx PUnit := do
  require (seenAt.subject.beneficiaries[beneficiaryId]?.isSome = true) (.refused .beneficiaryNotFound)
  modify (updateBeneficiary beneficiaryId fun row =>
    { row with disabledAt := some now, status := .disabled })

end InrSettle
