import InrSettle.Domain.NameMatch
import InrSettle.Library.Table
import InrSettle.Library.Transaction
import InrSettle.Store.Rows

/-!
# Verification tables

The destination versions of a tenant, their verifications, the provider events behind
them and the events they wrote. A row's id is its position.
-/

namespace InrSettle

open Transaction

inductive VerificationStatus where
  | unverified | verifying | verified | failed
  deriving DecidableEq

inductive VerificationFailureCode where
  | accountNotFound | accountClosed | accountFrozen | nameMismatch | invalidIfsc | vpaNotFound
  | rejectedByBank | unavailable
  deriving DecidableEq

/-- A version of a payout destination, with the beneficiary the destination belongs to. -/
structure DestinationVersion where
  destinationId : Nat
  beneficiaryId : Nat
  kind : DestinationKind
  accountHolderName : Option String
  deriving DecidableEq

/-- What a resolution writes. -/
structure VerificationRecord where
  nameMatchOutcome : NameMatchOutcome
  nameMatchBasis : NameMatchBasis
  nameMatchScore : Option ℚ
  nameMatchPolicyVersion : String
  reasonCode : Option VerificationFailureCode
  resolvedAt : Instant
  deriving DecidableEq

structure DestinationVerification where
  destinationVersionId : Nat
  status : VerificationStatus := .verifying
  method : VerificationMethod
  providerId : String
  providerReference : Option String := none
  requestedBy : String
  record : Option VerificationRecord := none
  providerEventId : Option Nat := none
  deriving DecidableEq

inductive CallbackInterpretation where
  | untrustedSignature | uninterpretable | unknownVerification | versionMismatch | notInFlight
  | stillPending | applied
  deriving DecidableEq

structure ProviderEvent where
  providerId : String
  providerEventId : String
  signatureValid : Bool
  interpretation : CallbackInterpretation
  deriving DecidableEq

inductive VerificationEventType where
  | verificationStarted | verified | verificationFailed
  deriving DecidableEq

structure VerificationEvent where
  type : VerificationEventType
  destinationId : Nat
  destinationVersionId : Nat
  verificationId : Nat
  reasonCode : Option VerificationFailureCode := none
  deriving DecidableEq

structure VerificationTables where
  versions : List DestinationVersion
  verifications : List DestinationVerification
  providerEvents : List ProviderEvent
  events : List VerificationEvent
  deriving DecidableEq

abbrev VerificationTx := Tx VerificationTables DbError

namespace VerificationTables

/-- The key of `dv_one_active_per_version`. -/
def activeKey (row : DestinationVerification) : Option Nat :=
  if row.status = .verifying then some row.destinationVersionId else none

/-- The key of `dv_provider_ref`. -/
def referenceKey (row : DestinationVerification) : Option (String × String) :=
  row.providerReference.map (row.providerId, ·)

/-- The key of `provider_events_dedupe`. -/
def dedupeKey (event : ProviderEvent) : Option (String × String) :=
  some (event.providerId, event.providerEventId)

/-! ### Writes -/

def insertVerification (row : DestinationVerification) : VerificationTx Nat := do
  let tables ← get
  require (Table.admits activeKey tables.verifications row = true)
    (.uniqueViolation "dv_one_active_per_version")
  modify fun t => { t with verifications := t.verifications ++ [row] }
  return tables.verifications.length

/-- `UPDATE destination_verifications SET provider_reference = … WHERE id = $1`. -/
def setProviderReference (verificationId : Nat) (reference : String) : VerificationTx PUnit := do
  let tables ← get
  let others := tables.verifications.eraseIdx verificationId
  require ((tables.verifications[verificationId]?.all fun row =>
      Table.admits referenceKey others { row with providerReference := some reference }) = true)
    (.uniqueViolation "dv_provider_ref")
  modify fun t => { t with verifications := t.verifications.modify verificationId fun row =>
    { row with providerReference := some reference } }

/-- `UPDATE destination_verifications SET status, … WHERE id = $1`; the score is an integer. -/
def setResolved (verificationId : Nat) (status : VerificationStatus) (record : VerificationRecord)
    (providerEventId : Option Nat) : VerificationTx PUnit := do
  require ((record.nameMatchScore.all fun score => decide (score.den = 1)) = true)
    (.checkViolation "name_match_score")
  modify fun t => { t with verifications := t.verifications.modify verificationId fun row =>
    { row with
      status
      record := some record
      providerEventId := providerEventId <|> row.providerEventId } }

def appendEvent (event : VerificationEvent) (t : VerificationTables) : VerificationTables :=
  { t with events := t.events ++ [event] }

/-- The id of the event is the number of those before it. -/
def insertProviderEvent (event : ProviderEvent) : VerificationTx Nat := do
  let tables ← get
  require (Table.admits dedupeKey tables.providerEvents event = true)
    (.uniqueViolation "provider_events_dedupe")
  modify fun t => { t with providerEvents := t.providerEvents ++ [event] }
  return tables.providerEvents.length

end VerificationTables

end InrSettle
