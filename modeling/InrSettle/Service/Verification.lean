import InrSettle.Store.Verification

/-!
# Beneficiary verification

A request records a row, a job asks the provider about it, and the provider answers at
once or by a callback. The provider's calls stand between transactions.
-/

namespace InrSettle

open Transaction VerificationTables

/-! ### The provider -/

inductive VerificationOutcome where
  | accountConfirmed (nameEvidence : NameMatchEvidence)
  | failed (reasonCode : VerificationFailureCode) (nameEvidence : NameMatchEvidence)
  | verifying (providerReference : String)
  deriving DecidableEq

structure VerificationCallback where
  requestId : Nat
  destinationVersionId : Nat
  outcome : VerificationOutcome
  deriving DecidableEq

structure VerificationProvider where
  id : String
  method : VerificationMethod
  supports : List DestinationKind
  deriving DecidableEq

/-! ### Opening -/

inductive RequestVerificationRefusal where
  | versionNotFound | alreadyVerified | alreadyInFlight | unsupportedKind
  deriving DecidableEq

def verificationsOf (t : VerificationTables) (versionId : Nat) : List DestinationVerification :=
  t.verifications.filter fun row => decide (row.destinationVersionId = versionId)

/-- What `openVerification` reads before it inserts. -/
def mayOpen (t : VerificationTables) (versionId : Nat) : Except RequestVerificationRefusal Unit :=
  if t.versions[versionId]?.isNone then .error .versionNotFound
  else if (verificationsOf t versionId).any (fun row => decide (row.status = .verified)) then
    .error .alreadyVerified
  else if (verificationsOf t versionId).any (fun row => decide (row.status = .verifying)) then
    .error .alreadyInFlight
  else .ok ()

/-- The row `openVerification` inserts. -/
def openedVerification (provider : VerificationProvider) (versionId : Nat) (requestedBy : String) :
    DestinationVerification where
  destinationVersionId := versionId
  method := provider.method
  providerId := provider.id
  requestedBy := requestedBy

/-! ### Applying an outcome -/

/-- A verification the job or a callback has read, with what it needs to apply an outcome. -/
structure LoadedVerification where
  verificationId : Nat
  destinationVersionId : Nat
  destinationId : Nat
  beneficiaryId : Nat
  provider : VerificationProvider
  expectedName : String
  deriving DecidableEq

/-- What was found about the account: why it failed, if it did, and the evidence about the name. -/
structure Finding where
  failure : Option VerificationFailureCode
  nameEvidence : NameMatchEvidence
  deriving DecidableEq

namespace Finding

def nameMatch (finding : Finding) (policies : NameMatchPolicySet) (loaded : LoadedVerification) :
    NameMatchDecision :=
  decideNameMatch (policyFor policies loaded.provider.id loaded.provider.method)
    finding.nameEvidence loaded.expectedName

/-- The provider confirms the account; the policy decides the name. -/
def isVerified (finding : Finding) (policies : NameMatchPolicySet) (loaded : LoadedVerification) :
    Bool :=
  finding.failure.isNone && decide ((finding.nameMatch policies loaded).outcome = .satisfied)

def status (finding : Finding) (policies : NameMatchPolicySet) (loaded : LoadedVerification) :
    VerificationStatus :=
  if finding.isVerified policies loaded then .verified else .failed

def reasonCode (finding : Finding) (policies : NameMatchPolicySet) (loaded : LoadedVerification) :
    Option VerificationFailureCode :=
  match finding.failure, (finding.nameMatch policies loaded).outcome with
  | some code, _ => some code
  | none, .mismatch => some .nameMismatch
  | none, .insufficientEvidence => some .unavailable
  | none, .satisfied => none

def record (finding : Finding) (policies : NameMatchPolicySet) (loaded : LoadedVerification)
    (now : Instant) : VerificationRecord where
  nameMatchOutcome := (finding.nameMatch policies loaded).outcome
  nameMatchBasis := (finding.nameMatch policies loaded).basis
  nameMatchScore := (finding.nameMatch policies loaded).score
  nameMatchPolicyVersion := policies.version
  reasonCode := finding.reasonCode policies loaded
  resolvedAt := now

def event (finding : Finding) (policies : NameMatchPolicySet) (loaded : LoadedVerification) :
    VerificationEvent where
  type := if finding.isVerified policies loaded then .verified else .verificationFailed
  destinationId := loaded.destinationId
  destinationVersionId := loaded.destinationVersionId
  verificationId := loaded.verificationId
  reasonCode := finding.reasonCode policies loaded

end Finding

/-- The row is found by its id alone. -/
def applyOutcome (policies : NameMatchPolicySet) (loaded : LoadedVerification) (finding : Finding)
    (providerEventId : Option Nat) (now : Instant) : VerificationTx VerificationStatus := do
  setResolved loaded.verificationId (finding.status policies loaded)
    (finding.record policies loaded now) providerEventId
  modify (appendEvent (finding.event policies loaded))
  return finding.status policies loaded

/-! ### The job -/

inductive VerifyJobRefusal where
  | unknownVerification | alreadyResolved | unsupportedKind
  deriving DecidableEq

/-- What the job reads before it calls the provider; `names` is the beneficiary's own name. -/
def loadVerification (t : VerificationTables) (provider : VerificationProvider)
    (verificationId : Nat) (names : String) : Except VerifyJobRefusal LoadedVerification :=
  match t.verifications[verificationId]? with
  | none => .error .unknownVerification
  | some row =>
    if row.status ≠ .verifying then .error .alreadyResolved
    else match t.versions[row.destinationVersionId]? with
      | none => .error .unknownVerification
      | some version =>
        if version.kind ∈ provider.supports then
          .ok ⟨verificationId, row.destinationVersionId, version.destinationId,
            version.beneficiaryId, provider, version.accountHolderName.getD names⟩
        else .error .unsupportedKind

/-- The transaction after the call. -/
def recordAnswer (policies : NameMatchPolicySet) (loaded : LoadedVerification)
    (outcome : VerificationOutcome) (now : Instant) : VerificationTx VerificationStatus :=
  match outcome with
  | .verifying reference => do
    setProviderReference loaded.verificationId reference
    modify (appendEvent
      { type := .verificationStarted
        destinationId := loaded.destinationId
        destinationVersionId := loaded.destinationVersionId
        verificationId := loaded.verificationId })
    return .verifying
  | .accountConfirmed evidence => applyOutcome policies loaded ⟨none, evidence⟩ none now
  | .failed code evidence => applyOutcome policies loaded ⟨some code, evidence⟩ none now

/-! ### Callbacks -/

/-- What a delivered callback comes to: a refusal it is stored with, or an outcome to apply. -/
inductive CallbackReading where
  | refused (interpretation : CallbackInterpretation)
  | applicable (loaded : LoadedVerification) (finding : Finding)
  deriving DecidableEq

/-- What `ingestVerificationCallback` reads of a payload, which the provider may not be able to
interpret. -/
def readCallback (t : VerificationTables) (provider : VerificationProvider) (signatureValid : Bool)
    (callback : Option VerificationCallback) (names : String) : CallbackReading :=
  if signatureValid = false then .refused .untrustedSignature
  else match callback with
    | none => .refused .uninterpretable
    | some callback => match t.verifications[callback.requestId]? with
      | none => .refused .unknownVerification
      | some row =>
        if row.destinationVersionId ≠ callback.destinationVersionId then .refused .versionMismatch
        else if row.status ≠ .verifying then .refused .notInFlight
        else match callback.outcome, t.versions[row.destinationVersionId]? with
          | .verifying _, _ => .refused .stillPending
          | _, none => .refused .unknownVerification
          | .accountConfirmed evidence, some version => .applicable
              ⟨callback.requestId, row.destinationVersionId, version.destinationId,
                version.beneficiaryId, provider, version.accountHolderName.getD names⟩
              ⟨none, evidence⟩
          | .failed code evidence, some version => .applicable
              ⟨callback.requestId, row.destinationVersionId, version.destinationId,
                version.beneficiaryId, provider, version.accountHolderName.getD names⟩
              ⟨some code, evidence⟩

end InrSettle
