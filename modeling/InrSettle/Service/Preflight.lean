import InrSettle.Domain.Preflight
import InrSettle.Service.Settlement

/-!
# The preflight service

The subject of a preflight as it is assembled from a beneficiary and its destinations, and
what an authorization reads of them once more.
-/

namespace InrSettle.Preflight

open Js

/-! ### Views -/

structure DestinationVersionView where
  id : String
  kind : DestinationKind
  summary : Text
  verificationStatus : VerificationStatus
  nameMatchScore : Option ℚ
  deriving DecidableEq

/-- A payout destination as `getBeneficiary` lists it, disabled ones too. -/
structure PayoutDestinationView where
  id : String
  currentVersion : Option DestinationVersionView
  disabledAt : Option Instant
  deriving DecidableEq

structure BeneficiaryView where
  id : String
  displayName : Text
  legalName : Option Text
  type : BeneficiaryType
  country : Text
  hasTaxId : Bool
  status : BeneficiaryStatus
  defaultDestinationId : Option String
  /-- By the time they were created. -/
  destinations : List PayoutDestinationView

/-! ### The subject -/

/-- `PreflightInput`, but for the beneficiary. -/
structure PreflightInput where
  destinationId : Option String
  amount : Amount
  purposeCode : Option String
  documents : List Text
  hasActiveLiquidityFacility : Bool

/-- A text that counts as given. -/
def named (text : Option String) : Option String := text.filter (· ≠ "")

/-- The destination a preflight chooses. -/
def chosenDestination (beneficiary : BeneficiaryView) (destinationId : Option String) :
    Option PayoutDestinationView :=
  (beneficiary.destinations.find? fun d =>
    match named destinationId with
    | some id => decide (d.id = id)
    | none => decide (some d.id = beneficiary.defaultDestinationId)).or
  -- no default and none named
  (beneficiary.destinations.find? fun d => d.disabledAt.isNone)

/-- A version of a destination as the rules examine it. -/
def examinedVersion (destination : PayoutDestinationView) (version : DestinationVersionView) :
    SubjectDestination where
  id := ofString destination.id
  versionId := ofString version.id
  kind := version.kind
  verificationStatus := version.verificationStatus
  summary := version.summary
  nameMatchScore := version.nameMatchScore

/-- What is examined of a destination: its current version, unless it is disabled. -/
def examined (chosen : PayoutDestinationView) : Option SubjectDestination :=
  if chosen.disabledAt.isNone then chosen.currentVersion.map (examinedVersion chosen) else none

variable {N : Type} [Js.NumberFormat N]

def buildPreflightSubject (environment : Environment) (ruleSet : RuleSet N)
    (beneficiary : Option BeneficiaryView) (input : PreflightInput) : Option Subject :=
  beneficiary.map fun beneficiary =>
    let purpose := ruleSet.purposeCodes.find? fun purpose =>
      decide (some purpose.code = input.purposeCode.map ofString)
    { beneficiary := {
        id := ofString beneficiary.id
        displayName := beneficiary.displayName
        legalName := beneficiary.legalName.getD beneficiary.displayName
        type := beneficiary.type
        status := beneficiary.status
        country := beneficiary.country
        hasTaxId := beneficiary.hasTaxId }
      destination := (chosenDestination beneficiary input.destinationId).bind examined
      amount := input.amount
      purpose := {
        code := input.purposeCode.map ofString
        label := purpose.map (·.label)
        regulatoryCode := purpose.bind (·.regulatoryCode) }
      hasActiveLiquidityFacility := input.hasActiveLiquidityFacility
      environment := environment
      documents := input.documents }

variable (integerOf : N → Option Int)

inductive PreflightResult where
  | beneficiaryNotFound
  | checked (outcome : Outcome) (subject : Subject)

/-- `runPreflightFor`; nothing where the run throws. -/
def runPreflightFor (environment : Environment) (ruleSet : RuleSet N)
    (beneficiary : Option BeneficiaryView) (input : PreflightInput) : Option PreflightResult :=
  match buildPreflightSubject environment ruleSet beneficiary input with
  | none => some .beneficiaryNotFound
  | some subject => (runPreflight integerOf subject ruleSet).map fun outcome =>
    .checked outcome subject

def PreflightResult.passing : PreflightResult → Bool
  | .beneficiaryNotFound => false
  | .checked outcome _ => decide (outcome.status = .ready)

/-! ### What an authorization reads -/

/-- The destination an authorization chooses. -/
def authorizedDestination (beneficiary : Option BeneficiaryView) (settlement : SettlementRow) :
    Option PayoutDestinationView :=
  (beneficiary.bind fun beneficiary => beneficiary.destinations.find? fun d =>
    match named settlement.destinationId with
    | some id => decide (d.id = id)
    | none => decide (some d.id = beneficiary.defaultDestinationId)).or
  (beneficiary.bind fun beneficiary => beneficiary.destinations.find? fun d => d.disabledAt.isNone)

/-- `isVersionVerified`. -/
def isVersionVerified (version : DestinationVersionView) : Bool :=
  decide (version.verificationStatus = .verified)

/-- The version to freeze, with its destination. -/
def versionToFreeze (destination : PayoutDestinationView) : Option DestinationView :=
  destination.currentVersion.map fun version =>
    { id := destination.id, versionId := version.id, verified := isVersionVerified version }

/-- What the preflight of an authorization is asked about. -/
def preflightInputOf (settlement : SettlementRow) (documents : List Text)
    (hasActiveLiquidityFacility : Bool) : PreflightInput where
  destinationId := named settlement.destinationId
  amount := ⟨.inr, settlement.recipientAmountMinor⟩
  purposeCode := settlement.purposeCode
  documents := documents
  hasActiveLiquidityFacility := hasActiveLiquidityFacility

/-- An authorization's input with what it reads of the beneficiary; nothing where its preflight
throws. -/
def readForAuthorization (environment : Environment) (ruleSet : RuleSet N) (documents : List Text)
    (beneficiary : Option BeneficiaryView) (settlement : SettlementRow) (input : AuthorizeInput) :
    Option AuthorizeInput := do
  let preflight ← runPreflightFor integerOf environment ruleSet beneficiary
    (preflightInputOf settlement documents input.hasActiveLiquidityFacility)
  return { input with
    beneficiaryVerified := beneficiary.any fun beneficiary => decide (beneficiary.status = .verified)
    destination := (authorizedDestination beneficiary settlement).bind versionToFreeze
    preflightPassing := preflight.passing }

end InrSettle.Preflight
