import InrSettle.Domain.Destination
import InrSettle.Domain.Money
import InrSettle.Domain.Requirement
import InrSettle.Store.Verification

/-!
# Preflight rules

The facts a rule may examine, conditions over them as they stand in a rule set, the
policy rules, the run of all rules over a subject, and what is checked of a rule set.
-/

namespace InrSettle.Preflight

open Js

/-! ### Facts -/

inductive Environment where
  | sandbox | live
  deriving DecidableEq

structure SubjectBeneficiary where
  id : Text
  displayName : Text
  legalName : Text
  type : BeneficiaryType
  status : BeneficiaryStatus
  country : Text
  hasTaxId : Bool

structure SubjectDestination where
  id : Text
  versionId : Text
  kind : DestinationKind
  verificationStatus : VerificationStatus
  summary : Text
  nameMatchScore : Option ℚ

structure SubjectPurpose where
  code : Option Text
  label : Option Text
  regulatoryCode : Option Text

/-- `PreflightSubject`. -/
structure Subject where
  beneficiary : SubjectBeneficiary
  destination : Option SubjectDestination
  amount : Amount
  purpose : SubjectPurpose
  hasActiveLiquidityFacility : Bool
  environment : Environment
  documents : List Text

inductive FactName where
  | beneficiaryType | beneficiaryStatus | beneficiaryCountry | beneficiaryHasTaxId
  | destinationPresent | destinationKind | destinationVerificationStatus
  | amountMinorUnits | amountCurrency | purposeCode | purposeRegulatoryCode | documents
  | environment | hasActiveLiquidityFacility
  deriving DecidableEq

namespace FactName

def wire : FactName → String
  | beneficiaryType => "beneficiary_type"
  | beneficiaryStatus => "beneficiary_status"
  | beneficiaryCountry => "beneficiary_country"
  | beneficiaryHasTaxId => "beneficiary_has_tax_id"
  | destinationPresent => "destination_present"
  | destinationKind => "destination_kind"
  | destinationVerificationStatus => "destination_verification_status"
  | amountMinorUnits => "amount_minor_units"
  | amountCurrency => "amount_currency"
  | purposeCode => "purpose_code"
  | purposeRegulatoryCode => "purpose_regulatory_code"
  | documents => "documents"
  | environment => "environment"
  | hasActiveLiquidityFacility => "has_active_liquidity_facility"

/-- `FACT_NAMES`. -/
def all : List FactName :=
  [beneficiaryType, beneficiaryStatus, beneficiaryCountry, beneficiaryHasTaxId,
    destinationPresent, destinationKind, destinationVerificationStatus, amountMinorUnits,
    amountCurrency, purposeCode, purposeRegulatoryCode, documents, environment,
    hasActiveLiquidityFacility]

def ofText (name : Text) : Option FactName := all.find? fun fact => ofString fact.wire = name

end FactName

inductive FactValue where
  | undefined
  | null
  | text (value : Text)
  | bool (value : Bool)
  | bigint (value : Int)
  | texts (values : List Text)
  deriving DecidableEq

def FactValue.ofOption : Option Text → FactValue
  | none => .null
  | some value => .text value

section Wire

def typeWire : BeneficiaryType → String
  | .individual => "individual" | .business => "business"

def statusWire : BeneficiaryStatus → String
  | .draft => "draft" | .pendingVerification => "pending_verification"
  | .verified => "verified" | .rejected => "rejected" | .disabled => "disabled"

def kindWire : DestinationKind → String
  | .bankAccount => "bank_account" | .upi => "upi"

def verificationWire : VerificationStatus → String
  | .unverified => "unverified" | .verifying => "verifying"
  | .verified => "verified" | .failed => "failed"

def environmentWire : Environment → String
  | .sandbox => "sandbox" | .live => "live"

end Wire

def factOf (subject : Subject) : FactName → FactValue
  | .beneficiaryType => .text (ofString (typeWire subject.beneficiary.type))
  | .beneficiaryStatus => .text (ofString (statusWire subject.beneficiary.status))
  | .beneficiaryCountry => .text subject.beneficiary.country
  | .beneficiaryHasTaxId => .bool subject.beneficiary.hasTaxId
  | .destinationPresent => .bool subject.destination.isSome
  | .destinationKind =>
    .ofOption (subject.destination.map fun destination => ofString (kindWire destination.kind))
  | .destinationVerificationStatus =>
    .ofOption (subject.destination.map fun destination =>
      ofString (verificationWire destination.verificationStatus))
  | .amountMinorUnits => .bigint subject.amount.minorUnits
  | .amountCurrency => .text (ofString subject.amount.currency.wire)
  | .purposeCode => .ofOption subject.purpose.code
  | .purposeRegulatoryCode => .ofOption subject.purpose.regulatoryCode
  | .documents => .texts subject.documents
  | .environment => .text (ofString (environmentWire subject.environment))
  | .hasActiveLiquidityFacility => .bool subject.hasActiveLiquidityFacility

/-- A name that is no fact's gives nothing. -/
def factNamed (subject : Subject) (name : Text) : FactValue :=
  ((FactName.ofText name).map (factOf subject)).getD .undefined

/-! ### Conditions -/

inductive Operator where
  | eq | neq | isIn | notIn | gte | gt | lte | lt | includes | notIncludes | isNull | isNotNull
  deriving DecidableEq

namespace Operator

def wire : Operator → String
  | eq => "eq" | neq => "neq" | isIn => "in" | notIn => "not_in" | gte => "gte" | gt => "gt"
  | lte => "lte" | lt => "lt" | includes => "includes" | notIncludes => "not_includes"
  | isNull => "is_null" | isNotNull => "is_not_null"

/-- `VALID_OPS`. -/
def all : List Operator :=
  [eq, neq, isIn, notIn, gte, gt, lte, lt, includes, notIncludes, isNull, isNotNull]

def ofText (name : Text) : Option Operator := all.find? fun op => ofString op.wire = name

/-- The operators that compare amounts. -/
def comparesAmounts : Operator → Bool
  | gte | gt | lte | lt => true
  | eq | neq | isIn | notIn | includes | notIncludes | isNull | isNotNull => false

end Operator

/-- A condition as it is read: nothing is known of the fact, the operator and the value of a
comparison. -/
inductive Condition (N : Type) where
  | compare (fact op : Text) (value : Value N)
  | all (parts : List (Condition N))
  | any (parts : List (Condition N))
  | not (part : Condition N)

section Evaluate

variable {N : Type} [Js.NumberFormat N]

/-- `actual === value`. -/
def strictlyEqual : FactValue → Value N → Bool
  | .undefined, .undefined => true
  | .null, .null => true
  | .text text, .string value => decide (text = value)
  | .bool b, .bool value => decide (b = value)
  | .bigint n, .bigint value => decide (n = value)
  | _, _ => false

/-- `value.includes(text)`; nothing where it throws. -/
def valueIncludes (text : Text) : Value N → Option Bool
  | .array items => some (items.any fun item => strictlyEqual (.text text) item)
  | .string value => some (decide (text <:+: value))
  | .undefined | .null | .bool _ | .number _ | .bigint _ | .object _ => none

variable (integerOf : N → Option Int)

/-- `BigInt(value)`; nothing where it throws. -/
def bigIntOfValue : Value N → Option Int
  | .bool b => some (if b then 1 else 0)
  | .number n => integerOf n
  | .bigint n => some n
  | .string text => bigIntOf text
  | .array items => (stringOf (.array items)).bind bigIntOf
  | .undefined | .null | .object _ => none

def comparesTo : Operator → Int → Int → Bool
  | .gte, actual, rhs => decide (rhs ≤ actual)
  | .gt, actual, rhs => decide (rhs < actual)
  | .lte, actual, rhs => decide (actual ≤ rhs)
  | _, actual, rhs => decide (actual < rhs)

/-- A comparison; nothing where it throws. -/
def evaluateComparison (actual : FactValue) (op : Operator) (value : Value N) : Option Bool :=
  match op with
  | .eq => some (strictlyEqual actual value)
  | .neq => some (!strictlyEqual actual value)
  | .isIn => match actual with
    | .text text => valueIncludes text value
    | _ => some false
  | .notIn => match actual with
    | .text text => (valueIncludes text value).map (!·)
    | _ => some true
  | .gte | .gt | .lte | .lt => match actual with
    | .bigint n => (bigIntOfValue integerOf value).map (comparesTo op n)
    | _ => some false
  | .includes => match actual with
    | .texts texts => some (texts.any fun text => strictlyEqual (.text text) value)
    | _ => some false
  | .notIncludes => match actual with
    | .texts texts => some (!texts.any fun text => strictlyEqual (.text text) value)
    | _ => some false
  | .isNull => some (decide (actual = .null))
  | .isNotNull => some (decide (actual ≠ .null))

mutual

/-- Whether a condition holds of a subject; nothing where its evaluation throws. -/
def evaluateCondition (subject : Subject) : Condition N → Option Bool
  | .compare fact op value =>
    match Operator.ofText op with
    | none => some false
    | some op => evaluateComparison integerOf (factNamed subject fact) op value
  | .all parts => everyHolds subject parts
  | .any parts => someHolds subject parts
  | .not part => (evaluateCondition subject part).map (!·)

def everyHolds (subject : Subject) : List (Condition N) → Option Bool
  | [] => some true
  | part :: rest => do if ← evaluateCondition subject part then everyHolds subject rest else some false

def someHolds (subject : Subject) : List (Condition N) → Option Bool
  | [] => some false
  | part :: rest => do if ← evaluateCondition subject part then some true else someHolds subject rest

end

end Evaluate

/-! ### Rules -/

/-- The action as a rule has it: the ids are the subject's. -/
inductive RuleAction where
  | verifyBeneficiary
  | editBeneficiary (field : Text)
  | addPayoutDestination
  | uploadDocument (documentType : Text)
  | selectPurpose
  | contactSupport (topic : Text)
  | setUpLiquidityFacility
  deriving DecidableEq

structure Rule (N : Type) where
  id : Text
  condition : Condition N
  code : Text
  severity : RequirementSeverity
  title : Text
  detail : Text
  action : RuleAction

inductive RuleSetSource where
  | sandboxFixture | adBank | provider
  deriving DecidableEq

structure PurposeCode where
  code : Text
  label : Text
  regulatoryCode : Option Text
  deriving DecidableEq

structure RuleSet (N : Type) where
  version : Text
  source : RuleSetSource
  description : Text
  purposeCodes : List PurposeCode
  rules : List (Rule N)

/-! ### Policy rules -/

section Policy

variable {N : Type}

def factEquals (fact : FactName) (value : Value N) : Condition N :=
  .compare (ofString fact.wire) (ofString Operator.eq.wire) value

/-- A policy rule is blocking. -/
def policyRule (id : String) (condition : Condition N) (code title detail : String)
    (action : RuleAction) : Rule N where
  id := ofString id
  condition := condition
  code := ofString code
  severity := .blocking
  title := ofString title
  detail := ofString detail
  action := action

def destinationMissing : Rule N :=
  policyRule "policy.destination_missing" (factEquals .destinationPresent (.bool false))
    "payout_destination_required" "This beneficiary needs a payout destination"
    ("Add the bank account or UPI ID that \x7b\x7bbeneficiary_name\x7d\x7d should receive " ++
      "funds in before you settle.")
    .addPayoutDestination

def destinationUnverified : Rule N :=
  policyRule "policy.destination_unverified"
    (factEquals .destinationVerificationStatus (.string (ofString "unverified")))
    "beneficiary_account_unverified" "Beneficiary payout details need verification"
    ("We confirm that \x7b\x7bdestination_summary\x7d\x7d accepts payments and matches the " ++
      "beneficiary name. This takes about a minute.")
    .verifyBeneficiary

def destinationVerificationFailed : Rule N :=
  policyRule "policy.destination_verification_failed"
    (factEquals .destinationVerificationStatus (.string (ofString "failed")))
    "beneficiary_account_verification_failed" "We could not confirm these payout details"
    ("The bank did not accept \x7b\x7bdestination_summary\x7d\x7d. Check the account number, " ++
      "IFSC and name with \x7b\x7bbeneficiary_name\x7d\x7d, then save the corrected details.")
    (.editBeneficiary (ofString "payout_destination"))

def destinationVerifying : Rule N :=
  policyRule "policy.destination_verifying"
    (factEquals .destinationVerificationStatus (.string (ofString "verifying")))
    "beneficiary_verification_in_progress" "Beneficiary verification is still running"
    ("We are confirming \x7b\x7bdestination_summary\x7d\x7d now. This usually finishes within " ++
      "a minute — no action is needed from you.")
    .verifyBeneficiary

def beneficiaryRejected : Rule N :=
  policyRule "policy.beneficiary_rejected"
    (factEquals .beneficiaryStatus (.string (ofString "rejected")))
    "beneficiary_rejected" "This beneficiary cannot receive settlements"
    ("Verification of \x7b\x7bbeneficiary_name\x7d\x7d did not pass and the beneficiary was " ++
      "rejected. Our team can explain what was found.")
    (.contactSupport (ofString "beneficiary_rejected"))

def beneficiaryDisabled : Rule N :=
  policyRule "policy.beneficiary_disabled"
    (factEquals .beneficiaryStatus (.string (ofString "disabled")))
    "beneficiary_disabled" "This beneficiary is disabled"
    ("Someone in your workspace disabled \x7b\x7bbeneficiary_name\x7d\x7d. Re-enable the " ++
      "beneficiary to settle to it again.")
    (.editBeneficiary (ofString "status"))

def purposeMissing : Rule N :=
  policyRule "policy.purpose_missing"
    (.compare (ofString FactName.purposeCode.wire) (ofString Operator.isNull.wire) .undefined)
    "purpose_required" "Choose what this payment is for"
    ("Inward remittances to India are reported under a purpose. Pick the one that describes " ++
      "this settlement.")
    .selectPurpose

def liquidityFacility : Rule N :=
  policyRule "policy.liquidity_facility"
    (.all [factEquals .environment (.string (ofString "live")),
      factEquals .hasActiveLiquidityFacility (.bool false)])
    "liquidity_facility_required" "Your workspace needs an active settlement facility"
    ("Live settlements are funded from your INR facility. We will walk you through setting one " ++
      "up before your first live payout.")
    .setUpLiquidityFacility

/-- `POLICY_RULES`. -/
def policyRules : List (Rule N) :=
  [destinationMissing, destinationUnverified, destinationVerificationFailed, destinationVerifying,
    beneficiaryRejected, beneficiaryDisabled, purposeMissing, liquidityFacility]

end Policy

/-! ### Copy -/

/-- `COPY_TOKENS`. -/
inductive CopyToken where
  | amount | beneficiaryName | destinationSummary | purposeLabel
  deriving DecidableEq

namespace CopyToken

def wire : CopyToken → String
  | amount => "amount" | beneficiaryName => "beneficiary_name"
  | destinationSummary => "destination_summary" | purposeLabel => "purpose_label"

def all : List CopyToken := [amount, beneficiaryName, destinationSummary, purposeLabel]

def ofText (name : Text) : Option CopyToken := all.find? fun token => ofString token.wire = name

end CopyToken

/-- The name in the braces that a text begins with, as `TOKEN_PATTERN` has it. -/
def tokenAt (text : Text) : Option Text :=
  let rest := text.drop 2
  let name := rest.takeWhile fun u => isSmallLetter u || u == unit '_'
  if ofString "\x7b\x7b" <+: text ∧ name ≠ [] ∧ ofString "\x7d\x7d" <+: rest.drop name.length then
    some name
  else none

/-- The names in braces, after a number of units that belong to the one before. -/
def tokensFrom : Nat → Text → List Text
  | _, [] => []
  | skip + 1, _ :: rest => tokensFrom skip rest
  | 0, u :: rest =>
    match tokenAt (u :: rest) with
    | some name => name :: tokensFrom (name.length + 3) rest
    | none => tokensFrom 0 rest

def interpolateFrom (values : CopyToken → Text) : Nat → Text → Text
  | _, [] => []
  | skip + 1, _ :: rest => interpolateFrom values skip rest
  | 0, u :: rest =>
    match tokenAt (u :: rest) with
    | some name =>
      let whole := (u :: rest).take (name.length + 4)
      ((CopyToken.ofText name).map values).getD whole ++
        interpolateFrom values (name.length + 3) rest
    | none => u :: interpolateFrom values 0 rest

def interpolate (text : Text) (values : CopyToken → Text) : Text := interpolateFrom values 0 text

def tokenValues (subject : Subject) : CopyToken → Text
  | .amount => ofString (formatMoney subject.amount
      (if subject.amount.currency = .inr then .indian else .international))
  | .beneficiaryName => subject.beneficiary.displayName
  | .destinationSummary =>
    (subject.destination.map (·.summary)).getD (ofString "the payout destination")
  | .purposeLabel => subject.purpose.label.getD (ofString "the selected purpose")

/-! ### The run -/

/-- Nothing where the destination to name is absent. -/
def materialiseAction (subject : Subject) : RuleAction → Option RequirementAction
  | .verifyBeneficiary =>
    subject.destination.map fun destination =>
      .verifyBeneficiary subject.beneficiary.id destination.versionId
  | .editBeneficiary field => some (.editBeneficiary subject.beneficiary.id field)
  | .addPayoutDestination => some (.addPayoutDestination subject.beneficiary.id)
  | .uploadDocument documentType => some (.uploadDocument documentType)
  | .selectPurpose => some .selectPurpose
  | .contactSupport topic => some (.contactSupport topic)
  | .setUpLiquidityFacility => some .setUpLiquidityFacility

def preflightEngineVersion : Text := ofString "1"

inductive PreflightStatus where
  | ready | actionRequired
  deriving DecidableEq

structure Outcome where
  status : PreflightStatus
  requirements : List Requirement
  ruleSetVersion : Text
  ruleSetSource : RuleSetSource
  engineVersion : Text
  fingerprint : Text
  deriving DecidableEq

section Run

variable {N : Type} [Js.NumberFormat N]

def actionJson : RequirementAction → Value N
  | .verifyBeneficiary beneficiaryId destinationVersionId =>
    .object [(ofString "type", .string (ofString "verify_beneficiary")),
      (ofString "beneficiaryId", .string beneficiaryId),
      (ofString "destinationVersionId", .string destinationVersionId)]
  | .editBeneficiary beneficiaryId field =>
    .object [(ofString "type", .string (ofString "edit_beneficiary")),
      (ofString "beneficiaryId", .string beneficiaryId), (ofString "field", .string field)]
  | .addPayoutDestination beneficiaryId =>
    .object [(ofString "type", .string (ofString "add_payout_destination")),
      (ofString "beneficiaryId", .string beneficiaryId)]
  | .uploadDocument documentType =>
    .object [(ofString "type", .string (ofString "upload_document")),
      (ofString "documentType", .string documentType)]
  | .selectPurpose => .object [(ofString "type", .string (ofString "select_purpose"))]
  | .contactSupport topic =>
    .object [(ofString "type", .string (ofString "contact_support")),
      (ofString "topic", .string topic)]
  | .setUpLiquidityFacility =>
    .object [(ofString "type", .string (ofString "set_up_liquidity_facility"))]

/-- `h ^= unit` and `Math.imul(h, 0x01000193) >>> 0`. -/
def fnvStep (h : Nat) (u : Nat) : Nat := ((h ^^^ u) * 0x01000193) % 2 ^ 32

def fingerprintOf (parts : List Text) : Text :=
  let h := parts.foldl (fun h part =>
    fnvStep (part.foldl (fun h u => fnvStep h u.val) h) 0x1f) 0x811c9dc5
  (Decimal.padStart 8 (Nat.toDigits 16 h)).map unit

variable (N) in
def fingerprintPart (requirement : Requirement) : Text :=
  requirement.code ++ unit '|' :: (ofString requirement.severity.wire ++ unit '|' ::
    (requirement.title ++ unit '|' :: (requirement.detail ++ unit '|' ::
      (actionJson (N := N) requirement.action).text)))

def requirementOf (subject : Subject) (rule : Rule N) (action : RequirementAction) :
    Requirement where
  code := rule.code
  severity := rule.severity
  title := interpolate rule.title (tokenValues subject)
  detail := interpolate rule.detail (tokenValues subject)
  action := action

variable (integerOf : N → Option Int)

/-- The loop over the rules, after requirements with these codes; nothing where it throws. -/
def requirementsFrom (subject : Subject) : List Text → List (Rule N) → Option (List Requirement)
  | _, [] => some []
  | seen, rule :: rest => do
    if ¬ (← evaluateCondition integerOf subject rule.condition) then requirementsFrom subject seen rest
    else if rule.code ∈ seen then requirementsFrom subject seen rest
    else match materialiseAction subject rule.action with
      | none => requirementsFrom subject seen rest
      | some action =>
        let others ← requirementsFrom subject (rule.code :: seen) rest
        return requirementOf subject rule action :: others

/-- The outcome that has these requirements. -/
def outcomeOf (ruleSet : RuleSet N) (requirements : List Requirement) : Outcome :=
  let sorted := sortRequirements requirements
  let blocking := sorted.filter (·.severity = .blocking)
  { status := if blocking.length = 0 then .ready else .actionRequired
    requirements := sorted
    ruleSetVersion := ruleSet.version
    ruleSetSource := ruleSet.source
    engineVersion := preflightEngineVersion
    fingerprint := fingerprintOf
      (preflightEngineVersion :: ruleSet.version :: sorted.map (fingerprintPart N)) }

/-- `runPreflight`; nothing where it throws. -/
def runPreflight (subject : Subject) (ruleSet : RuleSet N) : Option Outcome :=
  (requirementsFrom integerOf subject [] (policyRules ++ ruleSet.rules)).map (outcomeOf ruleSet)

end Run

end InrSettle.Preflight
