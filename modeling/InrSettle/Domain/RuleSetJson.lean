import InrSettle.Domain.RuleSet
import InrSettle.Library.JsStored

/-!
# Rule sets as JSON

How a rule set is written in the shape that it is read in, its checksum, and how it is
loaded from the rows it was stored in.
-/

namespace InrSettle.Preflight

open Js

section RuleSetJson

variable {N : Type}

def textMember (name : String) (text : Text) : Text × Value N := (ofString name, .string text)

mutual

/-- A condition as the object that it is. -/
def conditionJson : Condition N → Value N
  | .compare fact op value =>
    .object [textMember "fact" fact, textMember "op" op, (ofString "value", value)]
  | .all parts => .object [(ofString "all", .array (conditionsJson parts))]
  | .any parts => .object [(ofString "any", .array (conditionsJson parts))]
  | .not part => .object [(ofString "not", conditionJson part)]

def conditionsJson : List (Condition N) → List (Value N)
  | [] => []
  | part :: rest => conditionJson part :: conditionsJson rest

end

def RuleAction.wire : RuleAction → String
  | .verifyBeneficiary => "verify_beneficiary"
  | .editBeneficiary _ => "edit_beneficiary"
  | .addPayoutDestination => "add_payout_destination"
  | .uploadDocument _ => "upload_document"
  | .selectPurpose => "select_purpose"
  | .contactSupport _ => "contact_support"
  | .setUpLiquidityFacility => "set_up_liquidity_facility"

/-- The type of an action and what else it has, with this name for the type of a document. -/
def actionObject (documentType : String) (action : RuleAction) : Value N :=
  .object (textMember "type" (ofString action.wire) ::
    match action with
    | .uploadDocument type => [textMember documentType type]
    | .editBeneficiary field => [textMember "field" field]
    | .contactSupport topic => [textMember "topic" topic]
    | .verifyBeneficiary | .addPayoutDestination | .selectPurpose | .setUpLiquidityFacility => [])

def actionToJson (action : RuleAction) : Value N := actionObject "document_type" action

def toRuleJson (rule : Rule N) : Value N :=
  .object [textMember "id" rule.id, (ofString "when", conditionJson rule.condition),
    textMember "code" rule.code, textMember "severity" (ofString rule.severity.wire),
    textMember "title" rule.title, textMember "detail" rule.detail,
    (ofString "action", actionToJson rule.action)]

def regulatoryJson (regulatoryCode : Option Text) : Value N :=
  (regulatoryCode.map Value.string).getD .null

def purposeJson (regulatoryName : String) (purpose : PurposeCode) : Value N :=
  .object [textMember "code" purpose.code, textMember "label" purpose.label,
    (ofString regulatoryName, regulatoryJson purpose.regulatoryCode)]

def toRuleSetJson (ruleSet : RuleSet N) : Value N :=
  .object [textMember "version" ruleSet.version,
    textMember "source" (ofString (sourceWire ruleSet.source)),
    textMember "description" ruleSet.description,
    (ofString "purpose_codes", .array (ruleSet.purposeCodes.map (purposeJson "regulatory_code"))),
    (ofString "rules", .array (ruleSet.rules.map toRuleJson))]

/-! ### Checksum -/

def checkedRule (rule : Rule N) : Value N :=
  .object [textMember "id" rule.id, textMember "code" rule.code,
    textMember "severity" (ofString rule.severity.wire), textMember "title" rule.title,
    textMember "detail" rule.detail, (ofString "action", actionObject "documentType" rule.action),
    (ofString "when", conditionJson rule.condition)]

/-- What the checksum is taken of. -/
def checkedValue (ruleSet : RuleSet N) : Value N :=
  .object [textMember "version" ruleSet.version,
    textMember "source" (ofString (sourceWire ruleSet.source)),
    (ofString "purposeCodes", .array (ruleSet.purposeCodes.map (purposeJson "regulatoryCode"))),
    (ofString "rules", .array (ruleSet.rules.map checkedRule))]

variable [Js.NumberFormat N] (sha256 : Text → Text)

def ruleSetChecksum (ruleSet : RuleSet N) : Text := sha256 (checkedValue ruleSet).stringify

/-! ### Loading -/

/-- A row of `preflight_rule_sets`. -/
structure PreflightRuleSetRow (N : Type) where
  version : Text
  source : Text
  description : Text
  rules : Value N
  checksum : Text

variable (toLowerCase : Text → Text)

/-- `loadRuleSetFromDatabase`, of the row of a version and its purpose codes; nothing where it
throws. -/
def loadRuleSetFromDatabase (row : PreflightRuleSetRow N) (purposeRows : List PurposeCode) :
    Option (RuleSet N × Text) := do
  let parsed ← parseRuleSet toLowerCase (.object [textMember "version" row.version,
    textMember "source" row.source, textMember "description" row.description,
    (ofString "purpose_codes", .array (purposeRows.map (purposeJson "regulatory_code"))),
    (ofString "rules", row.rules)])
  match parsed with
  | .error _ => none
  | .ok ruleSet =>
    if ruleSetChecksum sha256 ruleSet ≠ row.checksum then none else some (ruleSet, row.checksum)

/-- The rows that `loadReferenceData` puts a rule set in, as the database gives them back. -/
structure StoredRows (ruleSet : RuleSet N) (row : PreflightRuleSetRow N)
    (purposeRows : List PurposeCode) : Prop where
  version : row.version = ruleSet.version
  source : row.source = ofString (sourceWire ruleSet.source)
  description : row.description = ruleSet.description
  rules : Value.Kept (.array (ruleSet.rules.map toRuleJson)) row.rules
  checksum : row.checksum = ruleSetChecksum sha256 ruleSet
  /-- The primary key of `purpose_codes`. -/
  distinctCodes : (purposeRows.map (·.code)).Nodup
  purposes : purposeRows.Perm ruleSet.purposeCodes

end RuleSetJson

end InrSettle.Preflight
