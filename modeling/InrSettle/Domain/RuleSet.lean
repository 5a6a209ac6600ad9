import InrSettle.Domain.Preflight

/-!
# Rule sets

What is checked of the rules of a set together with the policy rules, and how a rule
set is read off a JSON value. A conversion to a string may throw.
-/

namespace InrSettle.Preflight

open Js

section RuleSets

variable {N : Type} [Js.NumberFormat N]

/-! ### Checking rules -/

inductive RuleProblem where
  | duplicateId
  | duplicateCode
  | unknownFact (fact : Text)
  | unknownOperator (op : Text)
  | amountValueNotIntegerString (value : Text)
  | unknownCopyToken (token : Text)
  | verifyActionWithoutDestinationGuard
  | requirement (defect : RequirementDefect)
  deriving DecidableEq

structure RuleDefect where
  ruleId : Text
  problem : RuleProblem
  deriving DecidableEq

/-- `/^-?\d+$/`. -/
def isIntegerText (text : Text) : Bool :=
  let digits := if text.head? = some (unit '-') then text.drop 1 else text
  decide (digits ≠ []) && digits.all fun u => (digitOf u).isSome

mutual

def inspectCondition : Condition N → Option (List RuleProblem)
  | .compare fact op value => do
    let facts := if (FactName.ofText fact).isNone then [RuleProblem.unknownFact fact] else []
    match Operator.ofText op with
    | none => return facts ++ [.unknownOperator op]
    | some op =>
      if op.comparesAmounts then
        let text ← stringOf value
        return facts ++ if isIntegerText text then [] else [.amountValueNotIntegerString text]
      else return facts
  | .all parts => inspectConditions parts
  | .any parts => inspectConditions parts
  | .not part => inspectCondition part

def inspectConditions : List (Condition N) → Option (List RuleProblem)
  | [] => some []
  | part :: rest => do
    let first ← inspectCondition part
    let others ← inspectConditions rest
    return first ++ others

end

def inspectCopy (text : Text) : List RuleProblem :=
  ((tokensFrom 0 text).filter fun token => (CopyToken.ofText token).isNone).map .unknownCopyToken

mutual

/-- Every branch of the condition that can be true requires a destination. -/
def guardsOnDestination : Condition N → Bool
  | .compare fact op value =>
    if FactName.ofText fact = some .destinationPresent then
      decide (Operator.ofText op = some .eq) && strictlyEqual (.bool true) value
    else if FactName.ofText fact = some .destinationKind ∨
        FactName.ofText fact = some .destinationVerificationStatus then
      decide (Operator.ofText op = some .eq ∨ Operator.ofText op = some .isIn ∨
        Operator.ofText op = some .isNotNull)
    else false
  | .all parts => someGuards parts
  | .any parts => decide (parts ≠ []) && everyGuards parts
  | .not _ => false

def someGuards : List (Condition N) → Bool
  | [] => false
  | part :: rest => guardsOnDestination part || someGuards rest

def everyGuards : List (Condition N) → Bool
  | [] => true
  | part :: rest => guardsOnDestination part && everyGuards rest

end

section Validate

variable (toLowerCase : Text → Text)

/-- What is wrong with a rule by itself. -/
def inspectRule (rule : Rule N) : Option (List RuleProblem) := do
  let condition ← inspectCondition rule.condition
  return condition ++ inspectCopy rule.title ++ inspectCopy rule.detail ++
    (if rule.action = .verifyBeneficiary ∧ guardsOnDestination rule.condition = false then
      [.verifyActionWithoutDestinationGuard] else []) ++
    (inspectRequirement toLowerCase rule.code rule.title rule.detail).map .requirement

/-- The loop over the rules, after rules with these ids and codes. -/
def validateRulesFrom : List Text → List Text → List (Rule N) → Option (List RuleDefect)
  | _, _, [] => some []
  | ids, codes, rule :: rest => do
    let problems ← inspectRule toLowerCase rule
    let others ← validateRulesFrom (rule.id :: ids) (rule.code :: codes) rest
    let twice := (if rule.id ∈ ids then [RuleProblem.duplicateId] else []) ++
      if rule.code ∈ codes then [.duplicateCode] else []
    return (twice ++ problems).map (⟨rule.id, ·⟩) ++ others

def validateRules (rules : List (Rule N)) : Option (List RuleDefect) :=
  validateRulesFrom toLowerCase [] [] rules

def validateRuleSet (ruleSet : RuleSet N) : Option (List RuleDefect) :=
  validateRules toLowerCase (policyRules ++ ruleSet.rules)

end Validate

/-! ### Reading a rule set -/

def sourceWire : RuleSetSource → String
  | .sandboxFixture => "sandbox_fixture" | .adBank => "ad_bank" | .provider => "provider"

/-- `SOURCES`. -/
def sources : List RuleSetSource := [.sandboxFixture, .adBank, .provider]

def sourceOf (name : Text) : Option RuleSetSource :=
  sources.find? fun source => ofString (sourceWire source) = name

inductive RuleSetParseDefect where
  | notAnObject
  | missingField (field : String)
  | unknownSource (value : Text)
  | rulesNotAnArray
  | purposeCodesNotAnArray
  | purposeCodeInvalid (index : Nat)
  | sandboxFixtureClaimsRegulatoryCode (code : Text)
  | ruleNotAnObject (index : Nat)
  | ruleMissingField (index : Nat) (field : String)
  | ruleInvalidCondition (index : Nat)
  | ruleInvalidAction (index : Nat)
  | invalidRule (defect : RuleDefect)
  deriving DecidableEq

/-- `members[name]` of a record. -/
def member (members : List (Text × Value N)) (name : String) : Value N :=
  (members.lookup (ofString name)).getD .undefined

def textOf : Value N → Option Text
  | .string text => some text
  | _ => none

/-- What a member of a record is read as: a condition, and the conditions of an array. -/
structure ConditionMember (N : Type) where
  condition : Option (Condition N)
  parts : Option (List (Option (Condition N)))

/-- The conditions, if each is one. -/
def allParsed : List (Option (Condition N)) → Option (List (Condition N))
  | [] => some []
  | part :: rest => do
    let part ← part
    let rest ← allParsed rest
    return part :: rest

mutual

def parseCondition : Value N → Option (Condition N)
  | .object members =>
    let parsed := parseConditionMembers members
    let partsOf := fun name => (parsed.lookup (ofString name)).bind (·.parts)
    match partsOf "all" with
    | some parts => (allParsed parts).map .all
    | none =>
      match partsOf "any" with
      | some parts => (allParsed parts).map .any
      | none =>
        match parsed.lookup (ofString "not") with
        | some inner => inner.condition.map .not
        | none => do
          let fact ← textOf (member members "fact")
          let op ← textOf (member members "op")
          return .compare fact op (member members "value")
  | .undefined | .null | .bool _ | .number _ | .bigint _ | .string _ | .array _ => none

def parseConditionMembers : List (Text × Value N) → List (Text × ConditionMember N)
  | [] => []
  | (name, value) :: rest =>
    (name, ⟨parseCondition value, parseConditionParts value⟩) :: parseConditionMembers rest

def parseConditionParts : Value N → Option (List (Option (Condition N)))
  | .array items => some (parseConditions items)
  | .undefined | .null | .bool _ | .number _ | .bigint _ | .string _ | .object _ => none

def parseConditions : List (Value N) → List (Option (Condition N))
  | [] => []
  | item :: rest => parseCondition item :: parseConditions rest

end

def parseAction : Value N → Option RuleAction
  | .object members => do
    let type ← textOf (member members "type")
    if type = ofString "verify_beneficiary" then return .verifyBeneficiary
    else if type = ofString "add_payout_destination" then return .addPayoutDestination
    else if type = ofString "select_purpose" then return .selectPurpose
    else if type = ofString "set_up_liquidity_facility" then return .setUpLiquidityFacility
    else if type = ofString "edit_beneficiary" then
      (textOf (member members "field")).map .editBeneficiary
    else if type = ofString "upload_document" then
      (textOf (member members "document_type")).map .uploadDocument
    else if type = ofString "contact_support" then
      (textOf (member members "topic")).map .contactSupport
    else none
  | _ => none

def missingFields (members : List (Text × Value N)) (fields : List String) : List String :=
  fields.filter fun field => (textOf (member members field)).isNone

def parsePurposeCode (sandbox : Bool) (index : Nat) :
    Value N → List RuleSetParseDefect × Option PurposeCode
  | .object members =>
    match textOf (member members "code"), textOf (member members "label") with
    | some code, some label =>
      match member members "regulatory_code" with
      | .null => ([], some ⟨code, label, none⟩)
      | .string regulatoryCode =>
        (if sandbox then [.sandboxFixtureClaimsRegulatoryCode code] else [],
          some ⟨code, label, some regulatoryCode⟩)
      | _ => ([.purposeCodeInvalid index], none)
    | _, _ => ([.purposeCodeInvalid index], none)
  | _ => ([.purposeCodeInvalid index], none)

def severityOf (value : Value N) : RequirementSeverity :=
  if textOf value = some (ofString "advisory") then .advisory else .blocking

/-- One rule, with its defects; nothing where a conversion throws. -/
def parseRule (index : Nat) : Value N → Option (List RuleSetParseDefect × Option (Rule N))
  | .object members => do
    let missing := (missingFields members ["id", "code", "severity", "title", "detail"]).map
      (.ruleMissingField index)
    match parseCondition (member members "when"), parseAction (member members "action") with
    | some condition, some action =>
      let id ← stringOf (member members "id")
      let code ← stringOf (member members "code")
      let title ← stringOf (member members "title")
      let detail ← stringOf (member members "detail")
      return (missing,
        some ⟨id, condition, code, severityOf (member members "severity"), title, detail, action⟩)
    | condition, action =>
      return (missing ++ (if condition.isNone then [.ruleInvalidCondition index] else []) ++
        (if action.isNone then [.ruleInvalidAction index] else []), none)
  | _ => some ([.ruleNotAnObject index], none)

def parseRules : Nat → List (Value N) → Option (List RuleSetParseDefect × List (Rule N))
  | _, [] => some ([], [])
  | index, raw :: rest => do
    let (defects, rule) ← parseRule index raw
    let (more, rules) ← parseRules (index + 1) rest
    return (defects ++ more, rule.toList ++ rules)

/-- The purpose codes and their defects. -/
def parsePurposeCodes (sandbox : Bool) : Value N → List RuleSetParseDefect × List PurposeCode
  | .array items =>
    let parsed := items.mapIdx (parsePurposeCode sandbox)
    (parsed.flatMap (·.1), parsed.filterMap (·.2))
  | _ => ([.purposeCodesNotAnArray], [])

/-- What is wrong with the fields of a rule set that are texts. -/
def fieldDefects (members : List (Text × Value N)) : List RuleSetParseDefect :=
  (missingFields members ["version", "source", "description"]).map .missingField ++
    match textOf (member members "source") with
    | some name => if (sourceOf name).isNone then [.unknownSource name] else []
    | none => []

variable (toLowerCase : Text → Text)

/-- The rule set if nothing is wrong with its rules. -/
def checkedRuleSet (ruleSet : RuleSet N) :
    Option (Except (List RuleSetParseDefect) (RuleSet N)) := do
  let invalid ← validateRuleSet toLowerCase ruleSet
  if invalid ≠ [] then return .error (invalid.map .invalidRule) else return .ok ruleSet

/-- `parseRuleSet`, without the checksum of what it accepts; nothing where it throws. -/
def parseRuleSet : Value N → Option (Except (List RuleSetParseDefect) (RuleSet N))
  | .object members =>
    match member members "rules" with
    | .array items => do
      let source := textOf (member members "source")
      let sandbox := decide (source = some (ofString (sourceWire .sandboxFixture)))
      let (purposeDefects, purposeCodes) := parsePurposeCodes sandbox (member members "purpose_codes")
      let (ruleDefects, rules) ← parseRules 0 items
      let defects := fieldDefects members ++ purposeDefects ++ ruleDefects
      match textOf (member members "version"), source.bind sourceOf,
          textOf (member members "description") with
      | some version, some source, some description =>
        if defects ≠ [] then return .error defects
        else
          let sorted := purposeCodes.insertionSort fun a b => a.code ≤ b.code
          checkedRuleSet toLowerCase ⟨version, source, description, sorted, rules⟩
      | _, _, _ => return .error defects
    | _ => some (.error (fieldDefects members ++ [.rulesNotAnArray]))
  | _ => some (.error [.notAnObject])

end RuleSets

end InrSettle.Preflight
