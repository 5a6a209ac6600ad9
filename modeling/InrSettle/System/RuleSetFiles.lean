import InrSettle.Domain.RuleSet

/-!
# Accepted rule sets

What the members of a file are that a rule set was read off, part by part. Nothing else
is accepted.
-/

namespace InrSettle.Preflight

open Js

section Files

variable {N : Type}

theorem textOf_eq_some {value : Value N} {text : Text} :
    textOf value = some text ↔ value = .string text := by
  cases value <;> simp [textOf]

theorem missingFields_eq_nil {members : List (Text × Value N)} {fields : List String} :
    missingFields members fields = [] ↔
      ∀ field ∈ fields, ∃ text, member members field = .string text := by
  simp only [missingFields, List.filter_eq_nil_iff, Option.isNone_iff_eq_none,
    ← ne_eq, Option.ne_none_iff_exists', textOf_eq_some]

theorem mem_of_lookup {members : List (Text × Value N)} {name : Text} {value : Value N}
    (found : members.lookup name = some value) : (name, value) ∈ members := by
  obtain ⟨before, after, is, _⟩ := List.lookup_eq_some_iff.mp found
  rw [is]
  exact List.mem_append_right _ List.mem_cons_self

theorem exists_right {A B : Type} {R : A → B → Prop} {left : List A} {right : List B}
    (each : List.Forall₂ R left right) : ∀ a ∈ left, ∃ b ∈ right, R a b := by
  induction each with
  | nil => simp
  | cons read _ ih =>
    refine List.forall_mem_cons.mpr ⟨⟨_, List.mem_cons_self, read⟩, fun a mem => ?_⟩
    obtain ⟨b, standsIn, read⟩ := ih a mem
    exact ⟨b, List.mem_cons_of_mem _ standsIn, read⟩

theorem exists_left {A B : Type} {R : A → B → Prop} {left : List A} {right : List B}
    (each : List.Forall₂ R left right) : ∀ b ∈ right, ∃ a ∈ left, R a b :=
  exists_right (R := flip R) each.flip

/-! ### Rules -/

section Rules

variable [Js.NumberFormat N]

/-- The members of a record that a rule is read off. -/
structure RuleRead (members : List (Text × Value N)) (rule : Rule N) : Prop where
  id : member members "id" = .string rule.id
  condition : parseCondition (member members "when") = some rule.condition
  code : member members "code" = .string rule.code
  severity : ∃ text, member members "severity" = .string text
  severityIs : severityOf (member members "severity") = rule.severity
  title : member members "title" = .string rule.title
  detail : member members "detail" = .string rule.detail
  action : parseAction (member members "action") = some rule.action

theorem parseRule_eq_ok {index : Nat} {raw : Value N} {found : Option (Rule N)} :
    parseRule index raw = some ([], found) ↔
      ∃ members rule, raw = .object members ∧ found = some rule ∧ RuleRead members rule := by
  constructor
  · intro parsed
    cases raw with
    | object members =>
      rw [parseRule] at parsed
      split at parsed
      · rename_i condition action isCondition isAction
        simp only [Option.bind_eq_bind, Option.bind_eq_some_iff] at parsed
        obtain ⟨id, isId, code, isCode, title, isTitle, detail, isDetail, made⟩ := parsed
        simp only [Option.pure_def, Option.some.injEq, Prod.mk.injEq, List.map_eq_nil_iff,
          missingFields_eq_nil, List.forall_mem_cons] at made
        obtain ⟨⟨⟨_, atId⟩, ⟨_, atCode⟩, severity, ⟨_, atTitle⟩, ⟨_, atDetail⟩, _⟩, rfl⟩ := made
        rw [atId] at isId
        rw [atCode] at isCode
        rw [atTitle] at isTitle
        rw [atDetail] at isDetail
        cases isId
        cases isCode
        cases isTitle
        cases isDetail
        exact ⟨members, _, rfl, rfl, atId, isCondition, atCode, severity, rfl, atTitle, atDetail,
          isAction⟩
      · rename_i none_
        simp only [Option.pure_def, Option.some.injEq, Prod.mk.injEq, List.append_eq_nil_iff] at parsed
        obtain ⟨⟨⟨_, condition⟩, action⟩, _⟩ := parsed
        cases isCondition : parseCondition (member members "when") with
        | none => simp [isCondition] at condition
        | some read =>
          cases isAction : parseAction (member members "action") with
          | none => simp [isAction] at action
          | some bound => exact (none_ read bound isCondition isAction).elim
    | _ => cases parsed
  · rintro ⟨members, rule, rfl, rfl, read⟩
    have missing : missingFields members ["id", "code", "severity", "title", "detail"] = [] :=
      missingFields_eq_nil.mpr (by
        simp only [List.forall_mem_cons, List.not_mem_nil, false_implies, implies_true, and_true]
        exact ⟨⟨_, read.id⟩, ⟨_, read.code⟩, read.severity, ⟨_, read.title⟩, ⟨_, read.detail⟩⟩)
    rw [parseRule, missing, read.condition, read.action]
    simp only [read.id, read.code, read.title, read.detail, read.severityIs, stringOf, List.map_nil,
      Option.bind_eq_bind, Option.bind_some, Option.pure_def]

/-- The rules of a list of records, one for each. -/
theorem parseRules_eq_ok {index : Nat} {items : List (Value N)} {rules : List (Rule N)} :
    parseRules index items = some ([], rules) ↔
      List.Forall₂ (fun raw rule => ∃ members, raw = .object members ∧ RuleRead members rule)
        items rules := by
  induction items generalizing index rules with
  | nil => simp [parseRules, eq_comm]
  | cons raw rest ih =>
    rw [parseRules]
    constructor
    · intro parsed
      simp only [Option.bind_eq_bind, Option.bind_eq_some_iff] at parsed
      obtain ⟨⟨defects, found⟩, first, ⟨more, others⟩, after, made⟩ := parsed
      simp only [Option.pure_def, Option.some.injEq, Prod.mk.injEq, List.append_eq_nil_iff] at made
      obtain ⟨⟨rfl, rfl⟩, rfl⟩ := made
      obtain ⟨members, rule, is, rfl, read⟩ := parseRule_eq_ok.mp first
      exact .cons ⟨members, is, read⟩ (ih.mp after)
    · intro each
      cases each with
      | cons read others =>
        obtain ⟨members, is, read⟩ := read
        rw [parseRule_eq_ok.mpr ⟨members, _, is, rfl, read⟩, ih.mpr others]
        rfl

end Rules

/-! ### Purpose codes -/

/-- The record that a purpose code is read off. -/
structure PurposeRead (sandbox : Bool) (raw : Value N) (purpose : PurposeCode) : Prop where
  record : ∃ members, raw = .object members ∧ member members "code" = .string purpose.code ∧
    member members "label" = .string purpose.label ∧
    member members "regulatory_code" = (purpose.regulatoryCode.map Value.string).getD .null
  fixture : sandbox = true → purpose.regulatoryCode = none

theorem parsePurposeCode_eq_ok {sandbox : Bool} {index : Nat} {raw : Value N}
    {found : Option PurposeCode} : parsePurposeCode sandbox index raw = ([], found) ↔
      ∃ purpose, found = some purpose ∧ PurposeRead sandbox raw purpose := by
  constructor
  · intro parsed
    cases raw with
    | object members =>
      rw [parsePurposeCode] at parsed
      split at parsed
      · rename_i code label isCode isLabel
        rw [textOf_eq_some] at isCode isLabel
        split at parsed
        · rename_i null
          cases parsed
          exact ⟨_, rfl, ⟨members, rfl, isCode, isLabel, null⟩, fun _ => rfl⟩
        · rename_i regulatory is
          simp only [Prod.mk.injEq] at parsed
          obtain ⟨none_, rfl⟩ := parsed
          refine ⟨_, rfl, ⟨members, rfl, isCode, isLabel, is⟩, fun fixture => ?_⟩
          simp [fixture] at none_
        · cases parsed
      · cases parsed
    | _ => cases parsed
  · rintro ⟨⟨code, label, regulatory⟩, rfl, ⟨members, rfl, isCode, isLabel, is⟩, fixture⟩
    rw [parsePurposeCode, isCode, isLabel]
    cases regulatory with
    | none =>
      simp only [textOf]
      simp only [Option.map_none, Option.getD_none] at is
      rw [is]
    | some regulatory =>
      cases sandbox with
      | true => cases fixture rfl
      | false =>
        simp only [textOf]
        simp only [Option.map_some, Option.getD_some] at is
        rw [is]
        rfl

theorem parsed_mapIdx {sandbox : Bool} {items : List (Value N)} {codes : List PurposeCode}
    {parse : Nat → Value N → List RuleSetParseDefect × Option PurposeCode}
    (one : ∀ index raw found, parse index raw = ([], found) ↔
      ∃ purpose, found = some purpose ∧ PurposeRead sandbox raw purpose) :
    (items.mapIdx parse).flatMap (·.1) = [] ∧ (items.mapIdx parse).filterMap (·.2) = codes ↔
      List.Forall₂ (PurposeRead sandbox) items codes := by
  induction items generalizing parse codes with
  | nil => simp [eq_comm]
  | cons raw rest ih =>
    have others := fun codes => @ih codes (fun index => parse (index + 1))
      fun index => one (index + 1)
    rw [List.mapIdx_cons, List.flatMap_cons, List.filterMap_cons, List.append_eq_nil_iff]
    constructor
    · rintro ⟨⟨none_, rest⟩, is⟩
      obtain ⟨purpose, found, read⟩ := (one 0 raw _).mp (Prod.ext none_ rfl)
      simp only [found] at is
      subst is
      exact .cons read ((others _).mp ⟨rest, rfl⟩)
    · intro each
      cases each with
      | cons read after =>
        have first := (one 0 raw _).mpr ⟨_, rfl, read⟩
        obtain ⟨none_, rfl⟩ := (others _).mpr after
        rw [first]
        exact ⟨⟨rfl, none_⟩, rfl⟩

theorem parsePurposeCodes_eq_ok {sandbox : Bool} {value : Value N} {codes : List PurposeCode} :
    parsePurposeCodes sandbox value = ([], codes) ↔
      ∃ items, value = .array items ∧ List.Forall₂ (PurposeRead sandbox) items codes := by
  cases value with
  | array items =>
    rw [parsePurposeCodes, Prod.mk.injEq, parsed_mapIdx fun _ _ _ => parsePurposeCode_eq_ok]
    simp
  | _ => simp [parsePurposeCodes]

/-! ### Rule sets -/

theorem sourceOf_eq_some {name : Text} {source : RuleSetSource} :
    sourceOf name = some source ↔ name = ofString (sourceWire source) := by
  have distinct : ∀ source, sourceOf (ofString (sourceWire source)) = some source := by
    intro source
    cases source <;> decide
  refine ⟨fun is => ?_, fun is => is ▸ distinct source⟩
  have found := List.find?_some is
  exact (decide_eq_true_eq.mp found).symm

theorem sandbox_of_source {members : List (Text × Value N)} {source : RuleSetSource}
    (is : member members "source" = .string (ofString (sourceWire source))) :
    decide (textOf (member members "source") = some (ofString (sourceWire .sandboxFixture))) =
      decide (source = .sandboxFixture) := by
  have texts : ∀ source, ofString (sourceWire source) = ofString (sourceWire .sandboxFixture) ↔
      source = .sandboxFixture := fun source => by cases source <;> decide
  rw [is, textOf, decide_eq_decide, Option.some.injEq, texts]

theorem fieldDefects_eq_nil {members : List (Text × Value N)} :
    fieldDefects members = [] ↔ ∃ version source description,
      member members "version" = .string version ∧
      member members "source" = .string (ofString (sourceWire source)) ∧
      member members "description" = .string description := by
  rw [fieldDefects, List.append_eq_nil_iff, List.map_eq_nil_iff, missingFields_eq_nil]
  constructor
  · rintro ⟨missing, known⟩
    simp only [List.forall_mem_cons] at missing
    obtain ⟨⟨version, isVersion⟩, ⟨name, isSource⟩, ⟨description, isDescription⟩, _⟩ := missing
    rw [isSource] at known
    cases named : sourceOf name with
    | none => simp [textOf, named] at known
    | some source =>
      rw [sourceOf_eq_some] at named
      exact ⟨version, source, description, isVersion, named ▸ isSource, isDescription⟩
  · rintro ⟨version, source, description, isVersion, isSource, isDescription⟩
    rw [isSource]
    refine ⟨?_, ?_⟩
    · simp only [List.forall_mem_cons, List.not_mem_nil, false_implies, implies_true, and_true]
      exact ⟨⟨_, isVersion⟩, ⟨_, isSource⟩, ⟨_, isDescription⟩⟩
    · have named : sourceOf (ofString (sourceWire source)) = some source := sourceOf_eq_some.mpr rfl
      simp [textOf, named]

section RuleSets

variable [Js.NumberFormat N] (toLowerCase : Text → Text)

/-- The members that an accepted rule set is read off, and its rules are valid. -/
structure Accepted (members : List (Text × Value N)) (ruleSet : RuleSet N) : Prop where
  version : member members "version" = .string ruleSet.version
  source : member members "source" = .string (ofString (sourceWire ruleSet.source))
  description : member members "description" = .string ruleSet.description
  purposeCodes : ∃ items codes, member members "purpose_codes" = .array items ∧
    List.Forall₂ (PurposeRead (decide (ruleSet.source = .sandboxFixture))) items codes ∧
    ruleSet.purposeCodes = codes.insertionSort fun a b => a.code ≤ b.code
  rules : ∃ items, member members "rules" = .array items ∧
    List.Forall₂ (fun raw rule => ∃ members, raw = .object members ∧ RuleRead members rule)
      items ruleSet.rules
  valid : validateRuleSet toLowerCase ruleSet = some []

variable {toLowerCase}

theorem checkedRuleSet_eq_ok {made ruleSet : RuleSet N} :
    checkedRuleSet toLowerCase made = some (.ok ruleSet) ↔
      made = ruleSet ∧ validateRuleSet toLowerCase ruleSet = some [] := by
  unfold checkedRuleSet
  cases valid : validateRuleSet toLowerCase made with
  | none =>
    simp only [Option.bind_eq_bind, Option.bind_none, reduceCtorEq, false_iff, not_and]
    rintro rfl
    simp [valid]
  | some invalid =>
    by_cases none : invalid = []
    · subst none
      simp only [Option.bind_eq_bind, Option.bind_some, ne_eq, not_true_eq_false, if_false,
        Option.pure_def, Option.some.injEq, Except.ok.injEq]
      exact ⟨fun is => ⟨is, is ▸ valid⟩, fun both => both.1⟩
    · simp only [Option.bind_eq_bind, Option.bind_some, ne_eq, none, not_false_eq_true, if_true,
        Option.pure_def, Option.some.injEq, reduceCtorEq, false_iff, not_and]
      rintro rfl
      simp [valid, none]

/-- What is accepted, and what it is read as. -/
theorem parseRuleSet_eq_ok {input : Value N} {ruleSet : RuleSet N} :
    parseRuleSet toLowerCase input = some (.ok ruleSet) ↔
      ∃ members, input = .object members ∧ Accepted toLowerCase members ruleSet := by
  constructor
  · intro accepted
    cases input with
    | object members =>
      rw [parseRuleSet] at accepted
      split at accepted
      · rename_i items isRules
        cases parsed : parseRules 0 items with
        | none => simp [parsed] at accepted
        | some found =>
          obtain ⟨ruleDefects, rules⟩ := found
          simp only [parsed, Option.bind_eq_bind, Option.bind_some] at accepted
          split at accepted
          · rename_i version source description isVersion isSource isDescription
            obtain ⟨name, isName, named⟩ := Option.bind_eq_some_iff.mp isSource
            rw [textOf_eq_some] at isVersion isName isDescription
            rw [sourceOf_eq_some] at named
            subst named
            rw [sandbox_of_source isName] at accepted
            cases purposes : parsePurposeCodes (decide (source = .sandboxFixture))
                (member members "purpose_codes") with
            | mk purposeDefects codes =>
              rw [purposes] at accepted
              by_cases none : fieldDefects members ++ purposeDefects ++ ruleDefects = []
              · rw [if_neg (not_not.mpr none)] at accepted
                obtain ⟨rfl, valid⟩ := checkedRuleSet_eq_ok.mp accepted
                simp only [List.append_eq_nil_iff] at none
                obtain ⟨⟨_, rfl⟩, rfl⟩ := none
                obtain ⟨purposeItems, isCodes, eachCode⟩ := parsePurposeCodes_eq_ok.mp purposes
                exact ⟨members, rfl, isVersion, isName, isDescription,
                  ⟨purposeItems, codes, isCodes, eachCode, rfl⟩,
                  ⟨items, isRules, parseRules_eq_ok.mp parsed⟩, valid⟩
              · rw [if_pos none] at accepted
                cases accepted
          · cases accepted
      · cases accepted
    | _ => cases accepted
  · rintro ⟨members, rfl, accepted⟩
    obtain ⟨purposeItems, codes, isCodes, eachCode, sorted⟩ := accepted.purposeCodes
    obtain ⟨ruleItems, isRules, eachRule⟩ := accepted.rules
    have fields := fieldDefects_eq_nil.mpr
      ⟨_, _, _, accepted.version, accepted.source, accepted.description⟩
    have purposes := parsePurposeCodes_eq_ok.mpr ⟨_, isCodes, eachCode⟩
    have named := sourceOf_eq_some.mpr (rfl : ofString (sourceWire ruleSet.source) = _)
    have checked : checkedRuleSet toLowerCase ruleSet = some (.ok ruleSet) :=
      checkedRuleSet_eq_ok.mpr ⟨rfl, accepted.valid⟩
    rw [parseRuleSet, isRules]
    simp only [sandbox_of_source accepted.source]
    simp only [purposes, parseRules_eq_ok.mpr eachRule, fields,
      accepted.version, accepted.source, accepted.description, textOf, Option.bind_eq_bind,
      Option.bind_some, named, List.append_nil, ne_eq, not_true_eq_false, if_false, ← sorted]
    exact checked

end RuleSets

end Files

end InrSettle.Preflight
