import InrSettle.Library.JsWhole
import InrSettle.System.RuleSetFiles

/-!
# Preflight over accepted rule sets

What each rule contributes to the outcome, why the order of the rules does not matter,
and the rule sets for which preflight has an outcome at all.
-/

namespace InrSettle.Preflight

open Js

section Preflights

variable {N : Type} [Js.NumberFormat N]

/-! ### Accepted rule sets -/

section Accepted

variable {toLowerCase : Text → Text}

/-- What a rule and the ones after it were found to be, where nothing is wrong. -/
theorem validated {ids codes : List Text} {rule : Rule N} {rest : List (Rule N)}
    (valid : validateRulesFrom toLowerCase ids codes (rule :: rest) = some []) :
    rule.code ∉ codes ∧ inspectRule toLowerCase rule = some [] ∧
      validateRulesFrom toLowerCase (rule.id :: ids) (rule.code :: codes) rest = some [] := by
  rw [validateRulesFrom] at valid
  cases problems : inspectRule toLowerCase rule with
  | none => simp [problems] at valid
  | some problems =>
    cases others : validateRulesFrom toLowerCase (rule.id :: ids) (rule.code :: codes) rest with
    | none => simp [problems, others] at valid
    | some others =>
      simp only [problems, others, Option.bind_eq_bind, Option.bind_some, Option.pure_def,
        Option.some.injEq, List.append_eq_nil_iff, List.map_eq_nil_iff] at valid
      obtain ⟨⟨⟨_, notTwice⟩, rfl⟩, rfl⟩ := valid
      exact ⟨fun mem => by simp [mem] at notTwice, rfl, rfl⟩

theorem codes_of_valid {ids codes : List Text} {rules : List (Rule N)}
    (valid : validateRulesFrom toLowerCase ids codes rules = some []) :
    (rules.map (·.code)).Nodup ∧ ∀ code ∈ rules.map (·.code), code ∉ codes := by
  induction rules generalizing ids codes with
  | nil => simp
  | cons rule rest ih =>
    obtain ⟨notIn, -, others⟩ := validated valid
    obtain ⟨nodup, fresh⟩ := ih others
    refine ⟨List.nodup_cons.mpr ⟨fun mem => fresh rule.code mem List.mem_cons_self, nodup⟩, ?_⟩
    rintro code (_ | ⟨_, mem⟩)
    · exact notIn
    · exact fun before => fresh code mem (List.mem_cons_of_mem _ before)

theorem inspected_of_valid {ids codes : List Text} {rules : List (Rule N)}
    (valid : validateRulesFrom toLowerCase ids codes rules = some []) :
    ∀ rule ∈ rules, inspectCondition rule.condition = some [] := by
  induction rules generalizing ids codes with
  | nil => simp
  | cons rule rest ih =>
    obtain ⟨-, inspected, others⟩ := validated valid
    refine List.forall_mem_cons.mpr ⟨?_, ih others⟩
    cases condition : inspectCondition rule.condition with
    | none => simp [inspectRule, condition] at inspected
    | some problems =>
      simp only [inspectRule, condition, Option.bind_eq_bind, Option.bind_some, Option.pure_def,
        Option.some.injEq, List.append_eq_nil_iff] at inspected
      exact congrArg some inspected.1.1.1.1

theorem valid_of_accepted {input : Value N} {ruleSet : RuleSet N}
    (accepted : parseRuleSet toLowerCase input = some (.ok ruleSet)) :
    validateRuleSet toLowerCase ruleSet = some [] := by
  obtain ⟨_, _, read⟩ := parseRuleSet_eq_ok.mp accepted
  exact read.valid

end Accepted

/-! ### Policy rules -/

variable (integerOf : N → Option Int)

/-- The rule's condition holds of the subject. -/
def Holds (subject : Subject) (rule : Rule N) : Prop :=
  evaluateCondition integerOf subject rule.condition = some true

/-- The evaluation of the rule's condition does not throw. -/
def Evaluates (subject : Subject) (rule : Rule N) : Prop :=
  (evaluateCondition integerOf subject rule.condition).isSome = true

theorem evaluate_factEquals (subject : Subject) (fact : FactName) (value : Value N) :
    evaluateCondition integerOf subject (factEquals fact value) =
      some (strictlyEqual (factOf subject fact) value) := by
  have op : Operator.ofText (ofString Operator.eq.wire) = some .eq := by decide
  have name : FactName.ofText (ofString fact.wire) = some fact := by cases fact <;> decide
  rw [factEquals, evaluateCondition, op, factNamed, name]
  rfl

theorem policy_evaluates (subject : Subject) :
    ∀ rule ∈ (policyRules : List (Rule N)), Evaluates integerOf subject rule := by
  have null : Operator.ofText (ofString Operator.isNull.wire) = some .isNull := by decide
  simp only [policyRules, List.forall_mem_cons, List.not_mem_nil, false_implies, implies_true,
    and_true, Evaluates, destinationMissing, destinationUnverified, destinationVerificationFailed,
    destinationVerifying, beneficiaryRejected, beneficiaryDisabled, policyRule,
    evaluate_factEquals, Option.isSome_some, true_and]
  refine ⟨?_, ?_⟩
  · rw [purposeMissing, policyRule, evaluateCondition, null]
    rfl
  · rw [liquidityFacility, policyRule, evaluateCondition, everyHolds, evaluate_factEquals]
    cases strictlyEqual (factOf subject .environment) (.string (ofString "live") : Value N) with
    | false => rfl
    | true =>
      simp only [Option.bind_eq_bind, Option.bind_some, if_true, everyHolds, evaluate_factEquals]
      split <;> rfl

theorem destinationMissing_holds {subject : Subject} (absent : subject.destination = none) :
    Holds integerOf subject destinationMissing := by
  rw [Holds, destinationMissing, policyRule, evaluate_factEquals, factOf, absent]
  rfl

omit [Js.NumberFormat N] in
theorem blocking_of_policy : ∀ rule ∈ (policyRules : List (Rule N)), rule.severity = .blocking := by
  intro rule mem
  simp only [policyRules, List.mem_cons, List.not_mem_nil, or_false] at mem
  rcases mem with rfl | rfl | rfl | rfl | rfl | rfl | rfl | rfl <;> rfl

/-! ### Values that are looked into -/

/-- Whether a value has a method `includes`. -/
def hasIncludes : Value N → Bool
  | .array _ | .string _ => true
  | .undefined | .null | .bool _ | .number _ | .bigint _ | .object _ => false

/-- A comparison that asks whether a text is in its value has an array or a text for it. -/
def asksWell (actual : FactValue) (op : Text) (value : Value N) : Bool :=
  match Operator.ofText op, actual with
  | some .isIn, .text _ | some .notIn, .text _ => hasIncludes value
  | _, _ => true

mutual

/-- Every comparison of a condition that is looked at asks well. -/
def looksWell (subject : Subject) : Condition N → Bool
  | .compare fact op value => asksWell (factNamed subject fact) op value
  | .all parts => everyLooksWell subject parts
  | .any parts => someLooksWell subject parts
  | .not part => looksWell subject part

/-- The parts are looked at up to the first that does not hold. -/
def everyLooksWell (subject : Subject) : List (Condition N) → Bool
  | [] => true
  | part :: rest => looksWell subject part &&
      (decide (evaluateCondition integerOf subject part ≠ some true) || everyLooksWell subject rest)

/-- The parts are looked at up to the first that holds. -/
def someLooksWell (subject : Subject) : List (Condition N) → Bool
  | [] => true
  | part :: rest => looksWell subject part &&
      (decide (evaluateCondition integerOf subject part = some true) || someLooksWell subject rest)

end

theorem bigIntOf_isSome {text : Text} (integer : isIntegerText text = true) :
    (bigIntOf text).isSome = true := by
  unfold isIntegerText at integer
  simp only [Bool.and_eq_true, decide_eq_true_eq, List.all_eq_true] at integer
  split at integer
  · rename_i minus
    obtain ⟨rest, rfl⟩ : ∃ rest, text = unit '-' :: rest := by
      cases text with
      | nil => cases minus
      | cons u rest => exact ⟨rest, by simpa using minus⟩
    exact (bigIntOf_digits integer.1 integer.2).2
  · exact (bigIntOf_digits integer.1 integer.2).1

/-- Where the text of a value is an integer's, the value is read as a bigint. -/
theorem bigIntOfValue_isSome
    (integral : ∀ n : N, isIntegerText (numberText n) = true → (integerOf n).isSome = true)
    {value : Value N} {text : Text} (is : stringOf value = some text)
    (integer : isIntegerText text = true) : (bigIntOfValue integerOf value).isSome = true := by
  have words : ∀ word ∈ ["undefined", "null", "[object Object]"],
      isIntegerText (ofString word) = false := by decide
  cases value with
  | undefined =>
    cases is
    simp [words] at integer
  | null =>
    cases is
    simp [words] at integer
  | bool b => rfl
  | number n =>
    cases is
    exact integral n integer
  | bigint n => rfl
  | string text =>
    cases is
    exact bigIntOf_isSome integer
  | array items =>
    rw [bigIntOfValue, is]
    exact bigIntOf_isSome integer
  | object members =>
    rw [stringOf] at is
    split at is
    · cases is
    · cases is
      simp [words] at integer

/-- The text of a value that a checked rule compares the amount with is an integer's. -/
theorem amount_of_inspected {fact name : Text} {op : Operator} {value : Value N}
    (named : Operator.ofText name = some op) (amounts : op.comparesAmounts = true)
    (checked : inspectCondition (.compare fact name value) = some []) :
    ∃ text, stringOf value = some text ∧ isIntegerText text = true := by
  rw [inspectCondition] at checked
  simp only [named, if_pos amounts] at checked
  cases is : stringOf value with
  | none => simp [is] at checked
  | some text =>
    refine ⟨text, rfl, ?_⟩
    by_contra other
    simp [is, other] at checked

/-- A comparison of a checked rule does not throw, if and only if it asks well. -/
theorem evaluate_compare
    (integral : ∀ n : N, isIntegerText (numberText n) = true → (integerOf n).isSome = true)
    (subject : Subject) {fact op : Text} {value : Value N}
    (checked : inspectCondition (.compare fact op value) = some []) :
    (evaluateCondition integerOf subject (.compare fact op value)).isSome =
      asksWell (factNamed subject fact) op value := by
  rw [evaluateCondition]
  unfold asksWell
  cases named : Operator.ofText op with
  | none => rfl
  | some op =>
    have compares (n : Int) (amounts : op.comparesAmounts = true) :
        ((bigIntOfValue integerOf value).map (comparesTo op n)).isSome = true := by
      obtain ⟨text, is, integer⟩ := amount_of_inspected named amounts checked
      rw [Option.isSome_map]
      exact bigIntOfValue_isSome integerOf integral is integer
    cases op <;> cases factNamed subject fact <;> first
      | rfl
      | exact compares _ rfl
      | cases value <;> rfl

theorem inspectConditions_cons {part : Condition N} {rest : List (Condition N)}
    (checked : inspectConditions (part :: rest) = some []) :
    inspectCondition part = some [] ∧ inspectConditions rest = some [] := by
  rw [inspectConditions] at checked
  cases first : inspectCondition part with
  | none => simp [first] at checked
  | some problems =>
    cases others : inspectConditions rest with
    | none => simp [first, others] at checked
    | some more => simpa [first, others] using checked

mutual

theorem evaluate_isSome
    (integral : ∀ n : N, isIntegerText (numberText n) = true → (integerOf n).isSome = true)
    (subject : Subject) : ∀ condition : Condition N, inspectCondition condition = some [] →
      (evaluateCondition integerOf subject condition).isSome = looksWell integerOf subject condition
  | .compare _ _ _, checked => by
    rw [looksWell]
    exact evaluate_compare integerOf integral subject checked
  | .all parts, checked => by
    rw [evaluateCondition, looksWell]
    exact every_isSome integral subject parts (by rwa [inspectCondition] at checked)
  | .any parts, checked => by
    rw [evaluateCondition, looksWell]
    exact some_isSome integral subject parts (by rwa [inspectCondition] at checked)
  | .not part, checked => by
    rw [evaluateCondition, looksWell, Option.isSome_map]
    exact evaluate_isSome integral subject part (by rwa [inspectCondition] at checked)

theorem every_isSome
    (integral : ∀ n : N, isIntegerText (numberText n) = true → (integerOf n).isSome = true)
    (subject : Subject) : ∀ parts : List (Condition N), inspectConditions parts = some [] →
      (everyHolds integerOf subject parts).isSome = everyLooksWell integerOf subject parts
  | [], _ => rfl
  | part :: rest, checked => by
    obtain ⟨first, others⟩ := inspectConditions_cons checked
    have one := evaluate_isSome integral subject part first
    have all := every_isSome integral subject rest others
    rw [everyHolds, everyLooksWell, ← one, ← all]
    cases evaluateCondition integerOf subject part with
    | none => rfl
    | some holds => cases holds <;> rfl

theorem some_isSome
    (integral : ∀ n : N, isIntegerText (numberText n) = true → (integerOf n).isSome = true)
    (subject : Subject) : ∀ parts : List (Condition N), inspectConditions parts = some [] →
      (someHolds integerOf subject parts).isSome = someLooksWell integerOf subject parts
  | [], _ => rfl
  | part :: rest, checked => by
    obtain ⟨first, others⟩ := inspectConditions_cons checked
    have one := evaluate_isSome integral subject part first
    have all := some_isSome integral subject rest others
    rw [someHolds, someLooksWell, ← one, ← all]
    cases evaluateCondition integerOf subject part with
    | none => rfl
    | some holds => cases holds <;> rfl

end

/-! ### What each rule contributes -/

/-- The requirement of a rule that holds, where its action can be named. -/
def contribution (subject : Subject) (rule : Rule N) : Option Requirement :=
  if evaluateCondition integerOf subject rule.condition = some true then
    (materialiseAction subject rule.action).map (requirementOf subject rule)
  else none

theorem code_of_contribution {subject : Subject} {rule : Rule N} {requirement : Requirement}
    (is : contribution integerOf subject rule = some requirement) : requirement.code = rule.code := by
  unfold contribution at is
  split at is
  · obtain ⟨action, _, rfl⟩ := Option.map_eq_some_iff.mp is
    rfl
  · cases is

theorem codes_contributions (subject : Subject) (rules : List (Rule N)) :
    ((rules.filterMap (contribution integerOf subject)).map (·.code)).Sublist
      (rules.map (·.code)) := by
  induction rules with
  | nil => exact .slnil
  | cons rule rest ih =>
    rw [List.filterMap_cons]
    cases is : contribution integerOf subject rule with
    | none => exact ih.cons _
    | some requirement =>
      rw [List.map_cons, List.map_cons, code_of_contribution integerOf is]
      exact ih.cons_cons _

/-- Rules of different codes contribute each by itself. -/
theorem requirementsFrom_eq {subject : Subject} {rules : List (Rule N)} {seen : List Text}
    (evaluates : ∀ rule ∈ rules, Evaluates integerOf subject rule)
    (distinct : (rules.map (·.code)).Nodup) (fresh : ∀ code ∈ rules.map (·.code), code ∉ seen) :
    requirementsFrom integerOf subject seen rules =
      some (rules.filterMap (contribution integerOf subject)) := by
  induction rules generalizing seen with
  | nil => rfl
  | cons rule rest ih =>
    obtain ⟨first, others⟩ := List.forall_mem_cons.mp evaluates
    obtain ⟨notLater, nodup⟩ := List.nodup_cons.mp distinct
    have notSeen : rule.code ∉ seen := fresh rule.code List.mem_cons_self
    have rest' := ih others nodup fun code mem => fresh code (List.mem_cons_of_mem _ mem)
    have after := @ih (rule.code :: seen) others nodup fun code mem before => by
      rcases List.mem_cons.mp before with rfl | before
      · exact notLater mem
      · exact fresh code (List.mem_cons_of_mem _ mem) before
    obtain ⟨holds, value⟩ := Option.isSome_iff_exists.mp first
    rw [requirementsFrom, value, List.filterMap_cons, contribution, value]
    cases holds with
    | false => simpa using rest'
    | true =>
      simp only [Option.bind_eq_bind, Option.bind_some, not_true_eq_false, if_false, if_neg notSeen,
        if_true]
      cases materialiseAction subject rule.action with
      | none => simpa using rest'
      | some action =>
        simp only [after, Option.bind_some, Option.map_some]
        rfl

theorem requirementsFrom_isSome_iff {subject : Subject} {rules : List (Rule N)} {seen : List Text} :
    (requirementsFrom integerOf subject seen rules).isSome = true ↔
      ∀ rule ∈ rules, Evaluates integerOf subject rule := by
  induction rules generalizing seen with
  | nil => simp [requirementsFrom]
  | cons rule rest ih =>
    rw [requirementsFrom, List.forall_mem_cons, Evaluates]
    cases value : evaluateCondition integerOf subject rule.condition with
    | none => simp
    | some holds =>
      simp only [Option.bind_eq_bind, Option.bind_some, Option.isSome_some, true_and]
      split
      · exact ih
      · split
        · exact ih
        · split
          · exact ih
          · rename_i action _
            rw [← @ih (rule.code :: seen)]
            cases requirementsFrom integerOf subject (rule.code :: seen) rest <;> rfl

/-! ### The outcome -/

/-- What preflight promises of a subject under a rule set. -/
structure Sound (subject : Subject) (ruleSet : RuleSet N) : Prop where
  /-- Ready, if and only if no blocking rule holds. -/
  ready : ∃ outcome, runPreflight integerOf subject ruleSet = some outcome ∧
    (outcome.status = .ready ↔ ∀ rule ∈ policyRules ++ ruleSet.rules, rule.severity = .blocking →
      ¬ Holds integerOf subject rule)
  /-- The order of the set's rules does not matter. -/
  orderFree : ∀ rules : List (Rule N), rules.Perm ruleSet.rules →
    runPreflight integerOf subject { ruleSet with rules := rules } =
      runPreflight integerOf subject ruleSet
  /-- Every rule that holds is in the outcome, or names a destination that is absent. -/
  contributes : ∀ outcome, runPreflight integerOf subject ruleSet = some outcome →
    ∀ rule ∈ policyRules ++ ruleSet.rules, Holds integerOf subject rule →
      (∃ action, materialiseAction subject rule.action = some action ∧
        requirementOf subject rule action ∈ outcome.requirements) ∨
      rule.action = .verifyBeneficiary ∧ subject.destination = none ∧
        ∃ policy ∈ (policyRules : List (Rule N)), policy.severity = .blocking ∧
          ∃ action, materialiseAction subject policy.action = some action ∧
            requirementOf subject policy action ∈ outcome.requirements
  /-- No reference rules make up for a policy rule. -/
  policyBlocks : ∀ rule ∈ (policyRules : List (Rule N)), Holds integerOf subject rule →
    ∀ outcome, runPreflight integerOf subject ruleSet = some outcome → outcome.status ≠ .ready

theorem status_outcomeOf {ruleSet : RuleSet N} {requirements : List Requirement} :
    (outcomeOf ruleSet requirements).status = .ready ↔
      ∀ requirement ∈ requirements, requirement.severity ≠ .blocking := by
  have blocking : (outcomeOf ruleSet requirements).status = .ready ↔
      ((sortRequirements requirements).filter (·.severity = .blocking)).length = 0 := by
    unfold outcomeOf
    dsimp only
    split <;> simp_all
  rw [blocking, List.length_eq_zero_iff, List.filter_eq_nil_iff]
  simp only [mem_sortRequirements, decide_eq_true_eq, ne_eq]

theorem verify_of_not_materialised {subject : Subject} {action : RuleAction}
    (none_ : materialiseAction subject action = none) :
    action = .verifyBeneficiary ∧ subject.destination = none := by
  cases action <;> simp_all [materialiseAction]

section Outcome

variable {integerOf} {subject : Subject} {rules : List (Rule N)}

theorem mem_contributions {rule : Rule N} {action : RequirementAction} (mem : rule ∈ rules)
    (holds : Holds integerOf subject rule)
    (named : materialiseAction subject rule.action = some action) :
    requirementOf subject rule action ∈ rules.filterMap (contribution integerOf subject) := by
  refine List.mem_filterMap.mpr ⟨rule, mem, ?_⟩
  have is : evaluateCondition integerOf subject rule.condition = some true := holds
  rw [contribution, if_pos is, named]
  rfl

/-- A rule that holds contributes, or the missing destination does. -/
theorem contributes_or_missing {rule : Rule N} (mem : rule ∈ policyRules ++ rules)
    (holds : Holds integerOf subject rule) :
    (∃ action, materialiseAction subject rule.action = some action ∧
      requirementOf subject rule action ∈
        (policyRules ++ rules).filterMap (contribution integerOf subject)) ∨
    rule.action = .verifyBeneficiary ∧ subject.destination = none ∧
      requirementOf subject (destinationMissing : Rule N)
        (.addPayoutDestination subject.beneficiary.id) ∈
          (policyRules ++ rules).filterMap (contribution integerOf subject) := by
  cases named : materialiseAction subject rule.action with
  | some action => exact .inl ⟨action, rfl, mem_contributions mem holds named⟩
  | none =>
    obtain ⟨verify, absent⟩ := verify_of_not_materialised named
    refine .inr ⟨verify, absent, mem_contributions (List.mem_append_left _ List.mem_cons_self)
      (destinationMissing_holds integerOf absent) rfl⟩

theorem ready_iff {ruleSet : RuleSet N} :
    (outcomeOf ruleSet ((policyRules ++ rules).filterMap (contribution integerOf subject))).status =
        .ready ↔
      ∀ rule ∈ policyRules ++ rules, rule.severity = .blocking → ¬ Holds integerOf subject rule := by
  rw [status_outcomeOf]
  refine ⟨fun none rule mem blocking holds => ?_, fun none requirement mem blocking => ?_⟩
  · rcases contributes_or_missing mem holds with ⟨action, _, made⟩ | ⟨_, _, made⟩
    · exact none _ made blocking
    · exact none _ made rfl
  · obtain ⟨rule, stands, is⟩ := List.mem_filterMap.mp mem
    unfold contribution at is
    split at is
    · rename_i holds
      obtain ⟨action, _, rfl⟩ := Option.map_eq_some_iff.mp is
      exact none rule stands blocking holds
    · cases is

end Outcome

/-- Preflight keeps its promises where no evaluation throws. -/
theorem sound_of_evaluates {ruleSet : RuleSet N} {subject : Subject}
    (distinct : ((policyRules ++ ruleSet.rules).map fun rule : Rule N => rule.code).Nodup)
    (evaluates : ∀ rule ∈ ruleSet.rules, Evaluates integerOf subject rule) :
    Sound integerOf subject ruleSet := by
  have all : ∀ rule ∈ policyRules ++ ruleSet.rules, Evaluates integerOf subject rule :=
    List.forall_mem_append.mpr ⟨policy_evaluates integerOf subject, evaluates⟩
  have run := fun (rules : List (Rule N)) (perm : rules.Perm ruleSet.rules) =>
    requirementsFrom_eq integerOf
      (fun rule mem => all rule ((perm.append_left policyRules).mem_iff.mp mem))
      (((perm.append_left policyRules).map fun rule : Rule N => rule.code).nodup_iff.mpr distinct)
      (fun _ _ => List.not_mem_nil)
  have whole : runPreflight integerOf subject ruleSet = some (outcomeOf ruleSet
      ((policyRules ++ ruleSet.rules).filterMap (contribution integerOf subject))) := by
    rw [runPreflight, run _ (.refl _)]
    rfl
  have codes : (((policyRules ++ ruleSet.rules).filterMap
      (contribution integerOf subject)).map fun made : Requirement => made.code).Nodup :=
    (codes_contributions integerOf subject _).nodup distinct
  refine ⟨⟨_, whole, ready_iff⟩, fun rules perm => ?_, fun outcome is rule mem holds => ?_,
    fun rule mem holds outcome is ready => ?_⟩
  · rw [whole, runPreflight, run rules perm]
    have same := sortRequirements_perm codes ((perm.append_left policyRules).symm.filterMap
      (contribution integerOf subject))
    simp only [Option.map_some, outcomeOf, same]
  · cases whole.symm.trans is
    rcases contributes_or_missing mem holds with ⟨action, named, made⟩ | ⟨verify, absent, made⟩
    · exact .inl ⟨action, named, mem_sortRequirements.mpr made⟩
    · exact .inr ⟨verify, absent, destinationMissing, List.mem_cons_self, rfl, _, rfl,
        mem_sortRequirements.mpr made⟩
  · cases whole.symm.trans is
    exact ready_iff.mp ready rule (List.mem_append_left _ mem) (blocking_of_policy rule mem) holds

theorem evaluates_of_sound {ruleSet : RuleSet N} {subject : Subject}
    (sound : Sound integerOf subject ruleSet) :
    ∀ rule ∈ ruleSet.rules, Evaluates integerOf subject rule := by
  obtain ⟨outcome, is, _⟩ := sound.ready
  obtain ⟨requirements, ran, _⟩ := Option.map_eq_some_iff.mp is
  have some_ := Option.isSome_iff_exists.mpr ⟨requirements, ran⟩
  exact fun rule mem =>
    (requirementsFrom_isSome_iff integerOf).mp some_ rule (List.mem_append_right _ mem)

/-- Preflight keeps its promises of a subject under an accepted rule set, if and only if no
rule of the set looks for one of the subject's texts in what is neither an array nor a text. -/
theorem sound_iff_looks_well {toLowerCase : Text → Text}
    (integral : ∀ n : N, isIntegerText (numberText n) = true → (integerOf n).isSome = true)
    {input : Value N} {ruleSet : RuleSet N}
    (accepted : parseRuleSet toLowerCase input = some (.ok ruleSet)) (subject : Subject) :
    Sound integerOf subject ruleSet ↔
      ∀ rule ∈ ruleSet.rules, looksWell integerOf subject rule.condition = true := by
  have valid := valid_of_accepted accepted
  have looks : ∀ rule ∈ ruleSet.rules, Evaluates integerOf subject rule ↔
      looksWell integerOf subject rule.condition = true := fun rule mem => by
    rw [Evaluates, evaluate_isSome integerOf integral subject rule.condition
      (inspected_of_valid valid rule (List.mem_append_right _ mem))]
  refine ⟨fun sound rule mem => (looks rule mem).mp (evaluates_of_sound integerOf sound rule mem),
    fun well => ?_⟩
  exact sound_of_evaluates integerOf (codes_of_valid valid).1
    fun rule mem => (looks rule mem).mpr (well rule mem)

end Preflights

/-! ### A value that is not looked at -/

section Country

/-- The letters of ASCII as small ones. -/
def smallLetters (text : Text) : Text :=
  text.map fun u => if 65 ≤ u.val ∧ u.val ≤ 90 then u + 32 else u

/-- `BigInt(n)`. -/
def integerOfWhole : Whole → Option Int
  | .int n => some n
  | .minusZero => some 0
  | .special _ => none

/-- A rule set whose rule looks the beneficiary's country up in a value. -/
def countryRules (value : Value Whole) : Value Whole :=
  let text := fun name value => (ofString name, Value.string (ofString value))
  .object [text "version" "1", text "source" "sandbox_fixture", text "description" "Countries",
    (ofString "purpose_codes", .array []),
    (ofString "rules", .array [.object [text "id" "fixture.country",
      (ofString "when", .object [text "fact" "beneficiary_country", text "op" "in",
        (ofString "value", value)]),
      text "code" "country_check", text "severity" "advisory",
      text "title" "This country needs another look",
      text "detail" "Settlements to this country are looked at before they are paid out.",
      (ofString "action", .object [text "type" "select_purpose"])]])]

/-- A subject that no policy rule holds of. -/
def asha : Subject where
  beneficiary := ⟨ofString "ben_1", ofString "Asha", ofString "Asha", .individual, .verified,
    ofString "IN", false⟩
  destination := some ⟨ofString "dst_1", ofString "dsv_1", .upi, .verified, ofString "asha@bank", none⟩
  amount := ⟨.inr, 100⟩
  purpose := ⟨some (ofString "P1301"), none, none⟩
  hasActiveLiquidityFacility := false
  environment := .sandbox
  documents := []

/-- Whether a rule set is accepted and its rules pass a test. -/
def acceptedAnd (test : RuleSet Whole → Bool) (input : Value Whole) : Bool :=
  match parseRuleSet smallLetters input with
  | some (.ok ruleSet) => test ruleSet
  | _ => false

theorem exists_of_accepted {test : RuleSet Whole → Bool} {input : Value Whole}
    (passed : acceptedAnd test input = true) :
    ∃ ruleSet, parseRuleSet smallLetters input = some (.ok ruleSet) ∧ test ruleSet = true := by
  unfold acceptedAnd at passed
  split at passed
  · exact ⟨_, ‹_›, passed⟩
  · cases passed

theorem integral_whole :
    ∀ n : Whole, isIntegerText (numberText n) = true → (integerOfWhole n).isSome = true
  | .int _, _ => rfl
  | .minusZero, _ => rfl
  | .special s, integer => by
    have words : ∀ s : Special, isIntegerText s.text = false := by
      intro s
      cases s <;> decide
    exact absurd integer (by simp [numberText, NumberFormat.special, Whole.special?, words])

/-- A value whose members a store may change the order of. -/
def twoMembers : Value Whole := .object [(ofString "bb", .null), (ofString "a", .null)]

/-- Rules that are fine, with new ids and codes, leave what is wrong with the rules after them. -/
theorem validateRulesFrom_append {N : Type} [Js.NumberFormat N] {toLowerCase : Text → Text}
    {rules : List (Rule N)} (fine : ∀ rule ∈ rules, inspectRule toLowerCase rule = some [])
    (ids codes : List Text) (newIds : ∀ rule ∈ rules, rule.id ∉ ids)
    (newCodes : ∀ rule ∈ rules, rule.code ∉ codes) (distinctIds : (rules.map (·.id)).Nodup)
    (distinctCodes : (rules.map (·.code)).Nodup) (rest : List (Rule N)) :
    validateRulesFrom toLowerCase ids codes (rules ++ rest) =
      validateRulesFrom toLowerCase ((rules.map (·.id)).reverse ++ ids)
        ((rules.map (·.code)).reverse ++ codes) rest := by
  induction rules generalizing ids codes with
  | nil => rfl
  | cons rule rules ih =>
    rw [List.forall_mem_cons] at fine newIds newCodes
    rw [List.map_cons, List.nodup_cons] at distinctIds distinctCodes
    have others := ih fine.2 (rule.id :: ids) (rule.code :: codes) ?_ ?_ distinctIds.2
      distinctCodes.2
    · rw [List.cons_append, validateRulesFrom, fine.1, others]
      simp only [Option.bind_eq_bind, Option.bind_some, if_neg newIds.1, if_neg newCodes.1,
        List.append_nil, List.map_nil, List.nil_append, List.map_cons, List.reverse_cons,
        List.append_assoc, List.singleton_append]
      cases validateRulesFrom toLowerCase _ _ rest <;> rfl
    · exact fun other mem is => (List.mem_cons.mp is).elim
        (fun same => distinctIds.1 (same ▸ List.mem_map_of_mem mem)) (newIds.2 other mem)
    · exact fun other mem is => (List.mem_cons.mp is).elim
        (fun same => distinctCodes.1 (same ▸ List.mem_map_of_mem mem)) (newCodes.2 other mem)

/-- The rule of `countryRules`. -/
def countryRule (value : Value Whole) : Rule Whole where
  id := ofString "fixture.country"
  condition := .compare (ofString "beneficiary_country") (ofString "in") value
  code := ofString "country_check"
  severity := .advisory
  title := ofString "This country needs another look"
  detail := ofString "Settlements to this country are looked at before they are paid out."
  action := .selectPurpose

/-- What `countryRules` is read as. -/
def countrySet (value : Value Whole) : RuleSet Whole where
  version := ofString "1"
  source := .sandboxFixture
  description := ofString "Countries"
  purposeCodes := []
  rules := [countryRule value]

/-- Nothing is wrong with the rule by itself. -/
def Fine (rule : Rule Whole) : Prop := inspectRule smallLetters rule = some []

instance (rule : Rule Whole) : Decidable (Fine rule) :=
  inferInstanceAs (Decidable (inspectRule smallLetters rule = some []))

/-- The texts of a policy rule are looked at as lists of characters. -/
theorem fine_policyRule {id code title first second : List Char} {condition : Condition Whole}
    {action : RuleAction}
    (fine : Fine ⟨id.flatMap unitsOf, condition, code.flatMap unitsOf, .blocking,
      title.flatMap unitsOf, (first ++ second).flatMap unitsOf, action⟩) :
    Fine (policyRule (String.ofList id) condition (String.ofList code) (String.ofList title)
      (String.ofList first ++ String.ofList second) action) := by
  rw [policyRule, ofString, ofString, ofString, ofString, String.toList_append,
    String.toList_ofList, String.toList_ofList, String.toList_ofList, String.toList_ofList,
    String.toList_ofList]
  exact fine

/-- The ids of the policy rules, the last first. -/
def policyIds : List Text := ((policyRules (N := Whole)).map (·.id)).reverse

def policyCodes : List Text := ((policyRules (N := Whole)).map (·.code)).reverse

/-- Nothing is wrong with the policy rules. -/
def PolicyFine : Prop :=
  (∀ rule ∈ policyRules, Fine rule) ∧ ((policyRules (N := Whole)).map (·.id)).Nodup ∧
    ((policyRules (N := Whole)).map (·.code)).Nodup

theorem valid_countrySet (policy : PolicyFine) {value : Value Whole}
    (fine : validateRulesFrom smallLetters policyIds policyCodes [countryRule value] = some []) :
    validateRuleSet smallLetters (countrySet value) = some [] := by
  have valid := validateRulesFrom_append policy.1 [] [] (fun _ _ => List.not_mem_nil)
    (fun _ _ => List.not_mem_nil) policy.2.1 policy.2.2 [countryRule value]
  rw [List.append_nil, List.append_nil] at valid
  exact valid.trans fine

theorem country_read {value : Value Whole}
    (valid : validateRuleSet smallLetters (countrySet value) = some []) :
    parseRuleSet smallLetters (countryRules value) = some (.ok (countrySet value)) := by
  refine parseRuleSet_eq_ok.mpr ⟨_, rfl, ?_, ?_, ?_, ?_, ?_, valid⟩
  · rfl
  · rfl
  · rfl
  · exact ⟨[], [], rfl, .nil, rfl⟩
  · refine ⟨_, rfl, .cons ⟨_, rfl, ?_⟩ .nil⟩
    exact ⟨rfl, rfl, rfl, ⟨_, rfl⟩, rfl, rfl, rfl, rfl⟩

theorem acceptedAnd_country (policy : PolicyFine) {test : RuleSet Whole → Bool}
    {value : Value Whole}
    (fine : validateRulesFrom smallLetters policyIds policyCodes [countryRule value] = some [])
    (passed : test (countrySet value) = true) : acceptedAnd test (countryRules value) = true := by
  rw [acceptedAnd, country_read (valid_countrySet policy fine)]
  exact passed

/-- A value that has the country in it, and ones that nothing is in, are accepted alike. -/
theorem country_accepted :
    (acceptedAnd (fun ruleSet => ruleSet.rules.all fun rule =>
        looksWell integerOfWhole asha rule.condition)
      (countryRules (.array [.string (ofString "IN")])) &&
    acceptedAnd (fun ruleSet => (runPreflight integerOfWhole asha ruleSet).isNone)
      (countryRules .null) &&
    acceptedAnd (fun ruleSet => (runPreflight integerOfWhole asha ruleSet).isNone)
      (countryRules twoMembers)) = true := by
  -- The kernel looks at one rule at a time.
  have policy : PolicyFine := by
    refine ⟨?_, by decide +kernel, by decide +kernel⟩
    simp only [policyRules, List.forall_mem_cons, List.not_mem_nil, false_imp_iff, implies_true,
      and_true]
    refine ⟨?_, ?_, ?_, ?_, ?_, ?_, ?_, ?_⟩ <;> exact fine_policyRule (by decide +kernel)
  rw [Bool.and_eq_true, Bool.and_eq_true]
  refine ⟨⟨acceptedAnd_country policy ?_ ?_, acceptedAnd_country policy ?_ ?_⟩,
    acceptedAnd_country policy ?_ ?_⟩
  all_goals decide +kernel

end Country

theorem sound_country : ∃ ruleSet,
    parseRuleSet smallLetters (countryRules (.array [.string (ofString "IN")])) =
      some (.ok ruleSet) ∧ Sound integerOfWhole asha ruleSet := by
  obtain ⟨ruleSet, accepted, well⟩ :=
    exists_of_accepted (Bool.and_eq_true_iff.mp (Bool.and_eq_true_iff.mp country_accepted).1).1
  exact ⟨ruleSet, accepted, (sound_iff_looks_well integerOfWhole integral_whole accepted asha).mpr
    (List.all_eq_true.mp well)⟩

/-- A value that nothing is in is accepted, and preflight throws. -/
theorem not_always_sound : ¬ ∀ (ruleSet : RuleSet Whole) (input : Value Whole) (subject : Subject),
    parseRuleSet smallLetters input = some (.ok ruleSet) → Sound integerOfWhole subject ruleSet := by
  intro always
  obtain ⟨ruleSet, accepted, threw⟩ :=
    exists_of_accepted (Bool.and_eq_true_iff.mp (Bool.and_eq_true_iff.mp country_accepted).1).2
  obtain ⟨outcome, is, -⟩ := (always ruleSet _ asha accepted).ready
  simp [is] at threw

end InrSettle.Preflight
