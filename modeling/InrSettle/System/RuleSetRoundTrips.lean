import InrSettle.Domain.RuleSetJson
import InrSettle.System.Preflights
import InrSettle.System.WrittenRules

/-!
# Round trips of rule sets

A rule set that was written as JSON is read back, in memory and from rows of the
database, where the values it compares with come back as they are.
-/

namespace InrSettle.Preflight

open Js Js.Value

section RoundTrips

variable {N : Type}

/-! ### Reading conditions -/

mutual

/-- A value that a condition is read off, with members of one form. -/
def Shows : Condition N → Value N → Prop
  | .compare fact op value, v => ∃ members, v = .object members ∧ has members "all" = false ∧
      has members "any" = false ∧ has members "not" = false ∧
      member members "fact" = .string fact ∧ member members "op" = .string op ∧
      member members "value" = value
  | .all parts, v => ∃ members items, v = .object members ∧
      member members "all" = .array items ∧ ShowsAll parts items
  | .any parts, v => ∃ members items, v = .object members ∧ has members "all" = false ∧
      member members "any" = .array items ∧ ShowsAll parts items
  | .not part, v => ∃ members inner, v = .object members ∧ has members "all" = false ∧
      has members "any" = false ∧ members.lookup (ofString "not") = some inner ∧ Shows part inner

def ShowsAll : List (Condition N) → List (Value N) → Prop
  | [], items => items = []
  | part :: rest, items => ∃ item more, items = item :: more ∧ Shows part item ∧ ShowsAll rest more

end

theorem lookup_of_not_has {members : List (Text × Value N)} {name : String}
    (none_ : has members name = false) : members.lookup (ofString name) = none := by
  rwa [has, Option.isSome_eq_false_iff, Option.isNone_iff_eq_none] at none_

theorem parts_of_not_has {members : List (Text × Value N)} {name : String}
    (none_ : has members name = false) :
    ((parseConditionMembers members).lookup (ofString name)).bind (·.parts) = none := by
  rw [lookup_parseConditionMembers, lookup_of_not_has none_]
  rfl

theorem parts_of_array {members : List (Text × Value N)} {name : String} {items : List (Value N)}
    (is : member members name = .array items) :
    ((parseConditionMembers members).lookup (ofString name)).bind (·.parts) =
      some (parseConditions items) := by
  rw [lookup_parseConditionMembers]
  cases found : members.lookup (ofString name) with
  | none => simp [member, found] at is
  | some value =>
    obtain rfl : value = .array items := by simpa [member, found] using is
    rfl

mutual

theorem parse_of_shows : ∀ (condition : Condition N) (v : Value N), Shows condition v →
    parseCondition v = some condition
  | .compare fact op value, _, shows_ => by
    obtain ⟨members, rfl, all, any, not, isFact, isOp, isValue⟩ := shows_
    rw [parseCondition]
    simp only [parts_of_not_has all, parts_of_not_has any]
    simp only [lookup_parseConditionMembers, lookup_of_not_has not, Option.map_none, isFact, isOp, isValue, textOf, Option.bind_eq_bind,
      Option.bind_some, Option.pure_def]
  | .all parts, _, shows_ => by
    obtain ⟨members, items, rfl, is, each⟩ := shows_
    rw [parseCondition]
    simp only [parts_of_array is, allParsed_of_shows parts items each, Option.map_some]
  | .any parts, _, shows_ => by
    obtain ⟨members, items, rfl, all, is, each⟩ := shows_
    rw [parseCondition]
    simp only [parts_of_not_has all, parts_of_array is, allParsed_of_shows parts items each,
      Option.map_some]
  | .not part, _, shows_ => by
    obtain ⟨members, inner, rfl, all, any, is, each⟩ := shows_
    rw [parseCondition]
    simp only [parts_of_not_has all, parts_of_not_has any]
    simp only [lookup_parseConditionMembers, is, Option.map_some, parse_of_shows part inner each]

theorem allParsed_of_shows : ∀ (parts : List (Condition N)) (items : List (Value N)),
    ShowsAll parts items → allParsed (parseConditions items) = some parts
  | [], _, none_ => by
    cases (none_ : _ = [])
    rfl
  | part :: rest, _, each => by
    obtain ⟨item, more, rfl, first, others⟩ := each
    rw [parseConditions, allParsed, parse_of_shows part item first,
      allParsed_of_shows rest more others]
    rfl

end

/-! ### Conditions as they are kept -/

mutual

/-- A condition as JSON, with these values in the place of its own. -/
def conditionWith (keep : Value N → Value N) : Condition N → Value N
  | .compare fact op value => .object ([textMember "fact" fact, textMember "op" op] ++
      if (keep value).isUndefined then [] else [(ofString "value", keep value)])
  | .all parts => .object [(ofString "all", .array (conditionsWith keep parts))]
  | .any parts => .object [(ofString "any", .array (conditionsWith keep parts))]
  | .not part => .object [(ofString "not", conditionWith keep part)]

def conditionsWith (keep : Value N → Value N) : List (Condition N) → List (Value N)
  | [] => []
  | part :: rest => conditionWith keep part :: conditionsWith keep rest

end

mutual

/-- The condition with these values in the place of its own. -/
def withValues (keep : Value N → Value N) : Condition N → Condition N
  | .compare fact op value => .compare fact op (keep value)
  | .all parts => .all (allWithValues keep parts)
  | .any parts => .any (allWithValues keep parts)
  | .not part => .not (withValues keep part)

def allWithValues (keep : Value N → Value N) : List (Condition N) → List (Condition N)
  | [] => []
  | part :: rest => withValues keep part :: allWithValues keep rest

end

mutual

theorem shows_conditionJson : ∀ condition : Condition N, Shows condition (conditionJson condition)
  | .compare _ _ _ => ⟨_, rfl, rfl, rfl, rfl, rfl, rfl, rfl⟩
  | .all parts => ⟨_, _, rfl, rfl, shows_conditionsJson parts⟩
  | .any parts => ⟨_, _, rfl, rfl, rfl, shows_conditionsJson parts⟩
  | .not part => ⟨_, _, rfl, rfl, rfl, rfl, shows_conditionJson part⟩

theorem shows_conditionsJson : ∀ parts : List (Condition N), ShowsAll parts (conditionsJson parts)
  | [] => rfl
  | part :: rest => ⟨_, _, rfl, shows_conditionJson part, shows_conditionsJson rest⟩

end

mutual

theorem shows_conditionWith (keep : Value N → Value N) : ∀ condition : Condition N,
    Shows (withValues keep condition) (conditionWith keep condition)
  | .compare _ _ value => by
    rw [withValues, conditionWith]
    cases is : (keep value).isUndefined with
    | true => exact ⟨_, rfl, rfl, rfl, rfl, rfl, rfl, (isUndefined_iff.mp is).symm⟩
    | false => exact ⟨_, rfl, rfl, rfl, rfl, rfl, rfl, rfl⟩
  | .all parts => ⟨_, _, rfl, rfl, shows_conditionsWith keep parts⟩
  | .any parts => ⟨_, _, rfl, rfl, rfl, shows_conditionsWith keep parts⟩
  | .not part => ⟨_, _, rfl, rfl, rfl, rfl, shows_conditionWith keep part⟩

theorem shows_conditionsWith (keep : Value N → Value N) : ∀ parts : List (Condition N),
    ShowsAll (allWithValues keep parts) (conditionsWith keep parts)
  | [] => rfl
  | part :: rest => ⟨_, _, rfl, shows_conditionWith keep part, shows_conditionsWith keep rest⟩

end

mutual

theorem values_of_withValues {keep : Value N → Value N} : ∀ condition : Condition N,
    withValues keep condition = condition →
      ∀ comparison ∈ comparisons condition, keep comparison.value = comparison.value
  | .compare fact op value, same => by
    intro comparison mem
    rw [List.mem_singleton.mp mem]
    exact (Condition.compare.inj same).2.2
  | .all parts, same => values_of_allWithValues parts (Condition.all.inj same)
  | .any parts, same => values_of_allWithValues parts (Condition.any.inj same)
  | .not part, same => values_of_withValues part (Condition.not.inj same)

theorem values_of_allWithValues {keep : Value N → Value N} : ∀ parts : List (Condition N),
    allWithValues keep parts = parts →
      ∀ comparison ∈ comparisonsOfAll parts, keep comparison.value = comparison.value
  | [], _ => nofun
  | part :: rest, same => by
    obtain ⟨first, others⟩ := List.cons.inj same
    exact List.forall_mem_append.mpr
      ⟨values_of_withValues part first, values_of_allWithValues rest others⟩

end

/-! ### Members of like objects -/

section Likeness

variable {members members' : List (Text × Value N)}

theorem has_alike (alike : AlikeMembers Eq Eq members members')
    (distinct : (members.map (·.1)).Nodup) (name : String) :
    has members' name = has members name := by
  have found := lookup_alike alike distinct (ofString name)
  rw [has, has]
  generalize members.lookup (ofString name) = here at *
  generalize members'.lookup (ofString name) = there at *
  cases found <;> rfl

theorem member_alike (alike : AlikeMembers Eq Eq members members')
    (distinct : (members.map (·.1)).Nodup) (name : String) :
    Alike Eq Eq (member members name) (member members' name) := by
  have found := lookup_alike alike distinct (ofString name)
  rw [member, member]
  generalize members.lookup (ofString name) = here at *
  generalize members'.lookup (ofString name) = there at *
  cases found with
  | some same => exact same
  | none => rfl

theorem string_alike (alike : AlikeMembers Eq Eq members members')
    (distinct : (members.map (·.1)).Nodup) (name : String) {text : Text}
    (is : member members name = .string text) : member members' name = .string text := by
  have same := member_alike alike distinct name
  rw [is] at same
  exact same.symm

theorem array_alike (alike : AlikeMembers Eq Eq members members')
    (distinct : (members.map (·.1)).Nodup) (name : String) {items : List (Value N)}
    (is : member members name = .array items) :
    ∃ items', member members' name = .array items' ∧ AlikeItems Eq Eq items items' := by
  have same := member_alike alike distinct name
  rw [is] at same
  exact same

end Likeness

/-! ### Rules and purpose codes -/

theorem severityOf_wire (severity : RequirementSeverity) :
    severityOf (.string (ofString severity.wire) : Value N) = severity := by
  cases severity with
  | blocking =>
    have other : ofString RequirementSeverity.blocking.wire ≠ ofString "advisory" := by decide
    simp [severityOf, textOf, other]
  | advisory => rfl

/-- An action is read off its members in any order. -/
theorem parseAction_alike {action : RuleAction} {w : Value N}
    (alike : Alike Eq Eq (actionToJson action) w) : parseAction w = some action := by
  cases action with
  | uploadDocument type =>
    obtain ⟨members, rfl, alike⟩ := alike
    have distinct : [ofString "type", ofString "document_type"].Nodup := by decide
    have isType := string_alike alike distinct "type" rfl
    have is := string_alike alike distinct "document_type" rfl
    rw [parseAction, isType, is]
    simp +decide [textOf, RuleAction.wire]
  | editBeneficiary field =>
    obtain ⟨members, rfl, alike⟩ := alike
    have distinct : [ofString "type", ofString "field"].Nodup := by decide
    have isType := string_alike alike distinct "type" rfl
    have is := string_alike alike distinct "field" rfl
    rw [parseAction, isType, is]
    simp +decide [textOf, RuleAction.wire]
  | contactSupport topic =>
    obtain ⟨members, rfl, alike⟩ := alike
    have distinct : [ofString "type", ofString "topic"].Nodup := by decide
    have isType := string_alike alike distinct "type" rfl
    have is := string_alike alike distinct "topic" rfl
    rw [parseAction, isType, is]
    simp +decide [textOf, RuleAction.wire]
  | verifyBeneficiary | addPayoutDestination | selectPurpose | setUpLiquidityFacility =>
    obtain ⟨members, rfl, alike⟩ := alike
    have distinct : [ofString "type"].Nodup := List.nodup_singleton _
    have isType := string_alike alike distinct "type" rfl
    rw [parseAction, isType]
    simp +decide [textOf, RuleAction.wire]

theorem purposeRead_alike {sandbox : Bool} {purpose : PurposeCode} {w : Value N}
    (fixture : sandbox = true → purpose.regulatoryCode = none)
    (alike : Alike Eq Eq (purposeJson "regulatory_code" purpose) w) :
    PurposeRead sandbox w purpose := by
  obtain ⟨members, rfl, alike⟩ := alike
  have distinct : [ofString "code", ofString "label", ofString "regulatory_code"].Nodup := by decide
  have regulatory := member_alike alike distinct "regulatory_code"
  refine ⟨⟨members, rfl, string_alike alike distinct "code" rfl,
    string_alike alike distinct "label" rfl, ?_⟩, fixture⟩
  cases is : purpose.regulatoryCode with
  | none =>
    have same : Alike Eq Eq (regulatoryJson purpose.regulatoryCode) _ := regulatory
    rw [is] at same
    exact same.symm
  | some code =>
    have same : Alike Eq Eq (regulatoryJson purpose.regulatoryCode) _ := regulatory
    rw [is] at same
    exact same.symm

theorem forall₂_alike {A : Type} {R : Value N → A → Prop} {show_ : A → Value N} {as : List A}
    {items : List (Value N)} (each : ∀ a ∈ as, ∀ item, Alike Eq Eq (show_ a) item → R item a)
    (alike : AlikeItems Eq Eq (as.map show_) items) : List.Forall₂ R items as := by
  induction as generalizing items with
  | nil =>
    cases (alike : items = [])
    exact .nil
  | cons a rest ih =>
    obtain ⟨item, more, rfl, first, others⟩ := alike
    obtain ⟨here, later⟩ := List.forall_mem_cons.mp each
    exact .cons (here item first) (ih later others)

/-- A rule as JSON, with its condition as it is given. -/
def ruleWith (conditionOf : Condition N → Value N) (rule : Rule N) : Value N :=
  .object [textMember "id" rule.id, (ofString "when", conditionOf rule.condition),
    textMember "code" rule.code, textMember "severity" (ofString rule.severity.wire),
    textMember "title" rule.title, textMember "detail" rule.detail,
    (ofString "action", actionToJson rule.action)]

theorem ruleRead_alike {conditionOf : Condition N → Value N} {rule : Rule N} {w : Value N}
    (reads : ∀ v, Alike Eq Eq (conditionOf rule.condition) v →
      parseCondition v = some rule.condition)
    (alike : Alike Eq Eq (ruleWith conditionOf rule) w) :
    ∃ members, w = .object members ∧ RuleRead members rule := by
  obtain ⟨members, rfl, alike⟩ := alike
  have distinct : [ofString "id", ofString "when", ofString "code", ofString "severity",
      ofString "title", ofString "detail", ofString "action"].Nodup := by decide
  have severity := string_alike alike distinct "severity" rfl
  exact ⟨members, rfl, string_alike alike distinct "id" rfl,
    reads _ (member_alike alike distinct "when"), string_alike alike distinct "code" rfl,
    ⟨_, severity⟩, by rw [severity, severityOf_wire], string_alike alike distinct "title" rfl,
    string_alike alike distinct "detail" rfl,
    parseAction_alike (member_alike alike distinct "action")⟩

theorem alikeItems_map {A : Type} (show_ shown : A → Value N) (as : List A)
    (each : ∀ a ∈ as, Alike Eq Eq (show_ a) (shown a)) :
    AlikeItems Eq Eq (as.map show_) (as.map shown) := by
  induction as with
  | nil => rfl
  | cons a rest ih =>
    obtain ⟨first, others⟩ := List.forall_mem_cons.mp each
    exact ⟨_, _, rfl, first, ih others⟩

theorem isUndefined_conditionJson (condition : Condition N) :
    (conditionJson condition).isUndefined = false := by
  cases condition <;> rfl

/-! ### Conditions that were stored -/

section Stored

variable [Js.NumberFormat N]

theorem isUndefined_written (v : Value N) : v.written.isUndefined = v.isUndefined := by
  cases v with
  | number value =>
    rw [written]
    split <;> rfl
  | _ => rfl

mutual

theorem written_conditionJson : ∀ condition : Condition N,
    (conditionJson condition).written = conditionWith written condition
  | .compare fact op value => by
    have strings : ∀ text, (string text : Value N).isUndefined = false := fun _ => rfl
    rw [conditionJson, conditionWith, isUndefined_written]
    cases is : value.isUndefined <;> simp [written, writtenMembers, textMember, strings, is]
  | .all parts => by
    rw [conditionJson, conditionWith, ← written_conditionsJson parts]
    rfl
  | .any parts => by
    rw [conditionJson, conditionWith, ← written_conditionsJson parts]
    rfl
  | .not part => by
    rw [conditionJson, conditionWith, ← written_conditionJson part]
    cases part <;> rfl

theorem written_conditionsJson : ∀ parts : List (Condition N),
    writtenItems (conditionsJson parts) = conditionsWith written parts
  | [] => rfl
  | part :: rest => by
    rw [conditionsJson, conditionsWith, ← written_conditionJson part, ← written_conditionsJson rest]
    cases part <;> rfl

end

mutual

theorem alike_turned : ∀ condition : Condition N,
    Alike Eq Eq (conditionWith written condition) (conditionWith turned condition)
  | .compare fact op value => by
    rw [conditionWith, conditionWith]
    have undefined_ : value.turned.isUndefined = value.written.isUndefined := by
      rw [turned]
      cases value.written <;> rfl
    rw [undefined_]
    cases value.written.isUndefined with
    | true => exact alike_refl _
    | false =>
      exact ⟨_, rfl, _, _, _, .refl _, rfl, rfl, _, _, _, .refl _, rfl, rfl, _, _, _, .refl _, rfl,
        kept_turned value, rfl⟩
  | .all parts => ⟨_, rfl, _, _, _, .refl _, rfl, ⟨_, rfl, alikes_turned parts⟩, rfl⟩
  | .any parts => ⟨_, rfl, _, _, _, .refl _, rfl, ⟨_, rfl, alikes_turned parts⟩, rfl⟩
  | .not part => ⟨_, rfl, _, _, _, .refl _, rfl, alike_turned part, rfl⟩

theorem alikes_turned : ∀ parts : List (Condition N),
    AlikeItems Eq Eq (conditionsWith written parts) (conditionsWith turned parts)
  | [] => rfl
  | part :: rest => ⟨_, _, rfl, alike_turned part, alikes_turned rest⟩

end

/-- A value that comes back from a store as it was, or one that there is none of. -/
def Stays (v : Value N) : Prop := v = .undefined ∨ v.Settled

mutual

/-- What a condition is given back as shows it, where its values stay. -/
theorem shows_of_kept : ∀ (condition : Condition N) (w : Value N),
    (∀ comparison ∈ comparisons condition, Stays comparison.value) →
    Alike Eq Eq (conditionWith written condition) w → Shows condition w
  | .compare fact op value, w, stays, alike => by
    obtain ⟨members, rfl, alike⟩ := alike
    rcases stays _ List.mem_cons_self with is | settled
    · obtain rfl : value = undefined := is
      have distinct : [ofString "fact", ofString "op"].Nodup := by decide
      have absent (name : String) (none_ : has [textMember "fact" fact, textMember "op" op] name =
          false) : has members name = false := (has_alike alike distinct name).trans none_
      exact ⟨members, rfl, absent _ rfl, absent _ rfl, absent _ rfl,
        string_alike alike distinct "fact" rfl, string_alike alike distinct "op" rfl,
        member_of_not_has (absent _ rfl)⟩
    · have settled : value.Settled := settled
      have some_ : value.written.isUndefined = false := by
        rw [isUndefined_written]
        exact Bool.eq_false_iff.mpr fun is => (isUndefined_iff.mp is ▸ settled.1 : Plain undefined).elim
      rw [some_] at alike
      have distinct : [ofString "fact", ofString "op", ofString "value"].Nodup := by decide
      have absent (name : String) (none_ : has [textMember "fact" fact, textMember "op" op,
          (ofString "value", value.written)] name = false) : has members name = false :=
        (has_alike alike distinct name).trans none_
      exact ⟨members, rfl, absent _ rfl, absent _ rfl, absent _ rfl,
        string_alike alike distinct "fact" rfl, string_alike alike distinct "op" rfl,
        eq_of_kept settled (member_alike alike distinct "value")⟩
  | .all parts, w, stays, alike => by
    obtain ⟨members, rfl, alike⟩ := alike
    have distinct : [ofString "all"].Nodup := List.nodup_singleton _
    obtain ⟨items, is, each⟩ := array_alike alike distinct "all" rfl
    exact ⟨members, items, rfl, is, showsAll_of_kept parts items stays each⟩
  | .any parts, w, stays, alike => by
    obtain ⟨members, rfl, alike⟩ := alike
    have distinct : [ofString "any"].Nodup := List.nodup_singleton _
    obtain ⟨items, is, each⟩ := array_alike alike distinct "any" rfl
    exact ⟨members, items, rfl, has_alike alike distinct "all", is,
      showsAll_of_kept parts items stays each⟩
  | .not part, w, stays, alike => by
    obtain ⟨members, rfl, alike⟩ := alike
    have distinct : [ofString "not"].Nodup := List.nodup_singleton _
    obtain ⟨inner, found, same⟩ : ∃ inner, members.lookup (ofString "not") = some inner ∧
        Alike Eq Eq (conditionWith written part) inner := by
      have found := lookup_alike alike distinct (ofString "not")
      generalize members.lookup (ofString "not") = there at *
      cases found with
      | some same => exact ⟨_, rfl, same⟩
    exact ⟨members, inner, rfl, has_alike alike distinct "all", has_alike alike distinct "any",
      found, shows_of_kept part inner stays same⟩

theorem showsAll_of_kept : ∀ (parts : List (Condition N)) (items : List (Value N)),
    (∀ comparison ∈ comparisonsOfAll parts, Stays comparison.value) →
    AlikeItems Eq Eq (conditionsWith written parts) items → ShowsAll parts items
  | [], _, _, alike => alike
  | part :: rest, _, stays, alike => by
    obtain ⟨item, more, rfl, first, others⟩ := alike
    obtain ⟨here, later⟩ := List.forall_mem_append.mp stays
    exact ⟨item, more, rfl, shows_of_kept part item here first,
      showsAll_of_kept rest more later others⟩

end

/-! ### Rule sets that were stored -/

/-- A rule set as JSON, with its conditions as they are given. -/
def ruleSetWith (conditionOf : Condition N → Value N) (ruleSet : RuleSet N) : Value N :=
  .object [textMember "version" ruleSet.version,
    textMember "source" (ofString (sourceWire ruleSet.source)),
    textMember "description" ruleSet.description,
    (ofString "purpose_codes", .array (ruleSet.purposeCodes.map (purposeJson "regulatory_code"))),
    (ofString "rules", .array (ruleSet.rules.map (ruleWith conditionOf)))]

/-- What makes a rule set one that is accepted, whichever file it was read off. -/
structure Sensible (toLowerCase : Text → Text) (ruleSet : RuleSet N) : Prop where
  fixture : ruleSet.source = .sandboxFixture →
    ∀ purpose ∈ ruleSet.purposeCodes, purpose.regulatoryCode = none
  sorted : ruleSet.purposeCodes.Pairwise fun a b => a.code ≤ b.code
  valid : validateRuleSet toLowerCase ruleSet = some []

variable {toLowerCase : Text → Text} {ruleSet : RuleSet N}

theorem sensible_of_accepted {input : Value N}
    (accepted : parseRuleSet toLowerCase input = some (.ok ruleSet)) :
    Sensible toLowerCase ruleSet := by
  obtain ⟨members, _, read⟩ := parseRuleSet_eq_ok.mp accepted
  obtain ⟨items, codes, _, each, sorted⟩ := read.purposeCodes
  refine ⟨fun source purpose mem => ?_, ?_, read.valid⟩
  · rw [sorted] at mem
    obtain ⟨_, _, purposeRead⟩ := exists_left each purpose
      ((List.perm_insertionSort _ _).mem_iff.mp mem)
    exact purposeRead.fixture (decide_eq_true source)
  · rw [sorted]
    exact List.pairwise_insertionSort (fun a b : PurposeCode => a.code ≤ b.code) codes

/-- Like values are read as the rule set, where its conditions are read off like values. -/
theorem accepted_alike {conditionOf : Condition N → Value N}
    (sensible : Sensible toLowerCase ruleSet)
    (reads : ∀ rule ∈ ruleSet.rules, ∀ v, Alike Eq Eq (conditionOf rule.condition) v →
      parseCondition v = some rule.condition) {w : Value N}
    (alike : Alike Eq Eq (ruleSetWith conditionOf ruleSet) w) :
    parseRuleSet toLowerCase w = some (.ok ruleSet) := by
  obtain ⟨members, rfl, alike⟩ := alike
  have distinct : [ofString "version", ofString "source", ofString "description",
      ofString "purpose_codes", ofString "rules"].Nodup := by decide
  obtain ⟨purposes, isPurposes, eachPurpose⟩ := array_alike alike distinct "purpose_codes" rfl
  obtain ⟨rules, isRules, eachRule⟩ := array_alike alike distinct "rules" rfl
  have sorted := (List.Pairwise.insertionSort_eq sensible.sorted).symm
  refine parseRuleSet_eq_ok.mpr ⟨members, rfl, string_alike alike distinct "version" rfl,
    string_alike alike distinct "source" rfl, string_alike alike distinct "description" rfl,
    ⟨purposes, _, isPurposes, forall₂_alike (fun purpose mem item same => ?_) eachPurpose, sorted⟩,
    ⟨rules, isRules, forall₂_alike (fun rule mem item same => ?_) eachRule⟩, sensible.valid⟩
  · exact purposeRead_alike (fun fixture => sensible.fixture (of_decide_eq_true fixture) purpose mem)
      same
  · exact ruleRead_alike (reads rule mem) same

/-! ### What is kept of a rule set -/

theorem writtenItems_map {A : Type} {show_ shown : A → Value N}
    (each : ∀ a, (show_ a).isUndefined = false ∧ (show_ a).written = shown a) (as : List A) :
    writtenItems (as.map show_) = as.map shown := by
  induction as with
  | nil => rfl
  | cons a rest ih =>
    obtain ⟨some_, is⟩ := each a
    rw [List.map_cons, writtenItems, some_, is, ih]
    rfl

theorem written_toRuleJson (rule : Rule N) :
    (toRuleJson rule).written = ruleWith (conditionWith written) rule := by
  rw [ruleWith, ← written_conditionJson, toRuleJson]
  have some_ := isUndefined_conditionJson rule.condition
  have strings : ∀ text, (string text : Value N).isUndefined = false := fun _ => rfl
  have action : (actionToJson rule.action : Value N).isUndefined = false ∧
      (actionToJson rule.action : Value N).written = actionToJson rule.action := by
    cases rule.action <;> exact ⟨rfl, rfl⟩
  simp [written, writtenMembers, textMember, strings, some_, action.1, action.2]

theorem written_purposeJson (name : String) (purpose : PurposeCode) :
    (purposeJson name purpose : Value N).written = purposeJson name purpose := by
  obtain ⟨code, label, regulatory⟩ := purpose
  cases regulatory <;> rfl

theorem written_toRuleSetJson (ruleSet : RuleSet N) :
    (toRuleSetJson ruleSet).written = ruleSetWith (conditionWith written) ruleSet := by
  have purposes := writtenItems_map (N := N) (fun purpose =>
    ⟨rfl, written_purposeJson "regulatory_code" purpose⟩) ruleSet.purposeCodes
  have rules := writtenItems_map (fun rule => ⟨rfl, written_toRuleJson rule⟩) ruleSet.rules
  have strings : ∀ text, (string text : Value N).isUndefined = false := fun _ => rfl
  have arrays : ∀ items, (array items : Value N).isUndefined = false := fun _ => rfl
  simp [toRuleSetJson, ruleSetWith, written, writtenMembers, textMember, strings, arrays, purposes,
    rules]

/-- The rule set may be given back with the values it compares with turned. -/
theorem kept_with_turned (ruleSet : RuleSet N) :
    Value.Kept (toRuleSetJson ruleSet) (ruleSetWith (conditionWith turned) ruleSet) := by
  rw [Value.Kept, written_toRuleSetJson]
  have rules := alikeItems_map (ruleWith (conditionWith written))
    (ruleWith (conditionWith turned)) ruleSet.rules fun rule _ => by
      exact ⟨_, rfl, _, _, _, .refl _, rfl, rfl, _, _, _, .refl _, rfl, alike_turned rule.condition,
        alikeMembers_refl _⟩
  exact ⟨_, rfl, _, _, _, .refl _, rfl, rfl, _, _, _, .refl _, rfl, rfl, _, _, _, .refl _, rfl, rfl,
    _, _, _, .refl _, rfl, alike_refl _, _, _, _, .refl _, rfl, ⟨_, rfl, rules⟩, rfl⟩

/-! ### Round trips -/

/-- What a rule set comes back as, in memory, from jsonb, and from the rows it is loaded from. -/
structure ComesBack (toLowerCase : Text → Text) (sha256 : Text → Text) (ruleSet : RuleSet N) :
    Prop where
  inMemory : parseRuleSet toLowerCase (toRuleSetJson ruleSet) = some (.ok ruleSet)
  stored : ∀ w, Value.Kept (toRuleSetJson ruleSet) w → parseRuleSet toLowerCase w = some (.ok ruleSet)
  loaded : ∀ row purposeRows, StoredRows sha256 ruleSet row purposeRows →
    loadRuleSetFromDatabase sha256 toLowerCase row purposeRows =
      some (ruleSet, ruleSetChecksum sha256 ruleSet)

/-- Every value that the rules compare with stays. -/
def ValuesStay (ruleSet : RuleSet N) : Prop :=
  ∀ rule ∈ ruleSet.rules, ∀ comparison ∈ comparisons rule.condition, Stays comparison.value

theorem parse_toRuleSetJson (sensible : Sensible toLowerCase ruleSet) :
    parseRuleSet toLowerCase (toRuleSetJson ruleSet) = some (.ok ruleSet) := by
  have sorted := (List.Pairwise.insertionSort_eq sensible.sorted).symm
  refine parseRuleSet_eq_ok.mpr ⟨_, rfl, rfl, rfl, rfl, ⟨_, _, rfl, ?_, sorted⟩, ⟨_, rfl, ?_⟩,
    sensible.valid⟩
  · refine List.forall₂_map_left_iff.mpr (List.forall₂_same.mpr fun purpose mem => ?_)
    exact purposeRead_alike (fun fixture => sensible.fixture (of_decide_eq_true fixture) purpose mem)
      (alike_refl _)
  · refine List.forall₂_map_left_iff.mpr (List.forall₂_same.mpr fun rule _ => ⟨_, rfl, ?_⟩)
    exact ⟨rfl, parse_of_shows _ _ (shows_conditionJson rule.condition), rfl, ⟨_, rfl⟩,
      severityOf_wire _, rfl, rfl, parseAction_alike (alike_refl _)⟩

theorem reads_of_stay (stay : ValuesStay ruleSet) : ∀ rule ∈ ruleSet.rules, ∀ v,
    Alike Eq Eq (conditionWith written rule.condition) v → parseCondition v = some rule.condition :=
  fun rule mem v same => parse_of_shows _ _ (shows_of_kept _ v (stay rule mem) same)

/-- The purpose codes are sorted alike, whichever order the rows come in. -/
theorem sorted_rows {rows codes : List PurposeCode} (distinct : (rows.map (·.code)).Nodup)
    (perm : rows.Perm codes) (sorted : codes.Pairwise fun a b => a.code ≤ b.code) :
    codes = rows.insertionSort fun a b => a.code ≤ b.code := by
  have perms : codes.Perm (rows.insertionSort fun a b => a.code ≤ b.code) :=
    perm.symm.trans (List.perm_insertionSort _ _).symm
  refine perms.eq_of_pairwise (fun a b mem mem' less more => ?_) sorted
    (List.pairwise_insertionSort (fun a b : PurposeCode => a.code ≤ b.code) rows)
  exact List.inj_on_of_nodup_map distinct (perm.mem_iff.mpr mem)
    ((List.perm_insertionSort _ _).mem_iff.mp mem') (le_antisymm less more)

theorem loaded_of_stay {sha256 : Text → Text} (sensible : Sensible toLowerCase ruleSet)
    (stay : ValuesStay ruleSet) {row : PreflightRuleSetRow N} {purposeRows : List PurposeCode}
    (stored : StoredRows sha256 ruleSet row purposeRows) :
    loadRuleSetFromDatabase sha256 toLowerCase row purposeRows =
      some (ruleSet, ruleSetChecksum sha256 ruleSet) := by
  obtain ⟨rules, isRules, each⟩ := stored.rules
  have each : AlikeItems Eq Eq (ruleSet.rules.map (ruleWith (conditionWith written))) rules := by
    rw [← writtenItems_map (fun rule => ⟨rfl, written_toRuleJson rule⟩) ruleSet.rules]
    exact each
  have parsed : parseRuleSet toLowerCase (.object [textMember "version" row.version,
      textMember "source" row.source, textMember "description" row.description,
      (ofString "purpose_codes", .array (purposeRows.map (purposeJson "regulatory_code"))),
      (ofString "rules", row.rules)]) = some (.ok ruleSet) := by
    rw [stored.version, stored.source, stored.description, isRules]
    refine parseRuleSet_eq_ok.mpr ⟨_, rfl, rfl, rfl, rfl, ⟨_, purposeRows, rfl, ?_,
      sorted_rows stored.distinctCodes stored.purposes sensible.sorted⟩, ⟨_, rfl,
      forall₂_alike (fun rule mem item same => ?_) each⟩, sensible.valid⟩
    · refine List.forall₂_map_left_iff.mpr (List.forall₂_same.mpr fun purpose mem => ?_)
      exact purposeRead_alike (fun fixture => sensible.fixture (of_decide_eq_true fixture) purpose
        (stored.purposes.mem_iff.mp mem)) (alike_refl _)
    · exact ruleRead_alike (reads_of_stay stay rule mem) same
  rw [loadRuleSetFromDatabase, parsed]
  simp only [Option.bind_eq_bind, Option.bind_some, stored.checksum, ne_eq, not_true_eq_false,
    if_false]

theorem comesBack_of_stay {sha256 : Text → Text} (sensible : Sensible toLowerCase ruleSet)
    (stay : ValuesStay ruleSet) : ComesBack toLowerCase sha256 ruleSet where
  inMemory := parse_toRuleSetJson sensible
  stored w kept := by
    rw [Value.Kept, written_toRuleSetJson] at kept
    exact accepted_alike sensible (reads_of_stay stay) kept
  loaded _ _ stored := loaded_of_stay sensible stay stored

/-! ### Values that do not stay -/

omit [Js.NumberFormat N] in
theorem distinct_member {members : List (Text × Value N)}
    (distinct : (Value.object members).distinct = true) (name : String) :
    (member members name).distinct = true := by
  rw [member]
  cases found : members.lookup (ofString name) with
  | none => rfl
  | some value => exact distinct_of_mem_members distinct (mem_of_lookup found)

omit [Js.NumberFormat N] in
/-- The values a condition compares with are in the value it was read off. -/
theorem distinct_of_parse (v : Value N) {condition : Condition N}
    (parsed : parseCondition v = some condition) (distinct : v.distinct = true) :
    ∀ comparison ∈ comparisons condition, comparison.value.distinct = true := by
  induction size : sizeOf v using Nat.strong_induction_on generalizing v condition with
  | _ n ih =>
    subst size
    cases v with
    | object members =>
      have inArray : ∀ {name : String} {items : List (Value N)} {parts : List (Condition N)},
          member members name = .array items →
          List.Forall₂ (fun item part => parseCondition item = some part) items parts →
          ∀ comparison ∈ comparisonsOfAll parts, comparison.value.distinct = true := by
        intro name items parts is each comparison mem
        obtain ⟨part, standsIn, mem⟩ := mem_comparisonsOfAll.mp mem
        obtain ⟨item, itemIn, read⟩ := exists_left each part standsIn
        have distinct : (Value.array items).distinct = true := is ▸ distinct_member distinct name
        exact ih _ (sizeOf_item is itemIn) item read (distinct_of_mem_items distinct itemIn) rfl
          comparison mem
      cases readAs_of_parse parsed with
      | all is each => exact inArray is each
      | any is each => exact inArray is each
      | not has_ read =>
        have inner := ih _ (sizeOf_member has_) _ read (distinct_member distinct "not") rfl
        exact inner
      | compare =>
        intro comparison mem
        rw [List.mem_singleton.mp mem]
        exact distinct_member distinct "value"
    | _ => cases parsed

theorem distinct_of_accepted {input : Value N} (distinct : input.distinct = true)
    (accepted : parseRuleSet toLowerCase input = some (.ok ruleSet)) :
    ∀ rule ∈ ruleSet.rules, ∀ comparison ∈ comparisons rule.condition,
      comparison.value.distinct = true := by
  intro rule mem
  obtain ⟨members, rfl, read⟩ := parseRuleSet_eq_ok.mp accepted
  obtain ⟨items, isRules, each⟩ := read.rules
  obtain ⟨raw, rawIn, inner, rfl, ruleRead⟩ := exists_left each rule mem
  have distinct : (Value.array items).distinct = true := isRules ▸ distinct_member distinct "rules"
  exact distinct_of_parse _ ruleRead.condition
    (distinct_member (distinct_of_mem_items distinct rawIn) "when")

/-- A rule set that comes back from a store compares with values that stay. -/
theorem stay_of_comesBack {sha256 : Text → Text} {input : Value N}
    (distinct : input.distinct = true)
    (accepted : parseRuleSet toLowerCase input = some (.ok ruleSet))
    (back : ComesBack toLowerCase sha256 ruleSet) : ValuesStay ruleSet := by
  intro rule mem comparison standsIn
  obtain ⟨members, is, read⟩ := parseRuleSet_eq_ok.mp (back.stored _ (kept_with_turned ruleSet))
  obtain ⟨items, isRules, each⟩ := read.rules
  cases is
  cases (Value.array.inj isRules : ruleSet.rules.map (ruleWith (conditionWith turned)) = items)
  obtain ⟨inner, isInner, ruleRead⟩ :=
    List.forall₂_same.mp (List.forall₂_map_left_iff.mp each) rule mem
  cases isInner
  have parsed : parseCondition (conditionWith turned rule.condition) = some rule.condition :=
    ruleRead.condition
  have same := Option.some.inj
    ((parse_of_shows _ _ (shows_conditionWith turned rule.condition)).symm.trans parsed)
  exact settled_of_turned _ (distinct_of_accepted distinct accepted rule mem comparison standsIn)
    (values_of_withValues rule.condition same comparison standsIn)

/-! ### Checksums -/

def checkedRuleWith (conditionOf : Condition N → Value N) (rule : Rule N) : Value N :=
  .object [textMember "id" rule.id, textMember "code" rule.code,
    textMember "severity" (ofString rule.severity.wire), textMember "title" rule.title,
    textMember "detail" rule.detail, (ofString "action", actionObject "documentType" rule.action),
    (ofString "when", conditionOf rule.condition)]

def checkedWith (conditionOf : Condition N → Value N) (ruleSet : RuleSet N) : Value N :=
  .object [textMember "version" ruleSet.version,
    textMember "source" (ofString (sourceWire ruleSet.source)),
    (ofString "purposeCodes", .array (ruleSet.purposeCodes.map (purposeJson "regulatoryCode"))),
    (ofString "rules", .array (ruleSet.rules.map (checkedRuleWith conditionOf)))]

theorem written_checkedRule (rule : Rule N) :
    (checkedRule rule).written = checkedRuleWith (conditionWith written) rule := by
  rw [checkedRuleWith, ← written_conditionJson, checkedRule]
  have some_ := isUndefined_conditionJson rule.condition
  have strings : ∀ text, (string text : Value N).isUndefined = false := fun _ => rfl
  have action : (actionObject "documentType" rule.action : Value N).isUndefined = false ∧
      (actionObject "documentType" rule.action : Value N).written =
        actionObject "documentType" rule.action := by
    cases rule.action <;> exact ⟨rfl, rfl⟩
  simp [written, writtenMembers, textMember, strings, some_, action.1, action.2]

theorem written_checkedValue (ruleSet : RuleSet N) :
    (checkedValue ruleSet).written = checkedWith (conditionWith written) ruleSet := by
  have purposes := writtenItems_map (N := N) (fun purpose =>
    ⟨rfl, written_purposeJson "regulatoryCode" purpose⟩) ruleSet.purposeCodes
  have rules := writtenItems_map (fun rule => ⟨rfl, written_checkedRule rule⟩) ruleSet.rules
  have strings : ∀ text, (string text : Value N).isUndefined = false := fun _ => rfl
  have arrays : ∀ items, (array items : Value N).isUndefined = false := fun _ => rfl
  simp [checkedValue, checkedWith, written, writtenMembers, textMember, strings, arrays, purposes,
    rules]

theorem eq_of_map_eq {A B : Type} {f : A → B} {left right : List A}
    (one : ∀ a ∈ left, ∀ b ∈ right, f a = f b → a = b) (same : left.map f = right.map f) :
    left = right := by
  induction left generalizing right with
  | nil => exact (List.map_eq_nil_iff.mp same.symm).symm
  | cons a rest ih =>
    cases right with
    | nil => cases same
    | cons b others =>
      obtain ⟨first, more⟩ := List.cons.inj same
      rw [one a List.mem_cons_self b List.mem_cons_self first,
        ih (fun a mem b mem' => one a (List.mem_cons_of_mem _ mem) b (List.mem_cons_of_mem _ mem')) more]

omit [Js.NumberFormat N] in
theorem purposeJson_injective (name : String) :
    Function.Injective (purposeJson name : PurposeCode → Value N) := by
  rintro ⟨code, label, regulatory⟩ ⟨code', label', regulatory'⟩ same
  cases regulatory <;> cases regulatory' <;>
    simp_all [purposeJson, textMember, regulatoryJson]

omit [Js.NumberFormat N] in
theorem actionObject_injective (documentType : String) :
    Function.Injective (actionObject documentType : RuleAction → Value N) := by
  intro action action' same
  have types : ofString action.wire = ofString action'.wire := by
    have members := Value.object.inj same
    exact Value.string.inj (Prod.mk.inj (List.cons.inj members).1).2
  cases action <;> cases action' <;> first
    | rfl
    | exact absurd types (by simp only [RuleAction.wire]; decide)
    | simp_all [actionObject, textMember]

theorem conditionWith_injective {condition condition' : Condition N}
    (stay : ∀ comparison ∈ comparisons condition, Stays comparison.value)
    (stay' : ∀ comparison ∈ comparisons condition', Stays comparison.value)
    (same : conditionWith written condition = conditionWith written condition') :
    condition = condition' := by
  have read := parse_of_shows _ _ (shows_of_kept condition _ stay (alike_refl _))
  rw [same, parse_of_shows _ _ (shows_of_kept condition' _ stay' (alike_refl _))] at read
  exact (Option.some.inj read).symm

theorem checkedRuleWith_injective {rule rule' : Rule N}
    (stay : ∀ comparison ∈ comparisons rule.condition, Stays comparison.value)
    (stay' : ∀ comparison ∈ comparisons rule'.condition, Stays comparison.value)
    (same : checkedRuleWith (conditionWith written) rule =
      checkedRuleWith (conditionWith written) rule') : rule = rule' := by
  obtain ⟨id, condition, code, severity, title, detail, action⟩ := rule
  obtain ⟨id', condition', code', severity', title', detail', action'⟩ := rule'
  simp only [checkedRuleWith, textMember, Value.object.injEq, List.cons.injEq, Prod.mk.injEq,
    Value.string.injEq, true_and, and_true] at same
  obtain ⟨rfl, rfl, severities, rfl, rfl, actions, conditions⟩ := same
  cases actionObject_injective _ actions
  cases conditionWith_injective stay stay' conditions
  have severity_ : severity = severity' := by
    cases severity <;> cases severity' <;> first | rfl | exact absurd severities (by decide)
  rw [severity_]

/-- What the checksum is taken of tells the rule set apart from its description. -/
theorem eq_of_checkedWith {ruleSet ruleSet' : RuleSet N} (stay : ValuesStay ruleSet)
    (stay' : ValuesStay ruleSet')
    (same : checkedWith (conditionWith written) ruleSet =
      checkedWith (conditionWith written) ruleSet') :
    { ruleSet with description := ruleSet'.description } = ruleSet' := by
  obtain ⟨version, source, description, purposes, rules⟩ := ruleSet
  obtain ⟨version', source', description', purposes', rules'⟩ := ruleSet'
  simp only [checkedWith, textMember, Value.object.injEq, List.cons.injEq, Prod.mk.injEq,
    Value.string.injEq, Value.array.injEq, true_and, and_true] at same
  obtain ⟨rfl, sources, samePurposes, sameRules⟩ := same
  have source_ : some source = some source' :=
    (sourceOf_eq_some.mpr sources.symm).symm.trans (sourceOf_eq_some.mpr rfl)
  cases source_
  cases (purposeJson_injective (N := N) "regulatoryCode").list_map samePurposes
  have rules_ : rules = rules' := eq_of_map_eq (fun rule mem rule' mem' =>
    checkedRuleWith_injective (stay rule mem) (stay' rule' mem')) sameRules
  rw [rules_]

/-! ### Names in what the checksum is taken of -/

theorem distinct_of_stays {v : Value N} (stays : Stays v) : v.distinct = true := by
  rcases stays with rfl | settled
  · rfl
  · exact distinct_of_single v settled.2

mutual

theorem distinct_conditionJson : ∀ condition : Condition N,
    (∀ comparison ∈ comparisons condition, comparison.value.distinct = true) →
      (conditionJson condition).distinct = true
  | .compare fact op value, values => by
    have distinct := values _ List.mem_cons_self
    have names : [ofString "fact", ofString "op", ofString "value"].Nodup := by decide
    have each : distinctMembers [textMember "fact" fact, textMember "op" op,
        (ofString "value", value)] = true := by simp [distinctMembers, textMember, Value.distinct, distinct]
    rw [conditionJson, Value.distinct, each, Bool.and_true]
    exact decide_eq_true names
  | .all parts, values => by
    simp [conditionJson, Value.distinct, distinctMembers, distinct_conditionsJson parts values]
  | .any parts, values => by
    simp [conditionJson, Value.distinct, distinctMembers, distinct_conditionsJson parts values]
  | .not part, values => by
    simp [conditionJson, Value.distinct, distinctMembers, distinct_conditionJson part values]

theorem distinct_conditionsJson : ∀ parts : List (Condition N),
    (∀ comparison ∈ comparisonsOfAll parts, comparison.value.distinct = true) →
      distinctItems (conditionsJson parts) = true
  | [], _ => rfl
  | part :: rest, values => by
    obtain ⟨here, later⟩ := List.forall_mem_append.mp values
    rw [conditionsJson, distinctItems, distinct_conditionJson part here,
      distinct_conditionsJson rest later]
    rfl

end

omit [Js.NumberFormat N] in
theorem distinctItems_map {A : Type} {show_ : A → Value N} {as : List A}
    (each : ∀ a ∈ as, (show_ a).distinct = true) : distinctItems (as.map show_) = true := by
  induction as with
  | nil => rfl
  | cons a rest ih =>
    obtain ⟨first, others⟩ := List.forall_mem_cons.mp each
    rw [List.map_cons, distinctItems, first, ih others]
    rfl

theorem distinct_checkedRule {rule : Rule N}
    (values : ∀ comparison ∈ comparisons rule.condition, comparison.value.distinct = true) :
    (checkedRule rule).distinct = true := by
  have names : [ofString "id", ofString "code", ofString "severity", ofString "title",
      ofString "detail", ofString "action", ofString "when"].Nodup := by decide
  have action : (actionObject "documentType" rule.action : Value N).distinct = true := by
    cases rule.action <;> rfl
  have condition := distinct_conditionJson rule.condition values
  rw [checkedRule, Value.distinct, Bool.and_eq_true]
  refine ⟨decide_eq_true names, ?_⟩
  simp [distinctMembers, textMember, Value.distinct, action, condition]

theorem distinct_checkedValue (values : ∀ rule ∈ ruleSet.rules,
    ∀ comparison ∈ comparisons rule.condition, comparison.value.distinct = true) :
    (checkedValue ruleSet).distinct = true := by
  have names : [ofString "version", ofString "source", ofString "purposeCodes",
      ofString "rules"].Nodup := by decide
  have purposes : distinctItems (ruleSet.purposeCodes.map
      (purposeJson "regulatoryCode" : PurposeCode → Value N)) = true :=
    distinctItems_map fun purpose _ => by
      obtain ⟨code, label, regulatory⟩ := purpose
      cases regulatory <;> rfl
  have rules := distinctItems_map fun rule mem => distinct_checkedRule (values rule mem)
  rw [checkedValue, Value.distinct, Bool.and_eq_true]
  refine ⟨decide_eq_true names, ?_⟩
  simp [distinctMembers, textMember, Value.distinct, purposes, rules]

/-- What is written of rule sets of one checksum is one thing, apart from their descriptions. -/
theorem checkedWith_of_checksum {sha256 : Text → Text} (injective : Function.Injective sha256)
    {ruleSet ruleSet' : RuleSet N} (distinct : (checkedValue ruleSet).distinct = true)
    (distinct' : (checkedValue ruleSet').distinct = true)
    (same : ruleSetChecksum sha256 ruleSet = ruleSetChecksum sha256 ruleSet') :
    checkedWith (conditionWith written) ruleSet = checkedWith (conditionWith written) ruleSet' := by
  have texts : (checkedValue ruleSet).stringify = (checkedValue ruleSet').stringify :=
    injective same
  have read := parseJson_stringify (v := checkedValue ruleSet) rfl distinct
  rw [texts, parseJson_stringify (v := checkedValue ruleSet') rfl distinct',
    written_checkedValue, written_checkedValue] at read
  exact (Option.some.inj read).symm

/-- Rule sets of one checksum are equal apart from their descriptions. -/
theorem eq_of_checksum {sha256 : Text → Text} (injective : Function.Injective sha256)
    {ruleSet ruleSet' : RuleSet N} (stay : ValuesStay ruleSet) (stay' : ValuesStay ruleSet')
    (same : ruleSetChecksum sha256 ruleSet = ruleSetChecksum sha256 ruleSet') :
    { ruleSet with description := ruleSet'.description } = ruleSet' := by
  have distinct : ∀ {ruleSet : RuleSet N}, ValuesStay ruleSet →
      (checkedValue ruleSet).distinct = true := by
    intro ruleSet stay
    apply distinct_checkedValue
    intro rule mem comparison standsIn
    exact distinct_of_stays (stay rule mem comparison standsIn)
  exact eq_of_checkedWith stay stay'
    (checkedWith_of_checksum injective (distinct stay) (distinct stay') same)

/-- What is asked of the rule sets that are published. -/
structure Faithful (toLowerCase : Text → Text) (sha256 : Text → Text) (published : Set (RuleSet N)) :
    Prop where
  comesBack : ∀ ruleSet ∈ published, ComesBack toLowerCase sha256 ruleSet
  checksums : ∀ ruleSet ∈ published, ∀ ruleSet' ∈ published,
    ruleSetChecksum sha256 ruleSet = ruleSetChecksum sha256 ruleSet' →
      { ruleSet with description := ruleSet'.description } = ruleSet'

end Stored

end RoundTrips

/-! ### Countries -/

/-- The rule of the set compares with the value it was written with. -/
theorem country_values {value : Value Whole} {ruleSet : RuleSet Whole}
    (accepted : parseRuleSet smallLetters (countryRules value) = some (.ok ruleSet)) :
    ∃ rule ∈ ruleSet.rules, ruleSet.rules = [rule] ∧ rule.condition =
      .compare (ofString "beneficiary_country") (ofString "in") value := by
  obtain ⟨rules, is⟩ : ∃ rules, rules = ruleSet.rules := ⟨_, rfl⟩
  have read := written_read accepted
  rw [← is] at read ⊢
  cases read with
  | cons parsed rest =>
    cases rest
    exact ⟨_, List.mem_cons_self, rfl, (Option.some.inj parsed).symm⟩

end InrSettle.Preflight
