import InrSettle.System.Preflights
import InrSettle.System.RuleSetFiles

/-!
# Conditions as they are written

What a condition of an accepted rule set is in the file: the forms its objects have
members of and the types of the values it compares with.
-/

namespace InrSettle.Preflight

open Js

section Written

variable {N : Type}

/-! ### What is written -/

/-- A condition object is one of these. -/
inductive ConditionForm where
  | all | any | not | comparison
  deriving DecidableEq

def has (members : List (Text × Value N)) (name : String) : Bool :=
  (members.lookup (ofString name)).isSome

/-- The forms that an object has a member of. -/
def formsOf (members : List (Text × Value N)) : List ConditionForm :=
  (if has members "all" then [.all] else []) ++ (if has members "any" then [.any] else []) ++
    (if has members "not" then [.not] else []) ++
    if has members "fact" || has members "op" then [.comparison] else []

/-- The objects of a condition, itself and the ones in it. -/
inductive Within : List (Text × Value N) → Value N → Prop where
  | self (members : List (Text × Value N)) : Within members (.object members)
  | all {inner members : List (Text × Value N)} {items : List (Value N)} {item : Value N} :
      member members "all" = .array items → item ∈ items → Within inner item →
      Within inner (.object members)
  | any {inner members : List (Text × Value N)} {items : List (Value N)} {item : Value N} :
      member members "any" = .array items → item ∈ items → Within inner item →
      Within inner (.object members)
  | not {inner members : List (Text × Value N)} :
      Within inner (member members "not") → Within inner (.object members)

/-- What an operator can compare a fact with. -/
def typedFor (fact : Text) : Operator → Value N → Prop
  | .eq, value | .neq, value => (∃ text, value = .string text) ∨ ∃ b, value = .bool b
  | .isIn, value | .notIn, value => ∃ items, value = .array items ∧
      ∀ item ∈ items, ∃ text, item = .string text
  | .gte, value | .gt, value | .lte, value | .lt, value =>
      fact = ofString FactName.amountMinorUnits.wire ∧ ∃ text, value = .string text
  | .includes, value | .notIncludes, value => ∃ text, value = .string text
  | .isNull, _ | .isNotNull, _ => True

/-- A condition written as it is meant. -/
inductive WellWritten : Value N → Prop where
  | all {members : List (Text × Value N)} {items : List (Value N)} :
      formsOf members = [.all] → member members "all" = .array items →
      (∀ item ∈ items, WellWritten item) → WellWritten (.object members)
  | any {members : List (Text × Value N)} {items : List (Value N)} :
      formsOf members = [.any] → member members "any" = .array items →
      (∀ item ∈ items, WellWritten item) → WellWritten (.object members)
  | not {members : List (Text × Value N)} :
      formsOf members = [.not] → WellWritten (member members "not") →
      WellWritten (.object members)
  | comparison {members : List (Text × Value N)} {fact name : Text} {op : Operator} :
      formsOf members = [.comparison] → member members "fact" = .string fact →
      member members "op" = .string name → Operator.ofText name = some op →
      typedFor fact op (member members "value") → WellWritten (.object members)

/-- The conditions of the rules of a file. -/
def writtenConditions : Value N → List (Value N)
  | .object members =>
    match member members "rules" with
    | .array items => items.map fun
      | .object members => member members "when"
      | _ => .undefined
    | _ => []
  | _ => []

/-! ### What is read -/

structure Comparison (N : Type) where
  fact : Text
  op : Text
  value : Value N

mutual

def comparisons : Condition N → List (Comparison N)
  | .compare fact op value => [⟨fact, op, value⟩]
  | .all parts => comparisonsOfAll parts
  | .any parts => comparisonsOfAll parts
  | .not part => comparisons part

def comparisonsOfAll : List (Condition N) → List (Comparison N)
  | [] => []
  | part :: rest => comparisons part ++ comparisonsOfAll rest

end

/-- The value is of the type that the operator requires, and what is ordered is the amount. -/
def Comparison.typed (comparison : Comparison N) : Prop :=
  ∃ op, Operator.ofText comparison.op = some op ∧
    typedFor comparison.fact op comparison.value ∧
    (op.comparesAmounts = true → ∃ text, comparison.value = .string text ∧ isIntegerText text = true)

/-- A rule set is evaluated without throwing and as its file has it. -/
structure AsWritten [Js.NumberFormat N] (integerOf : N → Option Int) (input : Value N)
    (ruleSet : RuleSet N) : Prop where
  total : ∀ subject : Subject, (runPreflight integerOf subject ruleSet).isSome = true
  typed : ∀ rule ∈ ruleSet.rules, ∀ comparison ∈ comparisons rule.condition, comparison.typed
  /-- Every object of a condition is one of the forms. -/
  oneForm : ∀ written ∈ writtenConditions input, ∀ members, Within members written →
    ∃ form, formsOf members = [form]

/-! ### Forms -/

theorem mem_formsOf (members : List (Text × Value N)) : ∀ form, form ∈ formsOf members ↔
    match form with
    | .all => has members "all" = true
    | .any => has members "any" = true
    | .not => has members "not" = true
    | .comparison => (has members "fact" || has members "op") = true := by
  unfold formsOf
  cases has members "all" <;> cases has members "any" <;> cases has members "not" <;>
    cases has members "fact" || has members "op" <;> intro form <;> cases form <;> decide

theorem has_of_member {members : List (Text × Value N)} {name : String} {value : Value N}
    (is : member members name = value) (some_ : value ≠ .undefined) : has members name = true := by
  cases found : members.lookup (ofString name) with
  | none => exact absurd (by rw [← is, member, found]; rfl) some_
  | some value => rw [has, found]; rfl

theorem member_of_not_has {members : List (Text × Value N)} {name : String}
    (none_ : has members name = false) : member members name = .undefined := by
  rw [has, Option.isSome_eq_false_iff, Option.isNone_iff_eq_none] at none_
  rw [member, none_]
  rfl

theorem forms_eq {members : List (Text × Value N)} {form other : ConditionForm}
    (one : formsOf members = [form]) (mem : other ∈ formsOf members) : form = other := by
  rw [one, List.mem_singleton] at mem
  exact mem.symm

theorem forms_of_one {members : List (Text × Value N)} {other : ConditionForm}
    (one : ∃ form, formsOf members = [form]) (mem : other ∈ formsOf members) :
    formsOf members = [other] := by
  obtain ⟨form, is⟩ := one
  rw [is, forms_eq is mem]

/-! ### What the parser reads -/

theorem lookup_parseConditionMembers (members : List (Text × Value N)) (name : Text) :
    (parseConditionMembers members).lookup name =
      (members.lookup name).map fun value => ⟨parseCondition value, parseConditionParts value⟩ := by
  induction members with
  | nil => rfl
  | cons first rest ih =>
    obtain ⟨other, value⟩ := first
    rw [parseConditionMembers, List.lookup_cons, List.lookup_cons, ih]
    cases name == other <;> rfl

theorem allParsed_parseConditions {items : List (Value N)} {parts : List (Condition N)}
    (parsed : allParsed (parseConditions items) = some parts) :
    List.Forall₂ (fun item part => parseCondition item = some part) items parts := by
  induction items generalizing parts with
  | nil =>
    cases parsed
    exact .nil
  | cons item rest ih =>
    rw [parseConditions, allParsed] at parsed
    cases first : parseCondition item with
    | none => simp [first] at parsed
    | some part =>
      cases others : allParsed (parseConditions rest) with
      | none => simp [first, others] at parsed
      | some parts =>
        simp only [first, others, Option.bind_eq_bind, Option.bind_some, Option.pure_def,
          Option.some.injEq] at parsed
        subst parsed
        exact .cons first (ih others)

/-- What an object is read as: the first of the forms that it has a usable member of. -/
inductive ReadAs (members : List (Text × Value N)) : Condition N → Prop where
  | all {items : List (Value N)} {parts : List (Condition N)} :
      member members "all" = .array items →
      List.Forall₂ (fun item part => parseCondition item = some part) items parts →
      ReadAs members (.all parts)
  | any {items : List (Value N)} {parts : List (Condition N)} :
      member members "any" = .array items →
      List.Forall₂ (fun item part => parseCondition item = some part) items parts →
      ReadAs members (.any parts)
  | not {part : Condition N} : has members "not" = true →
      parseCondition (member members "not") = some part → ReadAs members (.not part)
  | compare {fact op : Text} : member members "fact" = .string fact →
      member members "op" = .string op →
      ReadAs members (.compare fact op (member members "value"))

/-- The conditions of an array that a member has. -/
theorem parts_of_member {members : List (Text × Value N)} {name : String}
    {parts : List (Option (Condition N))}
    (is : ((parseConditionMembers members).lookup (ofString name)).bind (·.parts) = some parts) :
    ∃ items, member members name = .array items ∧ parts = parseConditions items := by
  rw [lookup_parseConditionMembers] at is
  rw [member]
  cases found : members.lookup (ofString name) with
  | none => simp [found] at is
  | some value =>
    rw [found, Option.map_some, Option.bind_some] at is
    cases value with
    | array items => exact ⟨items, rfl, (Option.some.inj is).symm⟩
    | _ => cases is

theorem readAs_of_parse {members : List (Text × Value N)} {condition : Condition N}
    (parsed : parseCondition (.object members) = some condition) : ReadAs members condition := by
  rw [parseCondition] at parsed
  split at parsed
  · rename_i parts all
    obtain ⟨items, is, rfl⟩ := parts_of_member all
    obtain ⟨parts, each, rfl⟩ := Option.map_eq_some_iff.mp parsed
    exact .all is (allParsed_parseConditions each)
  · split at parsed
    · rename_i parts any
      obtain ⟨items, is, rfl⟩ := parts_of_member any
      obtain ⟨parts, each, rfl⟩ := Option.map_eq_some_iff.mp parsed
      exact .any is (allParsed_parseConditions each)
    · rw [lookup_parseConditionMembers] at parsed
      cases found : members.lookup (ofString "not") with
      | some value =>
        rw [found] at parsed
        obtain ⟨part, inner, rfl⟩ := Option.map_eq_some_iff.mp parsed
        refine .not (by rw [has, found]; rfl) ?_
        rw [member, found]
        exact inner
      | none =>
        rw [found] at parsed
        obtain ⟨fact, isFact, parsed⟩ := Option.bind_eq_some_iff.mp parsed
        obtain ⟨op, isOp, parsed⟩ := Option.bind_eq_some_iff.mp parsed
        cases parsed
        exact .compare (textOf_eq_some.mp isFact) (textOf_eq_some.mp isOp)

/-! ### What is read off what is written -/

theorem mem_comparisonsOfAll {parts : List (Condition N)} {comparison : Comparison N} :
    comparison ∈ comparisonsOfAll parts ↔ ∃ part ∈ parts, comparison ∈ comparisons part := by
  induction parts with
  | nil => simp [comparisonsOfAll]
  | cons part rest ih => simp [comparisonsOfAll, ih]

theorem sizeOf_member {members : List (Text × Value N)} {name : String}
    (some_ : has members name = true) :
    sizeOf (member members name) < sizeOf (Value.object members) := by
  obtain ⟨value, found⟩ := Option.isSome_iff_exists.mp some_
  have small := List.sizeOf_lt_of_mem (mem_of_lookup found)
  rw [member, found, Option.getD_some]
  simp only [Prod.mk.sizeOf_spec, Value.object.sizeOf_spec] at small ⊢
  omega

theorem sizeOf_item {members : List (Text × Value N)} {name : String} {items : List (Value N)}
    (is : member members name = .array items) {item : Value N} (mem : item ∈ items) :
    sizeOf item < sizeOf (Value.object members) := by
  have outer := sizeOf_member (has_of_member is nofun)
  have inner := List.sizeOf_lt_of_mem mem
  rw [is, Value.array.sizeOf_spec] at outer
  omega

/-- A condition is well written, if each of its objects is one of the forms and each of its
comparisons is typed. -/
theorem wellWritten_of_parse [Js.NumberFormat N] (written : Value N) {condition : Condition N}
    (parsed : parseCondition written = some condition)
    (one : ∀ inner, Within inner written → ∃ form, formsOf inner = [form])
    (typed : ∀ comparison ∈ comparisons condition, comparison.typed) : WellWritten written := by
  induction size : sizeOf written using Nat.strong_induction_on generalizing written condition with
  | _ n ih =>
    subst size
    cases written with
    | object members =>
      have here := one members (.self members)
      -- what the items of an array are, for either of the forms that have one
      have inArray : ∀ {name : String} {items : List (Value N)} {parts : List (Condition N)},
          member members name = .array items →
          List.Forall₂ (fun item part => parseCondition item = some part) items parts →
          (∀ part ∈ parts, ∀ comparison ∈ comparisons part, comparison.typed) →
          (∀ item ∈ items, ∀ inner, Within inner item → Within inner (.object members)) →
          ∀ item ∈ items, WellWritten item := by
        intro name items parts is each typed into item mem
        obtain ⟨part, standsIn, read⟩ := exists_right each item mem
        exact ih _ (sizeOf_item is mem) item read (fun inner within => one inner (into item mem inner within))
          (typed part standsIn) rfl
      cases readAs_of_parse parsed with
      | all is each =>
        exact .all (forms_of_one here ((mem_formsOf members .all).mpr (has_of_member is nofun))) is
          (inArray is each (fun part mem comparison mem' =>
            typed comparison (mem_comparisonsOfAll.mpr ⟨part, mem, mem'⟩))
            fun item mem inner => .all is mem)
      | any is each =>
        exact .any (forms_of_one here ((mem_formsOf members .any).mpr (has_of_member is nofun))) is
          (inArray is each (fun part mem comparison mem' =>
            typed comparison (mem_comparisonsOfAll.mpr ⟨part, mem, mem'⟩))
            fun item mem inner => .any is mem)
      | not has_ read =>
        exact .not (forms_of_one here ((mem_formsOf members .not).mpr has_))
          (ih _ (sizeOf_member has_) _ read (fun inner within => one inner (.not within)) typed rfl)
      | compare isFact isOp =>
        obtain ⟨op, named, fits, _⟩ := typed _ List.mem_cons_self
        refine .comparison (forms_of_one here ((mem_formsOf members .comparison).mpr ?_)) isFact isOp
          named fits
        rw [has_of_member isFact nofun, Bool.true_or]
    | _ => cases parsed

def formOf : Condition N → ConditionForm
  | .compare _ _ _ => .comparison
  | .all _ => .all
  | .any _ => .any
  | .not _ => .not

theorem formOf_mem {members : List (Text × Value N)} {condition : Condition N}
    (read : ReadAs members condition) : formOf condition ∈ formsOf members := by
  cases read with
  | all is => exact (mem_formsOf members .all).mpr (has_of_member is nofun)
  | any is => exact (mem_formsOf members .any).mpr (has_of_member is nofun)
  | not has_ => exact (mem_formsOf members .not).mpr has_
  | compare isFact =>
    exact (mem_formsOf members .comparison).mpr (by rw [has_of_member isFact nofun, Bool.true_or])

/-- The objects in one that has a single form stand where the form has its conditions. -/
theorem within_of_form {members inner : List (Text × Value N)} {form : ConditionForm}
    (one : formsOf members = [form]) (within : Within inner (.object members)) :
    inner = members ∨
      (∃ name items item, (form = .all ∧ name = "all" ∨ form = .any ∧ name = "any") ∧
        member members name = .array items ∧ item ∈ items ∧ Within inner item) ∨
      form = .not ∧ Within inner (member members "not") := by
  cases within with
  | self => exact .inl rfl
  | all is mem within =>
    have form := forms_eq one ((mem_formsOf members .all).mpr (has_of_member is nofun))
    exact .inr (.inl ⟨"all", _, _, .inl ⟨form, rfl⟩, is, mem, within⟩)
  | any is mem within =>
    have form := forms_eq one ((mem_formsOf members .any).mpr (has_of_member is nofun))
    exact .inr (.inl ⟨"any", _, _, .inr ⟨form, rfl⟩, is, mem, within⟩)
  | not within =>
    cases has_ : has members "not" with
    | true => exact .inr (.inr ⟨forms_eq one ((mem_formsOf members .not).mpr has_), within⟩)
    | false =>
      rw [member_of_not_has has_] at within
      cases within

theorem oneForm_of_wellWritten {written : Value N} (well : WellWritten written) :
    ∀ inner, Within inner written → ∃ form, formsOf inner = [form] := by
  induction well with
  | all forms is _ ih =>
    intro inner within
    rcases within_of_form forms within with
      rfl | ⟨name, items, item, ⟨_, rfl⟩ | ⟨⟨⟩, _⟩, is', mem, within⟩ | ⟨⟨⟩, _⟩
    · exact ⟨_, forms⟩
    · cases is.symm.trans is'
      exact ih item mem inner within
  | any forms is _ ih =>
    intro inner within
    rcases within_of_form forms within with
      rfl | ⟨name, items, item, ⟨⟨⟩, _⟩ | ⟨_, rfl⟩, is', mem, within⟩ | ⟨⟨⟩, _⟩
    · exact ⟨_, forms⟩
    · cases is.symm.trans is'
      exact ih item mem inner within
  | not forms _ ih =>
    intro inner within
    rcases within_of_form forms within with
      rfl | ⟨_, _, _, ⟨⟨⟩, _⟩ | ⟨⟨⟩, _⟩, _⟩ | ⟨_, within⟩
    · exact ⟨_, forms⟩
    · exact ih inner within
  | comparison forms =>
    intro inner within
    rcases within_of_form forms within with
      rfl | ⟨_, _, _, ⟨⟨⟩, _⟩ | ⟨⟨⟩, _⟩, _⟩ | ⟨⟨⟩, _⟩
    exact ⟨_, forms⟩

mutual

theorem inspected_comparisons [Js.NumberFormat N] : ∀ condition : Condition N,
    inspectCondition condition = some [] → ∀ comparison ∈ comparisons condition,
      inspectCondition (.compare comparison.fact comparison.op comparison.value) = some []
  | .compare _ _ _, checked => by
    intro comparison mem
    rw [comparisons, List.mem_singleton] at mem
    rw [mem]
    exact checked
  | .all parts, checked => inspected_comparisonsOfAll parts (by rwa [inspectCondition] at checked)
  | .any parts, checked => inspected_comparisonsOfAll parts (by rwa [inspectCondition] at checked)
  | .not part, checked => inspected_comparisons part (by rwa [inspectCondition] at checked)

theorem inspected_comparisonsOfAll [Js.NumberFormat N] : ∀ parts : List (Condition N),
    inspectConditions parts = some [] → ∀ comparison ∈ comparisonsOfAll parts,
      inspectCondition (.compare comparison.fact comparison.op comparison.value) = some []
  | [], _ => nofun
  | part :: rest, checked => by
    obtain ⟨first, others⟩ := inspectConditions_cons checked
    intro comparison mem
    rcases List.mem_append.mp mem with mem | mem
    · exact inspected_comparisons part first comparison mem
    · exact inspected_comparisonsOfAll rest others comparison mem

end

/-- Each comparison in a condition that is well written fits its operator. -/
theorem fits_of_wellWritten {written : Value N} (well : WellWritten written)
    {condition : Condition N} (parsed : parseCondition written = some condition) :
    ∀ comparison ∈ comparisons condition, ∃ op, Operator.ofText comparison.op = some op ∧
      typedFor comparison.fact op comparison.value := by
  induction well generalizing condition with
  | all forms is _ ih =>
    have read := readAs_of_parse parsed
    have form := forms_eq forms (formOf_mem read)
    cases read with
    | all is' each =>
      cases is.symm.trans is'
      intro comparison mem
      obtain ⟨part, standsIn, mem⟩ := mem_comparisonsOfAll.mp mem
      obtain ⟨item, itemIn, read⟩ := exists_left each part standsIn
      exact ih item itemIn read comparison mem
    | _ => cases form
  | any forms is _ ih =>
    have read := readAs_of_parse parsed
    have form := forms_eq forms (formOf_mem read)
    cases read with
    | any is' each =>
      cases is.symm.trans is'
      intro comparison mem
      obtain ⟨part, standsIn, mem⟩ := mem_comparisonsOfAll.mp mem
      obtain ⟨item, itemIn, read⟩ := exists_left each part standsIn
      exact ih item itemIn read comparison mem
    | _ => cases form
  | not forms _ ih =>
    have read := readAs_of_parse parsed
    have form := forms_eq forms (formOf_mem read)
    cases read with
    | not _ inner =>
      have fits := ih inner
      exact fits
    | _ => cases form
  | comparison forms isFact isOp named fits =>
    have read := readAs_of_parse parsed
    have form := forms_eq forms (formOf_mem read)
    cases read with
    | compare isFact' isOp' =>
      cases isFact.symm.trans isFact'
      cases isOp.symm.trans isOp'
      intro comparison mem
      rw [comparisons, List.mem_singleton] at mem
      rw [mem]
      exact ⟨_, named, fits⟩
    | _ => cases form

/-! ### Evaluation -/

section Evaluation

variable [Js.NumberFormat N] (integerOf : N → Option Int)

theorem evaluate_typed (subject : Subject) {fact op : Text} {value : Value N}
    (typed : Comparison.typed ⟨fact, op, value⟩) :
    (evaluateCondition integerOf subject (.compare fact op value)).isSome = true := by
  obtain ⟨op, named, fits, amounts⟩ := typed
  rw [evaluateCondition, named]
  have compares (n : Int) (known : op.comparesAmounts = true) :
      ((bigIntOfValue integerOf value).map (comparesTo op n)).isSome = true := by
    obtain ⟨text, rfl, integer⟩ := amounts known
    rw [Option.isSome_map]
    exact bigIntOf_isSome integer
  cases op with
  | isIn | notIn =>
    obtain ⟨items, rfl, _⟩ := fits
    cases factNamed subject fact <;> rfl
  | gte | gt | lte | lt =>
    cases factNamed subject fact with
    | bigint n => exact compares n rfl
    | _ => rfl
  | includes | notIncludes => cases factNamed subject fact <;> rfl
  | eq | neq | isNull | isNotNull => rfl

mutual

theorem evaluates_of_typed (subject : Subject) : ∀ condition : Condition N,
    (∀ comparison ∈ comparisons condition, comparison.typed) →
      (evaluateCondition integerOf subject condition).isSome = true
  | .compare _ _ _, typed => evaluate_typed integerOf subject (typed _ List.mem_cons_self)
  | .all parts, typed => by
    rw [evaluateCondition]
    exact (all_evaluate_of_typed subject parts typed).1
  | .any parts, typed => by
    rw [evaluateCondition]
    exact (all_evaluate_of_typed subject parts typed).2
  | .not part, typed => by
    rw [evaluateCondition, Option.isSome_map]
    exact evaluates_of_typed subject part typed

theorem all_evaluate_of_typed (subject : Subject) : ∀ parts : List (Condition N),
    (∀ comparison ∈ comparisonsOfAll parts, comparison.typed) →
      (everyHolds integerOf subject parts).isSome = true ∧
        (someHolds integerOf subject parts).isSome = true
  | [], _ => ⟨rfl, rfl⟩
  | part :: rest, typed => by
    obtain ⟨here, others⟩ := List.forall_mem_append.mp typed
    obtain ⟨holds, value⟩ := Option.isSome_iff_exists.mp (evaluates_of_typed subject part here)
    obtain ⟨every, some_⟩ := all_evaluate_of_typed subject rest others
    rw [everyHolds, someHolds, value]
    cases holds
    · exact ⟨rfl, some_⟩
    · exact ⟨every, rfl⟩

end

end Evaluation

/-! ### Accepted files -/

section Files

variable [Js.NumberFormat N] {toLowerCase : Text → Text} {input : Value N} {ruleSet : RuleSet N}

/-- The written conditions are the ones that the rules of an accepted set were read off. -/
theorem written_read (accepted : parseRuleSet toLowerCase input = some (.ok ruleSet)) :
    List.Forall₂ (fun written rule => parseCondition written = some rule.condition)
      (writtenConditions input) ruleSet.rules := by
  obtain ⟨members, rfl, read⟩ := parseRuleSet_eq_ok.mp accepted
  obtain ⟨items, isRules, each⟩ := read.rules
  rw [writtenConditions, isRules]
  simp only [List.forall₂_map_left_iff]
  refine each.imp fun raw rule read => ?_
  obtain ⟨members, rfl, read⟩ := read
  exact read.condition

/-- An accepted rule set is evaluated totally and as it is written, if and only if each condition
of its file is well written. -/
theorem as_written_iff (integerOf : N → Option Int)
    (accepted : parseRuleSet toLowerCase input = some (.ok ruleSet)) :
    AsWritten integerOf input ruleSet ↔
      ∀ written ∈ writtenConditions input, WellWritten written := by
  have read := written_read accepted
  have valid := valid_of_accepted accepted
  refine ⟨fun faithful written mem => ?_, fun well => ?_⟩
  · obtain ⟨rule, standsIn, parsed⟩ := exists_right read written mem
    exact wellWritten_of_parse written parsed (faithful.oneForm written mem)
      (faithful.typed rule standsIn)
  · have typed : ∀ rule ∈ ruleSet.rules, ∀ comparison ∈ comparisons rule.condition,
        comparison.typed := by
      intro rule mem comparison standsIn
      obtain ⟨written, writtenIn, parsed⟩ := exists_left read rule mem
      obtain ⟨op, named, fits⟩ :=
        fits_of_wellWritten (well written writtenIn) parsed comparison standsIn
      refine ⟨op, named, fits, fun amounts => ?_⟩
      have inspected := inspected_comparisons rule.condition
        (inspected_of_valid valid rule (List.mem_append_right _ mem)) comparison standsIn
      obtain ⟨text, is, integer⟩ := amount_of_inspected named amounts inspected
      obtain ⟨_, other, isText⟩ : comparison.fact = _ ∧ ∃ text, comparison.value = .string text := by
        cases op <;> first | exact fits | cases amounts
      rw [isText] at is
      cases is
      exact ⟨_, isText, integer⟩
    refine ⟨fun subject => ?_, typed, fun written mem => oneForm_of_wellWritten (well written mem)⟩
    rw [runPreflight, Option.isSome_map, requirementsFrom_isSome_iff]
    refine List.forall_mem_append.mpr ⟨policy_evaluates integerOf subject, fun rule mem => ?_⟩
    exact evaluates_of_typed integerOf subject rule.condition (typed rule mem)

end Files

end Written

theorem country_as_written : ∃ ruleSet,
    parseRuleSet smallLetters (countryRules (.array [.string (ofString "IN")])) =
        some (.ok ruleSet) ∧
      AsWritten integerOfWhole (countryRules (.array [.string (ofString "IN")])) ruleSet := by
  obtain ⟨ruleSet, accepted, _⟩ :=
    exists_of_accepted (Bool.and_eq_true_iff.mp (Bool.and_eq_true_iff.mp country_accepted).1).1
  refine ⟨ruleSet, accepted, (as_written_iff integerOfWhole accepted).mpr fun written mem => ?_⟩
  rw [List.mem_singleton.mp mem]
  have isIn : Operator.ofText (ofString "in") = some .isIn := by decide
  refine .comparison (by decide) rfl rfl isIn ?_
  exact ⟨_, rfl, fun item mem => ⟨_, List.mem_singleton.mp mem⟩⟩

/-- A rule set that is accepted makes preflight throw, and has a value of the wrong type. -/
theorem not_always_as_written : ¬ ∀ (ruleSet : RuleSet Whole) (input : Value Whole),
    parseRuleSet smallLetters input = some (.ok ruleSet) →
      AsWritten integerOfWhole input ruleSet := by
  intro always
  obtain ⟨ruleSet, accepted, threw⟩ :=
    exists_of_accepted (Bool.and_eq_true_iff.mp (Bool.and_eq_true_iff.mp country_accepted).1).2
  have total := (always ruleSet _ accepted).total asha
  rw [Option.isNone_iff_eq_none.mp threw] at total
  cases total

end InrSettle.Preflight
