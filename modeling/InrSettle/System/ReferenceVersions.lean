import InrSettle.Library.JsWellFormed
import InrSettle.Library.Run
import InrSettle.Library.Table
import InrSettle.Service.ReferenceData
import InrSettle.System.FrozenTerms
import InrSettle.System.MappingFiles
import InrSettle.System.RuleSetRoundTrips

/-!
# Published versions of reference data

What the checksums tell of a file whose version is published, what the loads leave of the rows that
are there, and which table is in force for a provider.
-/

namespace InrSettle.Reference

open Js Js.Value Run Terms
open Preflight (RuleSet PurposeCode parseRuleSet ruleSetChecksum toRuleJson sourceWire
  checkedValue checkedWith conditionWith exists_left mem_of_lookup distinctItems_map)

variable {N : Type} [Js.NumberFormat N]

/-! ### Names in a table -/

/-- What an entry has besides its outcome, by name. -/
def extraMembers (entry : Mapping.Entry N) : List (String × Value N) :=
  (entry.exceptionCode.map fun code => ("exceptionCode", .string (ofString code.wire))).toList ++
    (entry.returnReason.map fun reason =>
      ("returnReason", .string (ofString (Mapping.returnReasonWire reason)))).toList

/-- The members of an entry, its outcome being this one. -/
def entryMembers (outcome : List (String × Value N)) (entry : Mapping.Entry N) :
    List (String × Value N) :=
  ("providerCode", .string entry.providerCode) :: outcome ++
    ("note", .string entry.note) :: extraMembers entry

omit [Js.NumberFormat N] in
theorem entryJson_eq (entry : Mapping.Entry N) :
    entryJson entry = record (entryMembers [("outcome", entry.outcome)] entry) := by
  obtain ⟨code, outcome, note, exceptionCode, returnReason⟩ := entry
  cases exceptionCode <;> cases returnReason <;> rfl

omit [Js.NumberFormat N] in
theorem names_entryMembers (entry : Mapping.Entry N) {outcome : List (String × Value N)}
    (names : (outcome.map (·.1)).Sublist ["outcome"]) :
    ((entryMembers outcome entry).map (·.1)).Nodup := by
  have all : ["providerCode", "outcome", "note", "exceptionCode", "returnReason"].Nodup := by decide
  refine List.Nodup.sublist ?_ all
  obtain ⟨code, given, note, exceptionCode, returnReason⟩ := entry
  rw [entryMembers, List.cons_append, List.map_cons, List.map_append, List.map_cons]
  refine List.Sublist.cons_cons _ (names.append (List.Sublist.cons_cons _ ?_))
  cases exceptionCode <;> cases returnReason <;> simp [extraMembers]

omit [Js.NumberFormat N] in
theorem distinct_entryJson {entry : Mapping.Entry N} (distinct : entry.outcome.distinct = true) :
    (entryJson entry).distinct = true := by
  rw [entryJson_eq]
  apply distinct_record (names_entryMembers entry (List.Sublist.refl _))
  obtain ⟨code, outcome, note, exceptionCode, returnReason⟩ := entry
  cases exceptionCode <;> cases returnReason <;>
    simpa [entryMembers, extraMembers, Value.distinct] using distinct

/-- No outcome has two members of one name in an object. -/
def DistinctCodes (table : Mapping.Table N) : Prop :=
  ∀ entry ∈ table.codes, entry.outcome.distinct = true

omit [Js.NumberFormat N] in
theorem distinct_checkedTable {table : Mapping.Table N} (distinct : DistinctCodes table) :
    (checkedTable table).distinct = true := by
  have codes : (codesJson table.codes).distinct = true :=
    distinctItems_map fun entry mem => distinct_entryJson (distinct entry mem)
  have members : checkedTable table = record [("v", .string table.version),
      ("p", .string table.providerId), ("c", codesJson table.codes)] := rfl
  rw [members]
  apply distinct_record
  · exact (by decide : ["v", "p", "c"].Nodup)
  · simpa [Value.distinct] using codes

omit [Js.NumberFormat N] in
theorem property_distinct {raw : Value N} (distinct : raw.distinct = true) (name : String) :
    (Mapping.field raw name).distinct = true := by
  cases raw with
  | object members => exact Preflight.distinct_member distinct name
  | _ => rfl

/-- What is read off a value with distinct names has distinct names. -/
theorem distinctCodes_of_parse {raw : Value N} {file : Text} {table : Mapping.Table N}
    (distinct : raw.distinct = true)
    (parsed : Mapping.parseMappingTable raw file = some (.ok table)) : DistinctCodes table := by
  by_cases header : Mapping.headerProblems (Mapping.membersOf raw) = []
  · obtain ⟨providerId, version, source, items, good⟩ := Mapping.headerProblems_eq_nil.mp header
    rw [Mapping.parse_of_header good] at parsed
    obtain ⟨codes, reads, parsed⟩ := Option.bind_eq_some_iff.mp parsed
    obtain ⟨problems, -, parsed⟩ := Option.map_eq_some_iff.mp parsed
    split at parsed
    · cases parsed
    · cases parsed
      intro entry mem
      obtain ⟨item, there, entryRead⟩ :=
        exists_left (Mapping.parseEntries_eq_some.mp reads) entry mem
      have listed : (Value.array items).distinct = true := by
        rw [← good.codes]
        exact property_distinct distinct "codes"
      rw [entryRead.outcome]
      exact property_distinct (distinct_of_mem_items listed there) "outcome"
  · rw [Mapping.parse_of_problems file header] at parsed
    cases parsed

/-! ### What the checksums tell -/

section Checksums

variable {accepts : Value N → Bool} {sha256 : Text → Text}

omit [Js.NumberFormat N] in
theorem isUndefined_codesJson (codes : List (Mapping.Entry N)) :
    (codesJson codes).isUndefined = false := rfl

/-- Mapping tables of one checksum have one version, one provider and one list of codes. -/
theorem eq_of_mappingChecksum (injective : Function.Injective sha256)
    {table table' : Mapping.Table N} (distinct : DistinctCodes table)
    (distinct' : DistinctCodes table')
    (same : mappingChecksum sha256 table = mappingChecksum sha256 table') :
    table.version = table'.version ∧ table.providerId = table'.providerId ∧
      (codesJson table.codes).written = (codesJson table'.codes).written := by
  have texts : (checkedTable table).stringify = (checkedTable table').stringify := injective same
  have back := parseJson_stringify (v := checkedTable table) rfl (distinct_checkedTable distinct)
  rw [texts, parseJson_stringify (v := checkedTable table') rfl
    (distinct_checkedTable distinct')] at back
  have strings : ∀ text, (Value.string text : Value N).isUndefined = false := fun _ => rfl
  simpa [checkedTable, Preflight.textMember, written, writtenMembers, strings,
    isUndefined_codesJson, eq_comm] using back

/-- The columns of a table's row. -/
theorem tableRow_eq_some {table : Mapping.Table N} {description : Text} {now : Nat}
    {row : MappingRow N} : tableRow accepts sha256 table description now = some row ↔
      ∃ version providerId text, column table.version = some version ∧
        column table.providerId = some providerId ∧ column description = some text ∧
        accepts (codesJson table.codes).written = true ∧
        row = ⟨version, providerId, ofString table.source.wire, text,
          (codesJson table.codes).written, mappingChecksum sha256 table, now⟩ := by
  unfold tableRow
  constructor
  · intro made
    obtain ⟨version, isVersion, made⟩ := Option.bind_eq_some_iff.mp made
    obtain ⟨providerId, isProvider, made⟩ := Option.bind_eq_some_iff.mp made
    obtain ⟨text, isText, made⟩ := Option.bind_eq_some_iff.mp made
    dsimp only at made
    split at made
    · rename_i accepted
      exact ⟨version, providerId, text, isVersion, isProvider, isText, accepted,
        (Option.some.inj made).symm⟩
    · cases made
  · rintro ⟨version, providerId, text, isVersion, isProvider, isText, accepted, rfl⟩
    rw [isVersion, isProvider, isText]
    exact if_pos accepted

omit [Js.NumberFormat N] in
theorem ruleWith_of_checkedRuleWith {conditionOf : Preflight.Condition N → Value N}
    {rule rule' : Preflight.Rule N} (same : Preflight.checkedRuleWith conditionOf rule =
      Preflight.checkedRuleWith conditionOf rule') :
    Preflight.ruleWith conditionOf rule = Preflight.ruleWith conditionOf rule' := by
  simp only [Preflight.checkedRuleWith, Preflight.textMember, Value.object.injEq, List.cons.injEq,
    Prod.mk.injEq, Value.string.injEq, true_and, and_true] at same
  obtain ⟨id, code, severity, title, detail, actions, conditions⟩ := same
  rw [Preflight.ruleWith, Preflight.ruleWith, id, code, severity, title, detail, conditions,
    Preflight.actionObject_injective _ actions]

theorem map_eq_of_map_eq {A B C : Type} {f : A → B} {g : A → C} {left right : List A}
    (one : ∀ a b, f a = f b → g a = g b) (same : left.map f = right.map f) :
    left.map g = right.map g := by
  induction left generalizing right with
  | nil =>
    rw [List.map_nil, eq_comm, List.map_eq_nil_iff] at same
    rw [same]
  | cons a rest ih =>
    cases right with
    | nil => cases same
    | cons b others =>
      obtain ⟨first, more⟩ := List.cons.inj same
      rw [List.map_cons, List.map_cons, one a b first, ih more]

/-- Rule sets of one checksum and one description are stored alike. -/
theorem ruleSetRecord_of_checksum (injective : Function.Injective sha256)
    {ruleSet ruleSet' : RuleSet N} (distinct : (checkedValue ruleSet).distinct = true)
    (distinct' : (checkedValue ruleSet').distinct = true)
    (same : ruleSetChecksum sha256 ruleSet = ruleSetChecksum sha256 ruleSet')
    (described : column ruleSet.description = column ruleSet'.description) :
    ruleSetRecord accepts sha256 ruleSet = ruleSetRecord accepts sha256 ruleSet' := by
  have content := Preflight.checkedWith_of_checksum injective distinct distinct' same
  simp only [checkedWith, Preflight.textMember, Value.object.injEq, List.cons.injEq, Prod.mk.injEq,
    Value.string.injEq, Value.array.injEq, true_and, and_true] at content
  obtain ⟨version, sources, purposes, rules⟩ := content
  have source : some ruleSet.source = some ruleSet'.source :=
    (Preflight.sourceOf_eq_some.mpr sources.symm).symm.trans (Preflight.sourceOf_eq_some.mpr rfl)
  have codes := (Preflight.purposeJson_injective (N := N) "regulatoryCode").list_map purposes
  have shown : (Value.array (ruleSet.rules.map toRuleJson)).written =
      (Value.array (ruleSet'.rules.map toRuleJson)).written := by
    have each := fun rule : Preflight.Rule N =>
      And.intro (rfl : (toRuleJson rule).isUndefined = false) (Preflight.written_toRuleJson rule)
    rw [written, written, Preflight.writtenItems_map each, Preflight.writtenItems_map each,
      map_eq_of_map_eq (fun _ _ => ruleWith_of_checkedRuleWith) rules]
  rw [ruleSetRecord, ruleSetRecord, version, described, codes, shown, same,
    Option.some.inj source]

end Checksums

/-! ### One turn of a loop -/

section Turns

variable {accepts : Value N → Bool} {sha256 toLowerCase : Text → Text}

/-- What a turn over a rule set that is accepted leaves. -/
inductive RuleSetTurn (accepts : Value N → Bool) (sha256 : Text → Text) (ruleSet : RuleSet N)
    (w : ReferenceData N) : ReferenceData N → Prop
  | published {record : RuleSetRecord N} : record ∈ w.ruleSets →
      column ruleSet.version = some record.row.version →
      record.row.checksum = ruleSetChecksum sha256 ruleSet → RuleSetTurn accepts sha256 ruleSet w w
  | new {record : RuleSetRecord N} : ruleSetRecord accepts sha256 ruleSet = some record →
      column ruleSet.version = some record.row.version →
      record.row.version ∉ w.ruleSets.map (·.row.version) →
      RuleSetTurn accepts sha256 ruleSet w { w with ruleSets := w.ruleSets ++ [record] }

/-- The same of a mapping table, with its description. -/
inductive MappingTurn (accepts : Value N → Bool) (sha256 : Text → Text) (table : Mapping.Table N)
    (description : Option Text) (now : Nat) (w : ReferenceData N) : ReferenceData N → Prop
  | published {row : MappingRow N} : row ∈ w.mappings → column table.version = some row.version →
      row.checksum = mappingChecksum sha256 table →
      MappingTurn accepts sha256 table description now w w
  | new {row : MappingRow N} {text : Text} : description = some text →
      tableRow accepts sha256 table text now = some row →
      row.version ∉ w.mappings.map (·.version) →
      MappingTurn accepts sha256 table description now w
        { w with mappings := w.mappings ++ [row], effective := w.effective ++ [table] }

/-- The texts of a rule set's row. -/
theorem columns_of_ruleSetRecord {ruleSet : RuleSet N} {record : RuleSetRecord N}
    (stored : ruleSetRecord accepts sha256 ruleSet = some record) :
    column ruleSet.version = some record.row.version ∧
      column ruleSet.description = some record.row.description ∧
        record.row.checksum = ruleSetChecksum sha256 ruleSet := by
  obtain ⟨version, isVersion, stored⟩ := Option.bind_eq_some_iff.mp stored
  obtain ⟨description, isDescription, stored⟩ := Option.bind_eq_some_iff.mp stored
  obtain ⟨purposes, -, stored⟩ := Option.bind_eq_some_iff.mp stored
  dsimp only at stored
  split at stored
  · cases stored
    exact ⟨isVersion, isDescription, rfl⟩
  · cases stored

theorem version_of_tableRow {table : Mapping.Table N} {description : Text} {now : Nat}
    {row : MappingRow N} (stored : tableRow accepts sha256 table description now = some row) :
    column table.version = some row.version := by
  obtain ⟨version, providerId, text, isVersion, -, -, -, rfl⟩ := tableRow_eq_some.mp stored
  exact isVersion

theorem not_mem_of_find?_none {A : Type} {key : A → Text} {rows : List A} {version : Text}
    (none_ : rows.find? (fun row => key row = version) = none) : version ∉ rows.map key := by
  intro mem
  obtain ⟨row, there, is⟩ := List.mem_map.mp mem
  have other := List.find?_eq_none.mp none_ row there
  exact other (decide_eq_true is)

theorem ruleSetTurn_of_ok {file : File N} {w w' : ReferenceData N} {result : LoadResult}
    (ok : loadRuleSet accepts sha256 toLowerCase file w = .ok (result, w')) :
    ∃ raw ruleSet, file.json = some raw ∧ parseRuleSet toLowerCase raw.value = some (.ok ruleSet) ∧
      RuleSetTurn accepts sha256 ruleSet w w' := by
  unfold loadRuleSet at ok
  split at ok
  · cases ok
  · rename_i raw isRaw
    split at ok
    · cases ok
    · cases ok
    · rename_i ruleSet parsed
      refine ⟨raw, ruleSet, isRaw, parsed, ?_⟩
      dsimp only at ok
      split at ok
      · cases ok
      · rename_i version isVersion
        split at ok
        · rename_i previous found
          split at ok
          · cases ok
          · rename_i same
            cases ok
            have is : previous.row.version = version := by simpa using List.find?_some found
            exact .published (List.mem_of_find?_eq_some found) (is ▸ isVersion) (not_not.mp same)
        · rename_i fresh
          split at ok
          · cases ok
          · rename_i record stored
            cases ok
            have versioned := (columns_of_ruleSetRecord stored).1
            cases isVersion.symm.trans versioned
            exact .new stored versioned (not_mem_of_find?_none fresh)

theorem mappingTurn_of_ok {now : Nat} {file : File N} {w w' : ReferenceData N}
    {result : LoadResult} (ok : loadMapping accepts sha256 now file w = .ok (result, w')) :
    ∃ raw table, file.json = some raw ∧
      Mapping.parseMappingTable raw.value file.name = some (.ok table) ∧
      MappingTurn accepts sha256 table (descriptionOf raw.value) now w w' := by
  unfold loadMapping at ok
  split at ok
  · cases ok
  · rename_i raw isRaw
    split at ok
    · cases ok
    · cases ok
    · rename_i table parsed
      refine ⟨raw, table, isRaw, parsed, ?_⟩
      dsimp only at ok
      split at ok
      · cases ok
      · rename_i version isVersion
        split at ok
        · rename_i previous found
          split at ok
          · cases ok
          · rename_i same
            cases ok
            have is : previous.version = version := by simpa using List.find?_some found
            exact .published (List.mem_of_find?_eq_some found) (is ▸ isVersion) (not_not.mp same)
        · rename_i fresh
          split at ok
          · cases ok
          · rename_i row stored
            cases ok
            obtain ⟨text, described, stored⟩ := Option.bind_eq_some_iff.mp stored
            cases isVersion.symm.trans (version_of_tableRow stored)
            exact .new described stored (not_mem_of_find?_none fresh)

/-! ### What a turn leaves -/

/-- The rows that are there, with what comes after them. -/
def ReferenceData.KeptBy (w w' : ReferenceData N) : Prop :=
  w.ruleSets <+: w'.ruleSets ∧ w.mappings <+: w'.mappings

/-- Versions are keys, and each row is what was stored of something that was parsed. -/
structure Sound (accepts : Value N → Bool) (sha256 : Text → Text) (w : ReferenceData N) : Prop where
  ruleSetsOnce : (w.ruleSets.map (·.row.version)).Nodup
  ruleSets : ∀ record ∈ w.ruleSets, ∃ ruleSet : RuleSet N, (checkedValue ruleSet).distinct = true ∧
    ruleSetRecord accepts sha256 ruleSet = some record
  mappingsOnce : (w.mappings.map (·.version)).Nodup
  mappings : ∀ row ∈ w.mappings, ∃ table description, DistinctCodes table ∧
    tableRow accepts sha256 table description row.effectiveFrom = some row

theorem sound_empty : Sound accepts sha256 ReferenceData.empty where
  ruleSetsOnce := List.nodup_nil
  ruleSets _ mem := (List.not_mem_nil mem).elim
  mappingsOnce := List.nodup_nil
  mappings _ mem := (List.not_mem_nil mem).elim

theorem nodup_map_append {A : Type} {key : A → Text} {rows : List A} {row : A}
    (once : (rows.map key).Nodup) (fresh : key row ∉ rows.map key) :
    ((rows ++ [row]).map key).Nodup := by
  rw [List.map_append]
  exact once.append (List.nodup_singleton _) (List.disjoint_singleton.mpr fresh)

theorem Sound.ruleSetTurn {w w' : ReferenceData N} (sound : Sound accepts sha256 w)
    {ruleSet : RuleSet N} (distinct : (checkedValue ruleSet).distinct = true)
    (turn : RuleSetTurn accepts sha256 ruleSet w w') : Sound accepts sha256 w' := by
  cases turn with
  | published mem version same => exact sound
  | new stored version fresh =>
    refine ⟨nodup_map_append sound.ruleSetsOnce fresh, ?_, sound.mappingsOnce, sound.mappings⟩
    intro record mem
    rcases List.mem_append.mp mem with there | added
    · exact sound.ruleSets record there
    · cases List.mem_singleton.mp added
      exact ⟨ruleSet, distinct, stored⟩

theorem effectiveFrom_of_tableRow {table : Mapping.Table N} {description : Text} {now : Nat}
    {row : MappingRow N} (stored : tableRow accepts sha256 table description now = some row) :
    row.effectiveFrom = now := by
  obtain ⟨version, providerId, text, -, -, -, -, rfl⟩ := tableRow_eq_some.mp stored
  rfl

theorem Sound.mappingTurn {w w' : ReferenceData N} (sound : Sound accepts sha256 w)
    {table : Mapping.Table N} (distinct : DistinctCodes table) {description : Option Text}
    {now : Nat}
    (turn : MappingTurn accepts sha256 table description now w w') : Sound accepts sha256 w' := by
  cases turn with
  | published mem version same => exact sound
  | new described stored fresh =>
    refine ⟨sound.ruleSetsOnce, sound.ruleSets, nodup_map_append sound.mappingsOnce fresh, ?_⟩
    intro row mem
    rcases List.mem_append.mp mem with there | added
    · exact sound.mappings row there
    · cases List.mem_singleton.mp added
      rw [effectiveFrom_of_tableRow stored]
      exact ⟨table, _, distinct, stored⟩

theorem distinct_checkedValue_of_parse {raw : Value N} {ruleSet : RuleSet N}
    (distinct : raw.distinct = true)
    (parsed : parseRuleSet toLowerCase raw = some (.ok ruleSet)) :
    (checkedValue ruleSet).distinct = true :=
  Preflight.distinct_checkedValue (Preflight.distinct_of_accepted distinct parsed)

/-- A turn keeps what is sound, and the rows that are there. -/
theorem sound_of_turn {load : Load N} {file : File N} {w w' : ReferenceData N} {result : LoadResult}
    (sound : Sound accepts sha256 w)
    (ok : load.turn accepts sha256 toLowerCase file w = .ok (result, w')) :
    Sound accepts sha256 w' ∧ w.KeptBy w' := by
  cases load with
  | referenceData files =>
    obtain ⟨raw, ruleSet, -, parsed, turn⟩ := ruleSetTurn_of_ok ok
    refine ⟨sound.ruleSetTurn (distinct_checkedValue_of_parse raw.distinct parsed) turn, ?_⟩
    cases turn with
    | published => exact ⟨List.prefix_rfl, List.prefix_rfl⟩
    | new => exact ⟨List.prefix_append _ _, List.prefix_rfl⟩
  | payoutMappings files now =>
    obtain ⟨raw, table, -, parsed, turn⟩ := mappingTurn_of_ok ok
    refine ⟨sound.mappingTurn (distinctCodes_of_parse raw.distinct parsed) turn, ?_⟩
    cases turn with
    | published => exact ⟨List.prefix_rfl, List.prefix_rfl⟩
    | new => exact ⟨List.prefix_rfl, List.prefix_append _ _⟩

/-! ### Files of published versions -/

/-- What is asked of a file: a published version has the description, and of a mapping table the
source, that it was published with; and a provider has one version, whose texts and outcomes a
database gives back. -/
structure MappingCareful (raw : Value N) (table : Mapping.Table N) (w : ReferenceData N) :
    Prop where
  published : ∀ row ∈ w.mappings, column table.version = some row.version →
    ofString table.source.wire = row.source ∧
      (descriptionOf raw).bind column = some row.description
  alone : ∀ row ∈ w.mappings, row.providerId = table.providerId →
    column table.version = some row.version
  version : isWellFormed table.version = true
  providerId : isWellFormed table.providerId = true
  outcomes : ∀ entry ∈ table.codes, Preflight.Stays entry.outcome

def Load.Careful (toLowerCase : Text → Text) (w : ReferenceData N) (file : File N) : Load N → Prop
  | .referenceData _ => ∀ raw ruleSet, file.json = some raw →
      parseRuleSet toLowerCase raw.value = some (.ok ruleSet) →
        ∀ record ∈ w.ruleSets, column ruleSet.version = some record.row.version →
          column ruleSet.description = some record.row.description
  | .payoutMappings _ _ => ∀ raw table, file.json = some raw →
      Mapping.parseMappingTable raw.value file.name = some (.ok table) →
        MappingCareful raw.value table w

/-- A file that is accepted under a published version is stored as the version is, in every
column. -/
def Load.Identical (accepts : Value N → Bool) (sha256 toLowerCase : Text → Text)
    (w : ReferenceData N) (file : File N) : Load N → Prop
  | .referenceData _ => ∀ raw ruleSet, file.json = some raw →
      parseRuleSet toLowerCase raw.value = some (.ok ruleSet) →
        ∀ record ∈ w.ruleSets, column ruleSet.version = some record.row.version →
          ruleSetRecord accepts sha256 ruleSet = some record
  | .payoutMappings _ _ => ∀ raw table, file.json = some raw →
      Mapping.parseMappingTable raw.value file.name = some (.ok table) →
        ∀ row ∈ w.mappings, column table.version = some row.version →
          ((descriptionOf raw.value).bind fun description =>
            tableRow accepts sha256 table description row.effectiveFrom) = some row

theorem eq_of_mem_of_key {A : Type} {key : A → Text} {rows : List A} (once : (rows.map key).Nodup)
    {a b : A} (mem : a ∈ rows) (mem' : b ∈ rows) (same : key a = key b) : a = b :=
  List.inj_on_of_nodup_map once mem mem' same

theorem identical_ruleSet (injective : Function.Injective sha256) {w w' : ReferenceData N}
    (sound : Sound accepts sha256 w) {ruleSet : RuleSet N}
    (distinct : (checkedValue ruleSet).distinct = true)
    (turn : RuleSetTurn accepts sha256 ruleSet w w') {record : RuleSetRecord N}
    (mem : record ∈ w.ruleSets) (versioned : column ruleSet.version = some record.row.version)
    (described : column ruleSet.description = some record.row.description) :
    ruleSetRecord accepts sha256 ruleSet = some record := by
  cases turn with
  | published mem' versioned' same =>
    cases eq_of_mem_of_key sound.ruleSetsOnce mem mem'
      (Option.some.inj (versioned.symm.trans versioned'))
    obtain ⟨before, distinct', stored⟩ := sound.ruleSets record mem
    obtain ⟨-, described', checksum⟩ := columns_of_ruleSetRecord stored
    rw [← stored]
    exact ruleSetRecord_of_checksum injective distinct distinct' (same.symm.trans checksum)
      (described.trans described'.symm)
  | new stored versioned' fresh =>
    rw [versioned] at versioned'
    cases fresh (List.mem_map.mpr ⟨record, mem, Option.some.inj versioned'⟩)

theorem identical_mapping (injective : Function.Injective sha256) {w w' : ReferenceData N}
    (sound : Sound accepts sha256 w) {table : Mapping.Table N} (distinct : DistinctCodes table)
    {description : Option Text} {now : Nat}
    (turn : MappingTurn accepts sha256 table description now w w') {row : MappingRow N}
    (mem : row ∈ w.mappings) (versioned : column table.version = some row.version)
    (sourced : ofString table.source.wire = row.source)
    (described : description.bind column = some row.description) :
    (description.bind fun text => tableRow accepts sha256 table text row.effectiveFrom) =
      some row := by
  cases turn with
  | published mem' versioned' same =>
    cases eq_of_mem_of_key sound.mappingsOnce mem mem'
      (Option.some.inj (versioned.symm.trans versioned'))
    obtain ⟨before, text, distinct', stored⟩ := sound.mappings row mem
    obtain ⟨version, providerId, text', isVersion, isProvider, -, accepted, is⟩ :=
      tableRow_eq_some.mp stored
    obtain ⟨given, isGiven, described⟩ := Option.bind_eq_some_iff.mp described
    have checksum : mappingChecksum sha256 table = mappingChecksum sha256 before := by
      rw [← same, is]
    obtain ⟨-, provider, codes⟩ := eq_of_mappingChecksum injective distinct distinct' checksum
    rw [isGiven]
    apply tableRow_eq_some.mpr
    refine ⟨row.version, providerId, row.description, versioned, provider ▸ isProvider, described,
      codes ▸ accepted, ?_⟩
    rw [sourced, codes, checksum, is]
  | new described' stored fresh =>
    rw [version_of_tableRow stored] at versioned
    cases fresh (List.mem_map.mpr ⟨row, mem, (Option.some.inj versioned).symm⟩)

/-- A file that is taken with care, and accepted, is identical to what is published. -/
theorem identical_of_careful (injective : Function.Injective sha256) {load : Load N} {file : File N}
    {w w' : ReferenceData N} {result : LoadResult} (sound : Sound accepts sha256 w)
    (careful : load.Careful toLowerCase w file)
    (ok : load.turn accepts sha256 toLowerCase file w = .ok (result, w')) :
    load.Identical accepts sha256 toLowerCase w file := by
  cases load with
  | referenceData files =>
    obtain ⟨raw, ruleSet, isRaw, parsed, turn⟩ := ruleSetTurn_of_ok ok
    intro raw' ruleSet' isRaw' parsed' record mem versioned
    cases isRaw.symm.trans isRaw'
    cases parsed.symm.trans parsed'
    exact identical_ruleSet injective sound (distinct_checkedValue_of_parse raw.distinct parsed)
      turn mem versioned (careful raw ruleSet isRaw parsed record mem versioned)
  | payoutMappings files now =>
    obtain ⟨raw, table, isRaw, parsed, turn⟩ := mappingTurn_of_ok ok
    intro raw' table' isRaw' parsed' row mem versioned
    cases isRaw.symm.trans isRaw'
    cases parsed.symm.trans parsed'
    obtain ⟨sourced, described⟩ := (careful raw table isRaw parsed).published row mem versioned
    exact identical_mapping injective sound (distinctCodes_of_parse raw.distinct parsed) turn mem
      versioned sourced described

/-! ### The table in force -/

/-- A row of a table that comes back as it was parsed. -/
structure Shown (row : MappingRow N) (table : Mapping.Table N) : Prop where
  version : row.version = table.version
  providerId : row.providerId = table.providerId
  source : row.source = ofString table.source.wire
  codes : row.codes = (codesJson table.codes).written
  outcomes : ∀ entry ∈ table.codes, Preflight.Stays entry.outcome

/-- Each row is the one version of its provider, in the order they took effect. -/
structure Current (w : ReferenceData N) : Prop where
  shown : List.Forall₂ Shown w.mappings w.effective
  once : (w.mappings.map (·.providerId)).Nodup

theorem column_wellFormed {text stored : Text} (whole : isWellFormed text = true)
    (is : column text = some stored) : stored = text := by
  unfold column at is
  split at is
  · cases is
  · cases is
    exact ofString_decoded whole

theorem Current.mappingTurn {w w' : ReferenceData N} (current : Current w) {raw : Value N}
    {table : Mapping.Table N} (careful : MappingCareful raw table w) {description : Option Text}
    {now : Nat} (turn : MappingTurn accepts sha256 table description now w w') : Current w' := by
  cases turn with
  | published mem version same => exact current
  | new described stored fresh =>
    rename_i row text
    obtain ⟨version, providerId, text', isVersion, isProvider, -, -, is⟩ :=
      tableRow_eq_some.mp stored
    have provider : row.providerId = table.providerId := by
      rw [is]
      exact column_wellFormed careful.providerId isProvider
    constructor
    · apply List.rel_append current.shown
      refine .cons ⟨?_, provider, ?_, ?_, careful.outcomes⟩ .nil
      · exact column_wellFormed careful.version (version_of_tableRow stored)
      · rw [is]
      · rw [is]
    · apply nodup_map_append current.once
      intro mem
      obtain ⟨other, there, same⟩ := List.mem_map.mp mem
      have versioned := careful.alone other there (same.trans provider)
      rw [version_of_tableRow stored] at versioned
      exact fresh (List.mem_map.mpr ⟨other, there, (Option.some.inj versioned).symm⟩)

theorem current_of_turn {load : Load N} {file : File N} {w w' : ReferenceData N}
    {result : LoadResult} (current : Current w) (careful : load.Careful toLowerCase w file)
    (ok : load.turn accepts sha256 toLowerCase file w = .ok (result, w')) : Current w' := by
  cases load with
  | referenceData files =>
    obtain ⟨raw, ruleSet, -, -, turn⟩ := ruleSetTurn_of_ok ok
    cases turn with
    | published => exact current
    | new => exact ⟨current.shown, current.once⟩
  | payoutMappings files now =>
    obtain ⟨raw, table, isRaw, parsed, turn⟩ := mappingTurn_of_ok ok
    exact current.mappingTurn (careful raw table isRaw parsed) turn

end Turns

/-! ### What comes back of an entry -/

/-- What a reader finds in an entry that comes back: its members by name. -/
def entryOf (item : Value N) : Option (Mapping.Entry N) := do
  let providerCode ← textAt "providerCode" item
  let outcome ← memberOf "outcome" item
  let note ← textAt "note" item
  let exceptionCode ← memberOf "exceptionCode" item
  let returnReason ← memberOf "returnReason" item
  return ⟨providerCode, outcome, note, (Mapping.textOf exceptionCode).bind Mapping.exceptionCodeOf,
    (Mapping.textOf returnReason).bind Mapping.returnReasonOf⟩

/-- The outcome of an entry as it is written: a member that is undefined is left out. -/
def keptOutcome (outcome : Value N) : List (String × Value N) :=
  if outcome.isUndefined then [] else [("outcome", outcome)]

theorem written_entryJson {entry : Mapping.Entry N} (stays : Preflight.Stays entry.outcome) :
    (entryJson entry).written = record (entryMembers (keptOutcome entry.outcome) entry) := by
  have strings : ∀ text, (Value.string text : Value N).isUndefined = false := fun _ => rfl
  obtain ⟨code, outcome, note, exceptionCode, returnReason⟩ := entry
  have kept : keptOutcome outcome = if outcome.isUndefined then [] else
    [("outcome", outcome.written)] := by
    rcases stays with rfl | settled
    · rfl
    · rw [keptOutcome, written_of_plain _ settled.1]
  rw [kept]
  cases undefined : outcome.isUndefined <;> cases exceptionCode <;> cases returnReason <;>
    simp [entryJson, Preflight.textMember, written, writtenMembers, strings, undefined,
      entryMembers, extraMembers, record]

omit [Js.NumberFormat N] in
/-- A member that is not there is read as undefined. -/
theorem memberOf_alike_none {members : List (String × Value N)} {w : Value N} (name : String)
    (alike : Alike Eq Eq (record members) w) (distinct : (members.map (·.1)).Nodup)
    (found : members.lookup name = none) : memberOf name w = some .undefined := by
  obtain ⟨members', rfl, alike⟩ := alike
  have names : ((members.map fun member => (ofString member.1, member.2)).map (·.1)).Nodup := by
    have same := distinct.map ofString_injective
    rw [List.map_map] at same ⊢
    exact same
  have related := lookup_alike alike names (ofString name)
  rw [lookup_record, found] at related
  rw [memberOf]
  generalize members'.lookup (ofString name) = there at related
  cases related with
  | none => rfl

omit [Js.NumberFormat N] in
/-- A member that is written where there is something to write comes back as what was there. -/
theorem optionalAt_alike {A : Type} {wire : A → String} {parse : Text → Option A}
    (parses : ∀ a, parse (ofString (wire a)) = some a) {members : List (String × Value N)}
    {w : Value N} {name : String} (alike : Alike Eq Eq (record members) w)
    (distinct : (members.map (·.1)).Nodup) {given : Option A}
    (found : members.lookup name = given.map fun a => .string (ofString (wire a))) :
    ∃ v, memberOf name w = some v ∧ (Mapping.textOf v).bind parse = given := by
  cases given with
  | none => exact ⟨_, memberOf_alike_none name alike distinct found, rfl⟩
  | some a =>
    obtain ⟨v, member, same⟩ := memberOf_alike name alike distinct found
    cases (same : Value.string (ofString (wire a)) = v)
    exact ⟨_, member, parses a⟩

omit [Js.NumberFormat N] in
theorem lookup_entryMembers {name : String} (other : name ≠ "providerCode")
    (other' : name ≠ "outcome") (outcome : Value N) (entry : Mapping.Entry N) :
    (entryMembers (keptOutcome outcome) entry).lookup name =
      (("note", .string entry.note) :: extraMembers entry).lookup name := by
  rw [entryMembers, List.cons_append, List.lookup_cons, beq_false_of_ne other, keptOutcome]
  cases outcome.isUndefined with
  | true => rfl
  | false =>
    have outside : ∀ rest, (("outcome", outcome) :: rest).lookup name = rest.lookup name := by
      intro rest
      rw [List.lookup_cons, beq_false_of_ne other']
    exact outside _

omit [Js.NumberFormat N] in
theorem lookup_exceptionCode (entry : Mapping.Entry N) :
    (("note", Value.string entry.note) :: extraMembers entry).lookup "exceptionCode" =
      entry.exceptionCode.map fun code => .string (ofString code.wire) := by
  obtain ⟨code, outcome, note, exceptionCode, returnReason⟩ := entry
  cases exceptionCode <;> cases returnReason <;> rfl

omit [Js.NumberFormat N] in
theorem lookup_returnReason (entry : Mapping.Entry N) :
    (("note", Value.string entry.note) :: extraMembers entry).lookup "returnReason" =
      entry.returnReason.map fun reason =>
        .string (ofString (Mapping.returnReasonWire reason)) := by
  obtain ⟨code, outcome, note, exceptionCode, returnReason⟩ := entry
  cases exceptionCode <;> cases returnReason <;> rfl

/-- An entry whose outcome stays comes back. -/
theorem entryOf_alike {entry : Mapping.Entry N} {item : Value N}
    (stays : Preflight.Stays entry.outcome)
    (alike : Alike Eq Eq (entryJson entry).written item) : entryOf item = some entry := by
  rw [written_entryJson stays] at alike
  have distinct : ((entryMembers (keptOutcome entry.outcome) entry).map (·.1)).Nodup := by
    apply names_entryMembers
    unfold keptOutcome
    split
    · exact List.nil_sublist _
    · exact List.Sublist.refl _
  have isCode : textAt "providerCode" item = some entry.providerCode :=
    textAt_alike alike distinct rfl
  have isNote : textAt "note" item = some entry.note :=
    textAt_alike alike distinct (lookup_entryMembers (by decide) (by decide) _ _)
  have isOutcome : memberOf "outcome" item = some entry.outcome := by
    rcases stays with absent | settled
    · rw [absent]
      apply memberOf_alike_none "outcome" alike distinct
      rw [absent]
      obtain ⟨code, outcome, note, exceptionCode, returnReason⟩ := entry
      cases exceptionCode <;> cases returnReason <;> rfl
    · have given : keptOutcome entry.outcome = [("outcome", entry.outcome)] := by
        have plain := settled.1
        rw [keptOutcome]
        cases is : entry.outcome with
        | undefined =>
          rw [is] at plain
          exact plain.elim
        | _ => rfl
      have found : (entryMembers (keptOutcome entry.outcome) entry).lookup "outcome" =
          some entry.outcome := by
        rw [given]
        rfl
      obtain ⟨v, member, same⟩ := memberOf_alike "outcome" alike distinct found
      rw [member, eq_of_alike _ v settled.2 same]
  obtain ⟨exception, atException, isException⟩ := optionalAt_alike
    (fun code => Mapping.exceptionCodeOf_eq_some.mpr rfl) alike distinct
    ((lookup_entryMembers (by decide) (by decide) _ _).trans (lookup_exceptionCode entry))
  obtain ⟨reason, atReason, isReason⟩ := optionalAt_alike
    (fun reason => Mapping.returnReasonOf_eq_some.mpr rfl) alike distinct
    ((lookup_entryMembers (by decide) (by decide) _ _).trans (lookup_returnReason entry))
  rw [entryOf, isCode, isOutcome, isNote, atException, atReason]
  show some _ = some _
  rw [isException, isReason]

/-- What a reader finds in the codes that come back. -/
def codesOf (codes : Value N) : Option (List (Mapping.Entry N)) := do
  let items ← itemsOf codes
  items.mapM entryOf

theorem codesOf_alike {codes : List (Mapping.Entry N)} {w : Value N}
    (stay : ∀ entry ∈ codes, Preflight.Stays entry.outcome)
    (alike : Alike Eq Eq (codesJson codes).written w) : codesOf w = some codes := by
  have shown : (codesJson codes).written =
      .array (codes.map fun entry => (entryJson entry).written) := by
    rw [codesJson, written, Preflight.writtenItems_map fun entry => ⟨rfl, rfl⟩]
  rw [shown] at alike
  obtain ⟨items, rfl, alike⟩ := alike
  have each := Preflight.forall₂_alike (R := fun item entry => entryOf item = some entry)
    (fun entry mem item same => entryOf_alike (stay entry mem) same) alike
  show items.mapM entryOf = some codes
  clear alike shown stay
  induction each with
  | nil => rfl
  | cons first others ih =>
    rw [List.mapM_cons, first, Option.bind_eq_bind, Option.bind_some, ih]
    rfl

/-- The table comes back as it was parsed, with the members of its codes in any order. -/
structure AsParsed (active : ActiveTable N) (table : Mapping.Table N) : Prop where
  providerId : active.providerId = table.providerId
  version : active.version = table.version
  source : active.source = ofString table.source.wire
  codes : ∀ codes, Alike Eq Eq active.codes codes → codesOf codes = some table.codes

/-- For each provider the table that took effect last is in force, however the rows are come
upon. -/
def InForce (w : ReferenceData N) : Prop :=
  ∀ (providerId : Text) (scanned : List (MappingRow N)), scanned.Perm w.mappings →
    Option.Rel AsParsed (activeMappingTable scanned providerId)
      (w.effective.filter fun table => table.providerId = providerId).getLast?

theorem providers_effective {w : ReferenceData N} (current : Current w) :
    w.effective.map (·.providerId) = w.mappings.map (·.providerId) := by
  have each := current.shown
  generalize w.mappings = rows at each
  generalize w.effective = tables at each
  induction each with
  | nil => rfl
  | cons first others ih => rw [List.map_cons, List.map_cons, first.providerId, ih]

theorem Current.inForce {w : ReferenceData N} (current : Current w) : InForce w := by
  intro providerId scanned perm
  rw [activeMappingTable]
  cases found : scanned.find? fun row => row.providerId = providerId with
  | some row =>
    have is : row.providerId = providerId := by simpa using List.find?_some found
    have mem := perm.mem_iff.mp (List.mem_of_find?_eq_some found)
    obtain ⟨table, there, shown⟩ := Preflight.exists_right current.shown row mem
    have once : (w.effective.map (·.providerId)).Nodup := by
      rw [providers_effective current]
      exact current.once
    rw [← is, shown.providerId, Table.filter_key_eq_singleton once there]
    refine .some ⟨shown.providerId, shown.version, shown.source, ?_⟩
    intro codes alike
    apply codesOf_alike shown.outcomes
    rw [← shown.codes]
    exact alike
  | none =>
    have empty : (w.effective.filter fun table => table.providerId = providerId) = [] := by
      rw [List.filter_eq_nil_iff]
      intro table there is
      have listed : table.providerId ∈ w.mappings.map (·.providerId) := by
        rw [← providers_effective current]
        exact List.mem_map_of_mem there
      obtain ⟨row, mem, same⟩ := List.mem_map.mp listed
      have other := List.find?_eq_none.mp found row (perm.mem_iff.mpr mem)
      exact other (by simpa [same] using is)
    rw [empty]
    exact .none

/-! ### Directories -/

/-- What holds of each file that a loop comes to. -/
def EachFile (turn : File N → ReferenceData N → Except LoadError (LoadResult × ReferenceData N))
    (holds : ReferenceData N → File N → Prop) : List (File N) → ReferenceData N → Prop
  | [], _ => True
  | file :: rest, w => holds w file ∧
      ∀ result w', turn file w = .ok (result, w') → EachFile turn holds rest w'

omit [Js.NumberFormat N] in
theorem eachFile_follow
    {turn : File N → ReferenceData N → Except LoadError (LoadResult × ReferenceData N)}
    {holds follows : ReferenceData N → File N → Prop} {I : ReferenceData N → Prop}
    (preserved : ∀ w file, I w → holds w file →
      ∀ result w', turn file w = .ok (result, w') → I w')
    (each : ∀ w file, I w → holds w file → follows w file) {files : List (File N)}
    {w : ReferenceData N} (start : I w) (all : EachFile turn holds files w) :
    EachFile turn follows files w ∧ I (loadAll turn files w).2 := by
  induction files generalizing w with
  | nil => exact ⟨trivial, start⟩
  | cons file rest ih =>
    obtain ⟨here, later⟩ := all
    have after : ∀ result w', turn file w = .ok (result, w') →
        EachFile turn follows rest w' ∧ I (loadAll turn rest w').2 := by
      intro result w' ok
      exact ih (preserved w file start here result w' ok) (later result w' ok)
    refine ⟨⟨each w file start here, fun result w' ok => (after result w' ok).1⟩, ?_⟩
    rw [loadAll]
    cases ok : turn file w with
    | error error => exact start
    | ok done =>
      obtain ⟨result, w'⟩ := done
      have held := (after result w' ok).2
      dsimp only
      generalize loadAll turn rest w' = ended at held ⊢
      obtain ⟨results, w''⟩ := ended
      cases results <;> exact held

section Published

variable {accepts : Value N → Bool} {sha256 : Text → Text} (toLowerCase : Text → Text)

variable (accepts sha256) in
/-- A file that is accepted is identical to what is published of its version, and leaves the rows
that are there. -/
def Load.Immutable (load : Load N) (w : ReferenceData N) (file : File N) : Prop :=
  ∀ result w', load.turn accepts sha256 toLowerCase file w = .ok (result, w') →
    load.Identical accepts sha256 toLowerCase w file ∧ w.KeptBy w'

variable (accepts sha256) in
/-- What every turn and every load keeps. -/
structure Versioned (w : ReferenceData N) : Prop where
  sound : Sound accepts sha256 w
  current : Current w

theorem versioned_empty : Versioned accepts sha256 (.empty : ReferenceData N) :=
  ⟨sound_empty, .nil, List.nodup_nil⟩

/-- A load of files that are taken with care. -/
theorem load_of_careful (injective : Function.Injective sha256) {w : ReferenceData N}
    {load : Load N} (start : Versioned accepts sha256 w)
    (careful : EachFile (load.turn accepts sha256 toLowerCase) (load.Careful toLowerCase · ·)
      load.files w) :
    EachFile (load.turn accepts sha256 toLowerCase) (load.Immutable accepts sha256 toLowerCase)
        load.files w ∧
      Versioned accepts sha256 (step accepts sha256 toLowerCase w load) := by
  apply eachFile_follow (I := Versioned accepts sha256) ?_ ?_ start careful
  · intro w file start careful result w' ok
    exact ⟨(sound_of_turn start.sound ok).1, current_of_turn start.current careful ok⟩
  · intro w file start careful result w' ok
    exact ⟨identical_of_careful injective start.sound careful ok, (sound_of_turn start.sound ok).2⟩

end Published

/-! ### A table that is published again, for example -/

/-- A mapping table with one code, from one of the sources. -/
def sampleTable (source : Mapping.Source) : Mapping.Table Whole where
  providerId := ofString "p"
  version := ofString "1"
  source := source
  codes := [⟨ofString "A", .string (ofString "accepted"), ofString "The bank took it.", none, none⟩]

def sampleCode : Value Whole :=
  .object [Preflight.textMember "provider_code" (ofString "A"),
    Preflight.textMember "outcome" (ofString "accepted"),
    Preflight.textMember "note" (ofString "The bank took it.")]

def sampleMembers (source : Mapping.Source) : List (Text × Value Whole) :=
  [Preflight.textMember "version" (ofString "1"), Preflight.textMember "provider_id" (ofString "p"),
    Preflight.textMember "source" (ofString source.wire),
    Preflight.textMember "description" (ofString "A table of one entry."),
    (ofString "codes", .array [sampleCode])]

theorem distinct_sample (source : Mapping.Source) :
    (Value.object (sampleMembers source)).distinct = true := by
  have code : sampleCode.distinct = true := by decide +kernel
  have names : ((sampleMembers source).map (·.1)).Nodup :=
    (by decide +kernel : [ofString "version", ofString "provider_id", ofString "source",
      ofString "description", ofString "codes"].Nodup)
  rw [Value.distinct, Bool.and_eq_true]
  refine ⟨decide_eq_true names, ?_⟩
  simp [sampleMembers, Preflight.textMember, distinctMembers, Value.distinct, distinctItems, code]

def sampleFile (source : Mapping.Source) : File Whole where
  name := ofString "p.json"
  json := some ⟨.object (sampleMembers source), distinct_sample source⟩

theorem parse_sample (source : Mapping.Source) :
    Mapping.parseMappingTable (.object (sampleMembers source)) (ofString "p.json") =
      some (.ok (sampleTable source)) := by
  have good : Mapping.HeaderRead (Mapping.membersOf (.object (sampleMembers source)))
      (ofString "p") (ofString "1") source [sampleCode] :=
    ⟨rfl, by decide, rfl, by decide, rfl, ⟨_, rfl, by decide⟩, rfl⟩
  rw [Mapping.parse_of_header good]
  rfl

/-- Each row has the source and the description of the file. -/
def OnlySample (source : Mapping.Source) (w : ReferenceData Whole) : Prop :=
  ∀ row ∈ w.mappings, row.version = ofString "1" ∧ row.source = ofString source.wire ∧
    row.description = ofString "A table of one entry."

theorem column_sample : column (ofString "1") = some (ofString "1") ∧
    column (ofString "p") = some (ofString "p") ∧
      column (ofString "A table of one entry.") = some (ofString "A table of one entry.") := by
  decide +kernel

theorem careful_sample {source : Mapping.Source} {w : ReferenceData Whole}
    (only : OnlySample source w) :
    MappingCareful (.object (sampleMembers source)) (sampleTable source) w where
  published row mem _ := ⟨(only row mem).2.1.symm, by
    rw [(only row mem).2.2]
    exact column_sample.2.2⟩
  alone row mem _ := by
    rw [(only row mem).1]
    exact column_sample.1
  version := (by decide +kernel : isWellFormed (ofString "1") = true)
  providerId := (by decide +kernel : isWellFormed (ofString "p") = true)
  outcomes entry mem := by
    cases List.mem_singleton.mp mem
    exact .inr ⟨trivial, rfl⟩

theorem onlySample_step {source : Mapping.Source} {now : Nat} {w : ReferenceData Whole}
    (only : OnlySample source w) :
    OnlySample source (step (fun _ => true) id id w (.payoutMappings [sampleFile source] now)) := by
  rw [step, Load.files, loadAll]
  split
  · exact only
  · rename_i result w' ok
    have ok : loadMapping (fun _ => true) id now (sampleFile source) w = .ok (result, w') := ok
    obtain ⟨raw, table, isRaw, parsed, turn⟩ := mappingTurn_of_ok ok
    cases isRaw
    cases (parse_sample source).symm.trans parsed
    cases turn with
    | published => exact only
    | new described stored fresh =>
      intro row mem
      rcases List.mem_append.mp mem with there | added
      · exact only row there
      · cases List.mem_singleton.mp added
        obtain ⟨version, providerId, text, isVersion, -, isText, -, is⟩ :=
          tableRow_eq_some.mp stored
        cases described
        rw [is]
        exact ⟨Option.some.inj (isVersion.symm.trans column_sample.1), rfl,
          Option.some.inj (isText.symm.trans column_sample.2.2)⟩

theorem eachFile_sample {source : Mapping.Source} {now : Nat} {w : ReferenceData Whole}
    (only : OnlySample source w) :
    EachFile ((Load.payoutMappings [sampleFile source] now).turn (fun _ => true) id id)
      ((Load.payoutMappings [sampleFile source] now).Careful id · ·) [sampleFile source] w := by
  refine ⟨?_, fun _ _ _ => trivial⟩
  intro raw table isRaw parsed
  cases isRaw
  cases (parse_sample source).symm.trans parsed
  exact careful_sample only

end InrSettle.Reference
