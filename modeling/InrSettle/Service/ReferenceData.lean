import InrSettle.Domain.Artifact
import InrSettle.Domain.MappingTable
import InrSettle.Domain.RuleSetJson

/-!
# Loading reference data

The loaders of rule sets and of mapping tables, which go over the files of a directory and stop at
the first that is refused, and the table in force for a provider.
-/

namespace InrSettle.Reference

open Js
open Preflight (RuleSet RuleSetParseDefect PurposeCode PreflightRuleSetRow parseRuleSet
  ruleSetChecksum toRuleJson sourceWire textMember)

variable {N : Type} [Js.NumberFormat N]

/-! ### What is stored -/

/-- A file, and what `JSON.parse` makes of it; nothing where it throws. -/
structure File (N : Type) where
  name : Text
  json : Option (CanonicalValue N)

/-- A text in a column of texts: half a surrogate pair is replaced, and NUL is refused. -/
def column (text : Text) : Option Text :=
  if (0 : CodeUnit) ∈ text then none else some (ofString (decoded text))

/-- A version of a rule set as the two tables have it. -/
structure RuleSetRecord (N : Type) where
  row : PreflightRuleSetRow N
  purposes : List PurposeCode

/-- A row of `provider_mapping_tables`. -/
structure MappingRow (N : Type) where
  version : Text
  providerId : Text
  source : Text
  description : Text
  codes : Value N
  checksum : Text
  effectiveFrom : Nat

/-- The tables, and the mapping tables as they were parsed, in the order they took effect. -/
structure ReferenceData (N : Type) where
  ruleSets : List (RuleSetRecord N)
  mappings : List (MappingRow N)
  effective : List (Mapping.Table N)

def purposeColumns (purpose : PurposeCode) : Option PurposeCode := do
  let code ← column purpose.code
  let label ← column purpose.label
  let regulatoryCode ← match purpose.regulatoryCode with
    | none => some none
    | some code => (column code).map some
  return ⟨code, label, regulatoryCode⟩

/-- An entry of a table as the object that it is. -/
def entryJson (entry : Mapping.Entry N) : Value N :=
  .object ([textMember "providerCode" entry.providerCode, (ofString "outcome", entry.outcome),
      textMember "note" entry.note] ++
    (entry.exceptionCode.map fun code => textMember "exceptionCode" (ofString code.wire)).toList ++
    (entry.returnReason.map fun reason =>
      textMember "returnReason" (ofString (Mapping.returnReasonWire reason))).toList)

def codesJson (codes : List (Mapping.Entry N)) : Value N := .array (codes.map entryJson)

/-- What the checksum of a mapping table is taken of. -/
def checkedTable (table : Mapping.Table N) : Value N :=
  .object [textMember "v" table.version, textMember "p" table.providerId,
    (ofString "c", codesJson table.codes)]

inductive LoadError where
  | unreadable
  | thrown
  | ruleSetError (defects : List RuleSetParseDefect)
  | mappingTableError (error : Mapping.MappingTableError)
  | differentChecksum (version : Text)
  | refused

structure LoadResult where
  version : Text
  checksum : Text
  loaded : Bool

section Loaders

-- what a jsonb column accepts, and the digest of a text as UTF-8
variable (accepts : Value N → Bool) (sha256 : Text → Text) (toLowerCase : Text → Text)

/-! ### Rule sets -/

/-- The rows of a rule set; nothing where a column, the key of the purpose codes or the check on a
fixture's regulatory codes refuses them. -/
def ruleSetRecord (ruleSet : RuleSet N) : Option (RuleSetRecord N) := do
  let version ← column ruleSet.version
  let description ← column ruleSet.description
  let purposes ← ruleSet.purposeCodes.mapM purposeColumns
  let rules := (Value.array (ruleSet.rules.map toRuleJson)).written
  if accepts rules ∧ (purposes.map (·.code)).Nodup ∧ (ruleSet.source = .sandboxFixture →
      ∀ purpose ∈ purposes, purpose.regulatoryCode = none)
  then some ⟨⟨version, ofString (sourceWire ruleSet.source), description, rules,
    ruleSetChecksum sha256 ruleSet⟩, purposes⟩
  else none

/-- One turn of the loop of `loadReferenceData`. -/
def loadRuleSet (file : File N) (w : ReferenceData N) :
    Except LoadError (LoadResult × ReferenceData N) :=
  match file.json with
  | none => .error .unreadable
  | some raw =>
    match parseRuleSet toLowerCase raw.value with
    | none => .error .thrown
    | some (.error defects) => .error (.ruleSetError defects)
    | some (.ok ruleSet) =>
      let checksum := ruleSetChecksum sha256 ruleSet
      match column ruleSet.version with
      | none => .error .refused
      | some version =>
        match w.ruleSets.find? fun record => record.row.version = version with
        | some previous =>
          if previous.row.checksum ≠ checksum then .error (.differentChecksum ruleSet.version)
          else .ok (⟨ruleSet.version, checksum, false⟩, w)
        | none =>
          match ruleSetRecord accepts sha256 ruleSet with
          | none => .error .refused
          | some record =>
            .ok (⟨ruleSet.version, checksum, true⟩, { w with ruleSets := w.ruleSets ++ [record] })

/-! ### Mapping tables -/

/-- The checksum that `parseMappingTable` gives with a table. -/
def mappingChecksum (table : Mapping.Table N) : Text := sha256 (checkedTable table).stringify

/-- The row of a table; nothing where a column refuses it. -/
def tableRow (table : Mapping.Table N) (description : Text) (now : Nat) :
    Option (MappingRow N) := do
  let version ← column table.version
  let providerId ← column table.providerId
  let description ← column description
  let codes := (codesJson table.codes).written
  if accepts codes then some ⟨version, providerId, ofString table.source.wire, description, codes,
    mappingChecksum sha256 table, now⟩
  else none

/-- `String(JSON.parse(file).description)`; nothing where it throws. -/
def descriptionOf (raw : Value N) : Option Text :=
  stringOf (Mapping.member (Mapping.membersOf raw) "description")

/-- One turn of the loop of `loadPayoutMappings`. -/
def loadMapping (now : Nat) (file : File N) (w : ReferenceData N) :
    Except LoadError (LoadResult × ReferenceData N) :=
  match file.json with
  | none => .error .unreadable
  | some raw =>
    match Mapping.parseMappingTable raw.value file.name with
    | none => .error .thrown
    | some (.error error) => .error (.mappingTableError error)
    | some (.ok table) =>
      let checksum := mappingChecksum sha256 table
      match column table.version with
      | none => .error .refused
      | some version =>
        match w.mappings.find? fun row => row.version = version with
        | some previous =>
          if previous.checksum ≠ checksum then .error (.differentChecksum table.version)
          else .ok (⟨table.version, checksum, false⟩, w)
        | none =>
          match (descriptionOf raw.value).bind fun description =>
              tableRow accepts sha256 table description now with
          | none => .error .refused
          | some row =>
            .ok (⟨table.version, checksum, true⟩, { w with
              mappings := w.mappings ++ [row]
              effective := w.effective ++ [table] })

/-! ### Directories -/

/-- The files of a directory in the order of their names. -/
inductive Load (N : Type) where
  | referenceData (files : List (File N))
  | payoutMappings (files : List (File N)) (now : Nat)

def Load.files : Load N → List (File N)
  | referenceData files => files
  | payoutMappings files _ => files

/-- The turn of the loop. -/
def Load.turn : Load N → File N → ReferenceData N →
    Except LoadError (LoadResult × ReferenceData N)
  | referenceData _ => loadRuleSet accepts sha256 toLowerCase
  | payoutMappings _ now => loadMapping accepts sha256 now

/-- The loop: what a file before the one that is refused has inserted stays. -/
def loadAll (turn : File N → ReferenceData N → Except LoadError (LoadResult × ReferenceData N)) :
    List (File N) → ReferenceData N → Except LoadError (List LoadResult) × ReferenceData N
  | [], w => (.ok [], w)
  | file :: rest, w =>
    match turn file w with
    | .error error => (.error error, w)
    | .ok (result, w') =>
      match loadAll turn rest w' with
      | (.ok results, w'') => (.ok (result :: results), w'')
      | (.error error, w'') => (.error error, w'')

def step (w : ReferenceData N) (load : Load N) : ReferenceData N :=
  (loadAll (load.turn accepts sha256 toLowerCase) load.files w).2

end Loaders

def ReferenceData.empty : ReferenceData N := ⟨[], [], []⟩

/-! ### In force -/

structure ActiveTable (N : Type) where
  providerId : Text
  version : Text
  source : Text
  codes : Value N

/-- The rows are in whatever order the query comes upon them. -/
def activeMappingTable (scanned : List (MappingRow N)) (providerId : Text) :
    Option (ActiveTable N) :=
  (scanned.find? fun row => row.providerId = providerId).map fun row =>
    ⟨row.providerId, row.version, row.source, row.codes⟩

end InrSettle.Reference
