import InrSettle.Domain.Payout
import InrSettle.Library.JsConvert

/-!
# Provider mapping tables

How a table of a provider's codes is read off a JSON value, and what is checked of it. An
entry is read first and checked afterwards. A conversion to a string may throw.
-/

namespace InrSettle.Mapping

open Js

inductive Source where
  | sandboxFixture | providerDocumentation | providerContract
  deriving DecidableEq

def Source.wire : Source → String
  | sandboxFixture => "sandbox_fixture"
  | providerDocumentation => "provider_documentation"
  | providerContract => "provider_contract"

/-- `SOURCES`. -/
def sources : List Source := [.sandboxFixture, .providerDocumentation, .providerContract]

def sourceOf (name : Text) : Option Source :=
  sources.find? fun source => decide (ofString source.wire = name)

/-- `EXCEPTION_CODES`. -/
def exceptionCodes : List ExceptionCode :=
  [.liquidityUnavailable, .facilitySuspended, .drawdownFailed, .drawdownStatusUnknown,
    .payoutRejectedDestination, .payoutRejectedCompliance, .payoutRejectedProvider,
    .payoutStatusUnknown, .reconciliationMismatch, .finalityEvidenceMissing]

def exceptionCodeOf (name : Text) : Option ExceptionCode :=
  exceptionCodes.find? fun code => decide (ofString code.wire = name)

def returnReasonWire : ReturnReasonCode → String
  | .beneficiaryAccountClosed => "BENEFICIARY_ACCOUNT_CLOSED"
  | .beneficiaryAccountInvalid => "BENEFICIARY_ACCOUNT_INVALID"
  | .beneficiaryNameMismatch => "BENEFICIARY_NAME_MISMATCH"
  | .beneficiaryAccountBlocked => "BENEFICIARY_ACCOUNT_BLOCKED"
  | .refusedByBeneficiary => "REFUSED_BY_BENEFICIARY"
  | .complianceAtBeneficiaryBank => "COMPLIANCE_AT_BENEFICIARY_BANK"
  | .railReversal => "RAIL_REVERSAL"
  | .returnReasonUnmapped => "RETURN_REASON_UNMAPPED"

/-- `RETURN_REASON_CODES`. -/
def returnReasonCodes : List ReturnReasonCode :=
  [.beneficiaryAccountClosed, .beneficiaryAccountInvalid, .beneficiaryNameMismatch,
    .beneficiaryAccountBlocked, .refusedByBeneficiary, .complianceAtBeneficiaryBank,
    .railReversal, .returnReasonUnmapped]

def returnReasonOf (name : Text) : Option ReturnReasonCode :=
  returnReasonCodes.find? fun reason => decide (ofString (returnReasonWire reason) = name)

/-! ### Tables -/

section Tables

variable {N : Type}

/-- An entry as it is read: its outcome is whatever the file has. -/
structure Entry (N : Type) where
  providerCode : Text
  outcome : Value N
  note : Text
  exceptionCode : Option ExceptionCode
  returnReason : Option ReturnReasonCode

structure Table (N : Type) where
  providerId : Text
  version : Text
  source : Source
  codes : List (Entry N)

/-- The outcome is this one. -/
def Entry.hasOutcome (entry : Entry N) (outcome : ProviderOutcome) : Bool :=
  match entry.outcome with
  | .string text => decide (text = ofString outcome.wire)
  | _ => false

variable [Js.NumberFormat N]

def quoted (providerCode : Text) : Text :=
  ofString "mapping for \"" ++ providerCode ++ ofString "\""

/-- A reason on an entry that is no return; nothing where its outcome is no text and throws. -/
def inspectReason (entry : Entry N) : Option (List Text) :=
  if entry.returnReason ≠ none ∧ ¬ entry.hasOutcome .returned then
    (stringOf entry.outcome).map fun outcome =>
      [quoted entry.providerCode ++ ofString " names a return reason but its outcome is " ++ outcome]
  else some []

/-- What is wrong with an entry, after entries with these codes; nothing where it throws. -/
def inspectEntry (seen : List Text) (entry : Entry N) : Option (List Text) :=
  (inspectReason entry).map fun reason =>
    (if entry.providerCode ∈ seen then
      [ofString "duplicate mapping for provider code \"" ++ entry.providerCode ++ ofString "\""]
      else []) ++
    (if entry.hasOutcome .rejected ∧ entry.exceptionCode = none then
      [quoted entry.providerCode ++ ofString " is a rejection but names no exception code"]
      else []) ++
    reason ++
    if (Js.trim entry.note).length < 10 then
      [quoted entry.providerCode ++ ofString " has no usable note"] else []

/-- The loop over the entries. That an exception code is in the taxonomy is in its type. -/
def inspectFrom : List Text → List (Entry N) → Option (List Text)
  | _, [] => some []
  | seen, entry :: rest => do
    let problems ← inspectEntry seen entry
    let others ← inspectFrom (entry.providerCode :: seen) rest
    return problems ++ others

def validateMappingTable (table : Table N) : Option (List Text) :=
  (inspectFrom [] table.codes).map fun problems =>
    (if Js.trim table.version = [] then [ofString "mapping table has no version"] else []) ++
      problems

/-! ### Reading a table -/

/-- `MappingTableError`. -/
structure MappingTableError where
  file : Text
  problems : List Text
  deriving DecidableEq

/-- `members[name]` of an object. -/
def member (members : List (Text × Value N)) (name : String) : Value N :=
  (members.lookup (ofString name)).getD .undefined

/-- `value[name]`; nothing where it throws. No value but an object has a member of these names. -/
def property (value : Value N) (name : String) : Option (Value N) :=
  match value with
  | .undefined | .null => none
  | .object members => some (member members name)
  | .bool _ | .number _ | .bigint _ | .string _ | .array _ => some .undefined

def textOf : Value N → Option Text
  | .string text => some text
  | _ => none

/-- `String(value ?? '')`; nothing where it throws. -/
def stringOrEmpty (value : Value N) : Option Text :=
  match value with
  | .undefined | .null => some []
  | value => stringOf value

def parseEntry (c : Value N) : Option (Entry N) := do
  let exceptionCode ← property c "exception_code"
  let returnReason ← property c "return_reason"
  let providerCode ← stringOrEmpty (← property c "provider_code")
  let outcome ← property c "outcome"
  let note ← stringOrEmpty (← property c "note")
  return {
    providerCode := providerCode
    outcome := outcome
    note := note
    exceptionCode := (textOf exceptionCode).bind exceptionCodeOf
    returnReason := (textOf returnReason).bind returnReasonOf }

def parseEntries : List (Value N) → Option (List (Entry N))
  | [] => some []
  | c :: rest => do
    let entry ← parseEntry c
    let others ← parseEntries rest
    return entry :: others

/-- The text is given and is more than white space. -/
def statesText (value : Value N) : Bool := (textOf value).any fun text => decide (Js.trim text ≠ [])

/-- What is wrong with the fields of a table, and with its codes as a whole. -/
def headerProblems (members : List (Text × Value N)) : List Text :=
  (if statesText (member members "version") then [] else [ofString "missing \"version\""]) ++
  (if statesText (member members "provider_id") then [] else
    [ofString "missing \"provider_id\""]) ++
  (if (textOf (member members "source")).any fun name => (sourceOf name).isSome then [] else
    [ofString ("\"source\" must be sandbox_fixture, provider_documentation or " ++
      "provider_contract")]) ++
  (if (textOf (member members "description")).any fun text => decide (20 ≤ (Js.trim text).length)
    then [] else
    [ofString "\"description\" must say what this table is and where it came from"]) ++
  match member members "codes" with
  | .array _ => []
  | _ => [ofString "\"codes\" must be an array"]

/-- The members of `raw ?? {}` that a table has. -/
def membersOf : Value N → List (Text × Value N)
  | .object members => members
  | .undefined | .null | .bool _ | .number _ | .bigint _ | .string _ | .array _ => []

/-- `parseMappingTable`, without the checksum of what it accepts; nothing where it throws anything
but a `MappingTableError`. -/
def parseMappingTable (raw : Value N) (file : Text) :
    Option (Except MappingTableError (Table N)) :=
  let doc := membersOf raw
  let problems := headerProblems doc
  match textOf (member doc "version"), textOf (member doc "provider_id"),
      (textOf (member doc "source")).bind sourceOf, member doc "codes", problems with
  | some version, some providerId, some source, .array items, [] => do
    let codes ← parseEntries items
    let table : Table N := ⟨providerId, version, source, codes⟩
    let defects ← validateMappingTable table
    if defects ≠ [] then return .error ⟨file, defects⟩ else return .ok table
  | _, _, _, _, problems => some (.error ⟨file, problems⟩)

end Tables

end InrSettle.Mapping
