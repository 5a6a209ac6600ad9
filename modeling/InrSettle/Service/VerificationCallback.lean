import InrSettle.Library.JsConvert
import InrSettle.Service.Verification

/-!
# Verification callbacks as the provider sends them

One transaction stores the event a payload came as, interprets it, and applies the outcome it
reports. What the columns of the database take is the database's own.
-/

namespace InrSettle

open Transaction VerificationTables Js

/-! ### What a provider reports -/

/-- A number of JavaScript, read as a score. -/
inductive ReportedScore where
  | finite (value : ℚ)
  | special (s : Special)
  deriving DecidableEq

structure ReportedEvidence where
  asserted : Option Bool := none
  score : Option ReportedScore := none
  registryName : Option String := none
  deriving DecidableEq

inductive ReportedOutcome where
  | accountConfirmed (nameEvidence : ReportedEvidence)
  | failed (reasonCode : VerificationFailureCode) (nameEvidence : ReportedEvidence)
  | verifying
  deriving DecidableEq

structure ReportedCallback where
  requestId : Text
  destinationVersionId : Text
  outcome : ReportedOutcome
  deriving DecidableEq

/-- The evidence with a score that is a number, or none. -/
def ReportedEvidence.known (evidence : ReportedEvidence) : NameMatchEvidence where
  asserted := evidence.asserted
  score := match evidence.score with
    | some (.finite value) => some value
    | some (.special _) | none => none
  registryName := evidence.registryName

structure ReportedDecision where
  outcome : NameMatchOutcome
  basis : NameMatchBasis
  score : Option ReportedScore
  deriving DecidableEq

/-- `decideNameMatch` on any number: an infinite score is outside of every scale, NaN is none. -/
def decideReported (policy : Option NameMatchPolicy) (evidence : ReportedEvidence)
    (expectedName : String) : ReportedDecision :=
  let known := decideNameMatch policy evidence.known expectedName
  match policy, evidence.score with
  | some (.numericScore _ _ _), some (.special .infinity) =>
    ⟨.insufficientEvidence, .numericScore, some (.special .infinity)⟩
  | some (.numericScore _ _ _), some (.special .minusInfinity) =>
    ⟨.insufficientEvidence, .numericScore, some (.special .minusInfinity)⟩
  | _, _ => ⟨known.outcome, known.basis, known.score.map .finite⟩

/-! ### The columns -/

/-- A text and a JSON value as a column stores them, if it takes them, and whether the index on the
ids of events takes one. -/
structure Columns (N : Type) where
  text : Text → Option String
  eventKey : String → Bool
  jsonb : Value N → Option (Value N)

/-- An `integer` holds it. -/
def ReportedScore.isInteger : ReportedScore → Bool
  | finite value => decide (value.den = 1 ∧ -2 ^ 31 ≤ value ∧ value < 2 ^ 31)
  | special _ => false

/-- The ids of the rows, which are their positions here. -/
structure VerificationIds where
  verificationOf : String → Option Nat
  versionId : Nat → String

/-- The tables, with the payloads of the provider events. -/
structure CallbackTables (N : Type) where
  rows : VerificationTables
  payloads : List (Nat × Value N)

abbrev CallbackTx (N : Type) := Tx (CallbackTables N) DbError

section Ingest

variable {N : Type}

def onRows {α : Type} (m : VerificationTx α) : CallbackTx N α :=
  focus (·.rows) (fun t rows => { t with rows }) m

structure CallbackArgs (N : Type) where
  providerEventId : Text
  payload : Value N
  signatureValid : Bool

/-- What the application was given to ingest callbacks with. `interpret` may throw, and a payload may
be none of its own. -/
structure CallbackReader (N : Type) where
  columns : Columns N
  ids : VerificationIds
  provider : VerificationProvider
  policies : NameMatchPolicySet
  interpret : Value N → Option (Option ReportedCallback)

inductive CallbackResult where
  | applied (verificationId : Nat) (status : VerificationStatus)
  | duplicateEvent
  | unknownVerification
  | versionMismatch (expected : Nat) (received : Text)
  | notInFlight (status : VerificationStatus)
  | uninterpretable
  | untrustedEvidence
  deriving DecidableEq

def VerificationStatus.wire : VerificationStatus → String
  | unverified => "unverified" | verifying => "verifying" | verified => "verified"
  | failed => "failed"

/-! ### What the audit log is told -/

def untrustedAudit (provider : VerificationProvider) (args : CallbackArgs N) : Value N :=
  .object [(ofString "reason", .string (ofString "untrusted_signature")),
    (ofString "providerId", .string (ofString provider.id)),
    (ofString "providerEventId", .string args.providerEventId)]

def mismatchAudit (expected received providerEventId : Text) : Value N :=
  .object [(ofString "reason", .string (ofString "version_mismatch")),
    (ofString "expected", .string expected), (ofString "received", .string received),
    (ofString "providerEventId", .string providerEventId)]

def notInFlightAudit (status : VerificationStatus) (providerEventId : Text) : Value N :=
  .object [(ofString "reason", .string (ofString "not_in_flight")),
    (ofString "status", .string (ofString status.wire)),
    (ofString "providerEventId", .string providerEventId)]

/-! ### Ingesting -/

def isNull : Value N → Bool
  | .null => true
  | .undefined | .bool _ | .number _ | .bigint _ | .string _ | .array _ | .object _ => false

/-- `INSERT INTO provider_events … ON CONFLICT DO NOTHING RETURNING id`. A payload of `null` is the NULL
the column is not to hold. -/
def insertRawEvent (reader : CallbackReader N) (args : CallbackArgs N) :
    CallbackTx N (Option Nat) := do
  require (isNull args.payload = false) (.checkViolation "payload")
  match reader.columns.jsonb args.payload, reader.columns.text args.providerEventId with
  | some payload, some eventId => do
    let t ← get
    if t.rows.providerEvents.any
        (fun event => decide (dedupeKey event = some (reader.provider.id, eventId))) then
      return none
    else do
      require (reader.columns.eventKey eventId = true) (.thrown "index row size exceeds maximum")
      -- The interpretation is NULL until it is marked, as each of the callers does.
      let event : ProviderEvent :=
        ⟨reader.provider.id, eventId, args.signatureValid, .uninterpretable⟩
      modify fun t => ⟨{ t.rows with providerEvents := t.rows.providerEvents ++ [event] },
        t.payloads ++ [(t.rows.providerEvents.length, payload)]⟩
      return some t.rows.providerEvents.length
  | _, _ => abort (.thrown "invalid input syntax")

def markInterpreted (eventRowId : Nat) (interpretation : CallbackInterpretation) :
    CallbackTx N PUnit :=
  modify fun t => { t with rows := { t.rows with
    providerEvents := t.rows.providerEvents.modify eventRowId fun event =>
      { event with interpretation } } }

/-- `events.audit`; the `after` is a `jsonb`. -/
def auditRejected (reader : CallbackReader N) (note : Value N) : CallbackTx N PUnit :=
  require ((reader.columns.jsonb note).isSome = true) (.thrown "unsupported Unicode escape sequence")

/-- `applyOutcome` on what was reported. -/
def applyReported (reader : CallbackReader N) (loaded : LoadedVerification)
    (failure : Option VerificationFailureCode) (nameEvidence : ReportedEvidence)
    (eventRowId : Nat) (now : Instant) : CallbackTx N VerificationStatus := do
  let policy := policyFor reader.policies reader.provider.id reader.provider.method
  let nameMatch := decideReported policy nameEvidence loaded.expectedName
  require (nameMatch.score.all (·.isInteger) = true)
    (.thrown "invalid input syntax for type integer")
  onRows (applyOutcome reader.policies loaded ⟨failure, nameEvidence.known⟩ (some eventRowId) now)

/-- The outcome of a verification that was read, where its version is there; `names` is the
beneficiary's own name. -/
def applyRead (reader : CallbackReader N) (id : Nat) (row : DestinationVerification)
    (failure : Option VerificationFailureCode) (nameEvidence : ReportedEvidence) (names : String)
    (eventRowId : Nat) (now : Instant) : CallbackTx N CallbackResult := do
  let t ← get
  match t.rows.versions[row.destinationVersionId]? with
  | none => do
    markInterpreted eventRowId .unknownVerification
    return .unknownVerification
  | some version => do
    markInterpreted eventRowId .applied
    let status ← applyReported reader
      ⟨id, row.destinationVersionId, version.destinationId, version.beneficiaryId, reader.provider,
        version.accountHolderName.getD names⟩ failure nameEvidence eventRowId now
    return .applied id status

/-- What is done about a row that was found. -/
def applyFound (reader : CallbackReader N) (args : CallbackArgs N) (callback : ReportedCallback)
    (id : Nat) (row : DestinationVerification) (names : String) (eventRowId : Nat)
    (now : Instant) : CallbackTx N CallbackResult := do
  let expected := ofString (reader.ids.versionId row.destinationVersionId)
  if expected ≠ callback.destinationVersionId then do
    markInterpreted eventRowId .versionMismatch
    auditRejected reader (mismatchAudit expected callback.destinationVersionId args.providerEventId)
    return .versionMismatch row.destinationVersionId callback.destinationVersionId
  else if row.status ≠ .verifying then do
    markInterpreted eventRowId .notInFlight
    auditRejected reader (notInFlightAudit row.status args.providerEventId)
    return .notInFlight row.status
  else match callback.outcome with
    | .verifying => do
      markInterpreted eventRowId .stillPending
      return .notInFlight .verifying
    | .accountConfirmed nameEvidence =>
      applyRead reader id row none nameEvidence names eventRowId now
    | .failed reasonCode nameEvidence =>
      applyRead reader id row (some reasonCode) nameEvidence names eventRowId now

/-- The row that an id names. -/
def verificationNamed (ids : VerificationIds) (t : VerificationTables) (requestId : String) :
    Option (Nat × DestinationVerification) := do
  let id ← ids.verificationOf requestId
  let row ← t.verifications[id]?
  return (id, row)

/-- What is done about a payload that was interpreted. -/
def applyCallbackOf (reader : CallbackReader N) (args : CallbackArgs N)
    (callback : ReportedCallback) (names : String) (eventRowId : Nat) (now : Instant) :
    CallbackTx N CallbackResult :=
  match reader.columns.text callback.requestId with
  | none => abort (.thrown "invalid byte sequence for encoding")
  | some requestId => do
    let t ← get
    match verificationNamed reader.ids t.rows requestId with
    | none => do
      markInterpreted eventRowId .unknownVerification
      return .unknownVerification
    | some (id, row) => applyFound reader args callback id row names eventRowId now

def ingestVerificationCallback (reader : CallbackReader N) (args : CallbackArgs N) (names : String)
    (now : Instant) : CallbackTx N CallbackResult := do
  match ← insertRawEvent reader args with
  | none => return .duplicateEvent
  | some eventRowId =>
    if args.signatureValid = false then do
      markInterpreted eventRowId .untrustedSignature
      auditRejected reader (untrustedAudit reader.provider args)
      return .untrustedEvidence
    else match reader.interpret args.payload with
      | none => abort (.thrown "interpret")
      | some none => do
        markInterpreted eventRowId .uninterpretable
        return .uninterpretable
      | some (some callback) => applyCallbackOf reader args callback names eventRowId now

end Ingest

/-! ### The sandbox's interpreter -/

def VerificationFailureCode.wire : VerificationFailureCode → String
  | accountNotFound => "account_not_found" | accountClosed => "account_closed"
  | accountFrozen => "account_frozen" | nameMismatch => "name_mismatch"
  | invalidIfsc => "invalid_ifsc" | vpaNotFound => "vpa_not_found"
  | rejectedByBank => "rejected_by_bank" | unavailable => "unavailable"

/-- `VERIFICATION_FAILURE_CODES`. -/
def verificationFailureCodes : List VerificationFailureCode :=
  [.accountNotFound, .accountClosed, .accountFrozen, .nameMismatch, .invalidIfsc, .vpaNotFound,
    .rejectedByBank, .unavailable]

section Sandbox

variable {N : Type} [Js.NumberFormat N] (toLowerCase : Text → Text)

def mapFailureCode (raw : Text) : VerificationFailureCode :=
  let normalised := toLowerCase (Js.trim raw)
  (verificationFailureCodes.find? fun code => decide (ofString code.wire = normalised)).getD
    .unavailable

/-- The value of a numeral. -/
def numeralValue (n : Numeral) : ℚ :=
  let digits := (n.whole ++ n.fraction).foldl (fun value d => 10 * value + (d.val : ℚ)) 0
  let power : Int := match n.exponent with
    | none => 0
    | some (negative, ds) =>
      let size : Int := ds.foldl (fun value d => 10 * value + (d.val : Int)) 0
      if negative then -size else size
  (if n.negative then -1 else 1) * digits * (10 : ℚ) ^ (power - n.fraction.length)

def reportedScore (n : N) : ReportedScore :=
  match NumberFormat.special n with
  | some s => .special s
  | none => .finite (numeralValue (NumberFormat.write n))

def textMember (r : List (Text × Value N)) (name : String) : Option Text :=
  match r.lookup (ofString name) with
  | some (.string text) => some text
  | _ => none

def reportedEvidence (r : List (Text × Value N)) : ReportedEvidence where
  score := match r.lookup (ofString "name_match_score") with
    | some (.number n) => some (reportedScore n)
    | _ => none
  registryName := (textMember r "registry_name").map decoded
  asserted := match r.lookup (ofString "name_matched") with
    | some (.bool asserted) => some asserted
    | _ => none

/-- `String(r['reason_code'] ?? '')`; nothing where it throws. -/
def reasonText (r : List (Text × Value N)) : Option Text :=
  match r.lookup (ofString "reason_code") with
  | none | some .undefined | some .null => some []
  | some reason => stringOf reason

/-- `interpret` of the sandbox's provider; nothing where it throws. -/
def sandboxInterpret : Value N → Option (Option ReportedCallback)
  | .object r =>
    match textMember r "request_id", textMember r "destination_version_id",
      textMember r "event_id", textMember r "result" with
    | some requestId, some destinationVersionId, some _, some result =>
      if result = ofString "account_confirmed" ∨ result = ofString "verified" then
        some (some ⟨requestId, destinationVersionId, .accountConfirmed (reportedEvidence r)⟩)
      else (reasonText r).map fun reason =>
        some ⟨requestId, destinationVersionId,
          .failed (mapFailureCode toLowerCase reason) (reportedEvidence r)⟩
    | _, _, _, _ => some none
  | .undefined | .null | .bool _ | .number _ | .bigint _ | .string _ | .array _ => some none

end Sandbox

end InrSettle
