import InrSettle.Library.Run
import InrSettle.Service.Verification

/-!
# Beneficiary verifications

Requests, jobs and callbacks in any order. A job's call to its provider stands between
two transactions; a request and a callback read in theirs before they write, and no row
is locked, so others may commit between the read and the write.
-/

namespace InrSettle

open Transaction Run VerificationTables

/-! ### The state -/

inductive VerificationRun where
  /-- A request that nothing it read stands against. -/
  | opening (versionId : Nat) (provider : VerificationProvider) (requestedBy : String)
  /-- A job whose provider has been asked. -/
  | asking (loaded : LoadedVerification)
  /-- A callback with its event inserted and its verification read, in an open transaction. -/
  | applying (loaded : LoadedVerification) (finding : Finding) (providerEventId : String)
  | ended
  deriving DecidableEq

structure VerificationWorld where
  tables : VerificationTables
  runs : List VerificationRun
  deriving DecidableEq

inductive VerificationOp where
  | addVersion (version : DestinationVersion)
  | openVerification (versionId : Nat) (provider : VerificationProvider) (requestedBy : String)
  | insertVerification (runId : Nat)
  | loadVerification (provider : VerificationProvider) (verificationId : Nat) (names : String)
  | recordAnswer (runId : Nat) (outcome : VerificationOutcome) (now : Instant)
  | receiveCallback (provider : VerificationProvider) (providerEventId : String)
    (signatureValid : Bool) (callback : Option VerificationCallback) (names : String)
  | applyCallback (runId : Nat) (now : Instant)
  | lose (runId : Nat)

/-- The event of a callback commits with what it changed. -/
def applyCallback (policies : NameMatchPolicySet) (loaded : LoadedVerification) (finding : Finding)
    (providerEventId : String) (now : Instant) : VerificationTx VerificationStatus := do
  let eventId ← insertProviderEvent ⟨loaded.provider.id, providerEventId, true, .applied⟩
  applyOutcome policies loaded finding (some eventId) now

namespace VerificationWorld

def start : VerificationWorld := ⟨⟨[], [], [], []⟩, []⟩

/-- The event an open callback has inserted. -/
def holdsEvent (w : VerificationWorld) (key : String × String) : Bool :=
  w.runs.any fun r => match r with
    | .applying loaded _ providerEventId => decide ((loaded.provider.id, providerEventId) = key)
    | _ => false

def onTables {α : Type} (w : VerificationWorld) (runId : Nat) (tx : VerificationTx α) :
    VerificationWorld :=
  ⟨after tx w.tables, w.runs.set runId .ended⟩

/-- A second delivery of an event finds it, or waits for the transaction that inserted it. -/
def receiveCallback (w : VerificationWorld) (provider : VerificationProvider)
    (providerEventId : String) (signatureValid : Bool) (callback : Option VerificationCallback)
    (names : String) : VerificationWorld :=
  if w.tables.providerEvents.any (fun event =>
      decide (dedupeKey event = some (provider.id, providerEventId))) then w
  else if w.holdsEvent (provider.id, providerEventId) then w
  else match readCallback w.tables provider signatureValid callback names with
    | .refused interpretation => { w with tables := { w.tables with
        providerEvents := w.tables.providerEvents ++
          [⟨provider.id, providerEventId, signatureValid, interpretation⟩] } }
    | .applicable loaded finding =>
      { w with runs := w.runs ++ [.applying loaded finding providerEventId] }

variable (policies : NameMatchPolicySet)

def step (w : VerificationWorld) : VerificationOp → VerificationWorld
  | .addVersion version =>
    { w with tables := { w.tables with versions := w.tables.versions ++ [version] } }
  | .openVerification versionId provider requestedBy =>
    match mayOpen w.tables versionId with
    | .ok () => { w with runs := w.runs ++ [.opening versionId provider requestedBy] }
    | .error _ => w
  | .insertVerification runId => match w.runs[runId]? with
    | some (.opening versionId provider requestedBy) =>
      w.onTables runId (insertVerification (openedVerification provider versionId requestedBy))
    | _ => w
  | .loadVerification provider verificationId names =>
    match InrSettle.loadVerification w.tables provider verificationId names with
    | .ok loaded => { w with runs := w.runs ++ [.asking loaded] }
    | .error _ => w
  | .recordAnswer runId outcome now => match w.runs[runId]? with
    | some (.asking loaded) => w.onTables runId (recordAnswer policies loaded outcome now)
    | _ => w
  | .receiveCallback provider providerEventId signatureValid callback names =>
    w.receiveCallback provider providerEventId signatureValid callback names
  | .applyCallback runId now => match w.runs[runId]? with
    | some (.applying loaded finding providerEventId) =>
      w.onTables runId (applyCallback policies loaded finding providerEventId now)
    | _ => w
  | .lose runId => { w with runs := w.runs.set runId .ended }

/-! ### The claim and its condition -/

/-- The step commits an outcome for the verification. -/
def Resolves (w : VerificationWorld) (op : VerificationOp) (verificationId : Nat) : Prop :=
  match op with
  | .recordAnswer runId outcome now => ∃ loaded, w.runs[runId]? = some (.asking loaded) ∧
      loaded.verificationId = verificationId ∧ (∀ reference, outcome ≠ .verifying reference) ∧
      (answer (recordAnswer policies loaded outcome now) w.tables).isSome = true
  | .applyCallback runId now => ∃ loaded finding providerEventId,
      w.runs[runId]? = some (.applying loaded finding providerEventId) ∧
      loaded.verificationId = verificationId ∧
      (answer (InrSettle.applyCallback policies loaded finding providerEventId now)
        w.tables).isSome = true
  | _ => False

/-- The step commits a new verification of the version. -/
def Opens (w : VerificationWorld) (op : VerificationOp) (versionId : Nat) : Prop :=
  match op with
  | .insertVerification runId => ∃ provider requestedBy,
      w.runs[runId]? = some (.opening versionId provider requestedBy) ∧
      (answer (insertVerification (openedVerification provider versionId requestedBy))
        w.tables).isSome = true
  | _ => False

/-- An outcome commits while its verification is still verifying, a new verification while its
version has none that is verified. -/
structure StillOpen (w : VerificationWorld) (op : VerificationOp) : Prop where
  resolves : ∀ verificationId, w.Resolves policies op verificationId →
    ∃ row, w.tables.verifications[verificationId]? = some row ∧ row.status = .verifying
  opens : ∀ versionId, w.Opens op versionId →
    ∀ row ∈ verificationsOf w.tables versionId, row.status ≠ .verified

end VerificationWorld

/-- The events that tell a verification is resolved. -/
def VerificationTables.resolutions (t : VerificationTables) (verificationId : Nat) :
    List VerificationEventType :=
  (t.events.filter fun event => decide (event.verificationId = verificationId ∧
    event.type ≠ .verificationStarted)).map (·.type)

/-- The events of a verification in the status. -/
def VerificationStatus.resolutions : VerificationStatus → List VerificationEventType
  | .verified => [.verified]
  | .failed => [.verificationFailed]
  | .verifying | .unverified => []

/-- Each verification that left `verifying` has its record and one event, and after a verified one
its version has no other. -/
structure ResolvedOnce (t : VerificationTables) : Prop where
  announced : ∀ id row, t.verifications[id]? = some row →
    t.resolutions id = row.status.resolutions ∧ row.status ≠ .unverified ∧
      (row.record.isSome = true ↔ row.status ≠ .verifying)
  last : ∀ (i j : Nat) a b, t.verifications[i]? = some a → t.verifications[j]? = some b → i < j →
    a.destinationVersionId = b.destinationVersionId → a.status ≠ .verified

/-- What is resolved keeps its outcome. -/
def OutcomesKept (t t' : VerificationTables) : Prop :=
  ∀ (id : Nat) row, t.verifications[id]? = some row → row.status ≠ .verifying →
    ∃ row', t'.verifications[id]? = some row' ∧ row'.status = row.status ∧
      row'.record = row.record

end InrSettle
