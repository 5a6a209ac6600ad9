import InrSettle.Service.Beneficiary
import InrSettle.System.Verifications

/-!
# The registry of beneficiaries

Beneficiaries, destinations and verifications of one tenant, under READ COMMITTED: what a
transaction writes is committed at once, and each of its statements reads some committed
state before that.
-/

namespace InrSettle

open Transaction Run

/-- The committed states the statements of a transaction see, counted back from the last one. -/
structure ReadPoints where
  subject : Nat := 0
  current : Nat := 0
  beneficiary : Nat := 0
  destinations : Nat := 0
  verifications : Nat := 0
  deriving DecidableEq

inductive RegistryOp where
  | createBeneficiary (reads : ReadPoints) (input : CreateBeneficiaryInput)
  | addPayoutDestination (reads : ReadPoints) (input : AddDestinationInput)
  | editPayoutDestination (reads : ReadPoints) (input : EditDestinationInput)
  | disableBeneficiary (reads : ReadPoints) (beneficiaryId : Nat) (now : Instant)
  | verification (reads : ReadPoints) (op : VerificationOp)

structure Registry where
  now : BeneficiaryTables
  /-- The committed states before, the last one first. -/
  past : List BeneficiaryTables
  runs : List VerificationRun

/-- The verification a step commits an outcome for. -/
def VerificationWorld.resolved (policies : NameMatchPolicySet) (w : VerificationWorld) :
    VerificationOp → Option LoadedVerification
  | .recordAnswer runId outcome now => match w.runs[runId]?, outcome with
    | some (.asking _), .verifying _ => none
    | some (.asking loaded), outcome =>
      (answer (recordAnswer policies loaded outcome now) w.tables).map fun _ => loaded
    | _, _ => none
  | .applyCallback runId now => match w.runs[runId]? with
    | some (.applying loaded finding providerEventId) =>
      (answer (InrSettle.applyCallback policies loaded finding providerEventId now)
        w.tables).map fun _ => loaded
    | _ => none
  | _ => none

namespace Registry

def start : Registry := ⟨.empty, [], []⟩

def asOf (w : Registry) : Nat → BeneficiaryTables
  | 0 => w.now
  | n + 1 => (w.past[n]?).getD w.now

def snapshots (w : Registry) (reads : ReadPoints) : Snapshots where
  subject := w.asOf reads.subject
  current := w.asOf reads.current
  beneficiary := w.asOf reads.beneficiary
  destinations := w.asOf reads.destinations
  verifications := w.asOf reads.verifications

def verifications (w : Registry) : VerificationWorld := ⟨w.now.verification, w.runs⟩

def commit {α : Type} (w : Registry) (tx : BeneficiaryTx α) : Registry :=
  { w with now := after tx w.now, past := w.now :: w.past }

variable (policies : NameMatchPolicySet) (fingerprinter : PayoutDetails → String)

/-- The tables a verification step has written, before the status is recomputed. -/
def written (w : Registry) (op : VerificationOp) : BeneficiaryTables :=
  { w.now with verification := (w.verifications.step policies op).tables }

/-- The end of `applyOutcome`, in its transaction. -/
def recompute (w : Registry) (reads : ReadPoints) (loaded : LoadedVerification) :
    BeneficiaryTx BeneficiaryStatus :=
  refreshBeneficiaryStatus (w.snapshots reads) { verification := some loaded.verificationId }
    loaded.beneficiaryId

/-- What a verification step commits: an outcome with the status recomputed after it. -/
def settled (w : Registry) (reads : ReadPoints) (op : VerificationOp) : BeneficiaryTables :=
  match w.verifications.resolved policies op with
  | none => w.written policies op
  | some loaded => match answer (w.recompute reads loaded) (w.written policies op) with
    | none => w.now
    | some _ => after (w.recompute reads loaded) (w.written policies op)

/-- Versions come from destinations alone, and what a stored callback alone writes is read by
no one else. -/
def verify (w : Registry) (reads : ReadPoints) (op : VerificationOp) : Registry :=
  match op with
  | .addVersion _ => w
  | .receiveCallback .. =>
    { w with now := w.written policies op, runs := (w.verifications.step policies op).runs }
  | op =>
    { now := w.settled policies reads op
      past := w.now :: w.past
      runs := (w.verifications.step policies op).runs }

def step (w : Registry) : RegistryOp → Registry
  | .createBeneficiary reads input =>
    w.commit (InrSettle.createBeneficiary fingerprinter (w.snapshots reads) input)
  | .addPayoutDestination reads input =>
    w.commit (InrSettle.addPayoutDestination fingerprinter (w.snapshots reads) {} input)
  | .editPayoutDestination reads input =>
    w.commit (InrSettle.editPayoutDestination fingerprinter (w.snapshots reads) input)
  | .disableBeneficiary reads beneficiaryId now =>
    w.commit (InrSettle.disableBeneficiary (w.snapshots reads) beneficiaryId now)
  | .verification reads op => w.verify policies reads op

end Registry

end InrSettle
