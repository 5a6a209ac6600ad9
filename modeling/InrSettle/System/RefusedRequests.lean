import InrSettle.System.RegistrySteps

/-!
# Refused verification requests

A request commits its verification before its job reads anything, and others may commit in
between. A job that cannot ask the provider about the kind of the destination refuses and leaves
the verification as it is.
-/

namespace InrSettle

open Transaction Run VerificationTables

structure VerificationRequest where
  destinationVersionId : Nat
  provider : VerificationProvider
  requestedBy : String
  /-- The beneficiary's own name. -/
  names : String

/-- What others commit while a request has no transaction open. -/
structure Between where
  beforeInsert : List VerificationOp
  beforeJob : List VerificationOp
  beforeRecord : List VerificationOp

/-- How a request ends. -/
inductive VerificationRequestEnd where
  | refused (reason : RequestVerificationRefusal)
  | answered (verificationId : Nat) (status : VerificationStatus)
  | threw
  deriving DecidableEq

/-- A request that has ended, with the verification it committed, if any. -/
structure EndedRequest where
  world : VerificationWorld
  created : Option Nat
  ended : VerificationRequestEnd

section

variable (policies : NameMatchPolicySet)

/-- The transaction that commits the verification, with what others commit while it is open. -/
def openVerification (w : VerificationWorld) (request : VerificationRequest)
    (between : Between) : VerificationWorld × Except VerificationRequestEnd Nat :=
  match mayOpen w.tables request.destinationVersionId with
  | .error reason => (w, .error (.refused reason))
  | .ok () =>
    let w := run (VerificationWorld.step policies) w between.beforeInsert
    match (insertVerification (openedVerification request.provider request.destinationVersionId
        request.requestedBy)).run w.tables with
    | .error _ => (w, .error .threw)
    | .ok (verificationId, tables) => ({ w with tables }, .ok verificationId)

/-- The job; `outcome` is the provider's answer, or nothing where its call throws. -/
def runBeneficiaryVerifyJob (w : VerificationWorld) (request : VerificationRequest)
    (between : Between) (verificationId : Nat) (outcome : Option VerificationOutcome)
    (now : Instant) : VerificationWorld × Option (Except VerifyJobRefusal VerificationStatus) :=
  match loadVerification w.tables request.provider verificationId request.names with
  | .error reason => (w, some (.error reason))
  | .ok loaded =>
    let w := run (VerificationWorld.step policies) w between.beforeRecord
    match outcome with
    | none => (w, none)
    | some outcome => match (recordAnswer policies loaded outcome now).run w.tables with
      | .error _ => (w, none)
      | .ok (status, tables) => ({ w with tables }, some (.ok status))

def requestVerification (w : VerificationWorld) (request : VerificationRequest)
    (between : Between) (outcome : Option VerificationOutcome) (now : Instant) : EndedRequest :=
  match openVerification policies w request between with
  | (w, .error ended) => ⟨w, none, ended⟩
  | (w, .ok verificationId) =>
    let w := run (VerificationWorld.step policies) w between.beforeJob
    match runBeneficiaryVerifyJob policies w request between verificationId outcome now with
    | (w, none) => ⟨w, some verificationId, .threw⟩
    | (w, some (.ok status)) => ⟨w, some verificationId, .answered verificationId status⟩
    | (w, some (.error .unsupportedKind)) => ⟨w, some verificationId, .refused .unsupportedKind⟩
    | (w, some (.error .unknownVerification)) | (w, some (.error .alreadyResolved)) =>
      ⟨w, some verificationId, .refused .versionNotFound⟩

/-! ### What others leave -/

/-- Versions stay as they are, and verifications stay verifications of their version. -/
structure VersionsKept (w w' : VerificationWorld) : Prop where
  versions : ∀ (id : Nat) version, w.tables.versions[id]? = some version →
    w'.tables.versions[id]? = some version
  rows : ∀ (id : Nat) row, w.tables.verifications[id]? = some row →
    ∃ row', w'.tables.verifications[id]? = some row' ∧
      row'.destinationVersionId = row.destinationVersionId

instance : Std.Refl VersionsKept :=
  ⟨fun _ => ⟨fun _ _ found => found, fun _ row found => ⟨row, found, rfl⟩⟩⟩

instance : IsTrans VerificationWorld VersionsKept := ⟨fun _ _ _ first second =>
  ⟨fun id version found => second.versions id version (first.versions id version found),
    fun id row found => by
      obtain ⟨row', found', same'⟩ := first.rows id row found
      obtain ⟨row'', found'', same''⟩ := second.rows id row' found'
      exact ⟨row'', found'', same''.trans same'⟩⟩⟩

theorem rows_modify {t t' : VerificationTables} {verificationId : Nat}
    {set : DestinationVerification → DestinationVerification}
    (kept : ∀ row, (set row).destinationVersionId = row.destinationVersionId)
    (verifications : t'.verifications = t.verifications.modify verificationId set) (id : Nat)
    (row : DestinationVerification) (found : t.verifications[id]? = some row) :
    ∃ row', t'.verifications[id]? = some row' ∧
      row'.destinationVersionId = row.destinationVersionId := by
  rw [verifications, List.getElem?_modify, found]
  by_cases same : verificationId = id
  · exact ⟨set row, by simp [same], kept row⟩
  · exact ⟨row, by simp [same], rfl⟩

theorem step_versionsKept (w : VerificationWorld) (op : VerificationOp) :
    VersionsKept w (w.step policies op) := by
  refine ⟨fun id version found => ?_, fun id row found => ?_⟩
  · by_cases added : ∃ new, op = .addVersion new
    · obtain ⟨new, rfl⟩ := added
      exact (List.getElem?_append_left (List.getElem?_eq_some_iff.mp found).1).trans found
    · rw [VerificationWorld.step_versions fun new is => added ⟨new, is⟩, found]
  · cases VerificationWorld.step_change policies w op with
    | still verifications events => exact ⟨row, by rw [verifications, found], rfl⟩
    | started verificationId set event kept verifications events type =>
      exact rows_modify (fun row => (kept row).1) verifications id row found
    | opened new opens change =>
      refine ⟨row, ?_, rfl⟩
      rw [change.verifications, List.getElem?_append_left (List.getElem?_eq_some_iff.mp found).1,
        found]
    | resolved verificationId resolves change =>
      obtain ⟨status, record, eventId, event, -, verifications, -⟩ := change
      refine rows_modify ?_ verifications id row found
      exact fun _ => rfl

theorem run_versionsKept (w : VerificationWorld) (ops : List VerificationOp) :
    VersionsKept w (run (VerificationWorld.step policies) w ops) :=
  run_related (step_versionsKept policies) w ops

/-! ### The refusal -/

/-- A refusal leaves no verification in flight that the request has committed. -/
def LeavesNothing (ended : EndedRequest) : Prop :=
  ∀ reason, ended.ended = .refused reason → ∀ verificationId, ended.created = some verificationId →
    ∀ row, ended.world.tables.verifications[verificationId]? = some row → row.status ≠ .verifying

/-- The provider supports the kind of the version. -/
def Supported (w : VerificationWorld) (request : VerificationRequest) : Prop :=
  ∀ version, w.tables.versions[request.destinationVersionId]? = some version →
    version.kind ∈ request.provider.supports

/-- A verification the request commits is resolved before its job reads it. -/
def ResolvedBeforeJob (w : VerificationWorld) (request : VerificationRequest) (between : Between) :
    Prop :=
  ∀ w' verificationId, openVerification policies w request between = (w', .ok verificationId) →
    ∀ row, (run (VerificationWorld.step policies) w' between.beforeJob).tables.verifications[
      verificationId]? = some row → row.status ≠ .verifying

variable {policies} {w : VerificationWorld} {request : VerificationRequest} {between : Between}

/-- What a request has committed when its job reads it. -/
theorem opened_row {w' : VerificationWorld} {verificationId : Nat}
    (opened : openVerification policies w request between = (w', .ok verificationId)) :
    (∃ row, (run (VerificationWorld.step policies) w' between.beforeJob).tables.verifications[
        verificationId]? = some row ∧ row.destinationVersionId = request.destinationVersionId) ∧
      ∃ version, w.tables.versions[request.destinationVersionId]? = some version ∧
        (run (VerificationWorld.step policies) w' between.beforeJob).tables.versions[
          request.destinationVersionId]? = some version := by
  unfold openVerification at opened
  split at opened
  · cases opened
  rename_i allowed
  dsimp only at opened
  split at opened
  · cases opened
  rename_i id tables inserted
  obtain ⟨rfl, is⟩ := Prod.mk.inj opened
  cases is
  have committed : Commits (insertVerification (openedVerification request.provider
      request.destinationVersionId request.requestedBy))
      (run (VerificationWorld.step policies) w between.beforeInsert).tables verificationId tables := by
    rw [Commits, inserted]
  have before := run_versionsKept policies w between.beforeInsert
  have after := run_versionsKept policies ({ run (VerificationWorld.step policies) w
    between.beforeInsert with tables } : VerificationWorld) between.beforeJob
  constructor
  · refine after.rows verificationId (openedVerification request.provider request.destinationVersionId
      request.requestedBy) ?_
    simp only [insertVerification, commits_get_bind, commits_require_bind, commits_modify_bind,
      commits_pure] at committed
    obtain ⟨-, rfl, rfl⟩ := committed
    exact List.getElem?_concat_length
  · have present : w.tables.versions[request.destinationVersionId]? ≠ none := fun absent => by
      simp [mayOpen, absent] at allowed
    obtain ⟨version, found⟩ := Option.ne_none_iff_exists'.mp present
    refine ⟨version, found, after.versions _ _ ?_⟩
    rw [VerificationWorld.insertVerification_versions committed]
    exact before.versions _ _ found

/-- A job that refuses because of the kind does so of a verification in flight, and one that refuses
for another reason does not. -/
theorem load_error {w' : VerificationWorld} {verificationId : Nat} {row : DestinationVerification}
    {version : DestinationVersion} {reason : VerifyJobRefusal}
    (found : w'.tables.verifications[verificationId]? = some row)
    (of : row.destinationVersionId = request.destinationVersionId)
    (is : w'.tables.versions[request.destinationVersionId]? = some version)
    (refused : loadVerification w'.tables request.provider verificationId request.names =
      .error reason) :
    reason = .alreadyResolved ∧ row.status ≠ .verifying ∨
      reason = .unsupportedKind ∧ row.status = .verifying ∧
        version.kind ∉ request.provider.supports := by
  simp only [loadVerification, found, of, is] at refused
  split at refused
  · rename_i resolved
    cases refused
    exact .inl ⟨rfl, resolved⟩
  · rename_i verifying
    split at refused
    · cases refused
    · rename_i unsupported
      cases refused
      exact .inr ⟨rfl, not_not.mp verifying, unsupported⟩

/-- A job that cannot load its verification ends the request with a refusal. -/
theorem request_of_load_error {w' : VerificationWorld} {verificationId : Nat}
    {reason : VerifyJobRefusal} (outcome : Option VerificationOutcome) (now : Instant)
    (opened : openVerification policies w request between = (w', .ok verificationId))
    (refused : loadVerification (run (VerificationWorld.step policies) w' between.beforeJob).tables
      request.provider verificationId request.names = .error reason) :
    requestVerification policies w request between outcome now =
      ⟨run (VerificationWorld.step policies) w' between.beforeJob, some verificationId,
        .refused (if reason = .unsupportedKind then .unsupportedKind else .versionNotFound)⟩ := by
  simp only [requestVerification, opened, runBeneficiaryVerifyJob, refused]
  cases reason <;> rfl

theorem job_error {w' : VerificationWorld} {verificationId : Nat}
    {outcome : Option VerificationOutcome} {now : Instant} {reason : VerifyJobRefusal}
    (refused : runBeneficiaryVerifyJob policies w request between verificationId outcome now =
      (w', some (.error reason))) :
    loadVerification w.tables request.provider verificationId request.names = .error reason := by
  unfold runBeneficiaryVerifyJob at refused
  split at refused
  · rename_i failed
    cases refused
    exact failed
  · cases outcome with
    | none => cases refused
    | some outcome =>
      dsimp only at refused
      split at refused <;> cases refused

/-- A refused request has committed nothing, or its job could not load what it has. -/
theorem load_error_of_refused {outcome : Option VerificationOutcome} {now : Instant}
    {reason : RequestVerificationRefusal} {verificationId : Nat}
    (refused : (requestVerification policies w request between outcome now).ended = .refused reason)
    (created : (requestVerification policies w request between outcome now).created =
      some verificationId) :
    ∃ w' reason, openVerification policies w request between = (w', .ok verificationId) ∧
      loadVerification (run (VerificationWorld.step policies) w' between.beforeJob).tables
        request.provider verificationId request.names = .error reason := by
  unfold requestVerification at refused created
  split at refused
  · rename_i opened
    simp only [opened] at created
    cases created
  rename_i w' id opened
  simp only [opened] at created
  have same : id = verificationId := by
    split at created <;> exact Option.some.inj created
  subst same
  dsimp only at refused
  split at refused
  · cases refused
  · cases refused
  all_goals
    rename_i error
    exact ⟨w', _, opened, job_error error⟩

end

/-- A refused request leaves nothing in flight exactly if its provider supports the kind of the
version, or another resolves what the request has committed before its job reads it; what is
refused earlier has committed nothing. -/
theorem leavesNothing_iff (policies : NameMatchPolicySet) (w : VerificationWorld)
    (request : VerificationRequest) (between : Between) (outcome : Option VerificationOutcome)
    (now : Instant) :
    LeavesNothing (requestVerification policies w request between outcome now) ↔
      Supported w request ∨ ResolvedBeforeJob policies w request between := by
  constructor
  · intro leaves
    refine or_iff_not_imp_left.mpr fun unsupported w' verificationId opened row found verifying => ?_
    obtain ⟨⟨_, found', of⟩, version, stands, is⟩ := opened_row opened
    cases found.symm.trans found'
    have kind : version.kind ∉ request.provider.supports := fun mem =>
      unsupported fun other stands' => Option.some.inj (stands.symm.trans stands') ▸ mem
    have refused : loadVerification (run (VerificationWorld.step policies) w'
        between.beforeJob).tables request.provider verificationId request.names =
          .error .unsupportedKind := by
      simp only [loadVerification, found, verifying, of, is, kind, ne_eq, not_true_eq_false,
        if_false]
    have ended := request_of_load_error outcome now opened refused
    refine leaves .unsupportedKind ?_ verificationId ?_ row ?_ verifying
    · rw [ended, if_pos rfl]
    · rw [ended]
    · rw [ended, found]
  · intro condition reason refused verificationId created row found
    obtain ⟨w', reason', opened, error⟩ := load_error_of_refused refused created
    obtain ⟨⟨row', found', of⟩, version, stands, is⟩ := opened_row opened
    rw [request_of_load_error outcome now opened error] at found
    cases found.symm.trans found'
    rcases load_error found of is error with ⟨-, resolved⟩ | ⟨-, verifying, unsupported⟩
    · exact resolved
    · rcases condition with supported | resolved
      · exact (unsupported (supported version stands)).elim
      · exact resolved w' verificationId opened row found

/-- A destination of a kind the provider does not support. -/
def upiRequest : VerificationRequest := ⟨0, bank, "user", ""⟩

def upiWorld : VerificationWorld := ⟨⟨[⟨0, 0, .upi, none⟩], [], [], []⟩, []⟩

/-- The request is refused, and so is every later one. -/
theorem not_always_leavesNothing :
    (¬ ∀ (policies : NameMatchPolicySet) (w : VerificationWorld) (request : VerificationRequest)
      (between : Between) (outcome : Option VerificationOutcome) (now : Instant),
      LeavesNothing (requestVerification policies w request between outcome now)) ∧
    mayOpen (requestVerification asserting upiWorld upiRequest ⟨[], [], []⟩ none 0).world.tables 0 =
      .error .alreadyInFlight := by
  refine ⟨fun always => ?_, rfl⟩
  exact always asserting upiWorld upiRequest ⟨[], [], []⟩ none 0 .unsupportedKind rfl 0 rfl _ rfl rfl

end InrSettle
