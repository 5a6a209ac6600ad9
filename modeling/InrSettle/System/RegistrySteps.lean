import InrSettle.System.Registry
import InrSettle.System.VerifiedOnce

/-!
# Steps of the registry

What each transaction of the registry writes when it commits, and what a verification step
leaves of the versions and of the runs in progress.
-/

namespace InrSettle

open Transaction BeneficiaryTables

/-! ### The transactions -/

section Transactions

variable {fingerprinter : PayoutDetails → String} {seenAt : Snapshots} {own : OwnRows}
  {t t' : BeneficiaryTables}

/-- A version inserted and made current. -/
structure VersionAppended (t t' : BeneficiaryTables) (row : DestinationVersionRow)
    (beneficiaryId : Nat) : Prop where
  admitted : Table.admits versionKey t.versions row = true
  versions : t'.versions = t.versions ++ [row]
  destinations : t'.destinations = t.destinations.modify row.destinationId fun destination =>
    { destination with currentVersionId := some t.versions.length }
  verification : t'.verification = { t.verification with
    versions := t.verification.versions ++ [asVerified row beneficiaryId] }

/-- A transaction that leaves destinations, versions and verifications as they are. -/
structure VersionsStill (t t' : BeneficiaryTables) : Prop where
  versions : t'.versions = t.versions
  destinations : t'.destinations = t.destinations
  verification : t'.verification = t.verification

theorem VersionAppended.still {row : DestinationVersionRow} {beneficiaryId : Nat}
    {t'' : BeneficiaryTables} (appended : VersionAppended t t' row beneficiaryId)
    (still : VersionsStill t' t'') : VersionAppended t t'' row beneficiaryId :=
  ⟨appended.admitted, still.versions.trans appended.versions,
    still.destinations.trans appended.destinations,
    still.verification.trans appended.verification⟩

theorem refreshBeneficiaryStatus_commits {beneficiaryId : Nat} {status : BeneficiaryStatus} :
    Commits (refreshBeneficiaryStatus seenAt own beneficiaryId) t status t' ↔
      ∃ beneficiary facts, seenFacts seenAt own t beneficiaryId = some (beneficiary, facts) ∧
        status = deriveBeneficiaryStatus facts ∧
        t' = if status ≠ beneficiary.status then
          updateBeneficiary beneficiaryId (fun row => { row with status }) t else t := by
  simp only [refreshBeneficiaryStatus, commits_get_bind]
  cases found : seenFacts seenAt own t beneficiaryId with
  | none => simp
  | some read =>
    obtain ⟨beneficiary, facts⟩ := read
    simp only [Option.some.injEq, Prod.mk.injEq, and_assoc, exists_and_left, exists_eq_left']
    split
    · rename_i other
      rw [commits_modify_bind, commits_pure]
      exact and_congr_right fun is => by rw [is, if_pos other]
    · rename_i same
      rw [commits_pure]
      exact and_congr_right fun is => by rw [is, if_neg same]

theorem refreshBeneficiaryStatus_still {beneficiaryId : Nat} {status : BeneficiaryStatus}
    (done : Commits (refreshBeneficiaryStatus seenAt own beneficiaryId) t status t') :
    VersionsStill t t' := by
  obtain ⟨beneficiary, facts, -, -, rfl⟩ := refreshBeneficiaryStatus_commits.mp done
  split <;> exact ⟨rfl, rfl, rfl⟩

theorem appendVersion_commits {version : NewVersion} {versionId : Nat} :
    Commits (appendVersion fingerprinter version) t versionId t' ↔
      Table.admits versionKey t.versions (version.row fingerprinter) = true ∧
        versionId = t.versions.length ∧
        t' = appendEvent (.versionAdded version.action version.destinationId version.beneficiaryId
            t.versions.length version.versionNumber
            (destinationSummary (normalisePayoutDetails version.details)))
          (setCurrentVersion version.destinationId t.versions.length { t with
            versions := t.versions ++ [version.row fingerprinter]
            verification := { t.verification with
              versions := t.verification.versions ++
                [asVerified (version.row fingerprinter) version.beneficiaryId] } }) := by
  simp only [appendVersion, insertVersion, bind_assoc, commits_get_bind, commits_require_bind,
    commits_modify_bind, commits_pure_bind, commits_pure]

theorem appendVersion_appended {version : NewVersion} {versionId : Nat}
    (done : Commits (appendVersion fingerprinter version) t versionId t') :
    VersionAppended t t' (version.row fingerprinter) version.beneficiaryId := by
  obtain ⟨admitted, -, rfl⟩ := appendVersion_commits.mp done
  exact ⟨admitted, rfl, rfl, rfl⟩

theorem insertDestination_appended {input : AddDestinationInput} {id : Nat} {own' : OwnRows}
    (done : Commits (insertDestination fingerprinter seenAt own input) t (id, own') t') :
    VersionAppended
      { t with destinations := t.destinations ++
        [{ beneficiaryId := input.beneficiaryId, kind := input.details.kind }] } t'
      (NewVersion.row fingerprinter ⟨t.destinations.length, input.beneficiaryId, input.details, 1,
        "payout_destination.created"⟩) input.beneficiaryId := by
  simp only [insertDestination, commits_require_bind, commits_get_bind] at done
  obtain ⟨-, done⟩ := done
  split at done
  · exact (commits_abort.mp done).elim
  · rw [commits_modify_bind] at done
    obtain ⟨versionId, middle, appends, done⟩ := commits_bind.mp done
    refine (appendVersion_appended appends).still ?_
    split at done
    · rw [commits_modify_bind, commits_pure] at done
      obtain ⟨-, rfl⟩ := done
      exact ⟨rfl, rfl, rfl⟩
    · obtain ⟨-, rfl⟩ := commits_pure.mp done
      exact ⟨rfl, rfl, rfl⟩

theorem addPayoutDestination_commits {input : AddDestinationInput} {id : Nat} :
    Commits (addPayoutDestination fingerprinter seenAt own input) t id t' ↔
      ∃ own' written status,
        Commits (insertDestination fingerprinter seenAt own input) t (id, own') written ∧
        Commits (refreshBeneficiaryStatus seenAt own' input.beneficiaryId) written status t' := by
  rw [addPayoutDestination, commits_bind]
  constructor
  · rintro ⟨⟨id', own'⟩, written, inserts, done⟩
    obtain ⟨status, last, refreshes, done⟩ := commits_bind.mp done
    obtain ⟨rfl, rfl⟩ := commits_pure.mp done
    exact ⟨own', written, status, inserts, refreshes⟩
  · rintro ⟨own', written, status, inserts, refreshes⟩
    exact ⟨(id, own'), written, inserts,
      commits_bind.mpr ⟨status, t', refreshes, commits_pure.mpr ⟨rfl, rfl⟩⟩⟩

theorem addPayoutDestination_appended {input : AddDestinationInput} {id : Nat}
    (done : Commits (addPayoutDestination fingerprinter seenAt own input) t id t') :
    VersionAppended
      { t with destinations := t.destinations ++
        [{ beneficiaryId := input.beneficiaryId, kind := input.details.kind }] } t'
      (NewVersion.row fingerprinter ⟨t.destinations.length, input.beneficiaryId, input.details, 1,
        "payout_destination.created"⟩) input.beneficiaryId := by
  obtain ⟨own', written, status, inserts, refreshes⟩ := addPayoutDestination_commits.mp done
  exact (insertDestination_appended inserts).still (refreshBeneficiaryStatus_still refreshes)

/-- What an edit asks of the destination it has read, and of the details it is given. -/
structure EditAccepted (seenAt : Snapshots) (input : EditDestinationInput)
    (destination : PayoutDestination) : Prop where
  valid : validatePayoutDetails input.details = []
  found : seenAt.subject.destinations[input.destinationId]? = some destination
  enabled : destination.disabledAt = none
  kind : destination.kind = input.details.kind

/-- The tables with the version superseded. -/
def superseded (t : BeneficiaryTables) (versionId : Nat) (now : Instant) : BeneficiaryTables :=
  { t with versions := t.versions.modify versionId fun row =>
    { row with supersededAt := some now } }

theorem setSuperseded_commits {versionId : Nat} {now : Instant} {u : PUnit} :
    Commits (setSuperseded versionId now) t u t' ↔
      (∀ row, t.versions[versionId]? = some row →
        row.supersededAt = none ∨ row.supersededAt = some now) ∧
        t' = superseded t versionId now := by
  simp only [setSuperseded, commits_get_bind, commits_require_bind, commits_modify]
  refine and_congr_left fun _ => ?_
  cases t.versions[versionId]? with
  | none => simp
  | some row => cases is : row.supersededAt <;> simp [is]

/-- What an edit does once it has found the details changed. -/
structure VersionReplaced (seenAt : Snapshots) (input : EditDestinationInput)
    (destination : PayoutDestination) (fingerprinter : PayoutDetails → String)
    (t t' : BeneficiaryTables) : Prop where
  accepted : EditAccepted seenAt input destination
  changed : ∀ version, latestVersion seenAt.current input.destinationId = some version →
    version.1.detailsFingerprint ≠ fingerprinter input.details
  free : ∀ version row, latestVersion seenAt.current input.destinationId = some version →
    t.versions[version.2]? = some row →
    row.supersededAt = none ∨ row.supersededAt = some input.now
  appended : VersionAppended
    (((latestVersion seenAt.current input.destinationId).map fun version =>
      superseded t version.2 input.now).getD t) t'
    (NewVersion.row fingerprinter ⟨input.destinationId, destination.beneficiaryId, input.details,
      ((latestVersion seenAt.current input.destinationId).map (·.1.versionNumber)).getD 0 + 1,
      "payout_destination.version_created"⟩) destination.beneficiaryId

theorem VersionReplaced.still {input : EditDestinationInput} {destination : PayoutDestination}
    {t'' : BeneficiaryTables}
    (replaced : VersionReplaced seenAt input destination fingerprinter t t')
    (still : VersionsStill t' t'') :
    VersionReplaced seenAt input destination fingerprinter t t'' :=
  ⟨replaced.accepted, replaced.changed, replaced.free, replaced.appended.still still⟩

theorem replaceVersion_commits {input : EditDestinationInput} {beneficiaryId : Option Nat}
    (done : Commits (replaceVersion fingerprinter seenAt input) t beneficiaryId t') :
    (beneficiaryId = none ∧ t' = t ∧
      ∃ version, latestVersion seenAt.current input.destinationId = some version ∧
        version.1.detailsFingerprint = fingerprinter input.details) ∨
      ∃ destination, beneficiaryId = some destination.beneficiaryId ∧
        VersionReplaced seenAt input destination fingerprinter t t' ∧
        t'.beneficiaries = t.beneficiaries := by
  simp only [replaceVersion, commits_require_bind] at done
  obtain ⟨valid, done⟩ := done
  cases found : seenAt.subject.destinations[input.destinationId]? with
  | none =>
    rw [found] at done
    exact (commits_abort.mp done).elim
  | some destination =>
    simp only [found, commits_require_bind] at done
    obtain ⟨enabled, kind, done⟩ := done
    have accepted : EditAccepted seenAt input destination := ⟨valid, found, enabled, kind⟩
    cases latest : latestVersion seenAt.current input.destinationId with
    | none =>
      simp only [latest, Option.any_none, Bool.false_eq_true, if_false, Option.map_none,
        Option.getD_none] at done
      obtain ⟨versionId, last, appends, done⟩ := commits_bind.mp done
      obtain ⟨rfl, rfl⟩ := commits_pure.mp done
      refine .inr ⟨destination, rfl, ⟨accepted, by simp [latest], by simp [latest], ?_⟩, ?_⟩
      · simpa only [latest, Option.map_none, Option.getD_none] using appendVersion_appended appends
      · obtain ⟨-, -, rfl⟩ := appendVersion_commits.mp appends
        rfl
    | some version =>
      simp only [latest, Option.any_some, decide_eq_true_eq, Option.map_some,
        Option.getD_some] at done
      split at done
      · rename_i same
        obtain ⟨rfl, rfl⟩ := commits_pure.mp done
        exact .inl ⟨rfl, rfl, version, rfl, same⟩
      · rename_i differs
        obtain ⟨u, middle, supersedes, done⟩ := commits_bind.mp done
        obtain ⟨free, rfl⟩ := setSuperseded_commits.mp supersedes
        obtain ⟨versionId, last, appends, done⟩ := commits_bind.mp done
        obtain ⟨rfl, rfl⟩ := commits_pure.mp done
        refine .inr ⟨destination, rfl, ⟨accepted, ?_, ?_, ?_⟩, ?_⟩
        · intro v is
          rw [latest, Option.some.injEq] at is
          exact is ▸ differs
        · intro v row is
          rw [latest, Option.some.injEq] at is
          exact is ▸ free row
        · simpa only [latest, Option.map_some, Option.getD_some] using
            appendVersion_appended appends
        · obtain ⟨-, -, rfl⟩ := appendVersion_commits.mp appends
          rfl

theorem editPayoutDestination_true {input : EditDestinationInput} :
    Commits (editPayoutDestination fingerprinter seenAt input) t true t' ↔
      ∃ beneficiaryId written status,
        Commits (replaceVersion fingerprinter seenAt input) t (some beneficiaryId) written ∧
        Commits (refreshBeneficiaryStatus seenAt { destination := some input.destinationId }
          beneficiaryId) written status t' := by
  rw [editPayoutDestination, commits_bind]
  constructor
  · rintro ⟨_ | beneficiaryId, written, replaces, done⟩
    · cases (commits_pure.mp done).1
    · obtain ⟨status, last, refreshes, done⟩ := commits_bind.mp done
      obtain ⟨-, rfl⟩ := commits_pure.mp done
      exact ⟨beneficiaryId, written, status, replaces, refreshes⟩
  · rintro ⟨beneficiaryId, written, status, replaces, refreshes⟩
    exact ⟨some beneficiaryId, written, replaces,
      commits_bind.mpr ⟨status, t', refreshes, commits_pure.mpr ⟨rfl, rfl⟩⟩⟩

theorem editPayoutDestination_false {input : EditDestinationInput} :
    Commits (editPayoutDestination fingerprinter seenAt input) t false t' ↔
      Commits (replaceVersion fingerprinter seenAt input) t none t' := by
  rw [editPayoutDestination, commits_bind]
  constructor
  · rintro ⟨_ | beneficiaryId, written, replaces, done⟩
    · rw [(commits_pure.mp done).2]
      exact replaces
    · obtain ⟨status, last, refreshes, done⟩ := commits_bind.mp done
      cases (commits_pure.mp done).1
  · intro replaces
    exact ⟨none, t', replaces, commits_pure.mpr ⟨rfl, rfl⟩⟩

theorem editPayoutDestination_commits {input : EditDestinationInput} {created : Bool}
    (done : Commits (editPayoutDestination fingerprinter seenAt input) t created t') :
    (created = false ∧ t' = t ∧
      ∃ version, latestVersion seenAt.current input.destinationId = some version ∧
        version.1.detailsFingerprint = fingerprinter input.details) ∨
      (created = true ∧
        ∃ destination, VersionReplaced seenAt input destination fingerprinter t t') := by
  cases created with
  | false =>
    rcases replaceVersion_commits (editPayoutDestination_false.mp done) with
      ⟨-, same, matching⟩ | ⟨destination, no, -⟩
    · exact .inl ⟨rfl, same, matching⟩
    · cases no
  | true =>
    obtain ⟨beneficiaryId, written, status, replaces, refreshes⟩ :=
      editPayoutDestination_true.mp done
    rcases replaceVersion_commits replaces with ⟨no, -⟩ | ⟨destination, -, replaced, -⟩
    · cases no
    · exact .inr ⟨rfl, destination, replaced.still (refreshBeneficiaryStatus_still refreshes)⟩

theorem createBeneficiary_commits {input : CreateBeneficiaryInput} {id : Nat}
    (done : Commits (createBeneficiary fingerprinter seenAt input) t id t') :
    VersionsStill t t' ∨ ∃ details, VersionAppended
      { t with destinations := t.destinations ++
        [{ beneficiaryId := t.beneficiaries.length, kind := details.kind }] } t'
      (NewVersion.row fingerprinter ⟨t.destinations.length, t.beneficiaries.length, details, 1,
        "payout_destination.created"⟩) t.beneficiaries.length := by
  simp only [createBeneficiary, commits_require_bind, commits_get_bind, commits_modify_bind] at done
  obtain ⟨-, -, done⟩ := done
  cases given : input.destination with
  | none =>
    simp only [given, commits_pure] at done
    obtain ⟨-, rfl⟩ := done
    exact .inl ⟨rfl, rfl, rfl⟩
  | some details =>
    simp only [given] at done
    obtain ⟨destinationId, last, adds, done⟩ := commits_bind.mp done
    rw [commits_pure] at done
    obtain ⟨-, rfl⟩ := done
    obtain ⟨admitted, versions, destinations, verification⟩ := addPayoutDestination_appended adds
    exact .inr ⟨details, admitted, versions, destinations, verification⟩

end Transactions

/-! ### Verification steps -/

namespace VerificationWorld

variable {policies : NameMatchPolicySet} {w : VerificationWorld} {op : VerificationOp}

/-- Each verification is one that was there, or the one the step opens. -/
theorem mem_step {row : DestinationVerification}
    (mem : row ∈ (w.step policies op).tables.verifications) :
    (∃ old ∈ w.tables.verifications, old.destinationVersionId = row.destinationVersionId) ∨
      w.Opens op row.destinationVersionId := by
  have modified : ∀ {id : Nat} {set : DestinationVerification → DestinationVerification},
      (∀ row, (set row).destinationVersionId = row.destinationVersionId) →
      row ∈ w.tables.verifications.modify id set →
      ∃ old ∈ w.tables.verifications, old.destinationVersionId = row.destinationVersionId := by
    intro id set kept mem
    obtain ⟨i, at'⟩ := List.mem_iff_getElem?.mp mem
    obtain ⟨old, found, rfl⟩ := Table.getElem?_modify_some.mp at'
    refine ⟨old, List.mem_of_getElem? found, ?_⟩
    split
    · exact (kept old).symm
    · rfl
  cases step_change policies w op with
  | still verifications events => exact .inl ⟨row, verifications ▸ mem, rfl⟩
  | started id set event kept verifications events type =>
    exact .inl (modified (fun row => (kept row).1) (verifications ▸ mem))
  | opened new opens change =>
    rw [change.verifications] at mem
    rcases List.mem_append.mp mem with old | is
    · exact .inl ⟨row, old, rfl⟩
    · rw [List.mem_singleton.mp is]
      exact .inr opens
  | resolved id resolves change =>
    obtain ⟨_, _, _, _, -, verifications, -⟩ := change.written
    rw [verifications] at mem
    refine .inl (modified ?_ mem)
    exact fun _ => rfl

theorem recordAnswer_versions {loaded : LoadedVerification} {outcome : VerificationOutcome}
    {now : Instant} {t t' : VerificationTables} {status : VerificationStatus}
    (done : Commits (recordAnswer policies loaded outcome now) t status t') :
    t'.versions = t.versions := by
  cases outcome <;>
    simp only [recordAnswer, VerificationTables.setProviderReference, applyOutcome,
      VerificationTables.setResolved, bind_assoc, commits_get_bind, commits_require_bind,
      commits_modify_bind, commits_pure] at done <;>
    obtain ⟨-, -, rfl⟩ := done <;> rfl

theorem applyCallback_versions {loaded : LoadedVerification} {finding : Finding}
    {providerEventId : String} {now : Instant} {t t' : VerificationTables}
    {status : VerificationStatus}
    (done : Commits (InrSettle.applyCallback policies loaded finding providerEventId now) t status
      t') : t'.versions = t.versions := by
  simp only [InrSettle.applyCallback, VerificationTables.insertProviderEvent, applyOutcome,
    VerificationTables.setResolved, bind_assoc, commits_get_bind, commits_require_bind,
    commits_modify_bind, commits_pure_bind, commits_pure] at done
  obtain ⟨-, -, -, rfl⟩ := done
  rfl

theorem insertVerification_versions {row : DestinationVerification} {id : Nat}
    {t t' : VerificationTables}
    (done : Commits (VerificationTables.insertVerification row) t id t') :
    t'.versions = t.versions := by
  simp only [VerificationTables.insertVerification, commits_get_bind, commits_require_bind,
    commits_modify_bind, commits_pure] at done
  obtain ⟨-, -, rfl⟩ := done
  rfl

/-- Versions are added by no other step. -/
theorem step_versions (added : ∀ version, op ≠ .addVersion version) :
    (w.step policies op).tables.versions = w.tables.versions := by
  have onTables : ∀ {α : Type} (runId : Nat) (tx : VerificationTx α),
      (∀ a t', Commits tx w.tables a t' → t'.versions = w.tables.versions) →
      (w.onTables runId tx).tables.versions = w.tables.versions := fun runId tx kept =>
    after_induction (P := fun t : VerificationTables => t.versions = w.tables.versions) rfl kept
  cases op with
  | addVersion version => exact (added version rfl).elim
  | openVerification versionId provider requestedBy =>
    rw [step]
    split <;> rfl
  | insertVerification runId =>
    rw [step]
    split
    · exact onTables _ _ fun _ _ => insertVerification_versions
    · rfl
  | loadVerification provider verificationId names =>
    rw [step]
    split <;> rfl
  | recordAnswer runId outcome now =>
    rw [step]
    split
    · exact onTables _ _ fun _ _ => recordAnswer_versions
    · rfl
  | receiveCallback provider providerEventId signatureValid callback names =>
    rw [step, receiveCallback]
    split_ifs
    · rfl
    · rfl
    · split <;> rfl
  | applyCallback runId now =>
    rw [step]
    split
    · exact onTables _ _ fun _ _ => applyCallback_versions
    · rfl
  | lose runId => rfl

/-- What the run has read as it begins. -/
def Begins (w : VerificationWorld) : VerificationRun → Prop
  | .opening versionId _ _ => mayOpen w.tables versionId = .ok ()
  | .asking loaded => ∃ provider verificationId names,
      InrSettle.loadVerification w.tables provider verificationId names = .ok loaded
  | .applying loaded finding _ => ∃ provider signatureValid callback names,
      readCallback w.tables provider signatureValid callback names = .applicable loaded finding
  | .ended => True

theorem mem_step_runs {r : VerificationRun} (mem : r ∈ (w.step policies op).runs) :
    r ∈ w.runs ∨ w.Begins r := by
  have onTables : ∀ {α : Type} {runId : Nat} {tx : VerificationTx α},
      r ∈ (w.onTables runId tx).runs → r ∈ w.runs ∨ w.Begins r := by
    intro α runId tx mem
    rcases List.mem_or_eq_of_mem_set mem with old | rfl
    · exact .inl old
    · exact .inr True.intro
  have began : ∀ {new : VerificationRun}, r ∈ w.runs ++ [new] → w.Begins new →
      r ∈ w.runs ∨ w.Begins r := by
    intro new mem begins
    rcases List.mem_append.mp mem with old | is
    · exact .inl old
    · exact .inr (List.mem_singleton.mp is ▸ begins)
  cases op with
  | addVersion version => exact .inl mem
  | openVerification versionId provider requestedBy =>
    rw [step] at mem
    split at mem
    · rename_i may
      exact began mem may
    · exact .inl mem
  | insertVerification runId =>
    rw [step] at mem
    split at mem
    · exact onTables mem
    · exact .inl mem
  | loadVerification provider verificationId names =>
    rw [step] at mem
    split at mem
    · rename_i loaded read
      exact began mem ⟨provider, verificationId, names, read⟩
    · exact .inl mem
  | recordAnswer runId outcome now =>
    rw [step] at mem
    split at mem
    · exact onTables mem
    · exact .inl mem
  | receiveCallback provider providerEventId signatureValid callback names =>
    rw [step, receiveCallback] at mem
    split_ifs at mem
    · exact .inl mem
    · exact .inl mem
    · split at mem
      · exact .inl mem
      · rename_i loaded finding read
        exact began mem ⟨provider, signatureValid, callback, names, read⟩
  | applyCallback runId now =>
    rw [step] at mem
    split at mem
    · exact onTables mem
    · exact .inl mem
  | lose runId =>
    rcases List.mem_or_eq_of_mem_set mem with old | rfl
    · exact .inl old
    · exact .inr True.intro

/-- A request stands for a version that is there. -/
def Requested (w : VerificationWorld) : Prop :=
  ∀ versionId provider requestedBy, .opening versionId provider requestedBy ∈ w.runs →
    versionId < w.tables.versions.length

theorem requested_step (held : w.Requested) (added : ∀ version, op ≠ .addVersion version) :
    (w.step policies op).Requested := by
  intro versionId provider requestedBy mem
  rw [step_versions added]
  rcases mem_step_runs mem with old | begins
  · exact held versionId provider requestedBy old
  · simp only [Begins, mayOpen] at begins
    split at begins
    · cases begins
    · rename_i known
      simpa [Nat.not_le] using known

theorem requested_opens {versionId : Nat} (held : w.Requested) (opens : w.Opens op versionId) :
    versionId < w.tables.versions.length := by
  cases op with
  | insertVerification runId =>
    obtain ⟨provider, requestedBy, found, -⟩ := opens
    exact held versionId provider requestedBy (List.mem_of_getElem? found)
  | _ => exact opens.elim

end VerificationWorld

end InrSettle
