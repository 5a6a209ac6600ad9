import InrSettle.System.SameVerifications

/-!
# The registry apart from the callbacks

Registry tables that differ in their provider events alone answer every registry
transaction alike.
-/

namespace InrSettle

open Transaction BeneficiaryTables

/-- The tables but for the provider events. -/
structure SameRegistry (t t' : BeneficiaryTables) : Prop where
  beneficiaries : t.beneficiaries = t'.beneficiaries
  destinations : t.destinations = t'.destinations
  versions : t.versions = t'.versions
  events : t.events = t'.events
  verification : SameVerifications t.verification t'.verification

structure SameSnapshots (seenAt seenAt' : Snapshots) : Prop where
  subject : SameRegistry seenAt.subject seenAt'.subject
  current : SameRegistry seenAt.current seenAt'.current
  beneficiary : SameRegistry seenAt.beneficiary seenAt'.beneficiary
  destinations : SameRegistry seenAt.destinations seenAt'.destinations
  verifications : SameRegistry seenAt.verifications seenAt'.verifications

theorem verifiedVersion_unlinked (rows : List DestinationVerification) :
    verifiedVersion (rows.map (·.unlinked)) = verifiedVersion rows := by
  funext versionId
  rw [verifiedVersion, List.any_map]
  rfl

section Transactions

variable {fingerprinter : PayoutDetails → String} {seenAt seenAt' : Snapshots} {own : OwnRows}
  {t t' : BeneficiaryTables}

theorem SameRegistry.refl (t : BeneficiaryTables) : SameRegistry t t :=
  ⟨rfl, rfl, rfl, rfl, .refl _⟩

theorem SameRegistry.updateBeneficiary (same : SameRegistry t t') (beneficiaryId : Nat)
    (set : Beneficiary → Beneficiary) :
    SameRegistry (BeneficiaryTables.updateBeneficiary beneficiaryId set t)
      (BeneficiaryTables.updateBeneficiary beneficiaryId set t') :=
  ⟨congrArg (·.modify beneficiaryId set) same.beneficiaries, same.destinations, same.versions,
    same.events, same.verification⟩

theorem SameRegistry.setCurrentVersion (same : SameRegistry t t') (destinationId versionId : Nat) :
    SameRegistry (BeneficiaryTables.setCurrentVersion destinationId versionId t)
      (BeneficiaryTables.setCurrentVersion destinationId versionId t') :=
  ⟨same.beneficiaries, by simp only [BeneficiaryTables.setCurrentVersion, same.destinations],
    same.versions, same.events, same.verification⟩

theorem SameRegistry.appendEvent (same : SameRegistry t t') (event : BeneficiaryEvent) :
    SameRegistry (BeneficiaryTables.appendEvent event t) (BeneficiaryTables.appendEvent event t') :=
  ⟨same.beneficiaries, same.destinations, same.versions, congrArg (· ++ [event]) same.events,
    same.verification⟩

theorem seenFacts_same (at' : SameSnapshots seenAt seenAt') (same : SameRegistry t t')
    (beneficiaryId : Nat) :
    seenFacts seenAt own t beneficiaryId = seenFacts seenAt' own t' beneficiaryId := by
  have verified : verifiedVersion (Table.seenRows (owns own.verification)
        seenAt.verifications.verification.verifications t.verification.verifications) =
      verifiedVersion (Table.seenRows (owns own.verification)
        seenAt'.verifications.verification.verifications t'.verification.verifications) := by
    rw [← verifiedVersion_unlinked, Table.map_seenRows, same.verification.verifications,
      at'.verifications.verification.verifications, ← Table.map_seenRows,
      verifiedVersion_unlinked]
  simp only [seenFacts, statusFacts_eq, verified, same.beneficiaries, same.destinations,
    at'.beneficiary.beneficiaries, at'.destinations.destinations]

theorem refreshBeneficiaryStatus_alike (own : OwnRows) (at' : SameSnapshots seenAt seenAt')
    (same : SameRegistry t t') (beneficiaryId : Nat) :
    Alike SameRegistry (refreshBeneficiaryStatus seenAt own beneficiaryId) t
      (refreshBeneficiaryStatus seenAt' own beneficiaryId) t' := by
  refine alike_get_bind ?_
  rw [seenFacts_same at' same]
  cases seenFacts seenAt' own t' beneficiaryId with
  | none => exact alike_abort
  | some read =>
    obtain ⟨beneficiary, facts⟩ := read
    dsimp only
    split
    · exact alike_modify_bind (alike_pure (same.updateBeneficiary ..))
    · exact alike_pure same

theorem insertVersion_alike (same : SameRegistry t t') (row : DestinationVersionRow)
    (beneficiaryId : Nat) :
    Alike SameRegistry (insertVersion row beneficiaryId) t (insertVersion row beneficiaryId) t' := by
  refine alike_get_bind (alike_require_bind (by rw [same.versions]) fun _ =>
    alike_modify_bind ?_)
  have inserted : SameVerifications
      { t.verification with versions := t.verification.versions ++ [asVerified row beneficiaryId] }
      { t'.verification with
        versions := t'.verification.versions ++ [asVerified row beneficiaryId] } :=
    ⟨congrArg (· ++ [_]) same.verification.versions, same.verification.verifications,
      same.verification.events⟩
  have id : t.versions.length = t'.versions.length := congrArg List.length same.versions
  rw [id]
  exact alike_pure ⟨same.beneficiaries, same.destinations, congrArg (· ++ [row]) same.versions,
    same.events, inserted⟩

theorem appendVersion_alike (same : SameRegistry t t') (version : NewVersion) :
    Alike SameRegistry (appendVersion fingerprinter version) t
      (appendVersion fingerprinter version) t' := by
  refine alike_bind (insertVersion_alike same ..) fun versionId s s' _ same =>
    alike_modify_bind (alike_modify_bind (alike_pure ?_))
  exact (same.setCurrentVersion ..).appendEvent _

theorem insertDestination_alike (at' : SameSnapshots seenAt seenAt') (same : SameRegistry t t')
    (input : AddDestinationInput) :
    Alike SameRegistry (insertDestination fingerprinter seenAt own input) t
      (insertDestination fingerprinter seenAt' own input) t' := by
  refine alike_require_bind Iff.rfl fun _ => alike_get_bind ?_
  rw [at'.subject.beneficiaries, same.beneficiaries, same.destinations]
  cases Table.seen (owns own.beneficiary) seenAt'.subject.beneficiaries t'.beneficiaries
      input.beneficiaryId with
  | none => exact alike_abort
  | some beneficiary =>
    have inserted : SameRegistry
        { t with destinations := t.destinations ++
          [{ beneficiaryId := input.beneficiaryId, kind := input.details.kind }] }
        { t' with destinations := t'.destinations ++
          [{ beneficiaryId := input.beneficiaryId, kind := input.details.kind }] } :=
      ⟨same.beneficiaries, congrArg (· ++ _) same.destinations, same.versions, same.events,
        same.verification⟩
    refine alike_modify_bind (alike_bind (appendVersion_alike inserted _)
      fun versionId s s' _ same => ?_)
    split
    · exact alike_modify_bind (alike_pure (same.updateBeneficiary ..))
    · exact alike_pure same

theorem addPayoutDestination_alike (at' : SameSnapshots seenAt seenAt') (same : SameRegistry t t')
    (input : AddDestinationInput) :
    Alike SameRegistry (addPayoutDestination fingerprinter seenAt own input) t
      (addPayoutDestination fingerprinter seenAt' own input) t' :=
  alike_bind (insertDestination_alike at' same input) fun _ _ _ _ same =>
    alike_bind (refreshBeneficiaryStatus_alike _ at' same _) fun _ _ _ _ same => alike_pure same

theorem latestVersion_same (same : SameRegistry t t') (destinationId : Nat) :
    latestVersion t destinationId = latestVersion t' destinationId := by
  rw [latestVersion, latestVersion, versionsOf, versionsOf, same.versions]

theorem setSuperseded_alike (same : SameRegistry t t') (versionId : Nat) (now : Instant) :
    Alike SameRegistry (setSuperseded versionId now) t (setSuperseded versionId now) t' := by
  refine alike_get_bind (alike_require_bind (by rw [same.versions]) fun _ => alike_modify ?_)
  exact ⟨same.beneficiaries, same.destinations, by simp only [same.versions], same.events,
    same.verification⟩

theorem replaceVersion_alike (at' : SameSnapshots seenAt seenAt') (same : SameRegistry t t')
    (input : EditDestinationInput) :
    Alike SameRegistry (replaceVersion fingerprinter seenAt input) t
      (replaceVersion fingerprinter seenAt' input) t' := by
  refine alike_require_bind Iff.rfl fun _ => ?_
  rw [at'.subject.destinations, latestVersion_same at'.current]
  cases seenAt'.subject.destinations[input.destinationId]? with
  | none => exact alike_abort
  | some destination =>
    refine alike_require_bind Iff.rfl fun _ => alike_require_bind Iff.rfl fun _ => ?_
    dsimp only
    split
    · exact alike_pure same
    · cases latestVersion seenAt'.current input.destinationId with
      | none => exact alike_bind (appendVersion_alike same _) fun _ _ _ _ same => alike_pure same
      | some version =>
        exact alike_bind (setSuperseded_alike same _ _) fun _ _ _ _ same =>
          alike_bind (appendVersion_alike same _) fun _ _ _ _ same => alike_pure same

theorem editPayoutDestination_alike (at' : SameSnapshots seenAt seenAt')
    (same : SameRegistry t t') (input : EditDestinationInput) :
    Alike SameRegistry (editPayoutDestination fingerprinter seenAt input) t
      (editPayoutDestination fingerprinter seenAt' input) t' := by
  refine alike_bind (replaceVersion_alike at' same input) fun replaced s s' _ same => ?_
  cases replaced with
  | none => exact alike_pure same
  | some beneficiaryId =>
    exact alike_bind (refreshBeneficiaryStatus_alike _ at' same _) fun _ _ _ _ same =>
      alike_pure same

theorem createBeneficiary_alike (at' : SameSnapshots seenAt seenAt') (same : SameRegistry t t')
    (input : CreateBeneficiaryInput) :
    Alike SameRegistry (createBeneficiary fingerprinter seenAt input) t
      (createBeneficiary fingerprinter seenAt' input) t' := by
  refine alike_require_bind Iff.rfl fun _ => alike_require_bind Iff.rfl fun _ =>
    alike_get_bind ?_
  rw [same.beneficiaries]
  refine alike_modify_bind (alike_modify_bind ?_)
  have inserted : SameRegistry
      (appendEvent (.beneficiaryCreated t'.beneficiaries.length input.identity.displayName
        input.identity.type) { t with beneficiaries := t.beneficiaries ++
          [{ identity := input.identity.stored }] })
      (appendEvent (.beneficiaryCreated t'.beneficiaries.length input.identity.displayName
        input.identity.type) { t' with beneficiaries := t'.beneficiaries ++
          [{ identity := input.identity.stored }] }) := by
    refine SameRegistry.appendEvent ?_ _
    exact ⟨congrArg (· ++ [_]) same.beneficiaries, same.destinations, same.versions, same.events,
      same.verification⟩
  cases input.destination with
  | none => exact alike_pure inserted
  | some details =>
    exact alike_bind (addPayoutDestination_alike at' inserted _) fun _ _ _ _ same =>
      alike_pure same

theorem disableBeneficiary_alike (at' : SameSnapshots seenAt seenAt') (same : SameRegistry t t')
    (beneficiaryId : Nat) (now : Instant) :
    Alike SameRegistry (disableBeneficiary seenAt beneficiaryId now) t
      (disableBeneficiary seenAt' beneficiaryId now) t' := by
  exact alike_require_bind (by rw [at'.subject.beneficiaries]) fun _ =>
    alike_modify (same.updateBeneficiary ..)

end Transactions

end InrSettle
