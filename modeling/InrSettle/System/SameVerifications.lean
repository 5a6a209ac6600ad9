import InrSettle.Library.Related
import InrSettle.System.StatusSteps

/-!
# Verifications apart from the callbacks behind them

Tables that differ in their provider events alone, and in which of them a verification
names, answer alike in every verification step that stores no callback.
-/

namespace InrSettle

open Transaction VerificationTables

def DestinationVerification.unlinked (row : DestinationVerification) : DestinationVerification :=
  { row with providerEventId := none }

/-- The tables but for the provider events. -/
structure SameVerifications (t t' : VerificationTables) : Prop where
  versions : t.versions = t'.versions
  verifications : t.verifications.map (·.unlinked) = t'.verifications.map (·.unlinked)
  events : t.events = t'.events

namespace SameVerifications

variable {t t' : VerificationTables}

theorem refl (t : VerificationTables) : SameVerifications t t := ⟨rfl, rfl, rfl⟩

theorem row (same : SameVerifications t t') (id : Nat) :
    (t.verifications[id]? = none ∧ t'.verifications[id]? = none) ∨
      ∃ r r', t.verifications[id]? = some r ∧ t'.verifications[id]? = some r' ∧
        r.unlinked = r'.unlinked := by
  have at' := congrArg (·[id]?) same.verifications
  simp only [List.getElem?_map] at at'
  cases found : t.verifications[id]? with
  | none =>
    rw [found] at at'
    exact .inl ⟨rfl, Option.map_eq_none_iff.mp at'.symm⟩
  | some r =>
    rw [found] at at'
    obtain ⟨r', found', is⟩ := Option.map_eq_some_iff.mp at'.symm
    exact .inr ⟨r, r', rfl, found', is.symm⟩

/-- A query that does not look at the provider event. -/
theorem any (same : SameVerifications t t') {p : DestinationVerification → Bool}
    (blind : ∀ row, p row.unlinked = p row) : t.verifications.any p = t'.verifications.any p := by
  have column : ∀ rows : List DestinationVerification,
      rows.any p = (rows.map (·.unlinked)).any p := fun rows => by
    rw [List.any_map]
    exact congrArg (rows.any ·) (funext fun row => (blind row).symm)
  rw [column, column t'.verifications, same.verifications]

theorem mayOpen (same : SameVerifications t t') (versionId : Nat) :
    InrSettle.mayOpen t versionId = InrSettle.mayOpen t' versionId := by
  have query : ∀ status : VerificationStatus,
      (verificationsOf t versionId).any (fun row => decide (row.status = status)) =
        (verificationsOf t' versionId).any (fun row => decide (row.status = status)) := by
    intro status
    rw [verificationsOf, verificationsOf, List.any_filter, List.any_filter]
    exact same.any fun row => rfl
  rw [InrSettle.mayOpen, InrSettle.mayOpen, same.versions, query, query]

theorem loadVerification (same : SameVerifications t t') (provider : VerificationProvider)
    (verificationId : Nat) (names : String) :
    InrSettle.loadVerification t provider verificationId names =
      InrSettle.loadVerification t' provider verificationId names := by
  rcases same.row verificationId with ⟨none, none'⟩ | ⟨r, r', found, found', is⟩
  · rw [InrSettle.loadVerification, InrSettle.loadVerification, none, none']
  · have version := congrArg (·.destinationVersionId) is
    have status := congrArg (·.status) is
    simp only [DestinationVerification.unlinked] at version status
    simp only [InrSettle.loadVerification, found, found', version, status, same.versions]

theorem readCallback (same : SameVerifications t t') (provider : VerificationProvider)
    (signatureValid : Bool) (callback : Option VerificationCallback) (names : String) :
    InrSettle.readCallback t provider signatureValid callback names =
      InrSettle.readCallback t' provider signatureValid callback names := by
  cases callback with
  | none => rfl
  | some callback =>
    rcases same.row callback.requestId with ⟨none, none'⟩ | ⟨r, r', found, found', is⟩
    · simp only [InrSettle.readCallback, none, none']
    · have version := congrArg (·.destinationVersionId) is
      have status := congrArg (·.status) is
      simp only [DestinationVerification.unlinked] at version status
      simp only [InrSettle.readCallback, found, found', version, status, same.versions]

/-- Writes of one place that agree but for the provider event. -/
theorem modify (same : SameVerifications t t') (id : Nat)
    {f f' : DestinationVerification → DestinationVerification}
    (agree : ∀ row row', row.unlinked = row'.unlinked → (f row).unlinked = (f' row').unlinked) :
    (t.verifications.modify id f).map (·.unlinked) =
      (t'.verifications.modify id f').map (·.unlinked) := by
  refine List.ext_getElem? fun i => ?_
  simp only [List.getElem?_map, List.getElem?_modify, Option.map_eq_map]
  rcases same.row i with ⟨none, none'⟩ | ⟨r, r', found, found', is⟩
  · rw [none, none']
    rfl
  · rw [found, found']
    simp only [Option.map_some]
    split
    · exact congrArg some (agree r r' is)
    · exact congrArg some is

/-- An index over other columns admits the same rows. -/
theorem admits {κ : Type} [DecidableEq κ] (key : DestinationVerification → Option κ)
    (blind : ∀ row, key row.unlinked = key row) {rows rows' : List DestinationVerification}
    (same : rows.map (·.unlinked) = rows'.map (·.unlinked)) (row : DestinationVerification) :
    Table.admits key rows row = Table.admits key rows' row := by
  have column : ∀ rows : List DestinationVerification,
      Table.admits key rows row = Table.admits key (rows.map (·.unlinked)) row := fun rows => by
    simp only [Table.admits, List.all_map, Function.comp_def, blind]
  rw [column, column rows', same]

theorem insertVerification (same : SameVerifications t t') (row : DestinationVerification) :
    Alike SameVerifications (VerificationTables.insertVerification row) t
      (VerificationTables.insertVerification row) t' := by
  have length : t.verifications.length = t'.verifications.length := by
    simpa using congrArg List.length same.verifications
  refine alike_get_bind (alike_require_bind ?_ fun _ => alike_modify_bind ?_)
  · rw [admits activeKey (fun _ => rfl) same.verifications]
  · rw [length]
    refine alike_pure ⟨same.versions, ?_, same.events⟩
    rw [List.map_append, List.map_append, same.verifications]

theorem setProviderReference (same : SameVerifications t t') (verificationId : Nat)
    (reference : String) :
    Alike SameVerifications (VerificationTables.setProviderReference verificationId reference) t
      (VerificationTables.setProviderReference verificationId reference) t' := by
  refine alike_get_bind (alike_require_bind ?_ fun _ => alike_modify ?_)
  · have others : (t.verifications.eraseIdx verificationId).map (·.unlinked) =
        (t'.verifications.eraseIdx verificationId).map (·.unlinked) := by
      rw [← List.eraseIdx_map, ← List.eraseIdx_map, same.verifications]
    rcases same.row verificationId with ⟨none, none'⟩ | ⟨r, r', found, found', is⟩
    · rw [none, none']
      exact Iff.rfl
    · have key : referenceKey { r with providerReference := some reference } =
          referenceKey { r' with providerReference := some reference } := by
        have providerId := congrArg (·.providerId) is
        simp only [DestinationVerification.unlinked] at providerId
        simp only [referenceKey, providerId]
      rw [found, found', Option.all_some, Option.all_some,
        admits referenceKey (fun _ => rfl) others, Table.admits, Table.admits, key]
  · exact ⟨same.versions, same.modify verificationId fun row row' is => by
      simp only [DestinationVerification.unlinked, DestinationVerification.mk.injEq] at is ⊢
      simp [is], same.events⟩

theorem setResolved (same : SameVerifications t t') (verificationId : Nat)
    (status : VerificationStatus) (record : VerificationRecord) (link link' : Option Nat) :
    Alike SameVerifications (VerificationTables.setResolved verificationId status record link) t
      (VerificationTables.setResolved verificationId status record link') t' := by
  refine alike_require_bind Iff.rfl fun _ => alike_modify ?_
  exact ⟨same.versions, same.modify verificationId fun row row' is => by
    simp only [DestinationVerification.unlinked, DestinationVerification.mk.injEq] at is ⊢
    simp [is], same.events⟩

theorem applyOutcome {policies : NameMatchPolicySet} (same : SameVerifications t t')
    (loaded : LoadedVerification) (finding : Finding) (link link' : Option Nat) (now : Instant) :
    Alike SameVerifications (InrSettle.applyOutcome policies loaded finding link now) t
      (InrSettle.applyOutcome policies loaded finding link' now) t' := by
  refine alike_bind (same.setResolved ..) fun _ s s' _ same' => alike_modify_bind (alike_pure ?_)
  exact ⟨same'.versions, same'.verifications, congrArg (· ++ _) same'.events⟩

theorem recordAnswer (policies : NameMatchPolicySet) (same : SameVerifications t t')
    (loaded : LoadedVerification) (outcome : VerificationOutcome) (now : Instant) :
    Alike SameVerifications (InrSettle.recordAnswer policies loaded outcome now) t
      (InrSettle.recordAnswer policies loaded outcome now) t' := by
  cases outcome with
  | verifying reference =>
    refine alike_bind (same.setProviderReference ..) fun _ s s' _ same' =>
      alike_modify_bind (alike_pure ?_)
    exact ⟨same'.versions, same'.verifications, congrArg (· ++ _) same'.events⟩
  | accountConfirmed evidence => exact same.applyOutcome ..
  | failed code evidence => exact same.applyOutcome ..

/-- A callback applied where neither table has its event. -/
theorem applyCallback (policies : NameMatchPolicySet) (same : SameVerifications t t')
    (loaded : LoadedVerification) (finding : Finding) (providerEventId : String) (now : Instant)
    (new : ∀ event ∈ t.providerEvents,
      dedupeKey event ≠ some (loaded.provider.id, providerEventId))
    (new' : ∀ event ∈ t'.providerEvents,
      dedupeKey event ≠ some (loaded.provider.id, providerEventId)) :
    Alike SameVerifications (InrSettle.applyCallback policies loaded finding providerEventId now) t
      (InrSettle.applyCallback policies loaded finding providerEventId now) t' := by
  have admitted : ∀ {events : List ProviderEvent},
      (∀ event ∈ events, dedupeKey event ≠ some (loaded.provider.id, providerEventId)) →
      Table.admits dedupeKey events ⟨loaded.provider.id, providerEventId, true, .applied⟩ = true :=
    fun new => Table.admits_iff.mpr fun key is event mem => by
      rw [← is]
      exact new event mem
  simp only [InrSettle.applyCallback, insertProviderEvent, bind_assoc, pure_bind]
  refine alike_get_bind (alike_require_bind (iff_of_true (admitted new) (admitted new'))
    fun _ => alike_modify_bind ?_)
  refine applyOutcome ?_ ..
  exact ⟨same.versions, same.verifications, same.events⟩

end SameVerifications

end InrSettle
