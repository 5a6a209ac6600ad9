import InrSettle.System.StatusFacts

/-!
# Steps that recompute a status

A change of one beneficiary's destinations, or of a verification of their versions, is a
change for no other beneficiary.
-/

namespace InrSettle

open Transaction Run BeneficiaryTables

/-! ### Whose a row is -/

/-- Beneficiaries are not taken back, and a verification stays one of its version. -/
structure Stays (t t' : BeneficiaryTables) : Prop where
  beneficiaries : t.beneficiaries.length ≤ t'.beneficiaries.length
  verifications : ∀ (id : Nat) row, t.verification.verifications[id]? = some row →
    ∃ row', t'.verification.verifications[id]? = some row' ∧
      row'.destinationVersionId = row.destinationVersionId

theorem Stays.refl (t : BeneficiaryTables) : Stays t t :=
  ⟨le_rfl, fun _ row found => ⟨row, found, rfl⟩⟩

theorem Stays.trans {t t' t'' : BeneficiaryTables} (first : Stays t t') (second : Stays t' t'') :
    Stays t t'' where
  beneficiaries := first.beneficiaries.trans second.beneficiaries
  verifications := fun id row found => by
    obtain ⟨row', found', same⟩ := first.verifications id row found
    obtain ⟨row'', found'', same'⟩ := second.verifications id row' found'
    exact ⟨row'', found'', same'.trans same⟩

/-- A verification that was read is one of the version and the beneficiary that were read. -/
structure LoadedFrom (t : VerificationTables) (loaded : LoadedVerification) : Prop where
  verification : ∃ row, t.verifications[loaded.verificationId]? = some row ∧
    row.destinationVersionId = loaded.destinationVersionId
  version : ∃ version, t.versions[loaded.destinationVersionId]? = some version ∧
    version.beneficiaryId = loaded.beneficiaryId

def VerificationRun.loaded : VerificationRun → Option LoadedVerification
  | .asking loaded | .applying loaded _ _ => some loaded
  | .opening .. | .ended => none

theorem loadVerification_loaded {t : VerificationTables} {provider : VerificationProvider}
    {verificationId : Nat} {names : String} {loaded : LoadedVerification}
    (loads : loadVerification t provider verificationId names = .ok loaded) :
    LoadedFrom t loaded := by
  unfold loadVerification at loads
  split at loads
  · cases loads
  · rename_i row found
    split at loads
    · cases loads
    · split at loads
      · cases loads
      · rename_i version there
        split at loads
        · obtain rfl := Except.ok.inj loads
          exact ⟨⟨row, found, rfl⟩, version, there, rfl⟩
        · cases loads

theorem readCallback_loaded {t : VerificationTables} {provider : VerificationProvider}
    {signatureValid : Bool} {callback : Option VerificationCallback} {names : String}
    {loaded : LoadedVerification} {finding : Finding}
    (reads : readCallback t provider signatureValid callback names = .applicable loaded finding) :
    LoadedFrom t loaded := by
  unfold readCallback at reads
  split at reads
  · cases reads
  · split at reads
    · cases reads
    · split at reads
      · cases reads
      · rename_i row found
        split at reads
        · cases reads
        · split at reads
          · cases reads
          · split at reads
            · cases reads
            · cases reads
            · rename_i version outcome there
              obtain ⟨rfl, -⟩ := CallbackReading.applicable.inj reads
              exact ⟨⟨row, found, rfl⟩, version, there, rfl⟩
            · rename_i version outcome there
              obtain ⟨rfl, -⟩ := CallbackReading.applicable.inj reads
              exact ⟨⟨row, found, rfl⟩, version, there, rfl⟩

theorem begins_loaded {w : VerificationWorld} {r : VerificationRun} {loaded : LoadedVerification}
    (begins : w.Begins r) (is : r.loaded = some loaded) : LoadedFrom w.tables loaded := by
  cases r with
  | asking loaded' =>
    obtain ⟨provider, verificationId, names, loads⟩ := begins
    exact Option.some.inj is ▸ loadVerification_loaded loads
  | applying loaded' finding providerEventId =>
    obtain ⟨provider, signatureValid, callback, names, reads⟩ := begins
    exact Option.some.inj is ▸ readCallback_loaded reads
  | opening => cases is
  | ended => cases is

/-- Each destination, and each version of it, is one beneficiary's. -/
structure Joined (t : BeneficiaryTables) : Prop where
  owners : ∀ row ∈ t.destinations, row.beneficiaryId < t.beneficiaries.length
  versions : ∀ (id : Nat) row destination, t.versions[id]? = some row →
    t.destinations[row.destinationId]? = some destination →
    t.verification.versions[id]? = some (asVerified row destination.beneficiaryId)

theorem VersionAppended.joined {t t' : BeneficiaryTables} {row : DestinationVersionRow}
    {destination : PayoutDestination}
    (appended : VersionAppended t t' row destination.beneficiaryId) (joined : Joined t)
    (lengths : t.verification.versions.length = t.versions.length)
    (found : t.destinations[row.destinationId]? = some destination)
    (kept : t'.beneficiaries.length = t.beneficiaries.length) : Joined t' where
  owners := fun row' mem => by
    rw [appended.destinations] at mem
    obtain ⟨i, at'⟩ := List.mem_iff_getElem?.mp mem
    obtain ⟨old, there, rfl⟩ := Table.getElem?_modify_some.mp at'
    have owner := joined.owners old (List.mem_of_getElem? there)
    rw [kept]
    split <;> exact owner
  versions := fun id row' destination' found' there => by
    rw [appended.destinations] at there
    obtain ⟨old, known, is⟩ := Table.getElem?_modify_some.mp there
    have owner : destination'.beneficiaryId = old.beneficiaryId := by
      rw [is]
      split <;> rfl
    rw [appended.verification, owner]
    rw [appended.versions] at found'
    rcases Table.getElem?_concat_some.mp found' with before | ⟨rfl, rfl⟩
    · exact Table.getElem?_concat_some.mpr (.inl (joined.versions id row' old before known))
    · rw [found] at known
      obtain rfl := Option.some.inj known
      exact Table.getElem?_concat_some.mpr (.inr ⟨lengths.symm, rfl⟩)

theorem Joined.superseded {t : BeneficiaryTables} (joined : Joined t) (versionId : Nat)
    (now : Instant) : Joined (superseded t versionId now) where
  owners := joined.owners
  versions := fun id row destination found there => by
    obtain ⟨old, before, is⟩ := Table.getElem?_modify_some.mp found
    have same : asVerified row destination.beneficiaryId =
        asVerified old destination.beneficiaryId ∧ row.destinationId = old.destinationId := by
      rw [is]
      split <;> exact ⟨rfl, rfl⟩
    rw [same.1]
    exact joined.versions id old destination before (same.2 ▸ there)

theorem Joined.opened {fingerprinter : PayoutDetails → String} {t : BeneficiaryTables}
    (joined : Joined t) (filed : Filed fingerprinter t) {destination : PayoutDestination}
    (known : destination.beneficiaryId < t.beneficiaries.length) :
    Joined { t with destinations := t.destinations ++ [destination] } where
  owners := fun row mem => by
    rcases List.mem_append.mp mem with old | new
    · exact joined.owners row old
    · rw [List.mem_singleton.mp new]
      exact known
  versions := fun id row destination' found there => by
    have owned := filed.owned row (List.mem_of_getElem? found)
    rcases Table.getElem?_concat_some.mp there with before | ⟨is, -⟩
    · exact joined.versions id row destination' found before
    · omega

/-! ### Verification steps -/

namespace VerificationWorld

variable {policies : NameMatchPolicySet} {w : VerificationWorld} {op : VerificationOp}

theorem resolved_some {loaded : LoadedVerification} (is : w.resolved policies op = some loaded) :
    w.Resolves policies op loaded.verificationId ∧
      ∃ r ∈ w.runs, VerificationRun.loaded r = some loaded := by
  cases op with
  | recordAnswer runId outcome now =>
    cases found : w.runs[runId]? with
    | none => simp [resolved, found] at is
    | some r => cases r with
      | asking loaded' =>
        have answers : (∀ reference, outcome ≠ .verifying reference) ∧
            (answer (recordAnswer policies loaded' outcome now) w.tables).map
              (fun _ => loaded') = some loaded := by
          cases outcome with
          | verifying reference => simp [resolved, found] at is
          | accountConfirmed evidence =>
            exact ⟨nofun, by simpa only [resolved, found] using is⟩
          | failed code evidence => exact ⟨nofun, by simpa only [resolved, found] using is⟩
        obtain ⟨status, answered, rfl⟩ := Option.map_eq_some_iff.mp answers.2
        exact ⟨⟨loaded', found, rfl, answers.1, by rw [answered]; rfl⟩,
          _, List.mem_of_getElem? found, rfl⟩
      | _ => simp [resolved, found] at is
  | applyCallback runId now =>
    cases found : w.runs[runId]? with
    | none => simp [resolved, found] at is
    | some r => cases r with
      | applying loaded' finding providerEventId =>
        simp only [resolved, found] at is
        obtain ⟨status, answered, rfl⟩ := Option.map_eq_some_iff.mp is
        exact ⟨⟨loaded', finding, providerEventId, found, rfl, by rw [answered]; rfl⟩,
          _, List.mem_of_getElem? found, rfl⟩
      | _ => simp [resolved, found] at is
  | _ => cases is

theorem resolved_of_resolves {verificationId : Nat}
    (resolves : w.Resolves policies op verificationId) : w.resolved policies op ≠ none := by
  cases op with
  | recordAnswer runId outcome now =>
    obtain ⟨loaded, found, -, resolving, answered⟩ := resolves
    cases outcome with
    | verifying reference => exact (resolving reference rfl).elim
    | accountConfirmed evidence =>
      simpa only [resolved, found, ne_eq, Option.map_eq_none_iff] using
        Option.isSome_iff_ne_none.mp answered
    | failed code evidence =>
      simpa only [resolved, found, ne_eq, Option.map_eq_none_iff] using
        Option.isSome_iff_ne_none.mp answered
  | applyCallback runId now =>
    obtain ⟨loaded, finding, providerEventId, found, -, answered⟩ := resolves
    simpa only [resolved, found, ne_eq, Option.map_eq_none_iff] using
      Option.isSome_iff_ne_none.mp answered
  | _ => exact resolves.elim

/-- Each verification stays, for its version. -/
theorem step_stays (w : VerificationWorld) (op : VerificationOp) (id : Nat)
    (row : DestinationVerification) (found : w.tables.verifications[id]? = some row) :
    ∃ row', (w.step policies op).tables.verifications[id]? = some row' ∧
      row'.destinationVersionId = row.destinationVersionId := by
  cases step_change policies w op with
  | still verifications events => exact ⟨row, verifications ▸ found, rfl⟩
  | started at' set event kept verifications events type =>
    refine ⟨_, verifications ▸ Table.getElem?_modify_some.mpr ⟨row, found, rfl⟩, ?_⟩
    split
    · exact (kept row).1
    · rfl
  | opened new opens change =>
    exact ⟨row, change.verifications ▸ Table.getElem?_concat_some.mpr (.inl found), rfl⟩
  | resolved at' resolves change =>
    obtain ⟨_, _, _, _, -, verifications, -⟩ := change.written
    refine ⟨_, verifications ▸ Table.getElem?_modify_some.mpr ⟨row, found, rfl⟩, ?_⟩
    split <;> rfl

/-- A step that commits no outcome verifies no version. -/
theorem step_verified (none : w.resolved policies op = none) (versionId : Nat) :
    verifiedVersion (w.step policies op).tables.verifications versionId =
      verifiedVersion w.tables.verifications versionId := by
  cases step_change policies w op with
  | still verifications events => rw [verifications]
  | started at' set event kept verifications events type =>
    have column : ∀ rows : List DestinationVerification, verifiedVersion rows versionId =
        (rows.map fun row => decide (row.destinationVersionId = versionId) &&
          decide (row.status = .verified)).any id := fun rows => by
      rw [List.any_map, Function.id_comp, verifiedVersion]
    rw [verifications, column, column]
    refine congrArg (List.any · id) (Table.map_modify fun row => ?_)
    rw [(kept row).1, (kept row).2.1]
  | opened new opens change =>
    rw [change.verifications, verifiedVersion, List.any_append]
    simp [change.verifying, verifiedVersion]
  | resolved at' resolves change => exact (resolved_of_resolves resolves none).elim

/-- An outcome verifies no other version. -/
theorem step_verified_other {loaded : LoadedVerification} {versionId : Nat}
    (is : w.resolved policies op = some loaded) (loadedFrom : LoadedFrom w.tables loaded)
    (other : versionId ≠ loaded.destinationVersionId) :
    verifiedVersion (w.step policies op).tables.verifications versionId =
      verifiedVersion w.tables.verifications versionId := by
  obtain ⟨_, _, _, _, -, verifications, -⟩ := (resolves_resolved (resolved_some is).1).written
  rw [verifications]
  refine Table.any_modify_of_none fun row found => ?_
  obtain ⟨⟨row', found', same⟩, -⟩ := loadedFrom
  obtain rfl := Option.some.inj (found'.symm.trans found)
  simp [same, Ne.symm other]

end VerificationWorld

/-! ### The transactions -/

section Transactions

variable {fingerprinter : PayoutDetails → String} {seenAt : Snapshots} {own : OwnRows}
  {t t' : BeneficiaryTables}

theorem statusColumns_length : (statusColumns t).length = t.beneficiaries.length :=
  List.length_map _

theorem insertDestination_columns {input : AddDestinationInput} {id : Nat} {own' : OwnRows}
    (done : Commits (insertDestination fingerprinter seenAt own input) t (id, own') t') :
    statusColumns t' = statusColumns t ∧
      (Table.seen (owns own.beneficiary) seenAt.subject.beneficiaries t.beneficiaries
        input.beneficiaryId).isSome = true := by
  simp only [insertDestination, commits_require_bind, commits_get_bind] at done
  obtain ⟨-, done⟩ := done
  split at done
  · exact (commits_abort.mp done).elim
  · rename_i beneficiary found
    rw [commits_modify_bind] at done
    obtain ⟨versionId, middle, appends, done⟩ := commits_bind.mp done
    obtain ⟨-, -, rfl⟩ := appendVersion_commits.mp appends
    refine ⟨?_, by rw [found]; rfl⟩
    split at done
    · rw [commits_modify_bind, commits_pure] at done
      obtain ⟨-, rfl⟩ := done
      exact Table.map_modify fun _ => rfl
    · obtain ⟨-, rfl⟩ := commits_pure.mp done
      rfl

/-- A destination of one beneficiary more or changed, as the others see it. -/
theorem usableDestinations_modify {destinations : List PayoutDestination} {d id versionId : Nat}
    (other : ∀ row, destinations[d]? = some row → row.beneficiaryId ≠ id) :
    usableDestinations (destinations.modify d fun row =>
      { row with currentVersionId := some versionId }) id = usableDestinations destinations id :=
  Table.filter_modify_of_none fun row found => by simp [other row found]

/-- A destination added, before its beneficiary's status is recomputed. -/
theorem VersionAppended.others {row : DestinationVersionRow} {destination : PayoutDestination}
    (appended : VersionAppended { t with destinations := t.destinations ++ [destination] } t' row
      destination.beneficiaryId) (here : row.destinationId = t.destinations.length)
    (columns : statusColumns t' = statusColumns t) (follows : StatusFollows t) :
    ∀ id, id ≠ destination.beneficiaryId → StatusDerived t' id := by
  intro id other
  refine (follows id).of_same (by rw [columns]) ?_ fun _ _ _ _ => by rw [appended.verification]
  rw [appended.destinations, here, usableDestinations_modify fun row found => ?_]
  · simp [usableDestinations, Ne.symm other]
  · rw [List.getElem?_concat_length] at found
    exact Option.some.inj found ▸ Ne.symm other

theorem VersionAppended.stays {row : DestinationVersionRow} {beneficiaryId : Nat}
    (appended : VersionAppended t t' row beneficiaryId)
    (beneficiaries : t.beneficiaries.length ≤ t'.beneficiaries.length) : Stays t t' :=
  ⟨beneficiaries, fun id row found => ⟨row, by rw [appended.verification]; exact found, rfl⟩⟩

theorem refresh_stays {beneficiaryId : Nat} {status : BeneficiaryStatus}
    (done : Commits (refreshBeneficiaryStatus seenAt own beneficiaryId) t status t') :
    t'.beneficiaries.length = t.beneficiaries.length := by
  obtain ⟨seen, facts, -, -, rfl⟩ := refreshBeneficiaryStatus_commits.mp done
  split
  · exact List.length_modify ..
  · rfl

theorem Joined.still (joined : Joined t) (still : VersionsStill t t')
    (kept : t'.beneficiaries.length = t.beneficiaries.length) : Joined t' := by
  obtain ⟨versions, destinations, verification⟩ := still
  constructor
  · rw [destinations, kept]
    exact joined.owners
  · rw [versions, destinations, verification]
    exact joined.versions

theorem Stays.still (still : VersionsStill t t')
    (kept : t'.beneficiaries.length = t.beneficiaries.length) : Stays t t' :=
  ⟨kept.ge, fun id row found => ⟨row, by rw [still.verification]; exact found, rfl⟩⟩

end Transactions

/-! ### The invariant -/

/-- What a commit has to keep. -/
structure StatusKept (t t' : BeneficiaryTables) : Prop where
  joined : Joined t'
  stays : Stays t t'
  versions : ∀ (id : Nat) version, t.verification.versions[id]? = some version →
    t'.verification.versions[id]? = some version
  follows : StatusFollows t'

theorem LoadedFrom.kept {t t' : BeneficiaryTables} {loaded : LoadedVerification}
    (from' : LoadedFrom t.verification loaded) (stays : Stays t t')
    (versions : ∀ (id : Nat) version, t.verification.versions[id]? = some version →
      t'.verification.versions[id]? = some version) : LoadedFrom t'.verification loaded := by
  obtain ⟨⟨row, found, same⟩, version, there, owner⟩ := from'
  obtain ⟨row', found', same'⟩ := stays.verifications _ row found
  exact ⟨⟨row', found', same'.trans same⟩, version, versions _ version there, owner⟩

/-- What a recomputation in place leaves of what was written before it. -/
theorem StatusKept.refreshed {t t' : BeneficiaryTables} {r : Recomputation}
    {status : BeneficiaryStatus}
    (done : Commits (refreshBeneficiaryStatus r.seenAt r.own r.beneficiaryId) r.written status t')
    (inPlace : r.InPlace) (others : ∀ id, id ≠ r.beneficiaryId → StatusDerived r.written id)
    (joined : Joined r.written) (stays : Stays t r.written)
    (versions : ∀ (id : Nat) version, t.verification.versions[id]? = some version →
      r.written.verification.versions[id]? = some version) : StatusKept t t' := by
  have still := refreshBeneficiaryStatus_still done
  have length := refresh_stays done
  refine ⟨joined.still still length, stays.trans (.still still length), ?_,
    follows_refresh done others inPlace⟩
  rw [still.verification]
  exact versions

/-- A destination whose status is recomputed in place. -/
theorem StatusKept.inserted {fingerprinter : PayoutDetails → String} {t t' : BeneficiaryTables} {seenAt : Snapshots} {own own' : OwnRows}
    {input : AddDestinationInput} {id : Nat} {written : BeneficiaryTables}
    {status : BeneficiaryStatus} (filed : Filed fingerprinter t) (joined : Joined t)
    (follows : StatusFollows t) (known : input.beneficiaryId < t.beneficiaries.length)
    (inserts : Commits (insertDestination fingerprinter seenAt own input) t (id, own') written)
    (refreshes : Commits (refreshBeneficiaryStatus seenAt own' input.beneficiaryId) written status
      t')
    (inPlace : Recomputation.InPlace ⟨seenAt, own', written, input.beneficiaryId⟩) :
    StatusKept t t' := by
  have appended := insertDestination_appended inserts
  obtain ⟨columns, -⟩ := insertDestination_columns inserts
  have length : written.beneficiaries.length = t.beneficiaries.length := by
    rw [← statusColumns_length, columns, statusColumns_length]
  let destination : PayoutDestination :=
    { beneficiaryId := input.beneficiaryId, kind := input.details.kind }
  have opened := joined.opened filed (show destination.beneficiaryId < _ from known)
  refine .refreshed (r := ⟨seenAt, own', written, input.beneficiaryId⟩) refreshes inPlace ?_ ?_ ?_ ?_
  · exact VersionAppended.others (show VersionAppended _ _ _ destination.beneficiaryId from appended)
      rfl columns follows
  · exact VersionAppended.joined (show VersionAppended _ _ _ destination.beneficiaryId from appended)
      opened filed.joined (List.getElem?_concat_length) length
  · have stays := appended.stays (by exact length.ge)
    exact ⟨stays.beneficiaries, stays.verifications⟩
  · intro id version found
    rw [appended.verification]
    exact Table.getElem?_concat_some.mpr (.inl found)

theorem StatusKept.added {fingerprinter : PayoutDetails → String} {t t' : BeneficiaryTables} {seenAt : Snapshots} {own : OwnRows}
    {input : AddDestinationInput} {id : Nat} (filed : Filed fingerprinter t) (joined : Joined t)
    (follows : StatusFollows t)
    (known : (Table.seen (owns own.beneficiary) seenAt.subject.beneficiaries t.beneficiaries
      input.beneficiaryId).isSome = true → input.beneficiaryId < t.beneficiaries.length)
    (done : Commits (addPayoutDestination fingerprinter seenAt own input) t id t')
    (inPlace : ∀ own' written,
      Commits (insertDestination fingerprinter seenAt own input) t (id, own') written →
        Recomputation.InPlace ⟨seenAt, own', written, input.beneficiaryId⟩) :
    StatusKept t t' := by
  obtain ⟨own', written, status, inserts, refreshes⟩ := addPayoutDestination_commits.mp done
  exact .inserted filed joined follows (known (insertDestination_columns inserts).2) inserts
    refreshes (inPlace own' written inserts)

namespace Registry

variable {policies : NameMatchPolicySet} {fingerprinter : PayoutDetails → String} {w : Registry}

structure Summarised (fingerprinter : PayoutDetails → String) (w : Registry) : Prop where
  sound : w.Sound fingerprinter
  joined : Joined w.now
  stays : ∀ t ∈ w.past, Stays t w.now
  loaded : ∀ r ∈ w.runs, ∀ loaded, r.loaded = some loaded →
    LoadedFrom w.now.verification loaded
  follows : StatusFollows w.now

theorem Summarised.asOf_stays (held : w.Summarised fingerprinter) (n : Nat) :
    Stays (w.asOf n) w.now := by
  rcases List.mem_cons.mp (w.asOf_mem n) with now | past
  · rw [now]
    exact .refl w.now
  · exact held.stays _ past

theorem Summarised.commit {α : Type} (held : w.Summarised fingerprinter) {tx : BeneficiaryTx α}
    (sound : (w.commit tx).Sound fingerprinter)
    (kept : ∀ a t', Commits tx w.now a t' → StatusKept w.now t') :
    (w.commit tx).Summarised fingerprinter := by
  have after : StatusKept w.now (after tx w.now) :=
    after_induction (P := fun t : BeneficiaryTables => StatusKept w.now t)
      ⟨held.joined, .refl _, fun _ _ found => found, held.follows⟩ kept
  refine ⟨sound, after.joined, fun t mem => ?_, fun r mem loaded is => ?_, after.follows⟩
  · rcases List.mem_cons.mp mem with rfl | past
    · exact after.stays
    · exact (held.stays t past).trans after.stays
  · exact (held.loaded r mem loaded is).kept after.stays after.versions

theorem Summarised.addPayoutDestination (held : w.Summarised fingerprinter) {reads : ReadPoints}
    {input : AddDestinationInput} {id : Nat} {t' : BeneficiaryTables}
    (inPlace : w.RecomputesInPlace policies fingerprinter (.addPayoutDestination reads input))
    (done : Commits (InrSettle.addPayoutDestination fingerprinter (w.snapshots reads) {} input)
      w.now id t') : StatusKept w.now t' := by
  refine .added held.sound.filed held.joined held.follows (fun seen => ?_) done
    fun own' written inserts => ?_
  · obtain ⟨row, found⟩ := Option.isSome_iff_exists.mp seen
    have place := (List.getElem?_eq_some_iff.mp found).1
    exact place.trans_le (held.asOf_stays reads.subject).beneficiaries
  · refine inPlace _ ?_
    rw [recomputes, run_of_commits inserts]

theorem Summarised.editPayoutDestination (held : w.Summarised fingerprinter) {reads : ReadPoints}
    {input : EditDestinationInput} {created : Bool} {t' : BeneficiaryTables}
    (inPlace : w.RecomputesInPlace policies fingerprinter (.editPayoutDestination reads input))
    (done : Commits (InrSettle.editPayoutDestination fingerprinter (w.snapshots reads) input)
      w.now created t') : StatusKept w.now t' := by
  cases created with
  | false =>
    rcases replaceVersion_commits (editPayoutDestination_false.mp done) with
      ⟨-, rfl, -⟩ | ⟨destination, no, -⟩
    · exact ⟨held.joined, .refl _, fun _ _ found => found, held.follows⟩
    · cases no
  | true =>
    obtain ⟨beneficiaryId, written, status, replaces, refreshes⟩ :=
      editPayoutDestination_true.mp done
    have recomputed := inPlace _ (by rw [recomputes, run_of_commits replaces])
    rcases replaceVersion_commits replaces with ⟨no, -⟩ | ⟨read, is, replaced, beneficiaries⟩
    · cases no
    · obtain ⟨destination, known, same⟩ :=
        (held.sound.asOf_grows reads.subject).destinations _ _ replaced.accepted.found
      have owner : read.beneficiaryId = destination.beneficiaryId := by rw [← same]
      obtain rfl : beneficiaryId = destination.beneficiaryId := owner ▸ Option.some.inj is
      obtain ⟨row, versionId, latest, -⟩ := replaced.latest held.sound.filed held.sound.inOrder
        (held.sound.asOf_grows reads.subject) (held.sound.asOf_grows reads.current)
      have appended := replaced.appended
      simp only [latest, Option.map_some, Option.getD_some, owner] at appended
      refine .refreshed refreshes recomputed (fun id other => ?_) ?_ ?_ ?_
      · refine (held.follows id).of_same (by rw [statusColumns, beneficiaries]; rfl) ?_
          fun _ _ _ _ => by rw [appended.verification]; rfl
        rw [appended.destinations]
        refine usableDestinations_modify fun found there => ?_
        obtain rfl := Option.some.inj (known.symm.trans there)
        exact Ne.symm other
      · exact appended.joined (held.joined.superseded versionId input.now)
          ((held.sound.filed.superseded versionId input.now).joined) known
          (congrArg List.length beneficiaries)
      · have stays := appended.stays (congrArg List.length beneficiaries).ge
        exact ⟨stays.beneficiaries, stays.verifications⟩
      · intro id version found
        rw [appended.verification]
        exact Table.getElem?_concat_some.mpr (.inl found)

theorem Summarised.disableBeneficiary (held : w.Summarised fingerprinter) {reads : ReadPoints}
    {beneficiaryId : Nat} {now : Instant} {u : PUnit} {t' : BeneficiaryTables}
    (done : Commits (InrSettle.disableBeneficiary (w.snapshots reads) beneficiaryId now) w.now u
      t') : StatusKept w.now t' := by
  simp only [InrSettle.disableBeneficiary, commits_require_bind, commits_modify] at done
  obtain ⟨-, rfl⟩ := done
  have still : VersionsStill w.now (updateBeneficiary beneficiaryId
      (fun row => { row with disabledAt := some now, status := .disabled }) w.now) :=
    ⟨rfl, rfl, rfl⟩
  have length := List.length_modify
    (fun row : Beneficiary => { row with disabledAt := some now, status := .disabled })
    w.now.beneficiaries beneficiaryId
  refine ⟨held.joined.still still length, .still still length, fun _ _ found => found,
    fun id => ?_⟩
  by_cases other : id = beneficiaryId
  · intro row found
    obtain ⟨old, -, is⟩ := Table.getElem?_modify_some.mp found
    rw [if_pos other.symm] at is
    rw [is]
    rfl
  · refine (held.follows id).of_same ?_ rfl fun _ _ _ _ => rfl
    simp only [statusColumns, updateBeneficiary, List.getElem?_map,
      List.getElem?_modify_ne _ _ (Ne.symm other)]

/-- The version a usable destination points to is one of its own beneficiary's. -/
theorem Summarised.owner (held : w.Summarised fingerprinter) {id v : Nat}
    {destination : PayoutDestination}
    (mem : destination ∈ usableDestinations w.now.destinations id)
    (current : destination.currentVersionId = some v) :
    ∃ version, w.now.verification.versions[v]? = some version ∧ version.beneficiaryId = id := by
  obtain ⟨there, usable⟩ := List.mem_filter.mp mem
  obtain ⟨d, found⟩ := List.mem_iff_getElem?.mp there
  obtain ⟨id', row, pointed, at', owner, -⟩ := (held.sound.inOrder d destination found).current
  obtain rfl : id' = v := Option.some.inj (pointed.symm.trans current)
  refine ⟨_, held.joined.versions id' row destination at' (owner ▸ found), ?_⟩
  exact of_decide_eq_true (Bool.and_eq_true_iff.mp usable).1

theorem Summarised.written (held : w.Summarised fingerprinter) {op : VerificationOp}
    (added : ∀ version, op ≠ .addVersion version) :
    Joined (w.written policies op) ∧ Stays w.now (w.written policies op) ∧
      (w.written policies op).verification.versions = w.now.verification.versions := by
  have versions : (w.written policies op).verification.versions = w.now.verification.versions :=
    VerificationWorld.step_versions added
  refine ⟨⟨held.joined.owners, ?_⟩, ⟨le_rfl, VerificationWorld.step_stays w.verifications op⟩,
    versions⟩
  rw [versions]
  exact held.joined.versions

theorem Summarised.settled (held : w.Summarised fingerprinter) {reads : ReadPoints}
    {op : VerificationOp} (added : ∀ version, op ≠ .addVersion version)
    (inPlace : w.RecomputesInPlace policies fingerprinter (.verification reads op)) :
    StatusKept w.now (w.settled policies reads op) := by
  obtain ⟨joined, stays, versions⟩ := @Summarised.written policies _ _ held _ added
  rw [Registry.settled]
  cases resolved : w.verifications.resolved policies op with
  | none =>
    refine ⟨joined, stays, fun id version found => versions ▸ found, fun id => ?_⟩
    exact (held.follows id).of_same rfl rfl fun _ _ v _ =>
      VerificationWorld.step_verified resolved v
  | some loaded =>
    obtain ⟨-, r, mem, is⟩ := VerificationWorld.resolved_some resolved
    have loadedFrom := held.loaded r mem loaded is
    cases answered : answer (w.recompute reads loaded) (w.written policies op) with
    | none =>
      simp only [answered]
      exact ⟨held.joined, .refl _, fun _ _ found => found, held.follows⟩
    | some status =>
      have done := answer_some answered
      simp only [answered]
      refine .refreshed (r := ⟨w.snapshots reads, { verification := some loaded.verificationId },
        w.written policies op, loaded.beneficiaryId⟩) done
        (inPlace _ (by rw [recomputes, resolved]; rfl)) (fun id other => ?_) joined stays
        fun id version found => versions ▸ found
      refine (held.follows id).of_same rfl rfl fun destination mem v current =>
        VerificationWorld.step_verified_other resolved loadedFrom ?_
      rintro rfl
      obtain ⟨version, found, owner⟩ := held.owner mem current
      obtain ⟨-, version', found', owner'⟩ := loadedFrom
      obtain rfl := Option.some.inj (found.symm.trans found')
      exact other (owner.symm.trans owner')

theorem verify_now_eq (w : Registry) (reads : ReadPoints) {op : VerificationOp}
    (added : ∀ version, op ≠ .addVersion version) :
    (w.verify policies reads op).now = w.settled policies reads op := by
  cases op with
  | addVersion version => exact (added version rfl).elim
  | _ => rfl

theorem Summarised.verify (held : w.Summarised fingerprinter) (reads : ReadPoints)
    (op : VerificationOp)
    (inPlace : w.RecomputesInPlace policies fingerprinter (.verification reads op)) :
    (w.verify policies reads op).Summarised fingerprinter := by
  by_cases isAdd : ∃ version, op = .addVersion version
  · obtain ⟨version, rfl⟩ := isAdd
    exact held
  · have added : ∀ version, op ≠ .addVersion version := fun version is => isAdd ⟨version, is⟩
    have kept := held.settled added inPlace
    rw [← verify_now_eq w reads added] at kept
    refine ⟨held.sound.verify reads op, kept.joined, fun t mem => ?_, fun r mem loaded is => ?_,
      kept.follows⟩
    · rcases List.mem_cons.mp (verify_past w reads op t mem) with rfl | before
      · exact kept.stays
      · exact (held.stays t before).trans kept.stays
    · rw [verify_runs w reads added] at mem
      rcases VerificationWorld.mem_step_runs mem with old | begins
      · exact (held.loaded r old loaded is).kept kept.stays kept.versions
      · exact (begins_loaded begins is).kept kept.stays kept.versions

end Registry

end InrSettle
