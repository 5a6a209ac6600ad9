import InrSettle.System.StatusSteps

/-!
# The stored status of a beneficiary

Each change of a destination recomputes the status of its beneficiary from what its own
statements see. The stored status follows from the committed rows as long as what they see
is what is committed.
-/

namespace InrSettle

open Transaction Run BeneficiaryTables

/-! ### A new beneficiary -/

section Creation

variable {fingerprinter : PayoutDetails → String} {seenAt : Snapshots} {t written : BeneficiaryTables}

theorem StatusKept.trans {t t' t'' : BeneficiaryTables} (first : StatusKept t t')
    (second : StatusKept t' t'') : StatusKept t t'' :=
  ⟨second.joined, first.stays.trans second.stays,
    fun id version found => second.versions id version (first.versions id version found),
    second.follows⟩

theorem insertDestination_own {own own' : OwnRows} {input : AddDestinationInput} {id : Nat}
    (default : input.makeDefault = true)
    (done : Commits (insertDestination fingerprinter seenAt own input) t (id, own') written) :
    own' = { beneficiary := some input.beneficiaryId
             destination := some t.destinations.length } := by
  simp only [insertDestination, commits_require_bind, commits_get_bind] at done
  obtain ⟨-, done⟩ := done
  split at done
  · exact (commits_abort.mp done).elim
  · rw [commits_modify_bind] at done
    obtain ⟨versionId, middle, appends, done⟩ := commits_bind.mp done
    rw [default, Bool.true_or, if_pos rfl, commits_modify_bind, commits_pure] at done
    exact (Prod.mk.inj done.1).2

theorem VersionAppended.destinations_opened {row : DestinationVersionRow} {beneficiaryId owner : Nat}
    {kind : DestinationKind}
    (appended : VersionAppended
      { t with destinations := t.destinations ++ [{ beneficiaryId, kind }] } written row owner)
    (here : row.destinationId = t.destinations.length) :
    written.destinations = t.destinations ++
      [{ beneficiaryId, kind, currentVersionId := some t.versions.length }] := by
  rw [appended.destinations, here, Table.modify_of_found List.getElem?_concat_length,
    List.set_append_right _ _ le_rfl, Nat.sub_self]
  rfl

/-- The first destination of a beneficiary that no one else knows: its own statements see all of
it, whatever their snapshots. -/
theorem inPlace_of_new {row : DestinationVersionRow} {beneficiaryId : Nat} {kind : DestinationKind}
    (appended : VersionAppended
      { t with destinations := t.destinations ++ [{ beneficiaryId, kind }] } written row
      beneficiaryId) (here : row.destinationId = t.destinations.length)
    (unowned : ∀ row ∈ t.destinations, row.beneficiaryId ≠ beneficiaryId)
    (unseen : ∀ row ∈ seenAt.destinations.destinations, row.beneficiaryId ≠ beneficiaryId)
    (verified : ∀ row ∈ t.verification.verifications, row.destinationVersionId < t.versions.length)
    (seen : ∀ row ∈ seenAt.verifications.verification.verifications,
      row.destinationVersionId < t.versions.length) :
    Recomputation.InPlace ⟨seenAt,
      { beneficiary := some beneficiaryId, destination := some t.destinations.length }, written,
      beneficiaryId⟩ := by
  intro read facts row' sees found
  have destinations := appended.destinations_opened here
  have usable : usableDestinations written.destinations beneficiaryId =
      [{ beneficiaryId, kind, currentVersionId := some t.versions.length }] := by
    have none : usableDestinations t.destinations beneficiaryId = [] :=
      List.filter_eq_nil_iff.mpr fun row mem => by simp [unowned row mem]
    rw [usableDestinations] at none
    rw [destinations, usableDestinations, List.filter_append, none]
    simp
  have usableSeen : usableDestinations (Table.seenRows (owns (some t.destinations.length))
      seenAt.destinations.destinations written.destinations) beneficiaryId =
        [{ beneficiaryId, kind, currentVersionId := some t.versions.length }] := by
    have none : ((List.range t.destinations.length).filterMap (Table.seen
        (owns (some t.destinations.length)) seenAt.destinations.destinations
          written.destinations)).filter (fun row =>
            decide (row.beneficiaryId = beneficiaryId) && row.disabledAt.isNone) = [] := by
      refine List.filter_eq_nil_iff.mpr fun row mem => ?_
      obtain ⟨i, before, is⟩ := List.mem_filterMap.mp mem
      have other : owns (some t.destinations.length) i = false := by
        have lt := List.mem_range.mp before
        simp [owns, lt.ne']
      rw [Table.seen, other] at is
      simp [unseen row (List.mem_of_getElem? is)]
    rw [usableDestinations, Table.seenRows, destinations, List.length_append,
      List.length_singleton, List.range_succ, List.filterMap_append, List.filter_append,
      ← destinations, none]
    simp [Table.seen, owns, destinations]
  have fresh : verifiedVersion written.verification.verifications t.versions.length = false := by
    rw [appended.verification]
    refine List.any_eq_false.mpr fun v mem => ?_
    simp [(verified v mem).ne]
  have freshSeen : verifiedVersion (Table.seenRows (owns none)
      seenAt.verifications.verification.verifications written.verification.verifications)
        t.versions.length = false := by
    refine List.any_eq_false.mpr fun v mem => ?_
    obtain ⟨i, -, is⟩ := List.mem_filterMap.mp mem
    rw [Table.seen, show owns none i = false from rfl] at is
    simp [(seen v (List.mem_of_getElem? is)).ne]
  have own : Table.seen (owns (some beneficiaryId)) seenAt.beneficiary.beneficiaries
      written.beneficiaries beneficiaryId = some row' := by
    simp [Table.seen, owns, found]
  simp only [seenFacts, own, Option.map_some, Option.some.injEq, Prod.mk.injEq] at sees
  obtain ⟨rfl, rfl⟩ := sees
  refine ⟨?_, fun _ => rfl⟩
  rw [factsOf, statusFacts_eq, statusFacts_eq, usable, usableSeen]
  simp [StatusFacts.Agree, fresh, freshSeen]

end Creation

namespace Registry

variable {policies : NameMatchPolicySet} {fingerprinter : PayoutDetails → String} {w : Registry}

theorem Summarised.createBeneficiary (held : w.Summarised fingerprinter) {reads : ReadPoints}
    {input : CreateBeneficiaryInput} {id : Nat} {t' : BeneficiaryTables}
    (done : Commits (InrSettle.createBeneficiary fingerprinter (w.snapshots reads) input) w.now id
      t') : StatusKept w.now t' := by
  have unowned : ∀ row ∈ w.now.destinations, row.beneficiaryId ≠ w.now.beneficiaries.length :=
    fun row mem => (held.joined.owners row mem).ne
  simp only [InrSettle.createBeneficiary, commits_require_bind, commits_get_bind,
    commits_modify_bind] at done
  obtain ⟨-, -, done⟩ := done
  generalize created : BeneficiaryTables.appendEvent _ _ = t1 at done
  have still : VersionsStill w.now t1 := by
    rw [← created]
    exact ⟨rfl, rfl, rfl⟩
  have beneficiaries : t1.beneficiaries =
      w.now.beneficiaries ++ [{ identity := input.identity.stored }] := by rw [← created]; rfl
  have drafted : StatusKept w.now t1 := by
    refine ⟨⟨?_, ?_⟩, ⟨?_, ?_⟩, ?_, fun id => ?_⟩
    · rw [still.destinations, beneficiaries, List.length_append]
      exact fun row mem => Nat.lt_add_right _ (held.joined.owners row mem)
    · rw [still.versions, still.destinations, still.verification]
      exact held.joined.versions
    · rw [beneficiaries, List.length_append]
      exact Nat.le_add_right _ _
    · rw [still.verification]
      exact fun _ row found => ⟨row, found, rfl⟩
    · rw [still.verification]
      exact fun _ _ found => found
    · intro row found
      rw [beneficiaries] at found
      rw [factsOf, still.destinations, still.verification]
      rcases Table.getElem?_concat_some.mp found with old | ⟨rfl, rfl⟩
      · exact held.follows id row old
      · have none : usableDestinations w.now.destinations w.now.beneficiaries.length = [] :=
          List.filter_eq_nil_iff.mpr fun row mem => by simp [unowned row mem]
        rw [none]
        rfl
  cases given : input.destination with
  | none =>
    simp only [given, commits_pure] at done
    exact done.2 ▸ drafted
  | some details =>
    simp only [given] at done
    obtain ⟨destinationId, last, adds, done⟩ := commits_bind.mp done
    obtain ⟨-, rfl⟩ := commits_pure.mp done
    have filed := (Kept.of_still held.sound.filed held.sound.inOrder still).filed
    refine drafted.trans (.added filed drafted.joined drafted.follows (fun _ => ?_) adds
      fun own' written inserts => ?_)
    · rw [beneficiaries]
      simp
    · obtain rfl := insertDestination_own rfl inserts
      refine inPlace_of_new (insertDestination_appended inserts) rfl ?_ ?_ filed.verified ?_
      · rw [still.destinations]
        exact unowned
      · intro row mem
        obtain ⟨i, at'⟩ := List.mem_iff_getElem?.mp mem
        obtain ⟨row', there, same⟩ :=
          (held.sound.asOf_grows reads.destinations).destinations i row at'
        rw [← same]
        exact unowned row' (List.mem_of_getElem? there)
      · intro row mem
        obtain ⟨i, at'⟩ := List.mem_iff_getElem?.mp mem
        obtain ⟨row', there, same⟩ :=
          (held.asOf_stays reads.verifications).verifications i row at'
        rw [still.versions, ← same]
        exact held.sound.filed.verified row' (List.mem_of_getElem? there)

theorem Summarised.step (held : w.Summarised fingerprinter) (op : RegistryOp)
    (inPlace : w.RecomputesInPlace policies fingerprinter op) :
    (w.step policies fingerprinter op).Summarised fingerprinter := by
  have sound : (w.step policies fingerprinter op).Sound fingerprinter := held.sound.step op
  cases op with
  | createBeneficiary reads input =>
    exact held.commit sound fun _ _ done => held.createBeneficiary done
  | addPayoutDestination reads input =>
    exact held.commit sound fun _ _ done => held.addPayoutDestination inPlace done
  | editPayoutDestination reads input =>
    exact held.commit sound fun _ _ done => held.editPayoutDestination inPlace done
  | disableBeneficiary reads beneficiaryId now =>
    exact held.commit sound fun _ _ done => held.disableBeneficiary done
  | verification reads op => exact held.verify reads op inPlace

theorem summarised_start : start.Summarised fingerprinter := by
  refine ⟨sound_start, ⟨?_, ?_⟩, ?_, ?_, fun id row found => ?_⟩
  all_goals simp_all [start, BeneficiaryTables.empty]

end Registry

/-! ### Statements that see the last state -/

/-- Statements whose snapshots have what others wrote see the facts in place. -/
theorem inPlace_of_same {r : Recomputation}
    (beneficiary : Table.seen (owns r.own.beneficiary) r.seenAt.beneficiary.beneficiaries
      r.written.beneficiaries r.beneficiaryId = r.written.beneficiaries[r.beneficiaryId]?)
    (destinations : ∀ id, owns r.own.destination id = false →
      r.seenAt.destinations.destinations[id]? = r.written.destinations[id]?)
    (verifications : ∀ id, owns r.own.verification id = false →
      r.seenAt.verifications.verification.verifications[id]? =
        r.written.verification.verifications[id]?) : r.InPlace := by
  intro seen facts row sees found
  rw [seenFacts, beneficiary, Table.seenRows_eq destinations, Table.seenRows_eq verifications,
    found] at sees
  obtain ⟨rfl, rfl⟩ := Prod.mk.inj (Option.some.inj sees)
  exact ⟨⟨rfl, fun _ => ⟨rfl, fun _ => ⟨Iff.rfl, fun _ => rfl⟩⟩⟩, fun _ => rfl⟩

theorem owns_false {row : Option Nat} {id : Nat} (other : owns row id = false) : row ≠ some id :=
  of_decide_eq_false other

def RegistryOp.reads : RegistryOp → ReadPoints
  | .createBeneficiary reads _ | .addPayoutDestination reads _ | .editPayoutDestination reads _
  | .disableBeneficiary reads _ _ | .verification reads _ => reads

namespace Registry

variable {policies : NameMatchPolicySet} {fingerprinter : PayoutDetails → String} {w : Registry}

theorem insertDestination_inPlace {seenAt : Snapshots} {t written : BeneficiaryTables}
    {input : AddDestinationInput} {id : Nat} {own : OwnRows} (here : seenAt = ⟨t, t, t, t, t⟩)
    (inserts : Commits (insertDestination fingerprinter seenAt {} input) t (id, own) written) :
    Recomputation.InPlace ⟨seenAt, own, written, input.beneficiaryId⟩ := by
  subst here
  have appended := insertDestination_appended inserts
  have own' : own.destination = some t.destinations.length ∧ own.verification = none ∧
      (own.beneficiary = some input.beneficiaryId ∨
        own.beneficiary = none ∧ written.beneficiaries = t.beneficiaries) := by
    simp only [insertDestination, commits_require_bind, commits_get_bind] at inserts
    obtain ⟨-, inserts⟩ := inserts
    split at inserts
    · exact (commits_abort.mp inserts).elim
    · rw [commits_modify_bind] at inserts
      obtain ⟨versionId, middle, appends, inserts⟩ := commits_bind.mp inserts
      obtain ⟨-, -, rfl⟩ := appendVersion_commits.mp appends
      split at inserts
      · rw [commits_modify_bind, commits_pure] at inserts
        obtain ⟨-, rfl⟩ := Prod.mk.inj inserts.1
        exact ⟨rfl, rfl, .inl rfl⟩
      · obtain ⟨is, rfl⟩ := commits_pure.mp inserts
        obtain ⟨-, rfl⟩ := Prod.mk.inj is
        exact ⟨rfl, rfl, .inr ⟨rfl, rfl⟩⟩
  obtain ⟨destination, verification, beneficiary⟩ := own'
  refine inPlace_of_same ?_ (fun i other => ?_) fun i _ => ?_
  · rcases beneficiary with is | ⟨is, same⟩
    · simp [is, Table.seen, owns]
    · rw [same]
      exact Table.seen_self _ _ _
  · have other := owns_false other
    rw [destination] at other
    rw [appended.destinations_opened rfl]
    rcases Nat.lt_or_ge i t.destinations.length with old | new
    · exact (List.getElem?_append_left old).symm
    · have last : i ≠ t.destinations.length := fun same => other (congrArg some same.symm)
      rw [List.getElem?_eq_none new, List.getElem?_eq_none (by simp; omega)]
  · rw [appended.verification]

/-- Where each statement sees the last committed state, the status is recomputed in place. -/
theorem recomputesInPlace_of_latest (sound : w.Sound fingerprinter) {op : RegistryOp}
    (latest : op.reads = {}) : w.RecomputesInPlace policies fingerprinter op := by
  intro r is
  cases op with
  | createBeneficiary => cases is
  | disableBeneficiary => cases is
  | addPayoutDestination reads input =>
    obtain rfl : reads = {} := latest
    rw [recomputes] at is
    split at is
    · rename_i id own written ran
      obtain rfl := Option.some.inj is
      exact insertDestination_inPlace rfl (commits_of_run ran)
    · cases is
  | editPayoutDestination reads input =>
    obtain rfl : reads = {} := latest
    rw [recomputes] at is
    split at is
    · rename_i beneficiaryId written ran
      obtain rfl := Option.some.inj is
      rcases replaceVersion_commits (commits_of_run ran) with ⟨no, -⟩ | ⟨read, -, replaced, same⟩
      · cases no
      · obtain ⟨row, versionId, found, -⟩ := replaced.latest sound.filed sound.inOrder
          (sound.asOf_grows 0) (sound.asOf_grows 0)
        have appended := replaced.appended
        simp only [found, Option.map_some, Option.getD_some] at appended
        refine inPlace_of_same ?_ (fun i other => ?_) fun i _ => ?_
        · show Table.seen (owns none) w.now.beneficiaries written.beneficiaries beneficiaryId =
            written.beneficiaries[beneficiaryId]?
          rw [same, Table.seen_self]
        · exact ((congrArg (·[i]?) appended.destinations).trans (List.getElem?_modify_ne _ _
            fun same => owns_false other (congrArg some same))).symm
        · rw [appended.verification]
          rfl
    · cases is
  | verification reads op =>
    obtain rfl : reads = {} := latest
    obtain ⟨loaded, resolved, rfl⟩ := Option.map_eq_some_iff.mp is
    obtain ⟨_, _, _, _, -, verifications, -⟩ :=
      (VerificationWorld.resolves_resolved (VerificationWorld.resolved_some resolved).1).written
    refine inPlace_of_same (Table.seen_self _ _ _) (fun _ _ => rfl) fun i other => ?_
    have same := congrArg (·[i]?) verifications
    rw [List.getElem?_modify_ne _ _ fun same => owns_false other (congrArg some same)] at same
    exact same.symm

end Registry

/-- The stored status of every beneficiary follows from its destinations and their current versions
in each state of a run whose recomputations see what is committed. -/
theorem beneficiaryStatus_follows (policies : NameMatchPolicySet)
    (fingerprinter : PayoutDetails → String) (ops : List RegistryOp)
    (inPlace : Along (Registry.step policies fingerprinter)
      (fun w op => w.RecomputesInPlace policies fingerprinter op) Registry.start ops) :
    StatusFollows (run (Registry.step policies fingerprinter) Registry.start ops).now :=
  (Along.invariant (I := Registry.Summarised fingerprinter)
    (fun _ op held allowed => held.step op allowed) Registry.summarised_start inPlace).follows

def aarti : PayoutDetails := .bankAccount "1234567890" "hdfc0001234" .savings " Aarti  Sharma "

/-- A beneficiary is saved with a destination, and a job has asked about its version. -/
def savedAndAsked : List RegistryOp :=
  [.createBeneficiary {} ⟨{ displayName := "Aarti", type := .individual }, some aarti⟩,
    .verification {} (.openVerification 0 bank "user"), .verification {} (.insertVerification 0),
    .verification {} (.loadVerification bank 0 "")]

theorem beneficiaryStatus_follows_verified :
    StatusFollows (run (Registry.step asserting canonicalDetails) Registry.start
      (savedAndAsked ++
        [.verification {} (.recordAnswer 1 (.accountConfirmed { asserted := some true }) 20)])).now :=
  beneficiaryStatus_follows asserting canonicalDetails _ (by decide +kernel)

/-- The beneficiary is disabled after the transaction of the outcome has read it. -/
def disabledMeanwhile : List RegistryOp :=
  savedAndAsked ++ [.disableBeneficiary {} 0 10,
    .verification { beneficiary := 1 }
      (.recordAnswer 1 (.accountConfirmed { asserted := some true }) 20)]

theorem disabled_shown_verified :
    ¬StatusFollows
      (run (Registry.step asserting canonicalDetails) Registry.start disabledMeanwhile).now := by
  intro follows
  have stored : ((run (Registry.step asserting canonicalDetails) Registry.start
      disabledMeanwhile).now.beneficiaries[0]?).map
        (fun row => (row.status, row.disabledAt)) = some (.verified, some 10) := by decide +kernel
  obtain ⟨row, found, is⟩ := Option.map_eq_some_iff.mp stored
  obtain ⟨status, disabledAt⟩ := Prod.mk.inj is
  have derived := follows 0 row found
  simp [factsOf, statusFacts_eq, deriveBeneficiaryStatus, status, disabledAt] at derived

end InrSettle
