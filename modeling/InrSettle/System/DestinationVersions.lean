import InrSettle.System.DestinationChains

/-!
# Destination versions

What an edit does to the chain of its destination, and the chains of every run.
-/

namespace InrSettle

open Transaction Run BeneficiaryTables

/-! ### What an edit does -/

/-- The edit is accepted, and sees its beneficiary and the current version. -/
structure EditInPlace (w : Registry) (reads : ReadPoints) (input : EditDestinationInput) : Prop where
  accepted : ∃ destination, EditAccepted (w.snapshots reads) input destination ∧
    ((w.asOf reads.beneficiary).beneficiaries[destination.beneficiaryId]?).isSome = true
  current : latestVersion (w.asOf reads.current) input.destinationId =
    latestVersion w.now input.destinationId

/-- One more version of the destination, which nothing has verified. -/
structure VersionCreated (t t' : BeneficiaryTables) (input : EditDestinationInput) : Prop where
  version : ∃ row, t'.versions[t.versions.length]? = some row ∧
    row.destinationId = input.destinationId ∧
    row.details = normalisePayoutDetails input.details ∧
    row.versionNumber = (numbersOf t.versions input.destinationId).length + 1
  one : t'.versions.length = t.versions.length + 1
  unverified : ∀ row ∈ t'.verification.verifications,
    row.destinationVersionId ≠ t.versions.length

/-- The digests of two details do not collide. -/
def ToldApart (hmac : String → String) (scope : TenantScope) (a b : PayoutDetails) : Prop :=
  hmac (fingerprintMessage scope a) = hmac (fingerprintMessage scope b) →
    fingerprintMessage scope a = fingerprintMessage scope b

/-- Details are never rewritten; an edit creates a version if the details it is given are others
than those of the current one, and leaves every verification as it is. -/
structure EditsAppend (policies : NameMatchPolicySet) (hmac : String → String)
    (scope : TenantScope) (w : Registry) (op : RegistryOp) : Prop where
  detailsKept : ∀ (id : Nat) row, w.now.versions[id]? = some row →
    ∃ row', (w.step policies (fingerprint hmac scope) op).now.versions[id]? = some row' ∧
      row'.details = row.details
  verificationsKept : ∀ reads input, op = .editPayoutDestination reads input →
    (w.step policies (fingerprint hmac scope) op).now.verification.verifications =
      w.now.verification.verifications
  atMostOne : ∀ reads input, op = .editPayoutDestination reads input →
    (w.step policies (fingerprint hmac scope) op).now = w.now ∨
      VersionCreated w.now (w.step policies (fingerprint hmac scope) op).now input
  unchanged : ∀ reads input row id, op = .editPayoutDestination reads input →
    latestVersion (w.asOf reads.current) input.destinationId = some (row, id) →
    row.details = normalisePayoutDetails input.details →
    (w.step policies (fingerprint hmac scope) op).now = w.now
  created : ∀ reads input row id, op = .editPayoutDestination reads input →
    EditInPlace w reads input →
    latestVersion w.now input.destinationId = some (row, id) →
    row.details ≠ normalisePayoutDetails input.details →
    ToldApart hmac scope row.details input.details →
    VersionCreated w.now (w.step policies (fingerprint hmac scope) op).now input

section Edits

variable {fingerprinter : PayoutDetails → String} {seenAt : Snapshots} {t t' : BeneficiaryTables}
  {input : EditDestinationInput}

theorem VersionReplaced.created {destination : PayoutDestination}
    (filed : Filed fingerprinter t) (inOrder : VersionsInOrder t)
    (subject : Grows seenAt.subject t) (current : Grows seenAt.current t)
    (replaced : VersionReplaced seenAt input destination fingerprinter t t') :
    VersionCreated t t' input ∧
      t'.verification.verifications = t.verification.verifications := by
  obtain ⟨row, versionId, latest, number, -⟩ := replaced.latest filed inOrder subject current
  have appended := replaced.appended
  simp only [latest, Option.map_some, Option.getD_some] at appended
  have length : (superseded t versionId input.now).versions.length = t.versions.length :=
    List.length_modify ..
  have verifications : t'.verification.verifications = t.verification.verifications := by
    rw [appended.verification]
    rfl
  refine ⟨⟨⟨_, by rw [appended.versions, ← length, List.getElem?_concat_length], rfl, rfl, ?_⟩,
    ?_, fun v mem => ?_⟩, verifications⟩
  · exact congrArg (· + 1) number
  · rw [appended.versions, List.length_append, length, List.length_singleton]
  · rw [verifications] at mem
    exact (filed.verified v mem).ne

/-- The latest version is the highest of its destination and not superseded. -/
theorem latestVersion_current {destination : PayoutDestination} {row : DestinationVersionRow}
    {id : Nat} (filed : Filed fingerprinter t) (inOrder : VersionsInOrder t)
    (known : t.destinations[input.destinationId]? = some destination)
    (latest : latestVersion t input.destinationId = some (row, id)) :
    row.versionNumber = (numbersOf t.versions input.destinationId).length ∧
      row.supersededAt = none := by
  have order := inOrder _ _ known
  obtain ⟨found, owner⟩ := latestVersion_some latest
  obtain ⟨id', last, -, at', owner', highest, only⟩ := order.current
  have upto := (order.number_iff.mp ⟨row, List.mem_of_getElem? found, owner, rfl⟩).2
  have above : last.versionNumber ≤ row.versionNumber :=
    (Table.latestBy_some latest).2 (last, id') (List.mem_filter.mpr
      ⟨List.mem_zipIdx_iff_getElem?.mpr at', by simpa using owner'⟩)
  have number : row.versionNumber = (numbersOf t.versions input.destinationId).length :=
    le_antisymm upto (highest ▸ above)
  have here : id = id' :=
    filed.unique.index_eq found at' (k := (input.destinationId, row.versionNumber))
      (by rw [versionKey, owner]) (by rw [versionKey, owner', highest, number])
  exact ⟨number, (only id row found owner).mpr here⟩

/-- An edit that sees the current version goes through. -/
theorem editPayoutDestination_answers {destination : PayoutDestination}
    {row : DestinationVersionRow} {id : Nat} (filed : Filed fingerprinter t)
    (inOrder : VersionsInOrder t) (subject : Grows seenAt.subject t)
    (accepted : EditAccepted seenAt input destination)
    (beneficiary : (seenAt.beneficiary.beneficiaries[destination.beneficiaryId]?).isSome = true)
    (current : latestVersion seenAt.current input.destinationId =
      latestVersion t input.destinationId)
    (latest : latestVersion t input.destinationId = some (row, id))
    (changed : row.detailsFingerprint ≠ fingerprinter input.details) :
    ∃ t', Commits (editPayoutDestination fingerprinter seenAt input) t true t' := by
  obtain ⟨destination', known, -⟩ := subject.destinations _ _ accepted.found
  obtain ⟨number, free⟩ := latestVersion_current filed inOrder known latest
  obtain ⟨found, owner⟩ := latestVersion_some latest
  have supersedes : Commits (setSuperseded id input.now) t ⟨⟩ (superseded t id input.now) :=
    setSuperseded_commits.mpr ⟨fun there is => .inl (by
      rw [found] at is
      exact Option.some.inj is ▸ free), rfl⟩
  have admitted : Table.admits versionKey (superseded t id input.now).versions
      (NewVersion.row fingerprinter ⟨input.destinationId, destination.beneficiaryId,
        input.details, row.versionNumber + 1, "payout_destination.version_created"⟩) = true := by
    refine Table.admits_iff.mpr fun key is there mem same => ?_
    obtain ⟨old, mem', unchanged⟩ := superseded_mem mem
    rw [← is, versionKey, versionKey, Option.some.injEq, Prod.mk.injEq] at same
    have upto := ((inOrder _ _ known).number_iff.mp
      ⟨old, mem', by rw [← unchanged]; exact same.1, rfl⟩).2
    have taken : old.versionNumber = row.versionNumber + 1 := by rw [← unchanged]; exact same.2
    omega
  obtain ⟨versionId, t1, appends⟩ : ∃ versionId t1, Commits (appendVersion fingerprinter
      ⟨input.destinationId, destination.beneficiaryId, input.details, row.versionNumber + 1,
        "payout_destination.version_created"⟩) (superseded t id input.now) versionId t1 :=
    ⟨_, _, appendVersion_commits.mpr ⟨admitted, rfl, rfl⟩⟩
  obtain ⟨read, there⟩ := Option.isSome_iff_exists.mp beneficiary
  obtain ⟨facts, seen⟩ : ∃ facts, seenFacts seenAt { destination := some input.destinationId } t1
      destination.beneficiaryId = some (read, facts) := by
    simp [seenFacts, Table.seen, owns, there]
  have replaces : Commits (replaceVersion fingerprinter seenAt input) t
      (some destination.beneficiaryId) t1 := by
    simp only [replaceVersion, commits_require_bind, accepted.found, current, latest,
      Option.any_some, Option.map_some, Option.getD_some, decide_eq_true_eq, if_neg changed]
    refine ⟨accepted.valid, accepted.enabled, accepted.kind, ?_⟩
    exact commits_bind.mpr ⟨_, _, supersedes,
      commits_bind.mpr ⟨_, _, appends, commits_pure.mpr ⟨rfl, rfl⟩⟩⟩
  exact ⟨_, editPayoutDestination_true.mpr ⟨_, t1, _, replaces,
    refreshBeneficiaryStatus_commits.mpr ⟨read, facts, seen, rfl, rfl⟩⟩⟩

end Edits


namespace Registry

variable {policies : NameMatchPolicySet} {fingerprinter : PayoutDetails → String}
  {hmac : String → String} {scope : TenantScope} {w : Registry}

theorem Sound.edited (sound : w.Sound (fingerprint hmac scope)) (reads : ReadPoints)
    (input : EditDestinationInput) :
    ((w.step policies (fingerprint hmac scope) (.editPayoutDestination reads input)).now = w.now ∨
      VersionCreated w.now
        (w.step policies (fingerprint hmac scope) (.editPayoutDestination reads input)).now input) ∧
    (w.step policies (fingerprint hmac scope)
      (.editPayoutDestination reads input)).now.verification.verifications =
        w.now.verification.verifications := by
  rcases after_cases (editPayoutDestination (fingerprint hmac scope) (w.snapshots reads) input)
    w.now with ⟨created, done⟩ | same
  · rcases editPayoutDestination_commits done with ⟨-, same, -⟩ | ⟨-, destination, replaced⟩
    · exact ⟨.inl same, congrArg (·.verification.verifications) same⟩
    · obtain ⟨created, verifications⟩ := replaced.created sound.filed sound.inOrder
        (sound.asOf_grows reads.subject) (sound.asOf_grows reads.current)
      exact ⟨.inr created, verifications⟩
  · exact ⟨.inl same, congrArg (·.verification.verifications) same⟩

theorem Sound.grows_step (sound : w.Sound fingerprinter) (op : RegistryOp) :
    Grows w.now (w.step policies fingerprinter op).now := by
  cases op with
  | verification reads op => exact (sound.verify_kept reads op).grows
  | _ => exact (sound.step _).grown _ List.mem_cons_self

theorem Sound.editsAppend (sound : w.Sound (fingerprint hmac scope)) (op : RegistryOp) :
    EditsAppend policies hmac scope w op where
  detailsKept := fun id row found => by
    obtain ⟨row', found', same⟩ := (sound.grows_step op).versions id row found
    exact ⟨row', found', by rw [← same]⟩
  verificationsKept := by
    rintro reads input rfl
    exact (sound.edited reads input).2
  atMostOne := by
    rintro reads input rfl
    exact (sound.edited reads input).1
  unchanged := by
    rintro reads input row id rfl latest same
    obtain ⟨there, found, is⟩ := (sound.asOf_grows reads.current).versions id row
      (latestVersion_some latest).1
    have filed := (sound.filed.normal there (List.mem_of_getElem? found)).2
    have digest : row.detailsFingerprint = fingerprint hmac scope input.details := by
      rw [← is, filed, fingerprint_eq_iff]
      refine congrArg hmac (fingerprintMessage_inj.mpr ?_)
      rw [show there.details = row.details by rw [← is], same, normalisePayoutDetails_idem]
    rcases after_cases (editPayoutDestination (fingerprint hmac scope) (w.snapshots reads) input)
      w.now with ⟨created, done⟩ | still
    · rcases editPayoutDestination_commits done with ⟨-, still, -⟩ | ⟨-, destination, replaced⟩
      · exact still
      · exact (replaced.changed (row, id) latest digest).elim
    · exact still
  created := by
    rintro reads input row id rfl ⟨⟨destination, accepted, beneficiary⟩, current⟩ latest other apart
    have filed := sound.filed.normal row (List.mem_of_getElem? (latestVersion_some latest).1)
    have changed : row.detailsFingerprint ≠ fingerprint hmac scope input.details := by
      rw [filed.2, Ne, fingerprint_eq_iff]
      intro same
      refine other ?_
      rw [← filed.1]
      exact fingerprintMessage_inj.mp (apart same)
    obtain ⟨t', done⟩ := editPayoutDestination_answers sound.filed sound.inOrder
      (sound.asOf_grows reads.subject) accepted beneficiary current latest changed
    rcases editPayoutDestination_commits done with ⟨no, -⟩ | ⟨-, destination, replaced⟩
    · cases no
    · have created := (replaced.created sound.filed sound.inOrder
        (sound.asOf_grows reads.subject) (sound.asOf_grows reads.current)).1
      rw [show (w.step policies (fingerprint hmac scope)
        (.editPayoutDestination reads input)).now = t' from after_of_commits done]
      exact created

end Registry

/-- In every state the versions of each destination are numbered from one, and the last alone is
not superseded and is the current one; each edit creates an unverified version if and only if the
details it is given are others than the current ones, and rewrites nothing. -/
theorem destinationVersions_kept (policies : NameMatchPolicySet) (hmac : String → String)
    (scope : TenantScope) (ops : List RegistryOp) :
    VersionsInOrder
        (run (Registry.step policies (fingerprint hmac scope)) Registry.start ops).now ∧
      Along (Registry.step policies (fingerprint hmac scope))
        (EditsAppend policies hmac scope) Registry.start ops :=
  ⟨(Registry.sound_run ops).inOrder,
    along_of_invariant (I := Registry.Sound (fingerprint hmac scope))
      (fun _ op sound => sound.step op)
      (fun _ op sound => sound.editsAppend op) Registry.sound_start ops⟩

end InrSettle
