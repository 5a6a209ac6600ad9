import InrSettle.System.RegistrySteps

/-!
# Chains of destination versions

An edit that others have overtaken does not commit: the version it would supersede is
superseded already, or the number it would take is taken. So the versions of a destination
stay a chain, whatever the statements saw.
-/

namespace InrSettle

open Transaction Run BeneficiaryTables

/-! ### The chain of a destination -/

/-- The numbers of a destination's versions, in the order they were inserted. -/
def numbersOf (versions : List DestinationVersionRow) (destinationId : Nat) : List Nat :=
  (versions.filter fun row => decide (row.destinationId = destinationId)).map (·.versionNumber)

/-- The versions of a destination are numbered from one, and the last is the one that is not
superseded and the current one. -/
structure DestinationInOrder (versions : List DestinationVersionRow) (destinationId : Nat)
    (destination : PayoutDestination) : Prop where
  numbered : numbersOf versions destinationId =
    List.range' 1 (numbersOf versions destinationId).length
  current : ∃ id row, destination.currentVersionId = some id ∧ versions[id]? = some row ∧
    row.destinationId = destinationId ∧
    row.versionNumber = (numbersOf versions destinationId).length ∧
    ∀ (id' : Nat) row', versions[id']? = some row' → row'.destinationId = destinationId →
      (row'.supersededAt = none ↔ id' = id)

def VersionsInOrder (t : BeneficiaryTables) : Prop :=
  ∀ destinationId destination, t.destinations[destinationId]? = some destination →
    DestinationInOrder t.versions destinationId destination

theorem numbersOf_append (rows : List DestinationVersionRow) (row : DestinationVersionRow)
    (destinationId : Nat) : numbersOf (rows ++ [row]) destinationId =
      numbersOf rows destinationId ++
        if row.destinationId = destinationId then [row.versionNumber] else [] := by
  unfold numbersOf
  rw [List.filter_append, List.map_append]
  split <;> simp_all

section Appending

variable {t t' : BeneficiaryTables} {row : DestinationVersionRow} {beneficiaryId : Nat}

/-- A version appended to a destination whose versions are all superseded. -/
theorem VersionAppended.inOrder (appended : VersionAppended t t' row beneficiaryId)
    (others : ∀ d destination, d ≠ row.destinationId → t.destinations[d]? = some destination →
      DestinationInOrder t.versions d destination)
    (numbered : numbersOf t.versions row.destinationId =
      List.range' 1 (numbersOf t.versions row.destinationId).length)
    (next : row.versionNumber = (numbersOf t.versions row.destinationId).length + 1)
    (current : row.supersededAt = none)
    (behind : ∀ row' ∈ t.versions, row'.destinationId = row.destinationId →
      row'.supersededAt ≠ none) : VersionsInOrder t' := by
  intro d destination found
  have numbers := numbersOf_append t.versions row d
  rw [← appended.versions] at numbers
  rw [appended.destinations] at found
  by_cases other : d = row.destinationId
  · subst other
    rw [if_pos rfl] at numbers
    have count : (numbersOf t'.versions row.destinationId).length = row.versionNumber := by
      rw [numbers, List.length_append, next, List.length_singleton]
    obtain ⟨old, -, is⟩ := Table.getElem?_modify_some.mp found
    rw [if_pos rfl] at is
    refine ⟨?_, t.versions.length, row, by rw [is], ?_, rfl, count.symm, fun id' row' at' same => ?_⟩
    · rw [count, numbers, next, List.range'_concat, ← numbered, Nat.one_mul, Nat.add_comm]
    · rw [appended.versions, List.getElem?_concat_length]
    · rw [appended.versions] at at'
      rcases Table.getElem?_concat_some.mp at' with old | ⟨rfl, rfl⟩
      · have lt := (List.getElem?_eq_some_iff.mp old).1
        exact iff_of_false (behind row' (List.mem_of_getElem? old) same) (by omega)
      · exact iff_of_true current rfl
  · rw [if_neg (Ne.symm other), List.append_nil] at numbers
    obtain ⟨old, found, is⟩ := Table.getElem?_modify_some.mp found
    rw [if_neg (Ne.symm other)] at is
    subst is
    obtain ⟨numbered, id, last, pointed, at', same, number, only⟩ := others d destination other found
    refine ⟨by rw [numbers, ← numbered], id, last, pointed, ?_, same, by rw [numbers, number], ?_⟩
    · rw [appended.versions]
      exact Table.getElem?_concat_some.mpr (.inl at')
    · intro id' row' at' same'
      rw [appended.versions] at at'
      rcases Table.getElem?_concat_some.mp at' with old | ⟨-, rfl⟩
      · exact only id' row' old same'
      · exact (other same'.symm).elim

end Appending

/-! ### What holds of the tables -/

/-- The rows of a registry as its transactions leave them. -/
structure Filed (fingerprinter : PayoutDetails → String) (t : BeneficiaryTables) : Prop where
  owned : ∀ row ∈ t.versions, row.destinationId < t.destinations.length
  unique : Table.Unique versionKey t.versions
  normal : ∀ row ∈ t.versions, normalisePayoutDetails row.details = row.details ∧
    row.detailsFingerprint = fingerprinter row.details
  verified : ∀ row ∈ t.verification.verifications, row.destinationVersionId < t.versions.length
  joined : t.verification.versions.length = t.versions.length

/-- What no transaction takes back. -/
structure Grows (t t' : BeneficiaryTables) : Prop where
  destinations : ∀ (id : Nat) row, t.destinations[id]? = some row → ∃ row',
    t'.destinations[id]? = some row' ∧
      { row' with currentVersionId := row.currentVersionId } = row
  versions : ∀ (id : Nat) row, t.versions[id]? = some row → ∃ row',
    t'.versions[id]? = some row' ∧ { row' with supersededAt := row.supersededAt } = row

theorem Grows.refl (t : BeneficiaryTables) : Grows t t :=
  ⟨fun _ row found => ⟨row, found, rfl⟩, fun _ row found => ⟨row, found, rfl⟩⟩

theorem Grows.trans {t t' t'' : BeneficiaryTables} (first : Grows t t') (second : Grows t' t'') :
    Grows t t'' where
  destinations := fun id row found => by
    obtain ⟨row', found', same⟩ := first.destinations id row found
    obtain ⟨row'', found'', same'⟩ := second.destinations id row' found'
    exact ⟨row'', found'', by rw [← same, ← same']⟩
  versions := fun id row found => by
    obtain ⟨row', found', same⟩ := first.versions id row found
    obtain ⟨row'', found'', same'⟩ := second.versions id row' found'
    exact ⟨row'', found'', by rw [← same, ← same']⟩

theorem Grows.of_eq {t t' : BeneficiaryTables} (destinations : t'.destinations = t.destinations)
    (versions : t'.versions = t.versions) : Grows t t' := by
  refine ⟨fun id row found => ⟨row, ?_, rfl⟩, fun id row found => ⟨row, ?_, rfl⟩⟩
  · rw [destinations, found]
  · rw [versions, found]

theorem VersionAppended.grows {t t' : BeneficiaryTables} {row : DestinationVersionRow}
    {beneficiaryId : Nat} (appended : VersionAppended t t' row beneficiaryId) : Grows t t' where
  destinations := fun id destination found => by
    rw [appended.destinations]
    refine ⟨_, Table.getElem?_modify_some.mpr ⟨destination, found, rfl⟩, ?_⟩
    split <;> rfl
  versions := fun id old found => by
    rw [appended.versions]
    exact ⟨old, Table.getElem?_concat_some.mpr (.inl found), rfl⟩

theorem superseded_grows (t : BeneficiaryTables) (versionId : Nat) (now : Instant) :
    Grows t (superseded t versionId now) where
  destinations := fun _ row found => ⟨row, found, rfl⟩
  versions := fun id row found => by
    refine ⟨_, Table.getElem?_modify_some.mpr ⟨row, found, rfl⟩, ?_⟩
    split <;> rfl

theorem opened_grows (t : BeneficiaryTables) (destination : PayoutDestination) :
    Grows t { t with destinations := t.destinations ++ [destination] } where
  destinations := fun _ row found => ⟨row, Table.getElem?_concat_some.mpr (.inl found), rfl⟩
  versions := fun _ row found => ⟨row, found, rfl⟩

/-! ### Appending keeps the tables -/

section Filing

variable {fingerprinter : PayoutDetails → String} {t t' : BeneficiaryTables}

theorem VersionAppended.filed {version : NewVersion} {beneficiaryId : Nat}
    (appended : VersionAppended t t' (version.row fingerprinter) beneficiaryId)
    (filed : Filed fingerprinter t) (known : version.destinationId < t.destinations.length) :
    Filed fingerprinter t' where
  owned := fun row mem => by
    rw [appended.destinations, List.length_modify]
    rw [appended.versions] at mem
    rcases List.mem_append.mp mem with old | new
    · exact filed.owned row old
    · rw [List.mem_singleton.mp new]
      exact known
  unique := by
    rw [appended.versions]
    exact filed.unique.append appended.admitted
  normal := fun row mem => by
    rw [appended.versions] at mem
    rcases List.mem_append.mp mem with old | new
    · exact filed.normal row old
    · rw [List.mem_singleton.mp new]
      exact ⟨normalisePayoutDetails_idem version.details, rfl⟩
  verified := fun row mem => by
    rw [appended.verification] at mem
    rw [appended.versions, List.length_append]
    exact Nat.lt_add_right _ (filed.verified row mem)
  joined := by
    simp [appended.verification, appended.versions, filed.joined]

theorem Filed.opened (filed : Filed fingerprinter t) (destination : PayoutDestination) :
    Filed fingerprinter { t with destinations := t.destinations ++ [destination] } :=
  ⟨fun row mem => by
    rw [List.length_append]
    exact Nat.lt_add_right _ (filed.owned row mem),
    filed.unique, filed.normal, filed.verified, filed.joined⟩

theorem superseded_mem {versionId : Nat} {now : Instant} {row : DestinationVersionRow}
    (mem : row ∈ (superseded t versionId now).versions) :
    ∃ old ∈ t.versions, { row with supersededAt := old.supersededAt } = old := by
  obtain ⟨i, at'⟩ := List.mem_iff_getElem?.mp mem
  obtain ⟨old, found, rfl⟩ := Table.getElem?_modify_some.mp at'
  refine ⟨old, List.mem_of_getElem? found, ?_⟩
  split <;> rfl

theorem Filed.superseded (filed : Filed fingerprinter t) (versionId : Nat) (now : Instant) :
    Filed fingerprinter (superseded t versionId now) where
  owned := fun row mem => by
    obtain ⟨old, mem', same⟩ := superseded_mem mem
    have owned := filed.owned old mem'
    rw [← same] at owned
    exact owned
  unique := filed.unique.of_map_eq (Table.map_modify fun _ => rfl)
  normal := fun row mem => by
    obtain ⟨old, mem', same⟩ := superseded_mem mem
    have normal := filed.normal old mem'
    rw [← same] at normal
    exact normal
  verified := fun row mem => by
    rw [InrSettle.superseded, List.length_modify]
    exact filed.verified row mem
  joined := by rw [InrSettle.superseded, List.length_modify]; exact filed.joined

theorem numbersOf_eq (versions : List DestinationVersionRow) (destinationId : Nat) :
    numbersOf versions destinationId =
      ((versions.map fun row => (row.destinationId, row.versionNumber)).filter
        fun key => decide (key.1 = destinationId)).map Prod.snd := by
  rw [numbersOf, List.filter_map, List.map_map]
  rfl

theorem numbersOf_superseded (versionId : Nat) (now : Instant) (destinationId : Nat) :
    numbersOf (superseded t versionId now).versions destinationId =
      numbersOf t.versions destinationId := by
  rw [numbersOf_eq, numbersOf_eq]
  exact congrArg (fun keys => (List.filter _ keys).map Prod.snd) (Table.map_modify fun _ => rfl)

theorem numbersOf_none (filed : Filed fingerprinter t) {destinationId : Nat}
    (new : t.destinations.length ≤ destinationId) : numbersOf t.versions destinationId = [] := by
  rw [numbersOf, List.map_eq_nil_iff, List.filter_eq_nil_iff]
  intro row mem
  have owned := filed.owned row mem
  simp only [decide_eq_true_eq]
  omega

/-- The first version of a new destination. -/
theorem VersionAppended.opensInOrder {details : PayoutDetails} {beneficiaryId : Nat}
    {action : String} {destination : PayoutDestination} (filed : Filed fingerprinter t)
    (inOrder : VersionsInOrder t)
    (appended : VersionAppended { t with destinations := t.destinations ++ [destination] } t'
      (NewVersion.row fingerprinter
        ⟨t.destinations.length, beneficiaryId, details, 1, action⟩) beneficiaryId) :
    VersionsInOrder t' := by
  have none := numbersOf_none filed le_rfl
  refine appended.inOrder (fun d old other found => ?_) ?_ ?_ rfl ?_
  · rcases Table.getElem?_concat_some.mp found with there | ⟨is, -⟩
    · exact inOrder d old there
    · exact (other is).elim
  · exact none.trans (congrArg (fun numbers => List.range' 1 (List.length numbers)) none).symm
  · exact (congrArg (fun numbers => List.length numbers + 1) none).symm
  · intro row mem same
    have owned := filed.owned row mem
    exact absurd same (by simp only [NewVersion.row]; omega)

theorem latestVersion_some {destinationId id : Nat} {row : DestinationVersionRow}
    (latest : latestVersion t destinationId = some (row, id)) :
    t.versions[id]? = some row ∧ row.destinationId = destinationId := by
  have mem := (Table.latestBy_some latest).1
  obtain ⟨there, same⟩ := List.mem_filter.mp mem
  exact ⟨List.mem_zipIdx_iff_getElem?.mp there, by simpa using same⟩

theorem mem_numbersOf {versions : List DestinationVersionRow} {destinationId number : Nat} :
    number ∈ numbersOf versions destinationId ↔
      ∃ row ∈ versions, row.destinationId = destinationId ∧ row.versionNumber = number := by
  simp [numbersOf, and_assoc]

/-- The numbers of a destination are those from one to its latest version's. -/
theorem DestinationInOrder.number_iff {versions : List DestinationVersionRow}
    {destinationId number : Nat} {destination : PayoutDestination}
    (inOrder : DestinationInOrder versions destinationId destination) :
    (∃ row ∈ versions, row.destinationId = destinationId ∧ row.versionNumber = number) ↔
      1 ≤ number ∧ number ≤ (numbersOf versions destinationId).length := by
  rw [← mem_numbersOf, inOrder.numbered, List.mem_range'_1, ← inOrder.numbered]
  omega

theorem DestinationInOrder.length_pos {versions : List DestinationVersionRow}
    {destinationId : Nat} {destination : PayoutDestination}
    (inOrder : DestinationInOrder versions destinationId destination) :
    1 ≤ (numbersOf versions destinationId).length := by
  obtain ⟨id, row, -, found, same, number, -⟩ := inOrder.current
  exact number ▸ (inOrder.number_iff.mp ⟨row, List.mem_of_getElem? found, same, rfl⟩).1

/-- Superseding a version of one destination leaves the others in order. -/
theorem DestinationInOrder.superseded {d versionId : Nat} {destination : PayoutDestination}
    {row : DestinationVersionRow} (inOrder : DestinationInOrder t.versions d destination)
    (found : t.versions[versionId]? = some row) (other : row.destinationId ≠ d) (now : Instant) :
    DestinationInOrder (superseded t versionId now).versions d destination := by
  obtain ⟨numbered, id, last, pointed, at', same, number, only⟩ := inOrder
  have elsewhere : ∀ (i : Nat) old, t.versions[i]? = some old → old.destinationId = d →
      versionId ≠ i := by
    rintro i old at' same rfl
    rw [found] at at'
    exact other (Option.some.inj at' ▸ same)
  refine ⟨by rw [numbersOf_superseded, ← numbered], id, last, pointed, ?_, same,
    by rw [numbersOf_superseded, number], fun id' row' at'' same' => ?_⟩
  · exact Table.getElem?_modify_some.mpr ⟨last, at', (if_neg (elsewhere id last at' same)).symm⟩
  · obtain ⟨old, there, is⟩ := Table.getElem?_modify_some.mp at''
    split at is
    · rename_i here
      subst here
      rw [found] at there
      obtain rfl := Option.some.inj there
      exact (other (by rw [is] at same'; exact same')).elim
    · exact only id' row' (is ▸ there) same'

end Filing

section Editing

variable {fingerprinter : PayoutDetails → String} {seenAt : Snapshots} {t t' : BeneficiaryTables}
  {input : EditDestinationInput} {destination : PayoutDestination}

/-- The version an edit supersedes is the current one. -/
theorem VersionReplaced.latest (filed : Filed fingerprinter t) (inOrder : VersionsInOrder t)
    (subject : Grows seenAt.subject t) (current : Grows seenAt.current t)
    (replaced : VersionReplaced seenAt input destination fingerprinter t t') :
    ∃ row versionId, latestVersion seenAt.current input.destinationId = some (row, versionId) ∧
      row.versionNumber = (numbersOf t.versions input.destinationId).length ∧
      ∃ there, t.versions[versionId]? = some there ∧
        there.destinationId = input.destinationId ∧
        ∀ (id' : Nat) row', t.versions[id']? = some row' →
          row'.destinationId = input.destinationId →
            (row'.supersededAt = none ↔ id' = versionId) := by
  obtain ⟨destination', known, -⟩ := subject.destinations _ _ replaced.accepted.found
  have order := inOrder _ _ known
  have fresh := Table.admits_iff.mp replaced.appended.admitted _ rfl
  cases latest : latestVersion seenAt.current input.destinationId with
  | none =>
    simp only [latest, Option.map_none, Option.getD_none] at fresh
    obtain ⟨row, mem, same, number⟩ := order.number_iff.mpr ⟨le_rfl, order.length_pos⟩
    exact (fresh row mem (by simp [versionKey, NewVersion.row, same, number])).elim
  | some version =>
    obtain ⟨row, versionId⟩ := version
    obtain ⟨read, same⟩ := latestVersion_some latest
    obtain ⟨there, found, is⟩ := current.versions versionId row read
    have same' : there.destinationId = input.destinationId := by rw [← same, ← is]
    have upto := (order.number_iff.mp ⟨there, List.mem_of_getElem? found, same', rfl⟩).2
    have number : there.versionNumber = (numbersOf t.versions input.destinationId).length := by
      refine le_antisymm upto (not_lt.mp fun below => ?_)
      obtain ⟨next, mem, owner, follows⟩ := order.number_iff.mpr ⟨Nat.le_add_left 1 _, below⟩
      have key : there.versionNumber = row.versionNumber := by rw [← is]
      simp only [latest, Option.map_some, Option.getD_some] at fresh
      obtain ⟨i, at'⟩ := List.mem_iff_getElem?.mp mem
      refine fresh _ (List.mem_of_getElem? (Table.getElem?_modify_some.mpr ⟨next, at', rfl⟩)) ?_
      rw [key] at follows
      split <;> simp [versionKey, NewVersion.row, owner, follows]
    obtain ⟨id, last, -, at', owner, highest, only⟩ := order.current
    have here : id = versionId :=
      filed.unique.index_eq at' found (k := (input.destinationId, last.versionNumber))
        (by rw [versionKey, owner]) (by rw [versionKey, same', number, highest])
    subst here
    exact ⟨row, id, rfl, by rw [← number, ← is], there, found, same', only⟩

theorem VersionReplaced.inOrder (filed : Filed fingerprinter t) (inOrder : VersionsInOrder t)
    (subject : Grows seenAt.subject t) (current : Grows seenAt.current t)
    (replaced : VersionReplaced seenAt input destination fingerprinter t t') :
    Filed fingerprinter t' ∧ VersionsInOrder t' := by
  obtain ⟨row, versionId, latest, number, there, found, owner, only⟩ :=
    replaced.latest filed inOrder subject current
  obtain ⟨destination', known, -⟩ := subject.destinations _ _ replaced.accepted.found
  have appended := replaced.appended
  simp only [latest, Option.map_some, Option.getD_some] at appended
  refine ⟨appended.filed (filed.superseded versionId input.now)
    (List.getElem?_eq_some_iff.mp known).1, ?_⟩
  have numbers := numbersOf_superseded (t := t) versionId input.now input.destinationId
  refine appended.inOrder (fun d old other at' => ?_) ?_ ?_ rfl fun row' mem same => ?_
  · exact (inOrder d old at').superseded found (owner ▸ Ne.symm other) input.now
  · exact numbers.trans ((inOrder _ _ known).numbered.trans (by rw [← numbers]; rfl))
  · exact congrArg (· + 1) (number.trans (congrArg List.length numbers.symm))
  · obtain ⟨i, at'⟩ := List.mem_iff_getElem?.mp mem
    obtain ⟨old, before, is⟩ := Table.getElem?_modify_some.mp at'
    split at is
    · rw [is]
      exact Option.some_ne_none _
    · rename_i elsewhere
      exact fun none => elsewhere ((only i row' (is ▸ before) same).mp none).symm

theorem VersionReplaced.grows
    (replaced : VersionReplaced seenAt input destination fingerprinter t t') : Grows t t' := by
  refine Grows.trans ?_ replaced.appended.grows
  cases latestVersion seenAt.current input.destinationId with
  | none => exact .refl t
  | some version => exact superseded_grows t version.2 input.now

end Editing

/-! ### The registry -/

namespace Registry

variable {policies : NameMatchPolicySet} {fingerprinter : PayoutDetails → String} {w : Registry}

structure Sound (fingerprinter : PayoutDetails → String) (w : Registry) : Prop where
  filed : Filed fingerprinter w.now
  inOrder : VersionsInOrder w.now
  grown : ∀ t ∈ w.past, Grows t w.now
  requested : w.verifications.Requested

theorem asOf_mem (w : Registry) (n : Nat) : w.asOf n ∈ w.now :: w.past := by
  cases n with
  | zero => exact List.mem_cons_self
  | succ n =>
    rw [asOf]
    cases found : w.past[n]? with
    | none => exact List.mem_cons_self
    | some t => exact List.mem_cons_of_mem _ (List.mem_of_getElem? found)

theorem Sound.asOf_grows (sound : w.Sound fingerprinter) (n : Nat) : Grows (w.asOf n) w.now := by
  rcases List.mem_cons.mp (w.asOf_mem n) with now | past
  · rw [now]
    exact .refl w.now
  · exact sound.grown _ past

/-- What a commit has to keep of the tables. -/
structure Kept (fingerprinter : PayoutDetails → String) (t t' : BeneficiaryTables) : Prop where
  filed : Filed fingerprinter t'
  inOrder : VersionsInOrder t'
  grows : Grows t t'
  versions : t.verification.versions.length ≤ t'.verification.versions.length

theorem Sound.commit {α : Type} (sound : w.Sound fingerprinter) {tx : BeneficiaryTx α}
    (kept : ∀ a t', Commits tx w.now a t' → Kept fingerprinter w.now t') :
    (w.commit tx).Sound fingerprinter := by
  have after : Kept fingerprinter w.now (after tx w.now) :=
    after_induction (P := fun t : BeneficiaryTables => Kept fingerprinter w.now t)
      ⟨sound.filed, sound.inOrder, .refl _, le_rfl⟩ kept
  refine ⟨after.filed, after.inOrder, fun t mem => ?_, fun versionId provider requestedBy mem => ?_⟩
  · rcases List.mem_cons.mp mem with rfl | past
    · exact after.grows
    · exact (sound.grown t past).trans after.grows
  · exact (sound.requested versionId provider requestedBy mem).trans_le after.versions

theorem Kept.of_still {t t' : BeneficiaryTables} (filed : Filed fingerprinter t)
    (inOrder : VersionsInOrder t) (still : VersionsStill t t') : Kept fingerprinter t t' := by
  obtain ⟨versions, destinations, verification⟩ := still
  refine ⟨⟨?_, ?_, ?_, ?_, ?_⟩, ?_, .of_eq destinations versions, ?_⟩
  · rw [versions, destinations]
    exact filed.owned
  · rw [versions]
    exact filed.unique
  · rw [versions]
    exact filed.normal
  · rw [versions, verification]
    exact filed.verified
  · rw [versions, verification]
    exact filed.joined
  · rw [VersionsInOrder, versions, destinations]
    exact inOrder
  · rw [verification]

theorem Kept.of_opened {t t' : BeneficiaryTables} (filed : Filed fingerprinter t)
    (inOrder : VersionsInOrder t) {destination : PayoutDestination} {details : PayoutDetails}
    {beneficiaryId : Nat} {action : String}
    (appended : VersionAppended { t with destinations := t.destinations ++ [destination] } t'
      (NewVersion.row fingerprinter
        ⟨t.destinations.length, beneficiaryId, details, 1, action⟩) beneficiaryId) :
    Kept fingerprinter t t' where
  filed := appended.filed (filed.opened destination) (by simp)
  inOrder := appended.opensInOrder filed inOrder
  grows := (opened_grows t destination).trans appended.grows
  versions := by simp [appended.verification]

theorem Sound.edit (sound : w.Sound fingerprinter) {reads : ReadPoints} {input : EditDestinationInput}
    {t' : BeneficiaryTables} {destination : PayoutDestination}
    (replaced : VersionReplaced (w.snapshots reads) input destination fingerprinter w.now t') :
    Kept fingerprinter w.now t' := by
  obtain ⟨filed, inOrder⟩ := replaced.inOrder sound.filed sound.inOrder
    (sound.asOf_grows reads.subject) (sound.asOf_grows reads.current)
  refine ⟨filed, inOrder, replaced.grows, ?_⟩
  have verification := replaced.appended.verification
  have before : (((latestVersion (w.snapshots reads).current input.destinationId).map
      fun version => superseded w.now version.2 input.now).getD w.now).verification =
        w.now.verification := by
    cases latestVersion (w.snapshots reads).current input.destinationId <;> rfl
  rw [verification, before, List.length_append]
  exact Nat.le_add_right _ _

/-- What a verification step leaves: what it has written, with the status recomputed, or nothing. -/
theorem settled_cases (policies : NameMatchPolicySet) (w : Registry) (reads : ReadPoints) (op : VerificationOp) :
    w.settled policies reads op = w.now ∨
      VersionsStill (w.written policies op) (w.settled policies reads op) := by
  rw [settled]
  cases w.verifications.resolved policies op with
  | none => exact .inr ⟨rfl, rfl, rfl⟩
  | some loaded =>
    cases answered : answer (w.recompute reads loaded) (w.written policies op) with
    | none =>
      exact .inl (by simp only [answered])
    | some status =>
      simp only [answered]
      exact .inr (refreshBeneficiaryStatus_still (answer_some answered))

theorem verify_now (policies : NameMatchPolicySet) (w : Registry) (reads : ReadPoints) (op : VerificationOp) :
    (w.verify policies reads op).now = w.now ∨
      VersionsStill (w.written policies op) (w.verify policies reads op).now := by
  have settled := settled_cases policies w reads op
  cases op with
  | addVersion version => exact .inl rfl
  | receiveCallback => exact .inr ⟨rfl, rfl, rfl⟩
  | _ => exact settled

theorem Sound.written (sound : w.Sound fingerprinter) {op : VerificationOp}
    (added : ∀ version, op ≠ .addVersion version) :
    Kept fingerprinter w.now (w.written policies op) := by
  have versions : (w.written policies op).verification.versions = w.now.verification.versions :=
    VerificationWorld.step_versions added
  refine ⟨⟨sound.filed.owned, sound.filed.unique, sound.filed.normal, fun row mem => ?_, ?_⟩,
    sound.inOrder, .of_eq rfl rfl, by rw [versions]⟩
  · rcases VerificationWorld.mem_step mem with ⟨old, there, same⟩ | opens
    · exact same ▸ sound.filed.verified old there
    · exact sound.filed.joined ▸ VerificationWorld.requested_opens sound.requested opens
  · rw [versions]
    exact sound.filed.joined

theorem Sound.verify_kept (sound : w.Sound fingerprinter) (reads : ReadPoints) (op : VerificationOp) :
    Kept fingerprinter w.now (w.verify policies reads op).now := by
  have still : Kept fingerprinter w.now w.now := ⟨sound.filed, sound.inOrder, .refl _, le_rfl⟩
  by_cases isAdd : ∃ version, op = .addVersion version
  · obtain ⟨version, rfl⟩ := isAdd
    exact still
  · have written : Kept fingerprinter w.now (w.written policies op) :=
      sound.written fun version is => isAdd ⟨version, is⟩
    rcases w.verify_now policies reads op with same | recomputed
    · rw [same]
      exact still
    · obtain ⟨filed, inOrder, grows, versions⟩ :=
        Kept.of_still written.filed written.inOrder recomputed
      exact ⟨filed, inOrder, written.grows.trans grows, written.versions.trans versions⟩

theorem verify_past (w : Registry) (reads : ReadPoints) (op : VerificationOp) :
    ∀ t ∈ (w.verify policies reads op).past, t ∈ w.now :: w.past := by
  intro t mem
  cases op with
  | addVersion version => exact List.mem_cons_of_mem _ mem
  | receiveCallback => exact List.mem_cons_of_mem _ mem
  | _ => exact mem

theorem verify_runs (w : Registry) (reads : ReadPoints) {op : VerificationOp}
    (added : ∀ version, op ≠ .addVersion version) :
    (w.verify policies reads op).runs = (w.verifications.step policies op).runs := by
  cases op with
  | addVersion version => exact (added version rfl).elim
  | _ => rfl

theorem Sound.verify (sound : w.Sound fingerprinter) (reads : ReadPoints) (op : VerificationOp) :
    (w.verify policies reads op).Sound fingerprinter := by
  by_cases isAdd : ∃ version, op = .addVersion version
  · obtain ⟨version, rfl⟩ := isAdd
    exact sound
  · have added : ∀ version, op ≠ .addVersion version := fun version is => isAdd ⟨version, is⟩
    have kept : Kept fingerprinter w.now (w.verify policies reads op).now :=
      sound.verify_kept reads op
    refine ⟨kept.filed, kept.inOrder, fun t mem => ?_, fun versionId provider requestedBy mem => ?_⟩
    · rcases List.mem_cons.mp (verify_past w reads op t mem) with rfl | before
      · exact kept.grows
      · exact (sound.grown t before).trans kept.grows
    · have requested := VerificationWorld.requested_step sound.requested added
        versionId provider requestedBy (by rw [← verify_runs w reads added]; exact mem)
      rw [VerificationWorld.step_versions added] at requested
      exact requested.trans_le kept.versions

theorem Sound.step (sound : w.Sound fingerprinter) (op : RegistryOp) :
    (w.step policies fingerprinter op).Sound fingerprinter := by
  cases op with
  | createBeneficiary reads input =>
    refine sound.commit fun id t' done => ?_
    rcases createBeneficiary_commits done with still | ⟨details, appended⟩
    · exact .of_still sound.filed sound.inOrder still
    · exact .of_opened sound.filed sound.inOrder appended
  | addPayoutDestination reads input =>
    exact sound.commit fun id t' done =>
      .of_opened sound.filed sound.inOrder (addPayoutDestination_appended done)
  | editPayoutDestination reads input =>
    refine sound.commit fun created t' done => ?_
    rcases editPayoutDestination_commits done with ⟨-, rfl, -⟩ | ⟨-, destination, replaced⟩
    · exact ⟨sound.filed, sound.inOrder, .refl _, le_rfl⟩
    · exact sound.edit replaced
  | disableBeneficiary reads beneficiaryId now =>
    refine sound.commit fun u t' done => ?_
    simp only [disableBeneficiary, commits_require_bind, commits_modify] at done
    obtain ⟨-, rfl⟩ := done
    exact .of_still sound.filed sound.inOrder ⟨rfl, rfl, rfl⟩
  | verification reads op => exact sound.verify reads op

theorem sound_start : start.Sound fingerprinter := by
  refine ⟨⟨?_, ?_, ?_, ?_, rfl⟩, ?_, ?_, ?_⟩
  all_goals simp [start, BeneficiaryTables.empty, Table.Unique, VersionsInOrder, verifications,
    VerificationWorld.Requested]

theorem sound_run (ops : List RegistryOp) :
    (run (step policies fingerprinter) start ops).Sound fingerprinter :=
  run_invariant (fun _ op sound => sound.step op) sound_start ops

end Registry

end InrSettle
