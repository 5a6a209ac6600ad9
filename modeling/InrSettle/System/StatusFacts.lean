import InrSettle.System.DestinationChains

/-!
# The status of a beneficiary and its facts

The stored status follows from the committed rows where what its recomputation has seen of
them is what is committed.
-/

namespace InrSettle

open Transaction Run BeneficiaryTables

/-! ### The facts -/

def verifiedVersion (verifications : List DestinationVerification) (versionId : Nat) : Bool :=
  verifications.any fun row =>
    decide (row.destinationVersionId = versionId) && decide (row.status = .verified)

/-- A version is described by a verified row exactly if it has one. -/
theorem describing_verified (verifications : List DestinationVerification) (versionId : Nat) :
    ((describing verifications versionId).any fun row => decide (row.status = .verified)) =
      verifiedVersion verifications versionId := by
  have fold : ∀ (rows : List DestinationVerification) (best : Option DestinationVerification),
      ((rows.foldl betterOf best).any fun row => decide (row.status = .verified)) =
        (best.any (fun row => decide (row.status = .verified)) ||
          rows.any fun row => decide (row.status = .verified)) := by
    intro rows
    induction rows with
    | nil => simp
    | cons row rows ih =>
      intro best
      rw [List.foldl_cons, ih, List.any_cons, ← Bool.or_assoc]
      refine congrArg (· || _) ?_
      cases best with
      | none => rfl
      | some existing =>
        simp only [betterOf, Option.any_some]
        cases is : existing.status <;> cases is' : row.status <;>
          simp [VerificationStatus.rank, is, is']
  rw [describing, fold, Option.any_none, Bool.false_or, List.any_reverse, List.any_filter]
  rfl

/-- The facts of a beneficiary as they are in the tables. -/
def factsOf (t : BeneficiaryTables) (beneficiaryId : Nat) (beneficiary : Beneficiary) :
    StatusFacts :=
  statusFacts beneficiary (usableDestinations t.destinations beneficiaryId)
    t.verification.verifications

/-- The stored status is the one that follows from the destinations and their current versions. -/
def StatusDerived (t : BeneficiaryTables) (beneficiaryId : Nat) : Prop :=
  ∀ beneficiary, t.beneficiaries[beneficiaryId]? = some beneficiary →
    beneficiary.status = deriveBeneficiaryStatus (factsOf t beneficiaryId beneficiary)

def StatusFollows (t : BeneficiaryTables) : Prop := ∀ beneficiaryId, StatusDerived t beneficiaryId

/-- Facts that differ in nothing the status depends on. -/
def StatusFacts.Agree (a b : StatusFacts) : Prop :=
  a.disabled = b.disabled ∧ (a.disabled = false →
    a.rejected = b.rejected ∧ (a.rejected = false →
      (a.destinationCount = 0 ↔ b.destinationCount = 0) ∧ (a.destinationCount ≠ 0 →
        a.anyCurrentVersionVerified = b.anyCurrentVersionVerified)))

instance (a b : StatusFacts) : Decidable (a.Agree b) :=
  inferInstanceAs (Decidable (_ ∧ (_ → _ ∧ (_ → _ ∧ (_ → _)))))

theorem StatusFacts.Agree.derive {a b : StatusFacts} (agree : a.Agree b) :
    deriveBeneficiaryStatus a = deriveBeneficiaryStatus b := by
  obtain ⟨disabled, rest⟩ := agree
  unfold deriveBeneficiaryStatus
  rw [← disabled]
  cases isDisabled : a.disabled with
  | true => rfl
  | false =>
    obtain ⟨rejected, rest⟩ := rest isDisabled
    rw [← rejected]
    cases isRejected : a.rejected with
    | true => rfl
    | false =>
      obtain ⟨count, verified⟩ := rest isRejected
      by_cases none : a.destinationCount = 0
      · simp [none, count.mp none]
      · simp [none, mt count.mpr none, verified none]

/-! ### What a recomputation sees -/

/-- A recomputation: what its transaction has written before it, and what its statements see. -/
structure Recomputation where
  seenAt : Snapshots
  own : OwnRows
  written : BeneficiaryTables
  beneficiaryId : Nat

/-- The statements see the facts that are committed with what is written; and where the row they
see has the status already, so that none is written, the committed row has it too. -/
def Recomputation.InPlace (r : Recomputation) : Prop :=
  ∀ seen facts row, seenFacts r.seenAt r.own r.written r.beneficiaryId = some (seen, facts) →
    r.written.beneficiaries[r.beneficiaryId]? = some row →
    facts.Agree (factsOf r.written r.beneficiaryId row) ∧
      (seen.status = deriveBeneficiaryStatus facts → row.status = seen.status)

instance (r : Recomputation) : Decidable r.InPlace :=
  decidable_of_iff (((seenFacts r.seenAt r.own r.written r.beneficiaryId).all fun read =>
      (r.written.beneficiaries[r.beneficiaryId]?).all fun row => decide
        (read.2.Agree (factsOf r.written r.beneficiaryId row) ∧
          (read.1.status = deriveBeneficiaryStatus read.2 → row.status = read.1.status))) = true) (by
    simp only [Option.all_eq_true, decide_eq_true_eq, Recomputation.InPlace, Prod.forall]
    exact ⟨fun each seen facts row sees found => each seen facts sees row found,
      fun each seen facts sees row found => each seen facts row sees found⟩)

namespace Registry

variable (policies : NameMatchPolicySet) (fingerprinter : PayoutDetails → String)

/-- The recomputation of a step, the one of a new beneficiary apart, which no one else sees. -/
def recomputes (w : Registry) : RegistryOp → Option Recomputation
  | .createBeneficiary .. | .disableBeneficiary .. => none
  | .addPayoutDestination reads input =>
    match (insertDestination fingerprinter (w.snapshots reads) {} input).run w.now with
    | .ok ((_, own), written) => some ⟨w.snapshots reads, own, written, input.beneficiaryId⟩
    | .error _ => none
  | .editPayoutDestination reads input =>
    match (replaceVersion fingerprinter (w.snapshots reads) input).run w.now with
    | .ok (some beneficiaryId, written) =>
      some ⟨w.snapshots reads, { destination := some input.destinationId }, written, beneficiaryId⟩
    | _ => none
  | .verification reads op => (w.verifications.resolved policies op).map fun loaded =>
      ⟨w.snapshots reads, { verification := some loaded.verificationId }, w.written policies op,
        loaded.beneficiaryId⟩

/-- What the step recomputes is recomputed in place. -/
def RecomputesInPlace (w : Registry) (op : RegistryOp) : Prop :=
  ∀ r, w.recomputes policies fingerprinter op = some r → r.InPlace

instance (w : Registry) (op : RegistryOp) :
    Decidable (w.RecomputesInPlace policies fingerprinter op) :=
  decidable_of_iff (((w.recomputes policies fingerprinter op).all fun r => decide r.InPlace) = true)
    (by simp only [Option.all_eq_true, decide_eq_true_eq, RecomputesInPlace])

end Registry

/-! ### What a change leaves of the others -/

def statusColumns (t : BeneficiaryTables) : List (BeneficiaryStatus × Option Instant) :=
  t.beneficiaries.map fun row => (row.status, row.disabledAt)

theorem statusFacts_eq (beneficiary : Beneficiary) (destinations : List PayoutDestination)
    (verifications : List DestinationVerification) :
    statusFacts beneficiary destinations verifications =
      ⟨beneficiary.disabledAt.isSome, decide (beneficiary.status = .rejected),
        destinations.length,
        (destinations.filterMap (·.currentVersionId)).any (verifiedVersion verifications)⟩ := by
  simp only [statusFacts, describing_verified]

section Frames

variable {t t' : BeneficiaryTables} {id : Nat}

theorem StatusDerived.of_same (follows : StatusDerived t id)
    (columns : (statusColumns t')[id]? = (statusColumns t)[id]?)
    (destinations : usableDestinations t'.destinations id = usableDestinations t.destinations id)
    (verified : ∀ row ∈ usableDestinations t.destinations id, ∀ v, row.currentVersionId = some v →
      verifiedVersion t'.verification.verifications v =
        verifiedVersion t.verification.verifications v) : StatusDerived t' id := by
  intro row' found'
  simp only [statusColumns, List.getElem?_map, found', Option.map_some] at columns
  obtain ⟨row, found, same⟩ := Option.map_eq_some_iff.mp columns.symm
  obtain ⟨status, disabledAt⟩ := Prod.mk.inj same
  have before := follows row found
  have current : ((usableDestinations t.destinations id).filterMap (·.currentVersionId)).any
        (verifiedVersion t'.verification.verifications) =
      ((usableDestinations t.destinations id).filterMap (·.currentVersionId)).any
        (verifiedVersion t.verification.verifications) := by
    rw [Bool.eq_iff_iff, List.any_eq_true, List.any_eq_true]
    refine exists_congr fun v => and_congr_right fun mem => ?_
    obtain ⟨destination, there, is⟩ := List.mem_filterMap.mp mem
    rw [verified destination there v is]
  rw [factsOf, statusFacts_eq] at before ⊢
  rw [destinations, current, ← status, ← disabledAt]
  exact before

/-- A status that is derived is the one derived from the facts with it. -/
theorem derive_again (facts : StatusFacts) :
    deriveBeneficiaryStatus
        { facts with rejected := decide (deriveBeneficiaryStatus facts = .rejected) } =
      deriveBeneficiaryStatus facts := by
  obtain ⟨disabled, rejected, count, verified⟩ := facts
  cases disabled <;> cases rejected <;> cases verified <;>
    by_cases none : count = 0 <;> simp [deriveBeneficiaryStatus, none]

/-- A recomputation in place leaves the status of its beneficiary following, and the others. -/
theorem follows_refresh {r : Recomputation} {status : BeneficiaryStatus}
    (done : Commits (refreshBeneficiaryStatus r.seenAt r.own r.beneficiaryId) r.written status t')
    (others : ∀ id, id ≠ r.beneficiaryId → StatusDerived r.written id) (inPlace : r.InPlace) :
    StatusFollows t' := by
  obtain ⟨seen, facts, sees, rfl, is⟩ := refreshBeneficiaryStatus_commits.mp done
  have still := refreshBeneficiaryStatus_still done
  intro id
  by_cases other : id = r.beneficiaryId
  · subst other
    intro row' found'
    have rows : ∃ row, r.written.beneficiaries[r.beneficiaryId]? = some row ∧
        row'.disabledAt = row.disabledAt ∧
        (row'.status = deriveBeneficiaryStatus facts ∨
          row' = row ∧ seen.status = deriveBeneficiaryStatus facts) := by
      rw [is] at found'
      split at found'
      · obtain ⟨row, found, new⟩ := Table.getElem?_modify_some.mp found'
        rw [if_pos rfl] at new
        exact ⟨row, found, by rw [new], .inl (by rw [new])⟩
      · rename_i same
        exact ⟨row', found', rfl, .inr ⟨rfl, (not_not.mp same).symm⟩⟩
    obtain ⟨row, found, disabledAt, written⟩ := rows
    obtain ⟨agree, kept⟩ := inPlace seen facts row sees found
    have status : row'.status = deriveBeneficiaryStatus (factsOf r.written r.beneficiaryId row) := by
      rw [← agree.derive]
      rcases written with new | ⟨rfl, unchanged⟩
      · exact new
      · rw [kept unchanged, unchanged]
    have again := derive_again (factsOf r.written r.beneficiaryId row)
    rw [← status] at again
    rw [← again, factsOf, factsOf, statusFacts_eq, statusFacts_eq, still.destinations,
      still.verification, disabledAt]
  · refine (others id other).of_same ?_ (by rw [still.destinations])
      fun row mem v current => by rw [still.verification]
    rw [is]
    split
    · simp only [statusColumns, updateBeneficiary, List.getElem?_map,
        List.getElem?_modify_ne _ _ (Ne.symm other)]
    · rfl

end Frames

end InrSettle
