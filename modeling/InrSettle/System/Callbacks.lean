import InrSettle.System.BeneficiaryStatus
import InrSettle.System.SameRegistry

/-!
# Unauthenticated callbacks

A run beside the one without its unsigned callbacks. They go alike until a genuine
delivery finds its event id stored by an unsigned one: it is then a duplicate.
-/

namespace InrSettle

open Transaction Run VerificationTables

/-! ### The keys of the provider events -/

def VerificationTables.Stored (t : VerificationTables) (key : String × String) : Prop :=
  ∃ event ∈ t.providerEvents, dedupeKey event = some key

/-- The event an open callback has inserted. -/
def heldKey : VerificationRun → Option (String × String)
  | .applying loaded _ providerEventId => some (loaded.provider.id, providerEventId)
  | _ => none

theorem any_stored {t : VerificationTables} {key : String × String} :
    t.providerEvents.any (fun event => decide (dedupeKey event = some key)) = true ↔
      t.Stored key := by
  simp [Stored]

theorem Stored.concat {t : VerificationTables} {event : ProviderEvent} {key : String × String} :
    VerificationTables.Stored { t with providerEvents := t.providerEvents ++ [event] } key ↔
      t.Stored key ∨ dedupeKey event = some key := by
  simp only [Stored, List.mem_append, List.mem_singleton, or_and_right, exists_or,
    exists_eq_left]

section Transactions

variable {policies : NameMatchPolicySet} {t t' : VerificationTables}

theorem insertVerification_providerEvents {row : DestinationVerification} {id : Nat}
    (done : Commits (insertVerification row) t id t') : t'.providerEvents = t.providerEvents := by
  simp only [insertVerification, commits_get_bind, commits_require_bind, commits_modify_bind,
    commits_pure] at done
  obtain ⟨-, -, rfl⟩ := done
  rfl

theorem applyOutcome_providerEvents {loaded : LoadedVerification} {finding : Finding}
    {link : Option Nat} {now : Instant} {status : VerificationStatus}
    (done : Commits (applyOutcome policies loaded finding link now) t status t') :
    t'.providerEvents = t.providerEvents := by
  simp only [applyOutcome, setResolved, bind_assoc, commits_require_bind, commits_modify_bind,
    commits_pure] at done
  obtain ⟨-, -, rfl⟩ := done
  rfl

theorem recordAnswer_providerEvents {loaded : LoadedVerification} {outcome : VerificationOutcome}
    {now : Instant} {status : VerificationStatus}
    (done : Commits (recordAnswer policies loaded outcome now) t status t') :
    t'.providerEvents = t.providerEvents := by
  cases outcome with
  | verifying reference =>
    simp only [recordAnswer, setProviderReference, bind_assoc, commits_get_bind,
      commits_require_bind, commits_modify_bind, commits_pure] at done
    obtain ⟨-, -, rfl⟩ := done
    rfl
  | accountConfirmed evidence => exact applyOutcome_providerEvents done
  | failed code evidence => exact applyOutcome_providerEvents done

theorem applyCallback_providerEvents {loaded : LoadedVerification} {finding : Finding}
    {providerEventId : String} {now : Instant} {status : VerificationStatus}
    (done : Commits (InrSettle.applyCallback policies loaded finding providerEventId now) t status
      t') :
    t'.providerEvents = t.providerEvents ++
      [⟨loaded.provider.id, providerEventId, true, .applied⟩] := by
  simp only [InrSettle.applyCallback, insertProviderEvent, bind_assoc, commits_get_bind,
    commits_require_bind, commits_modify_bind, commits_pure_bind] at done
  exact applyOutcome_providerEvents done.2

end Transactions

/-! ### The verifications -/

namespace VerificationWorld

variable {policies : NameMatchPolicySet} {w w' : VerificationWorld}

theorem holdsEvent_iff {key : String × String} :
    w.holdsEvent key = true ↔ ∃ r ∈ w.runs, heldKey r = some key := by
  rw [holdsEvent, List.any_eq_true]
  refine exists_congr fun r => and_congr_right fun _ => ?_
  cases r <;> simp [heldKey]

/-- The second world is the first one without its unsigned callbacks. -/
structure WithoutUnsigned (w w' : VerificationWorld) : Prop where
  tables : SameVerifications w.tables w'.tables
  runs : w.runs = w'.runs
  fewer : ∀ key, w'.tables.Stored key → w.tables.Stored key
  signed : ∀ event ∈ w.tables.providerEvents, event.signatureValid = true →
    w'.tables.Stored (event.providerId, event.providerEventId)
  held : ∀ r ∈ w.runs, ∀ key, heldKey r = some key → ¬w.tables.Stored key
  distinct : Table.Unique heldKey w.runs

namespace WithoutUnsigned

/-- A step that stores no event, and begins or ends no open callback. -/
theorem quiet (same : WithoutUnsigned w w') {v v' : VerificationWorld}
    (tables : SameVerifications v.tables v'.tables) (runs : v.runs = v'.runs)
    (events : v.tables.providerEvents = w.tables.providerEvents)
    (events' : v'.tables.providerEvents = w'.tables.providerEvents)
    (held : ∀ r ∈ v.runs, ∀ key, heldKey r = some key → r ∈ w.runs)
    (distinct : Table.Unique heldKey v.runs) : WithoutUnsigned v v' := by
  refine ⟨tables, runs, fun key => ?_, ?_, fun r mem key is => ?_, distinct⟩
  · rw [Stored, Stored, events, events']
    exact same.fewer key
  · rw [events]
    intro event mem valid
    rw [Stored, events']
    exact same.signed event mem valid
  · rw [Stored, events]
    exact same.held r (held r mem key is) key is

theorem began (same : WithoutUnsigned w w') {r : VerificationRun} (free : heldKey r = none) :
    WithoutUnsigned { w with runs := w.runs ++ [r] } { w' with runs := w'.runs ++ [r] } := by
  refine same.quiet same.tables (congrArg (· ++ [r]) same.runs) rfl rfl (fun q mem key is => ?_)
    (same.distinct.append ?_)
  · rcases List.mem_append.mp mem with old | new
    · exact old
    · rw [List.mem_singleton.mp new, free] at is
      cases is
  · rw [Table.admits, free, Option.all_none]

theorem ended (same : WithoutUnsigned w w') (runId : Nat) :
    WithoutUnsigned { w with runs := w.runs.set runId .ended }
      { w' with runs := w'.runs.set runId .ended } := by
  refine same.quiet same.tables (congrArg (·.set runId .ended) same.runs) rfl rfl
    (fun r mem key is => ?_) (same.distinct.set nofun)
  rcases List.mem_or_eq_of_mem_set mem with old | rfl
  · exact old
  · cases is

theorem onTables {α : Type} {tx tx' : VerificationTx α} (same : WithoutUnsigned w w')
    (alike : Alike SameVerifications tx w.tables tx' w'.tables)
    (kept : ∀ a t, Commits tx w.tables a t → t.providerEvents = w.tables.providerEvents)
    (kept' : ∀ a t, Commits tx' w'.tables a t → t.providerEvents = w'.tables.providerEvents)
    (runId : Nat) : WithoutUnsigned (w.onTables runId tx) (w'.onTables runId tx') := by
  have ended := same.ended runId
  exact ended.quiet (alike.after same.tables) ended.runs
    (after_induction (P := fun t : VerificationTables =>
      t.providerEvents = w.tables.providerEvents) rfl kept)
    (after_induction (P := fun t : VerificationTables =>
      t.providerEvents = w'.tables.providerEvents) rfl kept')
    (fun _ mem _ _ => mem) ended.distinct

/-- The open callback commits its event and its outcome. -/
theorem applied (same : WithoutUnsigned w w') {runId : Nat} {loaded : LoadedVerification}
    {finding : Finding} {providerEventId : String}
    (found : w.runs[runId]? = some (.applying loaded finding providerEventId)) (now : Instant) :
    WithoutUnsigned
      (w.onTables runId (InrSettle.applyCallback policies loaded finding providerEventId now))
      (w'.onTables runId (InrSettle.applyCallback policies loaded finding providerEventId now)) := by
  have mine := same.held _ (List.mem_of_getElem? found) _ rfl
  have mine' := mt (same.fewer _) mine
  have alike := same.tables.applyCallback policies loaded finding providerEventId now
    (fun event mem is => mine ⟨event, mem, is⟩) fun event mem is => mine' ⟨event, mem, is⟩
  have ended := same.ended runId
  rcases alike with ⟨status, t, t', done, done', tables⟩ | ⟨none, none'⟩
  · have events := applyCallback_providerEvents done
    have events' := applyCallback_providerEvents done'
    have stored : ∀ key, t.Stored key ↔
        w.tables.Stored key ∨ (loaded.provider.id, providerEventId) = key := fun key => by
      rw [Stored, events]
      exact Stored.concat.trans (or_congr_right Option.some_inj)
    have stored' : ∀ key, t'.Stored key ↔
        w'.tables.Stored key ∨ (loaded.provider.id, providerEventId) = key := fun key => by
      rw [Stored, events']
      exact Stored.concat.trans (or_congr_right Option.some_inj)
    rw [VerificationWorld.onTables, VerificationWorld.onTables, after_of_commits done,
      after_of_commits done']
    refine ⟨tables, ended.runs, fun key is => ?_, ?_, fun r mem key is => ?_, ended.distinct⟩
    · exact (stored key).mpr (((stored' key).mp is).imp_left (same.fewer key))
    · intro event mem valid
      rw [events] at mem
      rcases List.mem_append.mp mem with old | new
      · exact (stored' _).mpr (.inl (same.signed event old valid))
      · rw [List.mem_singleton.mp new]
        exact (stored' _).mpr (.inr rfl)
    · rw [stored, not_or]
      refine ⟨ended.held r mem key is, ?_⟩
      rintro rfl
      exact same.distinct.given_up found rfl (fun no => by cases no) r mem is
  · rw [VerificationWorld.onTables, VerificationWorld.onTables,
      after_of_answer_none (answer_none none), after_of_answer_none (answer_none none')]
    exact ended

/-- An unsigned callback is stored, if anything. -/
theorem unsigned (same : WithoutUnsigned w w') (provider : VerificationProvider)
    (providerEventId : String) (callback : Option VerificationCallback) (names : String) :
    WithoutUnsigned (w.receiveCallback provider providerEventId false callback names) w' := by
  rw [receiveCallback]
  split
  · exact same
  · split
    · exact same
    · rename_i free
      simp only [readCallback, if_true]
      refine ⟨⟨same.tables.versions, same.tables.verifications, same.tables.events⟩, same.runs,
        fun key is => Stored.concat.mpr (.inl (same.fewer key is)), ?_, fun r mem key is => ?_,
        same.distinct⟩
      · intro event mem valid
        rcases List.mem_append.mp mem with old | new
        · exact same.signed event old valid
        · rw [List.mem_singleton.mp new] at valid
          cases valid
      · rw [Stored.concat, not_or]
        refine ⟨same.held r mem key is, fun stored => free (holdsEvent_iff.mpr ⟨r, mem, ?_⟩)⟩
        rw [is, ← stored]
        rfl

end WithoutUnsigned

theorem readCallback_provider {t : VerificationTables} {provider : VerificationProvider}
    {signatureValid : Bool} {callback : Option VerificationCallback} {names : String}
    {loaded : LoadedVerification} {finding : Finding}
    (reads : readCallback t provider signatureValid callback names = .applicable loaded finding) :
    loaded.provider = provider := by
  unfold readCallback at reads
  repeat' split at reads
  all_goals cases reads
  all_goals rfl

/-- A signed delivery that can be applied does not find its event id stored by an unsigned one. -/
def Unforestalled (w : VerificationWorld) : VerificationOp → Prop
  | .receiveCallback provider providerEventId true callback names =>
    match readCallback w.tables provider true callback names with
    | .refused _ => True
    | .applicable _ _ => ∀ event ∈ w.tables.providerEvents,
        dedupeKey event = some (provider.id, providerEventId) → event.signatureValid = true
  | _ => True

instance (w : VerificationWorld) (op : VerificationOp) : Decidable (w.Unforestalled op) := by
  unfold Unforestalled
  split
  · split <;> infer_instance
  · infer_instance

def isUnsigned : VerificationOp → Bool
  | .receiveCallback _ _ signatureValid _ _ => !signatureValid
  | _ => false

namespace WithoutUnsigned

theorem holdsEvent (same : WithoutUnsigned w w') (key : String × String) :
    w.holdsEvent key = w'.holdsEvent key := by
  rw [VerificationWorld.holdsEvent, VerificationWorld.holdsEvent, same.runs]

theorem delivered (same : WithoutUnsigned w w') {provider : VerificationProvider}
    {providerEventId : String} {callback : Option VerificationCallback} {names : String}
    (unforestalled : w.Unforestalled
      (.receiveCallback provider providerEventId true callback names)) :
    WithoutUnsigned (w.receiveCallback provider providerEventId true callback names)
      (w'.receiveCallback provider providerEventId true callback names) := by
  have reading := same.tables.readCallback provider true callback names
  rw [receiveCallback, receiveCallback, ← same.holdsEvent, ← reading]
  by_cases stored : w.tables.Stored (provider.id, providerEventId)
  · rw [if_pos (any_stored.mpr stored)]
    by_cases stored' : w'.tables.Stored (provider.id, providerEventId)
    · rw [if_pos (any_stored.mpr stored')]
      exact same
    · rw [if_neg (mt any_stored.mp stored')]
      split
      · exact same
      · cases read : readCallback w.tables provider true callback names with
        | refused interpretation =>
          refine ⟨⟨same.tables.versions, same.tables.verifications, same.tables.events⟩, same.runs,
            fun key is => ?_, fun event mem valid =>
              Stored.concat.mpr (.inl (same.signed event mem valid)), same.held, same.distinct⟩
          rcases Stored.concat.mp is with old | new
          · exact same.fewer key old
          · exact Option.some.inj new ▸ stored
        | applicable loaded finding =>
          obtain ⟨event, mem, is⟩ := stored
          simp only [Unforestalled, read] at unforestalled
          exact (stored' (Option.some.inj is ▸
            same.signed event mem (unforestalled event mem is))).elim
  · rw [if_neg (mt any_stored.mp stored),
      if_neg (mt (any_stored.mp ·) (mt (same.fewer _) stored))]
    split
    · exact same
    · rename_i free
      cases read : readCallback w.tables provider true callback names with
      | refused interpretation =>
        refine ⟨⟨same.tables.versions, same.tables.verifications, same.tables.events⟩, same.runs,
          fun key is => Stored.concat.mpr ((Stored.concat.mp is).imp_left (same.fewer key)), ?_,
          fun r mem key is => ?_, same.distinct⟩
        · intro event mem valid
          rcases List.mem_append.mp mem with old | new
          · exact Stored.concat.mpr (.inl (same.signed event old valid))
          · rw [List.mem_singleton.mp new]
            exact Stored.concat.mpr (.inr rfl)
        · rw [Stored.concat, not_or]
          refine ⟨same.held r mem key is, fun here => free (holdsEvent_iff.mpr ⟨r, mem, ?_⟩)⟩
          rw [is, ← here]
          rfl
      | applicable loaded finding =>
        have new : heldKey (.applying loaded finding providerEventId) =
            some (provider.id, providerEventId) := by
          rw [heldKey, readCallback_provider read]
        refine ⟨same.tables, congrArg (· ++ [_]) same.runs, same.fewer, same.signed,
          fun r mem key is => ?_, same.distinct.append (Table.admits_iff.mpr fun key is r mem => ?_)⟩
        · rcases List.mem_append.mp mem with old | last
          · exact same.held r old key is
          · rw [List.mem_singleton.mp last, new] at is
            exact Option.some.inj is ▸ stored
        · rw [new] at is
          exact fun here => free (holdsEvent_iff.mpr ⟨r, mem, here.trans is.symm⟩)

theorem step (policies : NameMatchPolicySet) (same : WithoutUnsigned w w') (op : VerificationOp)
    (genuine : isUnsigned op = false)
    (unforestalled : w.Unforestalled op) :
    WithoutUnsigned (w.step policies op) (w'.step policies op) := by
  cases op with
  | addVersion version =>
    exact same.quiet ⟨congrArg (· ++ [version]) same.tables.versions, same.tables.verifications,
      same.tables.events⟩ same.runs rfl rfl (fun _ mem _ _ => mem) same.distinct
  | openVerification versionId provider requestedBy =>
    simp only [VerificationWorld.step, ← same.tables.mayOpen versionId]
    cases mayOpen w.tables versionId with
    | ok => exact same.began rfl
    | error refusal => exact same
  | insertVerification runId =>
    simp only [VerificationWorld.step, ← same.runs]
    split
    · exact same.onTables (same.tables.insertVerification _)
        (fun _ _ => insertVerification_providerEvents)
        (fun _ _ => insertVerification_providerEvents) runId
    · exact same
  | loadVerification provider verificationId names =>
    simp only [VerificationWorld.step, ← same.tables.loadVerification provider verificationId names]
    cases InrSettle.loadVerification w.tables provider verificationId names with
    | ok loaded => exact same.began rfl
    | error refusal => exact same
  | recordAnswer runId outcome now =>
    simp only [VerificationWorld.step, ← same.runs]
    split
    · exact same.onTables (same.tables.recordAnswer policies _ _ _)
        (fun _ _ => recordAnswer_providerEvents) (fun _ _ => recordAnswer_providerEvents) runId
    · exact same
  | receiveCallback provider providerEventId signatureValid callback names =>
    obtain rfl : signatureValid = true := by simpa [isUnsigned] using genuine
    exact same.delivered unforestalled
  | applyCallback runId now =>
    simp only [VerificationWorld.step, ← same.runs]
    split
    · rename_i loaded finding providerEventId found
      exact same.applied found now
    · exact same
  | lose runId => exact same.ended runId

/-- A step that commits an outcome ends a run. -/
theorem resolved_ended (same : WithoutUnsigned w w') {op : VerificationOp}
    {loaded : LoadedVerification} (resolved : w.resolved policies op = some loaded) :
    WithoutUnsigned { w with runs := (w.step policies op).runs }
      { w' with runs := (w'.step policies op).runs } := by
  have resolves := (resolved_some resolved).1
  cases op with
  | recordAnswer runId outcome now =>
    obtain ⟨loaded, found, -⟩ := resolves
    simp only [VerificationWorld.step, ← same.runs, found, VerificationWorld.onTables]
    exact same.runs ▸ same.ended runId
  | applyCallback runId now =>
    obtain ⟨loaded, finding, providerEventId, found, -⟩ := resolves
    simp only [VerificationWorld.step, ← same.runs, found, VerificationWorld.onTables]
    exact same.runs ▸ same.ended runId
  | _ => exact resolves.elim

/-- Both worlds commit an outcome for the same verification. -/
theorem resolved (policies : NameMatchPolicySet) (same : WithoutUnsigned w w') (op : VerificationOp) :
    w.resolved policies op = w'.resolved policies op := by
  cases op with
  | recordAnswer runId outcome now =>
    simp only [VerificationWorld.resolved, ← same.runs]
    split
    · rfl
    · rw [(same.tables.recordAnswer policies _ _ now).answer]
    · rfl
  | applyCallback runId now =>
    simp only [VerificationWorld.resolved, ← same.runs]
    split
    · rename_i loaded finding providerEventId found
      have mine := same.held _ (List.mem_of_getElem? found) _ rfl
      rw [(same.tables.applyCallback policies loaded finding providerEventId now
        (fun event mem is => mine ⟨event, mem, is⟩)
        fun event mem is => mine (same.fewer _ ⟨event, mem, is⟩)).answer]
    · rfl
  | _ => rfl

end WithoutUnsigned

end VerificationWorld

/-! ### The registry -/

section Registry

variable {fingerprinter : PayoutDetails → String} {seenAt : Snapshots} {own : OwnRows}
  {t t' : BeneficiaryTables}

theorem VersionAppended.providerEvents {row : DestinationVersionRow} {beneficiaryId : Nat}
    (appended : VersionAppended t t' row beneficiaryId) :
    t'.verification.providerEvents = t.verification.providerEvents := by
  rw [appended.verification]

theorem createBeneficiary_providerEvents {input : CreateBeneficiaryInput} {id : Nat}
    (done : Commits (createBeneficiary fingerprinter seenAt input) t id t') :
    t'.verification.providerEvents = t.verification.providerEvents := by
  rcases createBeneficiary_commits done with still | ⟨details, appended⟩
  · rw [still.verification]
  · exact appended.providerEvents

theorem editPayoutDestination_providerEvents {input : EditDestinationInput} {created : Bool}
    (done : Commits (editPayoutDestination fingerprinter seenAt input) t created t') :
    t'.verification.providerEvents = t.verification.providerEvents := by
  rcases editPayoutDestination_commits done with ⟨-, rfl, -⟩ | ⟨-, destination, replaced⟩
  · rfl
  · rw [replaced.appended.providerEvents]
    cases latestVersion seenAt.current input.destinationId <;> rfl

theorem disableBeneficiary_providerEvents {beneficiaryId : Nat} {now : Instant} {u : PUnit}
    (done : Commits (disableBeneficiary seenAt beneficiaryId now) t u t') :
    t'.verification.providerEvents = t.verification.providerEvents := by
  simp only [disableBeneficiary, commits_require_bind, commits_modify] at done
  rw [done.2]
  rfl

end Registry

namespace Registry

variable {policies : NameMatchPolicySet} {fingerprinter : PayoutDetails → String} {w w' : Registry}

/-- The second registry is the first one without its unsigned callbacks. -/
structure WithoutUnsigned (w w' : Registry) : Prop where
  now : SameRegistry w.now w'.now
  past : List.Forall₂ SameRegistry w.past w'.past
  verifications : w.verifications.WithoutUnsigned w'.verifications

namespace WithoutUnsigned

theorem asOf (same : WithoutUnsigned w w') (n : Nat) : SameRegistry (w.asOf n) (w'.asOf n) := by
  cases n with
  | zero => exact same.now
  | succ n =>
    rw [Registry.asOf, Registry.asOf]
    rcases Nat.lt_or_ge n w.past.length with lt | ge
    · have lt' : n < w'.past.length := same.past.length_eq ▸ lt
      rw [List.getElem?_eq_getElem lt, List.getElem?_eq_getElem lt']
      exact same.past.get lt lt'
    · rw [List.getElem?_eq_none ge, List.getElem?_eq_none (same.past.length_eq ▸ ge)]
      exact same.now

theorem snapshots (same : WithoutUnsigned w w') (reads : ReadPoints) :
    SameSnapshots (w.snapshots reads) (w'.snapshots reads) :=
  ⟨same.asOf _, same.asOf _, same.asOf _, same.asOf _, same.asOf _⟩

/-- A transaction of the registry, which leaves the verifications and the callbacks. -/
theorem commit {α : Type} {tx tx' : BeneficiaryTx α} (same : WithoutUnsigned w w')
    (alike : Alike SameRegistry tx w.now tx' w'.now)
    (kept : ∀ a t, Commits tx w.now a t →
      t.verification.providerEvents = w.now.verification.providerEvents)
    (kept' : ∀ a t, Commits tx' w'.now a t →
      t.verification.providerEvents = w'.now.verification.providerEvents) :
    WithoutUnsigned (w.commit tx) (w'.commit tx') := by
  have now := alike.after same.now
  refine ⟨now, .cons same.now same.past, ?_⟩
  exact same.verifications.quiet now.verification same.verifications.runs
    (after_induction (P := fun t : BeneficiaryTables =>
      t.verification.providerEvents = w.now.verification.providerEvents) rfl kept)
    (after_induction (P := fun t : BeneficiaryTables =>
      t.verification.providerEvents = w'.now.verification.providerEvents) rfl kept')
    (fun _ mem _ _ => mem) same.verifications.distinct

/-- What a verification step commits in both. -/
theorem settled (same : WithoutUnsigned w w') (reads : ReadPoints) (op : VerificationOp)
    (stepped : (w.verifications.step policies op).WithoutUnsigned
      (w'.verifications.step policies op)) :
    SameRegistry (w.settled policies reads op) (w'.settled policies reads op) ∧
      (⟨(w.settled policies reads op).verification, (w.verifications.step policies op).runs⟩ :
        VerificationWorld).WithoutUnsigned
      ⟨(w'.settled policies reads op).verification, (w'.verifications.step policies op).runs⟩ := by
  have written : SameRegistry (w.written policies op) (w'.written policies op) :=
    ⟨same.now.beneficiaries, same.now.destinations, same.now.versions, same.now.events,
      stepped.tables⟩
  have resolved := same.verifications.resolved policies op
  rw [Registry.settled, Registry.settled, ← resolved]
  cases is : w.verifications.resolved policies op with
  | none => exact ⟨written, stepped⟩
  | some loaded =>
    have alike := refreshBeneficiaryStatus_alike { verification := some loaded.verificationId }
      (same.snapshots reads) written loaded.beneficiaryId
    have answers := alike.answer
    simp only [recompute] at answers ⊢
    rw [← answers]
    cases answered : answer (refreshBeneficiaryStatus (w.snapshots reads)
        { verification := some loaded.verificationId } loaded.beneficiaryId)
        (w.written policies op) with
    | none =>
      exact ⟨same.now, same.verifications.resolved_ended is⟩
    | some status =>
      have still := refreshBeneficiaryStatus_still (answer_some answered)
      have still' := refreshBeneficiaryStatus_still (answer_some (answers ▸ answered))
      refine ⟨alike.after written, ?_⟩
      simp only [still.verification, still'.verification]
      exact stepped

theorem verify (same : WithoutUnsigned w w') (reads : ReadPoints) (op : VerificationOp)
    (genuine : VerificationWorld.isUnsigned op = false)
    (unforestalled : w.verifications.Unforestalled op) :
    WithoutUnsigned (w.verify policies reads op) (w'.verify policies reads op) := by
  have stepped := same.verifications.step policies op genuine unforestalled
  obtain ⟨settled, verifications⟩ := same.settled reads op stepped
  cases op with
  | addVersion version => exact same
  | receiveCallback provider providerEventId signatureValid callback names =>
    exact ⟨⟨same.now.beneficiaries, same.now.destinations, same.now.versions, same.now.events,
      stepped.tables⟩, same.past, stepped⟩
  | _ => exact ⟨settled, .cons same.now same.past, verifications⟩

theorem unsigned (same : WithoutUnsigned w w') (reads : ReadPoints) (op : VerificationOp)
    (isUnsigned : VerificationWorld.isUnsigned op = true) :
    WithoutUnsigned (w.verify policies reads op) w' := by
  cases op with
  | receiveCallback provider providerEventId signatureValid callback names =>
    obtain rfl : signatureValid = false := by simpa [VerificationWorld.isUnsigned] using isUnsigned
    have stepped := same.verifications.unsigned provider providerEventId callback names
    exact ⟨⟨same.now.beneficiaries, same.now.destinations, same.now.versions, same.now.events,
      stepped.tables⟩, same.past, stepped⟩
  | _ => cases isUnsigned

end WithoutUnsigned

end Registry

/-- A callback whose signature does not verify. -/
def RegistryOp.isUnsigned : RegistryOp → Bool
  | .verification _ op => VerificationWorld.isUnsigned op
  | _ => false

namespace Registry

variable (policies : NameMatchPolicySet) (fingerprinter : PayoutDetails → String)

/-- A signed delivery that can be applied does not find its event id stored by an unsigned one. -/
def Unforestalled (w : Registry) : RegistryOp → Prop
  | .verification _ op => w.verifications.Unforestalled op
  | _ => True

instance (w : Registry) (op : RegistryOp) : Decidable (w.Unforestalled op) := by
  unfold Unforestalled
  split <;> infer_instance

variable {policies fingerprinter} {w w' : Registry}

theorem WithoutUnsigned.step (same : WithoutUnsigned w w') (op : RegistryOp)
    (genuine : op.isUnsigned = false) (unforestalled : w.Unforestalled op) :
    WithoutUnsigned (w.step policies fingerprinter op) (w'.step policies fingerprinter op) := by
  cases op with
  | createBeneficiary reads input =>
    exact same.commit (createBeneficiary_alike (same.snapshots reads) same.now input)
      (fun _ _ => createBeneficiary_providerEvents) fun _ _ => createBeneficiary_providerEvents
  | addPayoutDestination reads input =>
    refine same.commit (addPayoutDestination_alike (same.snapshots reads) same.now input)
      (fun _ _ done => ?_) fun _ _ done => ?_ <;>
    exact (addPayoutDestination_appended done).providerEvents
  | editPayoutDestination reads input =>
    exact same.commit (editPayoutDestination_alike (same.snapshots reads) same.now input)
      (fun _ _ => editPayoutDestination_providerEvents)
      fun _ _ => editPayoutDestination_providerEvents
  | disableBeneficiary reads beneficiaryId now =>
    exact same.commit (disableBeneficiary_alike (same.snapshots reads) same.now beneficiaryId now)
      (fun _ _ => disableBeneficiary_providerEvents) fun _ _ => disableBeneficiary_providerEvents
  | verification reads op => exact same.verify reads op genuine unforestalled

theorem WithoutUnsigned.run {ops : List RegistryOp} (same : WithoutUnsigned w w')
    (unforestalled : Along (Registry.step policies fingerprinter) Unforestalled w ops) :
    WithoutUnsigned (Run.run (Registry.step policies fingerprinter) w ops)
      (Run.run (Registry.step policies fingerprinter) w' (ops.filter fun op => !op.isUnsigned)) := by
  induction ops generalizing w w' with
  | nil => exact same
  | cons op ops ih =>
    obtain ⟨first, rest⟩ := unforestalled
    cases isUnsigned : op.isUnsigned with
    | false =>
      rw [List.filter_cons_of_pos (by rw [isUnsigned]; rfl)]
      exact ih (same.step op isUnsigned first) rest
    | true =>
      rw [List.filter_cons_of_neg (by rw [isUnsigned]; simp)]
      refine ih ?_ rest
      cases op with
      | verification reads op => exact same.unsigned reads op isUnsigned
      | _ => cases isUnsigned

theorem withoutUnsigned_start : WithoutUnsigned start start :=
  ⟨.refl _, .nil, ⟨.refl _, rfl, fun _ stored => stored,
    fun _ mem => (List.not_mem_nil mem).elim, fun _ mem => (List.not_mem_nil mem).elim,
    List.Pairwise.nil⟩⟩

end Registry

/-- Removing the unsigned callbacks of a run leaves the beneficiaries, the verifications and the
events as they are, if no delivery that can be applied is forestalled by one of them. -/
theorem unsignedCallbacks_removed (policies : NameMatchPolicySet)
    (fingerprinter : PayoutDetails → String) (ops : List RegistryOp)
    (unforestalled : Along (Registry.step policies fingerprinter) Registry.Unforestalled
      Registry.start ops) :
    SameRegistry (run (Registry.step policies fingerprinter) Registry.start ops).now
      (run (Registry.step policies fingerprinter) Registry.start
        (ops.filter fun op => !op.isUnsigned)).now :=
  (Registry.withoutUnsigned_start.run unforestalled).now

def unsignedDelivery (providerEventId : String) : RegistryOp :=
  .verification {} (.receiveCallback bank providerEventId false none "")

/-- The provider confirms the account, by a callback. -/
def genuineDelivery (providerEventId : String) : List RegistryOp :=
  [.verification {} (.receiveCallback bank providerEventId true
      (some ⟨0, 0, .accountConfirmed { asserted := some true }⟩) ""),
    .verification {} (.applyCallback 2 20)]

theorem unsignedCallbacks_removed_beside :
    SameRegistry
      (run (Registry.step asserting canonicalDetails) Registry.start
        (savedAndAsked ++ unsignedDelivery "evt_0" :: genuineDelivery "evt_1" ++
          [unsignedDelivery "evt_1"])).now
      (run (Registry.step asserting canonicalDetails) Registry.start
        ((savedAndAsked ++ unsignedDelivery "evt_0" :: genuineDelivery "evt_1" ++
          [unsignedDelivery "evt_1"]).filter fun op => !op.isUnsigned)).now :=
  unsignedCallbacks_removed asserting canonicalDetails _ (by decide +kernel)

def statusesAfter (ops : List RegistryOp) : List BeneficiaryStatus × List VerificationStatus :=
  let t := (run (Registry.step asserting canonicalDetails) Registry.start ops).now
  (t.beneficiaries.map (·.status), t.verification.verifications.map (·.status))

/-- Whoever posts the event id first, unsigned, keeps the genuine callback from being applied. -/
theorem genuine_delivery_forestalled :
    statusesAfter (savedAndAsked ++ unsignedDelivery "evt_1" :: genuineDelivery "evt_1") =
        ([.pendingVerification], [.verifying]) ∧
      statusesAfter ((savedAndAsked ++ unsignedDelivery "evt_1" ::
          genuineDelivery "evt_1").filter fun op => !op.isUnsigned) = ([.verified], [.verified]) := by
  decide +kernel

end InrSettle
