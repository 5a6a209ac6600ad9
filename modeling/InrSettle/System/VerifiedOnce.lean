import InrSettle.System.Verifications

/-!
# Verifications resolve once

The earlier verifications of a version have failed, the last one may be verifying or
verified: the index keeps two from verifying at once, and a request reads the rest.
-/

namespace InrSettle

open Transaction Run VerificationTables

/-! ### What a step can do -/

/-- A new verification of a version. -/
structure VerificationOpened (t t' : VerificationTables) (row : DestinationVerification) : Prop where
  verifications : t'.verifications = t.verifications ++ [row]
  events : t'.events = t.events
  verifying : row.status = .verifying
  unrecorded : row.record = none
  admitted : Table.admits activeKey t.verifications row = true

/-- An outcome for the verification, and its event. -/
structure VerificationResolved (t t' : VerificationTables) (verificationId : Nat) : Prop where
  written : ∃ status record providerEventId event, (status = .verified ∨ status = .failed) ∧
    t'.verifications = t.verifications.modify verificationId (fun row =>
      { row with
        status
        record := some record
        providerEventId := providerEventId <|> row.providerEventId }) ∧
    t'.events = t.events ++ [event] ∧ event.verificationId = verificationId ∧
    [event.type] = status.resolutions

section Transactions

variable {policies : NameMatchPolicySet} {loaded : LoadedVerification} {finding : Finding}
  {t t' : VerificationTables} {now : Instant}

theorem applyOutcome_resolved {providerEventId : Option Nat} {status : VerificationStatus}
    (done : Commits (applyOutcome policies loaded finding providerEventId now) t status t') :
    VerificationResolved t t' loaded.verificationId := by
  simp only [applyOutcome, setResolved, bind_assoc, commits_require_bind, commits_modify_bind,
    commits_pure] at done
  obtain ⟨-, -, rfl⟩ := done
  refine ⟨_, _, _, _, ?_, rfl, rfl, rfl, ?_⟩
  · cases verified : finding.isVerified policies loaded <;> simp [Finding.status, verified]
  · cases verified : finding.isVerified policies loaded <;>
      simp [Finding.status, Finding.event, verified, VerificationStatus.resolutions]

theorem applyCallback_resolved {providerEventId : String} {status : VerificationStatus}
    (done : Commits (applyCallback policies loaded finding providerEventId now) t status t') :
    VerificationResolved t t' loaded.verificationId := by
  simp only [applyCallback, insertProviderEvent, bind_assoc, commits_get_bind,
    commits_require_bind, commits_modify_bind, commits_pure_bind] at done
  obtain ⟨written⟩ := applyOutcome_resolved done.2
  exact ⟨written⟩

theorem insertVerification_opened {row : DestinationVerification} {id : Nat}
    (done : Commits (insertVerification row) t id t') (verifying : row.status = .verifying)
    (unrecorded : row.record = none) : VerificationOpened t t' row := by
  simp only [insertVerification, commits_get_bind, commits_require_bind, commits_modify_bind,
    commits_pure] at done
  obtain ⟨admitted, -, rfl⟩ := done
  exact ⟨rfl, rfl, verifying, unrecorded, admitted⟩

theorem recordAnswer_change {outcome : VerificationOutcome} {status : VerificationStatus}
    (done : Commits (recordAnswer policies loaded outcome now) t status t') :
    ((∃ reference, outcome = .verifying reference) ∧
      ∃ set : DestinationVerification → DestinationVerification, ∃ event,
        (∀ row, (set row).destinationVersionId = row.destinationVersionId ∧
          (set row).status = row.status ∧ (set row).record = row.record) ∧
        t'.verifications = t.verifications.modify loaded.verificationId set ∧
        t'.events = t.events ++ [event] ∧ event.type = .verificationStarted) ∨
      ((∀ reference, outcome ≠ .verifying reference) ∧
        VerificationResolved t t' loaded.verificationId) := by
  cases outcome with
  | verifying reference =>
    simp only [recordAnswer, setProviderReference, bind_assoc, commits_get_bind,
      commits_require_bind, commits_modify_bind, commits_pure] at done
    obtain ⟨-, -, rfl⟩ := done
    refine .inl ⟨⟨reference, rfl⟩, _, _, fun row => ?_, rfl, rfl, rfl⟩
    exact ⟨rfl, rfl, rfl⟩
  | accountConfirmed evidence =>
    refine .inr ⟨fun reference same => ?_, applyOutcome_resolved done⟩
    cases same
  | failed code evidence =>
    refine .inr ⟨fun reference same => ?_, applyOutcome_resolved done⟩
    cases same

end Transactions

/-- What a step does to the verifications and their events. -/
inductive VerificationChange (policies : NameMatchPolicySet) (w : VerificationWorld)
    (op : VerificationOp) (t' : VerificationTables) : Prop where
  | still (verifications : t'.verifications = w.tables.verifications)
    (events : t'.events = w.tables.events)
  | started (verificationId : Nat) (set : DestinationVerification → DestinationVerification)
    (event : VerificationEvent)
    (kept : ∀ row, (set row).destinationVersionId = row.destinationVersionId ∧
      (set row).status = row.status ∧ (set row).record = row.record)
    (verifications : t'.verifications = w.tables.verifications.modify verificationId set)
    (events : t'.events = w.tables.events ++ [event]) (type : event.type = .verificationStarted)
  | opened (row : DestinationVerification) (opens : w.Opens op row.destinationVersionId)
    (change : VerificationOpened w.tables t' row)
  | resolved (verificationId : Nat) (resolves : w.Resolves policies op verificationId)
    (change : VerificationResolved w.tables t' verificationId)

namespace VerificationWorld

variable {policies : NameMatchPolicySet} {w : VerificationWorld} {op : VerificationOp}

theorem opens_opened (policies : NameMatchPolicySet) {versionId : Nat} (opens : w.Opens op versionId) :
    ∃ row, row.destinationVersionId = versionId ∧
      VerificationOpened w.tables (w.step policies op).tables row := by
  cases op with
  | insertVerification runId =>
    obtain ⟨provider, requestedBy, found, answered⟩ := opens
    obtain ⟨id, answered⟩ := Option.isSome_iff_exists.mp answered
    refine ⟨openedVerification provider versionId requestedBy, rfl, ?_⟩
    simp only [step, found]
    exact insertVerification_opened (answer_some answered) rfl rfl
  | _ => exact opens.elim

theorem resolves_resolved {verificationId : Nat}
    (resolves : w.Resolves policies op verificationId) :
    VerificationResolved w.tables (w.step policies op).tables verificationId := by
  cases op with
  | recordAnswer runId outcome now =>
    obtain ⟨loaded, found, rfl, resolving, answered⟩ := resolves
    obtain ⟨status, answered⟩ := Option.isSome_iff_exists.mp answered
    simp only [step, found]
    rcases recordAnswer_change (answer_some answered) with ⟨⟨reference, is⟩, -⟩ | ⟨-, resolved⟩
    · exact (resolving reference is).elim
    · exact resolved
  | applyCallback runId now =>
    obtain ⟨loaded, finding, providerEventId, found, rfl, answered⟩ := resolves
    obtain ⟨status, answered⟩ := Option.isSome_iff_exists.mp answered
    simp only [step, found]
    exact applyCallback_resolved (answer_some answered)
  | _ => exact resolves.elim

theorem step_change (policies : NameMatchPolicySet) (w : VerificationWorld) (op : VerificationOp) :
    VerificationChange policies w op (w.step policies op).tables := by
  cases op with
  | addVersion version => exact .still rfl rfl
  | openVerification versionId provider requestedBy =>
    rw [step]
    split <;> exact .still rfl rfl
  | insertVerification runId =>
    cases found : w.runs[runId]? with
    | none => simpa only [step, found] using .still rfl rfl
    | some r => cases r with
      | opening versionId provider requestedBy =>
        cases answered : answer (insertVerification
            (openedVerification provider versionId requestedBy)) w.tables with
        | none =>
          simp only [step, found, onTables, after_of_answer_none answered]
          exact .still rfl rfl
        | some id =>
          have opens : w.Opens (.insertVerification runId) versionId :=
            ⟨provider, requestedBy, found, by rw [answered]; rfl⟩
          obtain ⟨row, rfl, change⟩ := opens_opened policies opens
          exact .opened row opens change
      | _ => simpa only [step, found] using .still rfl rfl
  | loadVerification provider verificationId names =>
    rw [step]
    split <;> exact .still rfl rfl
  | recordAnswer runId outcome now =>
    cases found : w.runs[runId]? with
    | none => simpa only [step, found] using .still rfl rfl
    | some r => cases r with
      | asking loaded =>
        cases answered : answer (recordAnswer policies loaded outcome now) w.tables with
        | none =>
          simp only [step, found, onTables, after_of_answer_none answered]
          exact .still rfl rfl
        | some status =>
          simp only [step, found, onTables]
          rcases recordAnswer_change (answer_some answered) with
            ⟨-, set, event, kept, verifications, events, type⟩ | ⟨resolving, resolved⟩
          · exact .started _ set event kept verifications events type
          · exact .resolved loaded.verificationId
              ⟨loaded, found, rfl, resolving, by rw [answered]; rfl⟩ resolved
      | _ => simpa only [step, found] using .still rfl rfl
  | receiveCallback provider providerEventId signatureValid callback names =>
    rw [step, receiveCallback]
    split
    · exact .still rfl rfl
    · split
      · exact .still rfl rfl
      · split <;> exact .still rfl rfl
  | applyCallback runId now =>
    cases found : w.runs[runId]? with
    | none => simpa only [step, found] using .still rfl rfl
    | some r => cases r with
      | applying loaded finding providerEventId =>
        cases answered : answer (InrSettle.applyCallback policies loaded finding providerEventId
            now) w.tables with
        | none =>
          simp only [step, found, onTables, after_of_answer_none answered]
          exact .still rfl rfl
        | some status =>
          have resolves : w.Resolves policies (.applyCallback runId now) loaded.verificationId :=
            ⟨loaded, finding, providerEventId, found, rfl, by rw [answered]; rfl⟩
          exact .resolved _ resolves (resolves_resolved resolves)
      | _ => simpa only [step, found] using .still rfl rfl
  | lose runId => exact .still rfl rfl

end VerificationWorld

/-! ### The invariant -/

/-- Before the last verification of a version all have failed. -/
structure VerificationsInOrder (t : VerificationTables) : Prop where
  active : Table.Unique activeKey t.verifications
  announced : ∀ id row, t.verifications[id]? = some row →
    t.resolutions id = row.status.resolutions ∧ row.status ≠ .unverified ∧
      (row.record.isSome = true ↔ row.status ≠ .verifying)
  unknown : ∀ id, t.verifications.length ≤ id → t.resolutions id = []
  failed : ∀ (i j : Nat) (a b : DestinationVerification), t.verifications[i]? = some a →
    t.verifications[j]? = some b → i < j →
    a.destinationVersionId = b.destinationVersionId → a.status = .failed

theorem VerificationsInOrder.resolvedOnce {t : VerificationTables}
    (held : VerificationsInOrder t) : ResolvedOnce t :=
  ⟨held.announced, fun i j a b ha hb lt same => by simp [held.failed i j a b ha hb lt same]⟩

theorem resolutions_append (t t' : VerificationTables) (event : VerificationEvent) (id : Nat)
    (events : t'.events = t.events ++ [event]) :
    t'.resolutions id = t.resolutions id ++
      if event.verificationId = id ∧ event.type ≠ .verificationStarted then [event.type] else [] := by
  simp only [resolutions, events, List.filter_append, List.map_append]
  split <;> rename_i is <;> simp [is]

namespace VerificationsInOrder

variable {t t' : VerificationTables}

theorem start : VerificationsInOrder VerificationWorld.start.tables := by
  constructor <;> simp [VerificationWorld.start, Table.Unique, resolutions]

theorem still (held : VerificationsInOrder t) (verifications : t'.verifications = t.verifications)
    (events : t'.events = t.events) : VerificationsInOrder t' := by
  obtain ⟨active, announced, unknown, failed⟩ := held
  refine ⟨verifications ▸ active, ?_, ?_, verifications ▸ failed⟩
  · simpa only [resolutions, verifications, events] using announced
  · simpa only [resolutions, verifications, events] using unknown

theorem started {verificationId : Nat} {set : DestinationVerification → DestinationVerification}
    {event : VerificationEvent} (held : VerificationsInOrder t)
    (kept : ∀ row, (set row).destinationVersionId = row.destinationVersionId ∧
      (set row).status = row.status ∧ (set row).record = row.record)
    (verifications : t'.verifications = t.verifications.modify verificationId set)
    (events : t'.events = t.events ++ [event]) (type : event.type = .verificationStarted) :
    VerificationsInOrder t' := by
  have old : ∀ (id : Nat) (row : DestinationVerification), t'.verifications[id]? = some row →
      ∃ before : DestinationVerification, t.verifications[id]? = some before ∧
      row.destinationVersionId = before.destinationVersionId ∧ row.status = before.status ∧
      row.record = before.record := by
    intro id row found
    rw [verifications, List.getElem?_modify, Option.map_eq_map, Option.map_eq_some_iff] at found
    obtain ⟨before, is, rfl⟩ := found
    refine ⟨before, is, ?_⟩
    split
    · exact kept before
    · exact ⟨rfl, rfl, rfl⟩
  have same : ∀ id, t'.resolutions id = t.resolutions id := fun id => by
    simp [resolutions_append t t' event id events, type]
  refine ⟨?_, fun id row found => ?_, fun id past => ?_, fun i j a b ha hb lt version => ?_⟩
  · refine held.active.of_map_eq (List.ext_getElem? fun i => ?_)
    rw [verifications, List.getElem?_map, List.getElem?_map, List.getElem?_modify,
      Option.map_eq_map, Option.map_map]
    refine congrArg (Option.map · _) (funext fun row => ?_)
    simp only [Function.comp_apply, activeKey]
    split
    · rw [(kept row).1, (kept row).2.1]
    · rfl
  · obtain ⟨before, is, -, status, record⟩ := old id row found
    rw [same, status, record]
    exact held.announced id before is
  · rw [same]
    exact held.unknown id (by simpa [verifications] using past)
  · obtain ⟨before, is, from', status, -⟩ := old i a ha
    obtain ⟨other, is', to', -⟩ := old j b hb
    rw [status]
    exact held.failed i j before other is is' lt (from' ▸ to' ▸ version)

theorem opened {row : DestinationVerification} (held : VerificationsInOrder t)
    (change : VerificationOpened t t' row)
    (unverified : ∀ other ∈ verificationsOf t row.destinationVersionId,
      other.status ≠ .verified) : VerificationsInOrder t' := by
  have same : ∀ id, t'.resolutions id = t.resolutions id := fun id => by
    simp only [resolutions, change.events]
  refine ⟨?_, fun id row' found => ?_, fun id past => ?_, fun i j a b ha hb lt version => ?_⟩
  · rw [change.verifications]
    exact held.active.append change.admitted
  · rw [same]
    rw [change.verifications, List.getElem?_append] at found
    split at found
    · exact held.announced id row' found
    · rename_i past
      obtain rfl := List.mem_singleton.mp (List.mem_of_getElem? found)
      rw [held.unknown id (not_lt.mp past), change.verifying, change.unrecorded]
      simp [VerificationStatus.resolutions]
  · rw [same]
    rw [change.verifications, List.length_append] at past
    exact held.unknown id (by omega)
  · rw [change.verifications, List.getElem?_append] at ha hb
    split at hb
    · rename_i before
      rw [if_pos (lt.trans before)] at ha
      exact held.failed i j a b ha hb lt version
    · obtain rfl := List.mem_singleton.mp (List.mem_of_getElem? hb)
      split at ha
      · have mem := List.mem_of_getElem? ha
        have other := unverified a (List.mem_filter.mpr ⟨mem, by simp [version]⟩)
        have idle : a.status ≠ .verifying := fun is =>
          Table.admits_iff.mp change.admitted b.destinationVersionId
            (by simp [activeKey, change.verifying]) a mem (by simp [activeKey, is, version])
        have known := (held.announced i a ha).2.1
        cases status : a.status with
        | failed => rfl
        | verified => exact (other status).elim
        | verifying => exact (idle status).elim
        | unverified => exact (known status).elim
      · have at' := (List.getElem?_eq_some_iff.mp hb).1
        simp only [List.length_singleton] at at'
        omega

theorem resolved {verificationId : Nat} {row : DestinationVerification}
    (held : VerificationsInOrder t) (found : t.verifications[verificationId]? = some row)
    (verifying : row.status = .verifying) (change : VerificationResolved t t' verificationId) :
    VerificationsInOrder t' := by
  obtain ⟨status, record, providerEventId, event, settled, verifications, events, about, type⟩ :=
    change
  have place := (List.getElem?_eq_some_iff.mp found).1
  have old : ∀ (id : Nat) (row' : DestinationVerification), id ≠ verificationId →
      t'.verifications[id]? = some row' → t.verifications[id]? = some row' := by
    intro id row' other is
    rw [verifications, List.getElem?_modify_ne _ _ (Ne.symm other)] at is
    exact is
  have new : ∀ row' : DestinationVerification, t'.verifications[verificationId]? = some row' →
      row'.destinationVersionId = row.destinationVersionId ∧ row'.status = status ∧
      row'.record = some record := by
    intro row' is
    rw [verifications, Table.modify_of_found found, List.getElem?_set_self place] at is
    obtain rfl := Option.some.inj is
    exact ⟨rfl, rfl, rfl⟩
  have resolving : status ≠ .verifying := by rcases settled with rfl | rfl <;> simp
  refine ⟨?_, fun id row' is => ?_, fun id past => ?_, fun i j a b ha hb lt version => ?_⟩
  · rw [verifications, Table.modify_of_found found]
    exact held.active.set fun k is => by simp [activeKey, resolving] at is
  · rw [resolutions_append t t' event id events, about]
    by_cases same : id = verificationId
    · subst same
      obtain ⟨-, status', record'⟩ := new row' is
      rw [(held.announced id row found).1, verifying, status', record']
      have told : event.type ≠ .verificationStarted := by
        rcases settled with rfl | rfl <;> simp [VerificationStatus.resolutions] at type <;>
          simp [type]
      refine ⟨by simp [VerificationStatus.resolutions, told, type], ?_, by simp [resolving]⟩
      rcases settled with rfl | rfl <;> simp
    · rw [if_neg fun other => same other.1.symm, List.append_nil]
      exact held.announced id row' (old id row' same is)
  · rw [verifications, List.length_modify] at past
    rw [resolutions_append t t' event id events, about, if_neg, List.append_nil]
    · exact held.unknown id past
    · exact fun is => absurd place (is.1 ▸ past).not_gt
  · by_cases second : j = verificationId
    · subst second
      obtain ⟨version', -, -⟩ := new b hb
      exact held.failed i j a row (old i a lt.ne ha) found lt (version' ▸ version)
    · have hb' := old j b second hb
      by_cases first : i = verificationId
      · subst first
        obtain ⟨version', -, -⟩ := new a ha
        have failed := held.failed i j row b found hb' lt (version' ▸ version)
        simp [verifying] at failed
      · exact held.failed i j a b (old i a first ha) hb' lt version

end VerificationsInOrder

/-! ### Outcomes -/

theorem OutcomesKept.of_modify {t t' : VerificationTables} {verificationId : Nat}
    {set : DestinationVerification → DestinationVerification}
    (verifications : t'.verifications = t.verifications.modify verificationId set)
    (kept : ∀ row, t.verifications[verificationId]? = some row → row.status ≠ .verifying →
      (set row).status = row.status ∧ (set row).record = row.record) : OutcomesKept t t' := by
  intro id row found settled
  by_cases same : id = verificationId
  · subst same
    obtain ⟨status, record⟩ := kept row found settled
    refine ⟨set row, ?_, status, record⟩
    rw [verifications, Table.modify_of_found found]
    exact List.getElem?_set_self (List.getElem?_eq_some_iff.mp found).1
  · refine ⟨row, ?_, rfl, rfl⟩
    rw [verifications, List.getElem?_modify_ne _ _ (Ne.symm same)]
    exact found

section Runs

variable {policies : NameMatchPolicySet} {w : VerificationWorld} {op : VerificationOp}

/-- A step that finds open what it resolves and what it opens keeps the order. -/
theorem VerificationsInOrder.step (held : VerificationsInOrder w.tables)
    (open' : w.StillOpen policies op) : VerificationsInOrder (w.step policies op).tables := by
  cases VerificationWorld.step_change policies w op with
  | still verifications events => exact held.still verifications events
  | started verificationId set event kept verifications events type =>
    exact held.started kept verifications events type
  | opened row opens change => exact held.opened change (open'.opens _ opens)
  | resolved verificationId resolves change =>
    obtain ⟨row, found, verifying⟩ := open'.resolves verificationId resolves
    exact held.resolved found verifying change

theorem outcomesKept_step (open' : w.StillOpen policies op) :
    OutcomesKept w.tables (w.step policies op).tables := by
  cases VerificationWorld.step_change policies w op with
  | still verifications events =>
    exact fun id row found _ => ⟨row, verifications ▸ found, rfl, rfl⟩
  | started verificationId set event kept verifications events type =>
    exact .of_modify verifications fun row _ _ => (kept row).2
  | opened row opens change =>
    intro id row' found _
    refine ⟨row', ?_, rfl, rfl⟩
    rw [change.verifications]
    exact (List.getElem?_append_left (List.getElem?_eq_some_iff.mp found).1).trans found
  | resolved verificationId resolves change =>
    obtain ⟨row, found, verifying⟩ := open'.resolves verificationId resolves
    obtain ⟨status, record, providerEventId, event, -, verifications, -⟩ := change
    refine .of_modify verifications fun row' found' settled => ?_
    obtain rfl := Option.some.inj (found.symm.trans found')
    exact (settled verifying).elim

/-- The verification a job or a callback has read. -/
def VerificationRun.reads : VerificationRun → Option Nat
  | .asking loaded | .applying loaded _ _ => some loaded.verificationId
  | .opening .. | .ended => none

/-- What was read is in the table. -/
def RunsKnown (w : VerificationWorld) : Prop :=
  ∀ r ∈ w.runs, ∀ id, r.reads = some id → id < w.tables.verifications.length

theorem RunsKnown.start : RunsKnown .start := fun r mem => by
  simp [VerificationWorld.start] at mem

theorem loadVerification_known {t : VerificationTables} {provider : VerificationProvider}
    {verificationId : Nat} {names : String} {loaded : LoadedVerification}
    (loads : loadVerification t provider verificationId names = .ok loaded) :
    loaded.verificationId < t.verifications.length := by
  unfold loadVerification at loads
  split at loads
  · cases loads
  · rename_i row found
    have place := (List.getElem?_eq_some_iff.mp found).1
    split at loads
    · cases loads
    · split at loads
      · cases loads
      · split at loads
        · obtain rfl := Except.ok.inj loads
          exact place
        · cases loads

theorem readCallback_known {t : VerificationTables} {provider : VerificationProvider}
    {signatureValid : Bool} {callback : Option VerificationCallback} {names : String}
    {loaded : LoadedVerification} {finding : Finding}
    (reads : readCallback t provider signatureValid callback names = .applicable loaded finding) :
    loaded.verificationId < t.verifications.length := by
  unfold readCallback at reads
  split at reads
  · cases reads
  · split at reads
    · cases reads
    · split at reads
      · cases reads
      · rename_i row found
        have place := (List.getElem?_eq_some_iff.mp found).1
        split at reads
        · cases reads
        · split at reads
          · cases reads
          · split at reads
            · cases reads
            · cases reads
            · obtain ⟨rfl, -⟩ := CallbackReading.applicable.inj reads
              exact place
            · obtain ⟨rfl, -⟩ := CallbackReading.applicable.inj reads
              exact place

/-- A step starts runs on what it finds in the table. -/
theorem step_runs (w : VerificationWorld) (op : VerificationOp) :
    ∀ r ∈ (w.step policies op).runs,
      r ∈ w.runs ∨ ∀ id, r.reads = some id → id < w.tables.verifications.length := by
  have ended : ∀ runId, ∀ r ∈ w.runs.set runId .ended,
      r ∈ w.runs ∨ ∀ id, r.reads = some id → id < w.tables.verifications.length := by
    intro runId r mem
    rcases List.mem_or_eq_of_mem_set mem with old | rfl
    · exact .inl old
    · exact .inr nofun
  have added : ∀ r, (∀ id, r.reads = some id → id < w.tables.verifications.length) →
      ∀ r' ∈ w.runs ++ [r],
        r' ∈ w.runs ∨ ∀ id, r'.reads = some id → id < w.tables.verifications.length := by
    intro r known r' mem
    rcases List.mem_append.mp mem with old | new
    · exact .inl old
    · exact .inr (List.mem_singleton.mp new ▸ known)
  cases op with
  | addVersion version => exact fun r mem => .inl mem
  | openVerification versionId provider requestedBy =>
    rw [VerificationWorld.step]
    split
    · exact added _ nofun
    · exact fun r mem => .inl mem
  | insertVerification runId =>
    rw [VerificationWorld.step]
    split
    · exact ended runId
    · exact fun r mem => .inl mem
  | loadVerification provider verificationId names =>
    rw [VerificationWorld.step]
    split
    · rename_i loaded loads
      refine added _ fun id is => ?_
      obtain rfl := Option.some.inj is
      exact loadVerification_known loads
    · exact fun r mem => .inl mem
  | recordAnswer runId outcome now =>
    rw [VerificationWorld.step]
    split
    · exact ended runId
    · exact fun r mem => .inl mem
  | receiveCallback provider providerEventId signatureValid callback names =>
    rw [VerificationWorld.step, VerificationWorld.receiveCallback]
    split
    · exact fun r mem => .inl mem
    · split
      · exact fun r mem => .inl mem
      · split
        · exact fun r mem => .inl mem
        · rename_i loaded finding reads
          refine added _ fun id is => ?_
          obtain rfl := Option.some.inj is
          exact readCallback_known reads
  | applyCallback runId now =>
    rw [VerificationWorld.step]
    split
    · exact ended runId
    · exact fun r mem => .inl mem
  | lose runId => exact ended runId

theorem length_le_step (w : VerificationWorld) (op : VerificationOp) :
    w.tables.verifications.length ≤ (w.step policies op).tables.verifications.length := by
  cases VerificationWorld.step_change policies w op with
  | still verifications events => rw [verifications]
  | started verificationId set event kept verifications events type =>
    rw [verifications, List.length_modify]
  | opened row opens change =>
    rw [change.verifications, List.length_append]
    exact Nat.le_add_right _ _
  | resolved verificationId resolves change =>
    obtain ⟨_, _, _, _, -, verifications, -⟩ := change
    rw [verifications, List.length_modify]

theorem runsKnown_step (known : RunsKnown w) (op : VerificationOp) :
    RunsKnown (w.step policies op) := fun r mem id reads => by
  refine Nat.lt_of_lt_of_le ?_ (length_le_step w op)
  rcases step_runs w op r mem with old | new
  · exact known r old id reads
  · exact new id reads

theorem resolves_known (known : RunsKnown w) {verificationId : Nat}
    (resolves : w.Resolves policies op verificationId) :
    verificationId < w.tables.verifications.length := by
  cases op with
  | recordAnswer runId outcome now =>
    obtain ⟨loaded, found, rfl, -⟩ := resolves
    exact known _ (List.mem_of_getElem? found) _ rfl
  | applyCallback runId now =>
    obtain ⟨loaded, finding, providerEventId, found, rfl, -⟩ := resolves
    exact known _ (List.mem_of_getElem? found) _ rfl
  | _ => exact resolves.elim

/-- An outcome for a verification that has one announces it twice, a verification after a verified
one is one too many. -/
theorem stillOpen_of_resolvedOnce (held : VerificationsInOrder w.tables) (known : RunsKnown w)
    (once : ResolvedOnce (w.step policies op).tables) : w.StillOpen policies op := by
  refine ⟨fun verificationId resolves => ?_, fun versionId opens row mem verified => ?_⟩
  · obtain ⟨status, record, providerEventId, event, settled, verifications, events, about, type⟩ :=
      VerificationWorld.resolves_resolved resolves
    have place := resolves_known known resolves
    have found := List.getElem?_eq_getElem place
    refine ⟨_, found, ?_⟩
    have there := (congrArg (·[verificationId]?) verifications).trans
      ((congrArg (·[verificationId]?) (Table.modify_of_found found _)).trans
        (List.getElem?_set_self place))
    have before := held.announced verificationId _ found
    have told := (once.announced verificationId _ there).1
    have counts : event.type ≠ .verificationStarted := by
      rcases settled with rfl | rfl <;> simp [VerificationStatus.resolutions] at type <;>
        simp [type]
    rw [resolutions_append _ _ event verificationId events, if_pos ⟨about, counts⟩, type,
      before.1] at told
    have none := List.append_left_eq_self.mp told
    cases is : w.tables.verifications[verificationId].status with
    | verifying => rfl
    | verified => simp [is, VerificationStatus.resolutions] at none
    | failed => simp [is, VerificationStatus.resolutions] at none
    | unverified => exact (before.2.1 is).elim
  · obtain ⟨new, rfl, change⟩ := VerificationWorld.opens_opened policies opens
    obtain ⟨mem, version⟩ := List.mem_filter.mp mem
    obtain ⟨i, found⟩ := List.mem_iff_getElem?.mp mem
    have place := (List.getElem?_eq_some_iff.mp found).1
    refine once.last i w.tables.verifications.length row new ?_ ?_ place (by simpa using version)
      verified
    · rw [change.verifications, List.getElem?_append_left place, found]
    · rw [change.verifications, List.getElem?_concat_length]

end Runs

/-- Along a run every verification leaves `verifying` once, with one record that stays and one
event, and no version has another verification after a verified one, exactly where every outcome
commits while its verification is still verifying and every new verification while its version has
none that is verified. -/
theorem verifications_resolve_once (policies : NameMatchPolicySet) (ops : List VerificationOp) :
    Along (VerificationWorld.step policies) (fun w op => w.StillOpen policies op)
        VerificationWorld.start ops ↔
      Along (VerificationWorld.step policies) (fun w op =>
        ResolvedOnce (w.step policies op).tables ∧
          OutcomesKept w.tables (w.step policies op).tables) VerificationWorld.start ops :=
  along_iff (I := fun w => VerificationsInOrder w.tables ∧ RunsKnown w)
    (fun _ op ⟨held, known⟩ open' => ⟨held.step open', runsKnown_step known op⟩)
    (fun _ _ ⟨held, known⟩ => ⟨fun open' =>
      ⟨(held.step open').resolvedOnce, outcomesKept_step open'⟩,
      fun ⟨once, _⟩ => stillOpen_of_resolvedOnce held known once⟩) ⟨.start, .start⟩ ops

/-! ### Two runs that break it -/

def bank : VerificationProvider := ⟨"bank", .pennyDrop, [.bankAccount]⟩

def asserting : NameMatchPolicySet := ⟨"v1", [⟨"bank", .pennyDrop, .providerAssertion⟩]⟩

/-- A request is open and the job has asked. -/
def asked : List VerificationOp :=
  [.addVersion ⟨0, 0, .bankAccount, some "Aarti Sharma"⟩, .openVerification 0 bank "user",
    .insertVerification 0, .loadVerification bank 0 ""]

/-- The callback commits while the provider has not answered the job, whose answer then replaces
it. -/
def answeredTwice : List VerificationOp :=
  asked ++ [.receiveCallback bank "event" true (some ⟨0, 0, .failed .accountClosed {}⟩) "",
    .applyCallback 2 10]

/-- A second request has read the version before the first inserted its verification. -/
def openedTwice : List VerificationOp :=
  [.addVersion ⟨0, 0, .bankAccount, some "Aarti Sharma"⟩, .openVerification 0 bank "user",
    .openVerification 0 bank "other", .insertVerification 0, .loadVerification bank 0 "",
    .recordAnswer 2 (.accountConfirmed { asserted := some true }) 10, .insertVerification 1]

def tablesAfter (ops : List VerificationOp) : VerificationTables :=
  (run (VerificationWorld.step asserting) .start ops).tables

theorem verification_resolved_twice :
    ((tablesAfter answeredTwice).verifications.map (fun row =>
          (row.status, row.record.map (·.resolvedAt))) = [(.failed, some 10)] ∧
      (tablesAfter answeredTwice).resolutions 0 = [.verificationFailed]) ∧
    ((tablesAfter (answeredTwice ++
          [.recordAnswer 1 (.accountConfirmed { asserted := some true }) 20])).verifications.map
        (fun row => (row.status, row.record.map (·.resolvedAt))) = [(.verified, some 20)] ∧
      (tablesAfter (answeredTwice ++
          [.recordAnswer 1 (.accountConfirmed { asserted := some true }) 20])).resolutions 0 =
        [.verificationFailed, .verified]) ∧
    (tablesAfter openedTwice).verifications.map
        (fun row => (row.destinationVersionId, row.status)) =
      [(0, .verified), (0, .verifying)] := by
  decide +kernel

end InrSettle
