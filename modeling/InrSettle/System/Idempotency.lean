import InrSettle.System.Requests

/-!
# At most one operation for a key

A claim commits with the work it stands for and its response, and leaves only by the
sweep. So while it is there no second insert gets the index slot, and who comes to read
it finds the response.
-/

namespace InrSettle

open Run RequestWorld

/-! ### Answers -/

section Answers

variable (hashes : ApiHashes)

/-- A claim that has its response replays it to the same request, and refuses another. -/
theorem answerExisting_stored {req : ClaimRequest} {row : ClaimRow} {response : StoredResponse}
    (version : row.fingerprintVersion = fingerprintVersion)
    (subject : req.subjectId = none ∨ row.subjectId = req.subjectId)
    (has : row.response = some response) :
    answerExisting hashes req (some row) =
      if row.requestFingerprint = hashes.requestFingerprint req.fingerprintInput then .ok response
      else .error (idempotencyKeyReuse req.endpointText) := by
  unfold answerExisting
  by_cases same : row.requestFingerprint = hashes.requestFingerprint req.fingerprintInput
  · have names : ¬(req.subjectId.isSome ∧ row.subjectId.isSome ∧
        row.subjectId ≠ req.subjectId) := by
      rintro ⟨some, -, other⟩
      rcases subject with none | is
      · simp [none] at some
      · exact other is
    simp [same, names, has]
  · simp [same, version]

theorem inProgress_ne_keyReuse (detail : Option String) (endpoint : String) :
    idempotencyInProgress detail ≠ idempotencyKeyReuse endpoint := fun same => by
  have code := congrArg ApiError.code same
  simp [idempotencyInProgress, idempotencyKeyReuse] at code

theorem inProgress_ne_inconsistent (detail : Option String) :
    idempotencyInProgress detail ≠ claimInconsistent := fun same => by
  have code := congrArg ApiError.code same
  simp [idempotencyInProgress, claimInconsistent] at code

end Answers

/-! ### The invariant -/

namespace RequestRun

/-- The key its open transaction holds. -/
def slot (r : RequestRun) : Option ClaimKey := r.inserted.map fun _ => r.request.key

/-- The row is one the request may have inserted. -/
structure Inserted (hashes : ApiHashes) (r : RequestRun) (row : ClaimRow) : Prop where
  key : row.key = r.request.key
  fingerprint : row.requestFingerprint = hashes.requestFingerprint r.claim.fingerprintInput
  version : row.fingerprintVersion = fingerprintVersion
  expires : row.expiresAt = row.createdAt + retention
  subject : r.managed = false → r.claim.subjectId = none ∨ row.subjectId = r.claim.subjectId

variable {hashes : ApiHashes} {r : RequestRun}

theorem Inserted.claim (now : Instant) : r.Inserted hashes (insertedClaim hashes r.claim now) :=
  ⟨rfl, rfl, rfl, rfl, fun _ => .inr rfl⟩

theorem Inserted.container (managed : r.managed = true) (now : Instant) (batchId : String) :
    r.Inserted hashes (containerClaim hashes r.claim now batchId) :=
  ⟨rfl, rfl, rfl, rfl, fun unmanaged => by simp [managed] at unmanaged⟩

end RequestRun

/-- The phases only a route that writes its own claim has. -/
def RequestPhase.isBatch : RequestPhase → Bool
  | .unmatched _ | .raced _ | .importing => true
  | _ => false

/-- The phases of a request whose work committed. -/
def RequestPhase.isDone : RequestPhase → Bool
  | .importing | .answered (.performed _) => true
  | _ => false

/-- A row the index admits, inserted after every claim of its key expired. -/
structure RowInOrder (hashes : ApiHashes) (w : RequestWorld) (r : RequestRun) (row : ClaimRow) :
    Prop where
  unmanaged : r.managed = false
  inserted : r.Inserted hashes row
  created : row.createdAt ≤ w.clock
  free : ∀ other ∈ w.claims, other.key ≠ row.key
  after : ∀ work ∈ w.works, work.claim.key = row.key → work.claim.expiresAt < row.createdAt

/-- The request of a work, and what it was answered. -/
structure WorkInOrder (hashes : ApiHashes) (w : RequestWorld) (work : Work) : Prop where
  kept : work.claim ∈ w.claims ∨ work.claim.expiresAt < w.clock
  created : work.claim.createdAt ≤ w.clock
  run : ∃ r, w.runs[work.runId]? = some r ∧ r.request = work.request ∧ r.managed = work.managed ∧
    r.Inserted hashes work.claim ∧ (r.phase = .importing ∨ r.isAnswered = true) ∧
    (work.managed = false → ∃ response, work.claim.response = some response ∧
      r.phase = .answered (.performed response))

structure ClaimsInOrder (hashes : ApiHashes) (w : RequestWorld) : Prop where
  matched : ∀ r ∈ w.runs, matchRoute r.request.method r.request.path = .matched r.route r.params
  batch : ∀ r ∈ w.runs, r.phase.isBatch = true → r.managed = true
  responded : ∀ r ∈ w.runs, ∀ row response, r.phase = .completed row response →
    row.response = some response
  distinct : (w.claims.map (·.key)).Nodup
  stored : ∀ row ∈ w.claims, ∃ work ∈ w.works, work.claim = row
  inserted : ∀ r ∈ w.runs, ∀ row, r.inserted = some row → RowInOrder hashes w r row
  apart : Table.Unique RequestRun.slot w.runs
  works : ∀ work ∈ w.works, WorkInOrder hashes w work
  ordered : w.works.Pairwise fun earlier next => earlier.claim.key = next.claim.key →
    earlier.claim.expiresAt < next.claim.createdAt
  once : (w.works.map (·.runId)).Nodup

namespace ClaimsInOrder

variable {hashes : ApiHashes} {w : RequestWorld} {runId : Nat} {r : RequestRun}

theorem start (clock : Instant) : ClaimsInOrder hashes (.start clock) := by
  constructor <;> simp [RequestWorld.start, Table.Unique]

theorem stored_eq (held : ClaimsInOrder hashes w) {row : ClaimRow} (mem : row ∈ w.claims) :
    w.stored row.key = some row := by
  cases found : w.stored row.key with
  | none => simpa using List.find?_eq_none.mp found row mem
  | some other =>
    have same : other.key = row.key := by simpa using List.find?_some found
    exact congrArg some (Table.eq_of_key held.distinct (List.mem_of_find?_eq_some found) mem same)

theorem free_of_stored {key : ClaimKey} (none : ¬(w.stored key).isSome = true) :
    ∀ other ∈ w.claims, other.key ≠ key := fun other mem same => by
  simp only [RequestWorld.stored, Option.not_isSome_iff_eq_none, List.find?_eq_none] at none
  simpa [same] using none other mem

/-- The key of a claim in the table is held by no open transaction. -/
theorem unheld (held : ClaimsInOrder hashes w) {row : ClaimRow} (mem : row ∈ w.claims) :
    ∀ r ∈ w.runs, r.request.key = row.key → r.inserted = none := fun r is same => by
  refine Option.eq_none_iff_forall_ne_some.mpr fun own inserts => ?_
  have order := held.inserted r is own inserts
  exact order.free row mem (same.symm.trans order.inserted.key.symm)

/-- The work of a run that goes on is one of another run, or of a container. -/
theorem go_work {phase : RequestPhase} {work : Work} (order : WorkInOrder hashes w work)
    (found : w.runs[runId]? = some r) (open' : r.isAnswered = false)
    (imported : r.phase = .importing → RequestRun.isAnswered { r with phase } = true) :
    WorkInOrder hashes (w.go runId r phase) work := by
  refine ⟨order.kept, order.created, ?_⟩
  obtain ⟨own, is, request, managed, inserted, done, performed⟩ := order.run
  by_cases same : work.runId = runId
  · obtain rfl : r = own := Option.some.inj (found.symm.trans (same ▸ is))
    refine ⟨{ r with phase }, ?_, request, managed, ⟨inserted.key, inserted.fingerprint,
      inserted.version, inserted.expires, inserted.subject⟩, .inr ?_, fun unmanaged => ?_⟩
    · rw [same]
      exact List.getElem?_set_self (List.getElem?_eq_some_iff.mp found).1
    · rcases done with importing | answered
      · exact imported importing
      · simp [answered] at open'
    · obtain ⟨response, -, answered⟩ := performed unmanaged
      simp [RequestRun.isAnswered, answered] at open'
  · exact ⟨own, by simpa [RequestWorld.go, Ne.symm same] using is, request, managed, inserted,
      done, performed⟩

/-- A run goes on, and the tables stay as they are. -/
theorem moved {phase : RequestPhase} (held : ClaimsInOrder hashes w)
    (found : w.runs[runId]? = some r) (open' : r.isAnswered = false)
    (batch : phase.isBatch = true → r.managed = true)
    (responded : ∀ row response, phase = .completed row response → row.response = some response)
    (rows : ∀ row, RequestRun.inserted { r with phase } = some row → RowInOrder hashes w r row)
    (imported : r.phase = .importing → RequestRun.isAnswered { r with phase } = true)
    (slot : RequestRun.slot { r with phase } = none ∨ RequestRun.slot { r with phase } = r.slot ∨
      w.held r.request.key = false) :
    ClaimsInOrder hashes (w.go runId r phase) := by
  have mem := List.mem_of_getElem? found
  have before : ∀ r' ∈ (w.go runId r phase).runs, r' ∈ w.runs ∨ r' = { r with phase } :=
    fun r' is => List.mem_or_eq_of_mem_set is
  refine ⟨fun r' is => ?_, fun r' is => ?_, fun r' is => ?_, held.distinct, held.stored,
    fun r' is row inserts => ?_, ?_, fun work is => go_work (held.works work is)
      found open' imported, held.ordered, held.once⟩
  · rcases before r' is with old | rfl
    · exact held.matched r' old
    · exact held.matched r mem
  · rcases before r' is with old | rfl
    · exact held.batch r' old
    · exact batch
  · rcases before r' is with old | rfl
    · exact held.responded r' old
    · exact responded
  · rcases before r' is with old | rfl
    · obtain ⟨unmanaged, inserted, created, free, after⟩ := held.inserted r' old row inserts
      exact ⟨unmanaged, inserted, created, free, after⟩
    · obtain ⟨unmanaged, inserted, created, free, after⟩ := rows row inserts
      exact ⟨unmanaged, ⟨inserted.key, inserted.fingerprint, inserted.version, inserted.expires,
        inserted.subject⟩, created, free, after⟩
  · rcases slot with none | same | free
    · exact held.apart.set fun k is => by simp [none] at is
    · refine held.apart.of_map_eq (List.ext_getElem? fun i => ?_)
      rw [List.getElem?_map, List.getElem?_map, RequestWorld.go, List.getElem?_set]
      split
      · rename_i is
        rw [← is, found]
        simp [(List.getElem?_eq_some_iff.mp found).1, same]
      · rfl
    · refine held.apart.set fun k is r' other holds => ?_
      obtain ⟨row, inserts, rfl⟩ := Option.map_eq_some_iff.mp holds
      have key := (held.inserted r' other row inserts).inserted.key
      obtain ⟨-, -, same⟩ := Option.map_eq_some_iff.mp is
      simp only [RequestWorld.held, List.any_eq_false] at free
      exact free r' other (by simp [inserts, key, ← same])

/-- A claim and its work commit together. -/
theorem added (row : ClaimRow) (batches : List String) (work : Work) (held : ClaimsInOrder hashes w)
    (order : WorkInOrder hashes { w with claims := w.claims ++ [row] } work)
    (claim : work.claim = row) (free : ∀ other ∈ w.claims, other.key ≠ row.key)
    (after : ∀ other ∈ w.works, other.claim.key = row.key → other.claim.expiresAt < row.createdAt)
    (alone : ∀ r ∈ w.runs, r.slot ≠ some row.key)
    (fresh : ∀ other ∈ w.works, other.runId ≠ work.runId) :
    ClaimsInOrder hashes
      { w with claims := w.claims ++ [row], batches, works := w.works ++ [work] } := by
  refine ⟨held.matched, held.batch, held.responded, ?_, ?_, fun r mem own inserts => ?_,
    held.apart, ?_, ?_, ?_⟩
  · rw [List.map_append]
    refine held.distinct.append (List.nodup_singleton _) (List.disjoint_singleton.mpr fun mem => ?_)
    obtain ⟨other, is, same⟩ := List.mem_map.mp mem
    exact free other is same
  · refine List.forall_mem_append.mpr ⟨fun other mem => ?_, List.forall_mem_singleton.mpr ?_⟩
    · obtain ⟨from', is, same⟩ := held.stored other mem
      exact ⟨from', List.mem_append_left _ is, same⟩
    · exact ⟨work, by simp, claim⟩
  · have own' := held.inserted r mem own inserts
    have apart : row.key ≠ own.key := fun same => alone r mem <| by
      simp [RequestRun.slot, inserts, same, own'.inserted.key]
    refine ⟨own'.unmanaged, own'.inserted, own'.created, ?_, ?_⟩
    · exact List.forall_mem_append.mpr ⟨own'.free, List.forall_mem_singleton.mpr apart⟩
    · refine List.forall_mem_append.mpr ⟨own'.after, List.forall_mem_singleton.mpr fun same => ?_⟩
      exact (apart (claim ▸ same)).elim
  · refine List.forall_mem_append.mpr ⟨fun other mem => ?_, List.forall_mem_singleton.mpr ?_⟩
    · obtain ⟨kept, created, run⟩ := held.works other mem
      exact ⟨kept.imp_left (List.mem_append_left _), created, run⟩
    · exact ⟨order.kept, order.created, order.run⟩
  · refine List.pairwise_append.mpr ⟨held.ordered, List.pairwise_singleton _ _, ?_⟩
    rintro other mem new is same
    obtain rfl := List.mem_singleton.mp is
    rw [claim] at same ⊢
    exact after other mem same
  · rw [List.map_append]
    refine held.once.append (List.nodup_singleton _) (List.disjoint_singleton.mpr fun mem => ?_)
    obtain ⟨other, is, same⟩ := List.mem_map.mp mem
    exact fresh other is same

/-- Requests to one endpoint are matched alike. -/
theorem same_route {a b : RequestRun} (held : ClaimsInOrder hashes w) (ha : a ∈ w.runs)
    (hb : b ∈ w.runs) (same : a.request.key = b.request.key) :
    a.route = b.route ∧ a.params = b.params := by
  obtain ⟨endpoint, -⟩ := Prod.mk.inj same
  obtain ⟨method, path⟩ := Prod.mk.inj endpoint
  have matched := held.matched a ha
  rw [method, path, held.matched b hb] at matched
  obtain ⟨route, params⟩ := RouteMatch.matched.inj matched
  exact ⟨route.symm, params.symm⟩

/-! ### Steps -/

theorem arrive (held : ClaimsInOrder hashes w) (request : ApiRequest) :
    ClaimsInOrder hashes (w.arrive request) := by
  unfold RequestWorld.arrive
  split
  case h_2 => exact held
  rename_i route params matched
  refine ⟨?_, ?_, ?_, held.distinct, held.stored, ?_, ?_, fun work mem => ?_, held.ordered,
    held.once⟩
  · exact List.forall_mem_append.mpr ⟨held.matched, List.forall_mem_singleton.mpr matched⟩
  · exact List.forall_mem_append.mpr ⟨held.batch, List.forall_mem_singleton.mpr nofun⟩
  · exact List.forall_mem_append.mpr ⟨held.responded, List.forall_mem_singleton.mpr nofun⟩
  · refine List.forall_mem_append.mpr ⟨fun r mem row inserts => ?_,
      List.forall_mem_singleton.mpr nofun⟩
    obtain ⟨unmanaged, inserted, created, free, after⟩ := held.inserted r mem row inserts
    exact ⟨unmanaged, inserted, created, free, after⟩
  · exact held.apart.append (Table.admits_iff.mpr nofun)
  · obtain ⟨kept, created, r, is, rest⟩ := held.works work mem
    exact ⟨kept, created, r, by rw [List.getElem?_append_left
      (List.getElem?_eq_some_iff.mp is).1, is], rest⟩

theorem sweep (held : ClaimsInOrder hashes w) (age : Nat) :
    ClaimsInOrder hashes (w.step hashes (.sweep age)) := by
  have kept : ∀ row ∈ sweepExpiredIdempotencyClaims (w.clock - age) w.claims, row ∈ w.claims :=
    fun row mem => (List.mem_filter.mp mem).1
  refine ⟨held.matched, held.batch, held.responded, ?_, fun row mem => held.stored row (kept row mem),
    fun r mem row inserts => ?_, held.apart, fun work mem => ?_, held.ordered, held.once⟩
  · exact held.distinct.sublist (List.filter_sublist.map _)
  · obtain ⟨unmanaged, inserted, created, free, after⟩ := held.inserted r mem row inserts
    exact ⟨unmanaged, inserted, created, fun other is => free other (kept other is), after⟩
  · obtain ⟨there, created, run⟩ := held.works work mem
    refine ⟨?_, created, run⟩
    rcases there with there | expired
    · by_cases expired : work.claim.expiresAt < w.clock - age
      · exact .inr (expired.trans_le (Nat.sub_le _ _))
      · exact .inl (List.mem_filter.mpr ⟨there, by simpa using expired⟩)
    · exact .inr expired

theorem tick (held : ClaimsInOrder hashes w) (ms : Nat) :
    ClaimsInOrder hashes (w.step hashes (.tick ms)) := by
  have later : w.clock ≤ w.clock + ms := Nat.le_add_right _ _
  refine ⟨held.matched, held.batch, held.responded, held.distinct, held.stored,
    fun r mem row inserts => ?_, held.apart, fun work mem => ?_, held.ordered, held.once⟩
  · obtain ⟨unmanaged, inserted, created, free, after⟩ := held.inserted r mem row inserts
    exact ⟨unmanaged, inserted, created.trans later, free, after⟩
  · obtain ⟨kept, created, run⟩ := held.works work mem
    exact ⟨kept.imp_right fun expired => expired.trans_le later, created.trans later, run⟩

/-- A request is answered without its transaction committing. -/
theorem answered {answer : RequestAnswer} (held : ClaimsInOrder hashes w)
    (found : w.runs[runId]? = some r) (open' : r.isAnswered = false) :
    ClaimsInOrder hashes (w.go runId r (.answered answer)) :=
  held.moved found open' nofun nofun nofun (fun _ => rfl) (.inl rfl)

theorem insertClaim (held : ClaimsInOrder hashes w) (found : w.runs[runId]? = some r)
    (arrived : r.phase = .arrived) : ClaimsInOrder hashes (w.insertClaim hashes runId r) := by
  have open' : r.isAnswered = false := by simp [RequestRun.isAnswered, arrived]
  have unimported : r.phase = .importing → False := by simp [arrived]
  unfold RequestWorld.insertClaim
  split
  · exact held
  · rename_i unmanaged
    split
    · exact held.answered found open'
    · rename_i unheld
      split
      · exact held.moved found open' nofun nofun nofun (fun is => (unimported is).elim) (.inl rfl)
      · rename_i unstored
        refine held.moved found open' nofun nofun (fun row is => ?_)
          (fun is => (unimported is).elim) (.inr (.inr (by simpa using unheld)))
        obtain rfl := Option.some.inj is
        have free := free_of_stored unstored
        refine ⟨by simpa using unmanaged, .claim w.clock, le_rfl, free,
          fun work mem same => ?_⟩
        rcases (held.works work mem).kept with there | expired
        · exact (free _ there same).elim
        · exact expired

theorem readClaim (held : ClaimsInOrder hashes w) (found : w.runs[runId]? = some r)
    (open' : r.isAnswered = false) : ClaimsInOrder hashes (w.readClaim hashes runId r) := by
  unfold RequestWorld.readClaim
  split <;> exact held.answered found open'

/-- The row of a request stays in order as its transaction goes on. -/
theorem continued (row row' : ClaimRow) {phase : RequestPhase} (held : ClaimsInOrder hashes w)
    (found : w.runs[runId]? = some r) (open' : r.isAnswered = false)
    (inserts : r.inserted = some row) (keeps : RequestRun.inserted { r with phase } = some row')
    (key : row'.key = row.key) (fingerprint : row'.requestFingerprint = row.requestFingerprint)
    (version : row'.fingerprintVersion = row.fingerprintVersion)
    (created : row'.createdAt = row.createdAt) (expires : row'.expiresAt = row.expiresAt)
    (subject : row.subjectId.isSome = true → row'.subjectId = row.subjectId)
    (batch : phase.isBatch = false) (unimported : r.phase ≠ .importing)
    (responded : ∀ row response, phase = .completed row response → row.response = some response) :
    ClaimsInOrder hashes (w.go runId r phase) := by
  refine held.moved found open' (by simp [batch]) responded (fun own is => ?_)
    (fun is => (unimported is).elim) (.inr (.inl ?_))
  · obtain rfl := Option.some.inj (keeps.symm.trans is)
    have order := held.inserted r (List.mem_of_getElem? found) row inserts
    refine ⟨order.unmanaged, ⟨key.trans order.inserted.key,
      fingerprint.trans order.inserted.fingerprint, version.trans order.inserted.version,
      expires.trans (created ▸ order.inserted.expires), fun _ => ?_⟩,
      created.le.trans order.created, key ▸ order.free, key ▸ created ▸ order.after⟩
    rcases order.inserted.subject order.unmanaged with none | same
    · exact .inl none
    · cases is : r.claim.subjectId with
      | none => exact .inl rfl
      | some subjectId =>
        have there := same.trans is
        exact .inr ((subject (by simp [there])).trans there)
  · simp only [RequestRun.slot, keeps, inserts, Option.map_some]

theorem commit {row : ClaimRow} {response : StoredResponse} (held : ClaimsInOrder hashes w)
    (found : w.runs[runId]? = some r) (completed : r.phase = .completed row response) :
    ClaimsInOrder hashes (w.commit runId r row response) := by
  have open' : r.isAnswered = false := by simp [RequestRun.isAnswered, completed]
  have mem := List.mem_of_getElem? found
  have inserts : r.inserted = some row := by simp [RequestRun.inserted, completed]
  have order := held.inserted r mem row inserts
  have there : (w.go runId r (.answered (.performed response))).runs[runId]? =
      some { r with phase := .answered (.performed response) } :=
    List.getElem?_set_self (List.getElem?_eq_some_iff.mp found).1
  have slot : r.slot = some row.key := by simp [RequestRun.slot, inserts, order.inserted.key]
  refine (held.answered found open').added row w.batches ⟨runId, r.request, r.managed, row⟩
    ⟨.inl (by simp), order.created, _, there, rfl, rfl, ⟨order.inserted.key,
      order.inserted.fingerprint, order.inserted.version, order.inserted.expires,
      order.inserted.subject⟩, .inr rfl, fun _ => ⟨response, ?_, rfl⟩⟩ rfl order.free order.after
    (held.apart.given_up found slot (by simp [RequestRun.slot, RequestRun.inserted]))
    fun work is same => ?_
  · exact held.responded r mem row response completed
  · obtain ⟨own, is', -, -, -, done, -⟩ := (held.works work is).run
    obtain rfl := Option.some.inj (found.symm.trans (same ▸ is'))
    simp [RequestRun.isAnswered, completed] at done

/-- A batch goes on. -/
theorem batched {phase : RequestPhase} (held : ClaimsInOrder hashes w)
    (found : w.runs[runId]? = some r) (open' : r.isAnswered = false) (managed : r.managed = true)
    (unimported : r.phase ≠ .importing) (outside : RequestRun.inserted { r with phase } = none) :
    ClaimsInOrder hashes (w.go runId r phase) := by
  refine held.moved found open' (fun _ => managed) (fun row response is => ?_)
    (fun row is => by simp [outside] at is) (fun is => (unimported is).elim) (.inl ?_)
  · simp [RequestRun.inserted, is] at outside
  · simp [RequestRun.slot, outside]

theorem lookupBatch (held : ClaimsInOrder hashes w) (found : w.runs[runId]? = some r)
    (arrived : r.phase = .arrived) (summary : String) :
    ClaimsInOrder hashes (w.lookupBatch hashes runId r summary) := by
  have open' : r.isAnswered = false := by simp [RequestRun.isAnswered, arrived]
  unfold RequestWorld.lookupBatch
  split
  · rename_i managed
    split
    · exact held.answered found open'
    · split
      · exact held.answered found open'
      · exact held.batched found open' managed (by simp [arrived]) rfl
  · exact held

theorem createContainer {fingerprint : String} (held : ClaimsInOrder hashes w)
    (found : w.runs[runId]? = some r) (unmatched : r.phase = .unmatched fingerprint)
    (batchId : String) :
    ClaimsInOrder hashes (w.createContainer hashes runId r fingerprint batchId) := by
  have open' : r.isAnswered = false := by simp [RequestRun.isAnswered, unmatched]
  have mem := List.mem_of_getElem? found
  have managed := held.batch r mem (by simp [unmatched, RequestPhase.isBatch])
  unfold RequestWorld.createContainer
  split
  · exact held.batched found open' managed (by simp [unmatched]) rfl
  · rename_i admitted
    have free := free_of_stored (not_or.mp admitted).2
    have there : (w.go runId r .importing).runs[runId]? = some { r with phase := .importing } :=
      List.getElem?_set_self (List.getElem?_eq_some_iff.mp found).1
    have goes := held.batched found open' managed (by simp [unmatched])
      (show RequestRun.inserted { r with phase := .importing } = none from rfl)
    have inserted : RequestRun.Inserted hashes { r with phase := .importing }
        (containerClaim hashes r.claim w.clock batchId) :=
      .container (r := { r with phase := .importing }) managed w.clock batchId
    refine goes.added (containerClaim hashes r.claim w.clock batchId) (w.batches ++ [fingerprint])
      ⟨runId, r.request, r.managed, containerClaim hashes r.claim w.clock batchId⟩
      ⟨.inl (by simp), le_rfl, _, there, rfl, rfl, inserted, .inl rfl, fun unmanaged => ?_⟩ rfl free
      (fun work is same => ?_) (fun other is holds => ?_) fun work is same => ?_
    · simp [managed] at unmanaged
    · rcases (held.works work is).kept with there | expired
      · exact (free _ there same).elim
      · exact expired
    · obtain ⟨row, inserts, same⟩ := Option.map_eq_some_iff.mp holds
      have route := (goes.same_route is (List.mem_of_getElem? there) same).1
      have unmanaged := (goes.inserted other is row inserts).unmanaged
      simp [RequestRun.managed, route] at unmanaged managed
      exact unmanaged managed
    · obtain ⟨own, is', -, -, -, done, -⟩ := (held.works work is).run
      obtain rfl := Option.some.inj (found.symm.trans (same ▸ is'))
      simp [RequestRun.isAnswered, unmatched] at done

theorem lookupRaced {fingerprint : String} (held : ClaimsInOrder hashes w)
    (found : w.runs[runId]? = some r) (open' : r.isAnswered = false) (summary : String) :
    ClaimsInOrder hashes (w.lookupRaced runId r fingerprint summary) := by
  unfold RequestWorld.lookupRaced
  split <;> exact held.answered found open'

theorem finishImport (held : ClaimsInOrder hashes w) (found : w.runs[runId]? = some r)
    (open' : r.isAnswered = false) (result : Except ApiError String) :
    ClaimsInOrder hashes (w.finishImport runId r result) := by
  unfold RequestWorld.finishImport
  split <;> exact held.answered found open'

theorem proceed (held : ClaimsInOrder hashes w) (found : w.runs[runId]? = some r)
    (s : RequestStep) : ClaimsInOrder hashes (w.proceed hashes runId r s) := by
  unfold RequestWorld.proceed
  split
  case h_1 arrived => exact held.insertClaim found arrived
  case h_2 phase => exact held.readClaim found (by simp [RequestRun.isAnswered, phase])
  case h_3 result row claimed =>
    have open' : r.isAnswered = false := by simp [RequestRun.isAnswered, claimed]
    cases result with
    | error error => exact held.answered found open'
    | ok result =>
      exact held.continued row row found open' (by simp [RequestRun.inserted, claimed]) rfl rfl rfl rfl rfl rfl
        (fun _ => rfl) rfl (by simp [claimed]) nofun
  case h_4 row result operated =>
    refine held.continued row (row.completed result w.clock) found
      (by simp [RequestRun.isAnswered, operated])
      (by simp [RequestRun.inserted, operated]) rfl rfl rfl rfl rfl rfl (fun some => ?_) rfl
      (by simp [operated]) fun row' response is => ?_
    · obtain ⟨subjectId, is⟩ := Option.isSome_iff_exists.mp some
      simp [ClaimRow.completed, is]
    · obtain ⟨rfl, rfl⟩ := RequestPhase.completed.inj is
      rfl
  case h_5 row response completed => exact held.commit found completed
  case h_6 summary arrived => exact held.lookupBatch found arrived summary
  case h_7 batchId fingerprint unmatched => exact held.createContainer found unmatched batchId
  case h_8 summary fingerprint raced =>
    exact held.lookupRaced found (by simp [RequestRun.isAnswered, raced]) summary
  case h_9 result importing =>
    exact held.finishImport found (by simp [RequestRun.isAnswered, importing]) result
  case h_10 =>
    unfold RequestWorld.lose
    split
    · exact held
    · rename_i unanswered
      exact held.answered found (by simpa using unanswered)
  case h_11 => exact held

theorem step (held : ClaimsInOrder hashes w) (op : RequestOp) :
    ClaimsInOrder hashes (w.step hashes op) := by
  cases op with
  | arrive request => exact held.arrive request
  | proceed runId s =>
    rw [RequestWorld.step]
    split
    · rename_i r found
      exact held.proceed found s
    · exact held
  | sweep age => exact held.sweep age
  | tick ms => exact held.tick ms

theorem reached (ops : List RequestOp) (clock : Instant) :
    ClaimsInOrder hashes (run (RequestWorld.step hashes) (.start clock) ops) :=
  run_invariant (fun _ op held => held.step op) (start clock) ops

end ClaimsInOrder

/-! ### After a commit -/

section After

variable {hashes : ApiHashes} {w : RequestWorld} {runId : Nat} {r : RequestRun}

theorem proceed_answered (answered : r.isAnswered = true) (s : RequestStep) :
    w.proceed hashes runId r s = w := by
  obtain ⟨request, route, params, phase⟩ := r
  cases phase with
  | answered answer => cases s <;> rfl
  | _ => cases answered

/-- A step of a run changes the run, and adds at most a work of its own. -/
structure RunKept (w : RequestWorld) (runId : Nat) (r : RequestRun) (next : RequestWorld)
    (phase : RequestPhase) (more : List Work) : Prop where
  runs : next.runs = w.runs.set runId { r with phase }
  works : next.works = w.works ++ more
  keys : ∀ work ∈ more, work.claim.key = r.request.key
  worked : phase.isDone = true → r.phase.isDone = true ∨ ∃ work ∈ more, work.runId = runId
  clock : next.clock = w.clock

theorem RunKept.goes {phase : RequestPhase} (undone : phase.isDone = true → r.phase.isDone = true) :
    ∃ phase' more, RunKept w runId r (w.go runId r phase) phase' more :=
  ⟨phase, [], rfl, by simp [RequestWorld.go], by simp, fun done => .inl (undone done), rfl⟩

theorem proceed_kept (held : ClaimsInOrder hashes w) (found : w.runs[runId]? = some r)
    (s : RequestStep) : ∃ phase more, RunKept w runId r (w.proceed hashes runId r s) phase more := by
  have mem := List.mem_of_getElem? found
  have same : ∃ phase more, RunKept w runId r w phase more := by
    refine ⟨r.phase, [], ?_, by simp, by simp, .inl, rfl⟩
    obtain ⟨lt, rfl⟩ := List.getElem?_eq_some_iff.mp found
    exact (List.set_getElem_self lt).symm
  unfold RequestWorld.proceed
  split
  case h_1 =>
    unfold RequestWorld.insertClaim
    split
    · exact same
    · split
      · exact RunKept.goes nofun
      · split <;> exact RunKept.goes nofun
  case h_2 =>
    unfold RequestWorld.readClaim
    split <;> exact RunKept.goes nofun
  case h_3 =>
    unfold RequestWorld.operate
    split <;> exact RunKept.goes nofun
  case h_4 => exact RunKept.goes nofun
  case h_5 row response completed =>
    have inserts : r.inserted = some row := by simp [RequestRun.inserted, completed]
    exact ⟨_, _, rfl, rfl, List.forall_mem_singleton.mpr
      (held.inserted r mem row inserts).inserted.key,
      fun _ => .inr ⟨_, List.mem_singleton_self _, rfl⟩, rfl⟩
  case h_6 =>
    unfold RequestWorld.lookupBatch
    split
    · split
      · exact RunKept.goes nofun
      · split <;> exact RunKept.goes nofun
    · exact same
  case h_7 =>
    unfold RequestWorld.createContainer
    split
    · exact RunKept.goes nofun
    · exact ⟨_, _, rfl, rfl, List.forall_mem_singleton.mpr rfl,
        fun _ => .inr ⟨_, List.mem_singleton_self _, rfl⟩, rfl⟩
  case h_8 =>
    unfold RequestWorld.lookupRaced
    split <;> exact RunKept.goes nofun
  case h_9 result importing =>
    have done : r.phase.isDone = true := by simp [RequestPhase.isDone, importing]
    unfold RequestWorld.finishImport
    split <;> exact RunKept.goes fun _ => done
  case h_10 =>
    unfold RequestWorld.lose
    split
    · exact same
    · exact RunKept.goes nofun
  case h_11 => exact same

theorem clock_le (held : ClaimsInOrder hashes w) (op : RequestOp) :
    w.clock ≤ (w.step hashes op).clock := by
  cases op with
  | arrive request =>
    rw [RequestWorld.step, RequestWorld.arrive]
    split <;> exact le_rfl
  | proceed runId s =>
    rw [RequestWorld.step]
    split
    · rename_i found
      obtain ⟨_, _, kept⟩ := proceed_kept held found s
      exact kept.clock.ge
    · exact le_rfl
  | sweep age => exact le_rfl
  | tick ms => exact Nat.le_add_right _ _

end After

/-- What a request with the key of a committed work is answered: the response that committed with
it, or the conflict, as the fingerprints say; or nothing. -/
def Work.Answers (hashes : ApiHashes) (work : Work) (r : RequestRun) (answer : RequestAnswer) :
    Prop :=
  answer = .lost ∨ ∃ response, work.claim.response = some response ∧
    answer = if work.claim.requestFingerprint = hashes.requestFingerprint r.claim.fingerprintInput
      then .replayed response else .conflicted (idempotencyKeyReuse r.claim.endpointText)

/-- The works of a key. -/
def RequestWorld.worksOf (w : RequestWorld) (key : ClaimKey) : List Work :=
  w.works.filter fun work => decide (work.claim.key = key)

/-- The run had its answer in the earlier state, and has it still. -/
def AnsweredIn (earlier w : RequestWorld) (runId : Nat) : Prop :=
  (∃ r, earlier.runs[runId]? = some r ∧ r.isAnswered = true) ∧
    ∃ r, w.runs[runId]? = some r ∧ r.isAnswered = true

/-- Since the earlier state no work of the key was added, and a request that had no answer then
has none yet, or the one the work gives. -/
structure DecidedBy (hashes : ApiHashes) (work : Work) (earlier w : RequestWorld) : Prop where
  held : ClaimsInOrder hashes w
  mem : work ∈ w.works
  works : w.worksOf work.claim.key = earlier.worksOf work.claim.key
  answers : ∀ runId r, w.runs[runId]? = some r → r.request.key = work.claim.key →
    AnsweredIn earlier w runId ∨ r.phase = .arrived ∨ r.phase = .found ∨
      ∃ answer, r.phase = .answered answer ∧ work.Answers hashes r answer

namespace DecidedBy

variable {hashes : ApiHashes} {work : Work} {earlier w : RequestWorld}

/-- Within its retention the claim of a work is in the table, with its response. -/
theorem claim_stored (held : ClaimsInOrder hashes w) (mem : work ∈ w.works)
    (within : w.clock ≤ work.claim.expiresAt) : work.claim ∈ w.claims :=
  (held.works work mem).kept.resolve_right within.not_gt

theorem unmanaged_of_key (held : ClaimsInOrder hashes w) (mem : work ∈ w.works)
    (unmanaged : work.managed = false) {r : RequestRun} (is : r ∈ w.runs)
    (same : r.request.key = work.claim.key) : r.managed = false := by
  obtain ⟨own, found, -, managed, inserted, -⟩ := (held.works work mem).run
  have route := (held.same_route is (List.mem_of_getElem? found)
    (same.trans inserted.key)).1
  rw [← unmanaged, ← managed, RequestRun.managed, RequestRun.managed, route]

theorem start (held : ClaimsInOrder hashes w) (mem : work ∈ w.works)
    (unmanaged : work.managed = false) (within : w.clock ≤ work.claim.expiresAt) :
    DecidedBy hashes work w w := by
  refine ⟨held, mem, rfl, fun runId r found same => ?_⟩
  have is := List.mem_of_getElem? found
  have outside := held.unheld (claim_stored held mem within) r is same
  have unbatched : r.phase.isBatch = false := by
    by_contra batch
    have managed := held.batch r is (by simpa using batch)
    simp [unmanaged_of_key held mem unmanaged is same] at managed
  cases phase : r.phase with
  | arrived => exact .inr (.inl rfl)
  | found => exact .inr (.inr (.inl rfl))
  | answered answer =>
    have answered : r.isAnswered = true := by simp [RequestRun.isAnswered, phase]
    exact .inl ⟨⟨r, found, answered⟩, r, found, answered⟩
  | claimed row => simp [RequestRun.inserted, phase] at outside
  | operated row result => simp [RequestRun.inserted, phase] at outside
  | completed row response => simp [RequestRun.inserted, phase] at outside
  | unmatched fingerprint => simp [phase, RequestPhase.isBatch] at unbatched
  | raced fingerprint => simp [phase, RequestPhase.isBatch] at unbatched
  | importing => simp [phase, RequestPhase.isBatch] at unbatched

/-- Where the claim is in the table, a waiting request finds it, and one that found it reads it. -/
theorem proceeds {runId : Nat} {r : RequestRun} (decided : DecidedBy hashes work earlier w)
    (unmanaged : work.managed = false) (within : w.clock ≤ work.claim.expiresAt)
    (found : w.runs[runId]? = some r) (same : r.request.key = work.claim.key)
    (waits : r.phase = .arrived ∨ r.phase = .found) (s : RequestStep) :
    w.proceed hashes runId r s = w ∨ ∃ phase, w.proceed hashes runId r s = w.go runId r phase ∧
      (phase = .found ∨ ∃ answer, phase = .answered answer ∧ work.Answers hashes r answer) := by
  have held := decided.held
  have is := List.mem_of_getElem? found
  have own := unmanaged_of_key held decided.mem unmanaged is same
  have there := claim_stored held decided.mem within
  have stored : w.stored r.request.key = some work.claim := same ▸ held.stored_eq there
  have unheld : w.held r.request.key = false := by
    refine List.any_eq_false.mpr fun other mem => ?_
    simp only [decide_eq_true_eq, Option.map_eq_some_iff, not_exists, not_and]
    intro row inserts key
    have order := held.inserted other mem row inserts
    exact order.free _ there (same.symm.trans key.symm)
  have lost : ∃ phase, w.go runId r (.answered .lost) = w.go runId r phase ∧
      (phase = .found ∨ ∃ answer, phase = .answered answer ∧ work.Answers hashes r answer) :=
    ⟨_, rfl, .inr ⟨_, rfl, .inl rfl⟩⟩
  rcases waits with phase | phase
  · cases s with
    | insertClaim =>
      exact .inr ⟨.found, by simp [RequestWorld.proceed, phase, RequestWorld.insertClaim, own,
        unheld, stored], .inl rfl⟩
    | lookupBatch summary =>
      exact .inl (by simp [RequestWorld.proceed, phase, RequestWorld.lookupBatch, own])
    | lose =>
      exact .inr (by simpa [RequestWorld.proceed, phase, RequestWorld.lose,
        RequestRun.isAnswered] using lost)
    | _ => exact .inl (by simp [RequestWorld.proceed, phase])
  · cases s with
    | readClaim =>
      obtain ⟨r', found', -, managed, inserted, -, performed⟩ :=
        (held.works work decided.mem).run
      obtain ⟨response, has, -⟩ := performed unmanaged
      obtain ⟨route, params⟩ := held.same_route is (List.mem_of_getElem? found')
        (same.trans inserted.key)
      have subject : r.claim.subjectId = none ∨ work.claim.subjectId = r.claim.subjectId := by
        have alike : r.claim.subjectId = r'.claim.subjectId := by
          simp [RequestRun.claim, ApiRequest.claimRequest, route, params]
        exact alike ▸ inserted.subject (managed.trans unmanaged)
      have reads := answerExisting_stored hashes inserted.version subject has
      simp only [RequestWorld.proceed, phase, RequestWorld.readClaim, stored, reads]
      by_cases alike : work.claim.requestFingerprint =
          hashes.requestFingerprint r.claim.fingerprintInput
      · rw [if_pos alike]
        exact .inr ⟨_, rfl, .inr ⟨_, rfl, .inr ⟨response, has, (if_pos alike).symm⟩⟩⟩
      · rw [if_neg alike]
        exact .inr ⟨_, rfl, .inr ⟨_, rfl, .inr ⟨response, has, (if_neg alike).symm⟩⟩⟩
    | lose =>
      exact .inr (by simpa [RequestWorld.proceed, phase, RequestWorld.lose,
        RequestRun.isAnswered] using lost)
    | _ => exact .inl (by simp [RequestWorld.proceed, phase])

/-- A run goes on whose key is another, or that the work answers. -/
theorem went {next : RequestWorld} {runId : Nat} {r : RequestRun} {phase : RequestPhase}
    (decided : DecidedBy hashes work earlier w) (held : ClaimsInOrder hashes next)
    (found : w.runs[runId]? = some r) (runs : next.runs = w.runs.set runId { r with phase })
    (mem : work ∈ next.works)
    (works : next.worksOf work.claim.key = w.worksOf work.claim.key)
    (goes : r.request.key = work.claim.key → phase = .found ∨
      ∃ answer, phase = .answered answer ∧ work.Answers hashes r answer) :
    DecidedBy hashes work earlier next := by
  refine ⟨held, mem, works.trans decided.works, fun i r' is same => ?_⟩
  rw [runs, List.getElem?_set, if_pos (List.getElem?_eq_some_iff.mp found).1] at is
  split at is
  · obtain rfl := Option.some.inj is
    rcases goes same with waits | answers
    · exact .inr (.inr (.inl waits))
    · exact .inr (.inr (.inr answers))
  · rename_i apart
    rcases decided.answers i r' is same with ⟨before, own, is', answered⟩ | waits
    · refine .inl ⟨before, own, ?_, answered⟩
      rw [runs, List.getElem?_set_ne apart]
      exact is'
    · exact .inr waits

theorem step (decided : DecidedBy hashes work earlier w) (unmanaged : work.managed = false)
    (op : RequestOp) (within : (w.step hashes op).clock ≤ work.claim.expiresAt) :
    DecidedBy hashes work earlier (w.step hashes op) := by
  have held := decided.held
  have within' : w.clock ≤ work.claim.expiresAt := (clock_le held op).trans within
  have next := held.step op
  cases op with
  | arrive request =>
    rw [RequestWorld.step, RequestWorld.arrive] at next ⊢
    split at next
    · rename_i route params matched
      refine ⟨next, decided.mem, decided.works, fun runId r found same => ?_⟩
      rw [List.getElem?_append] at found
      split at found
      · rename_i old
        rcases decided.answers runId r found same with ⟨before, r', is, answered⟩ | waits
        · exact .inl ⟨before, r', (List.getElem?_append_left old).trans is, answered⟩
        · exact .inr waits
      · obtain rfl := List.mem_singleton.mp (List.mem_of_getElem? found)
        exact .inr (.inl rfl)
    · exact decided
  | sweep age => exact ⟨next, decided.mem, decided.works, decided.answers⟩
  | tick ms => exact ⟨next, decided.mem, decided.works, decided.answers⟩
  | proceed runId s =>
    cases found : w.runs[runId]? with
    | none =>
      simp only [RequestWorld.step, found]
      exact decided
    | some r =>
      simp only [RequestWorld.step, found] at next ⊢
      by_cases same : r.request.key = work.claim.key
      · by_cases answered : r.isAnswered = true
        · rw [proceed_answered answered]
          exact decided
        · have waits : r.phase = .arrived ∨ r.phase = .found := by
            rcases decided.answers runId r found same with
              ⟨-, r', is, done⟩ | arrived | finds | ⟨answer, done, -⟩
            · obtain rfl := Option.some.inj (found.symm.trans is)
              exact (answered done).elim
            · exact .inl arrived
            · exact .inr finds
            · simp [RequestRun.isAnswered, done] at answered
          rcases decided.proceeds unmanaged within' found same waits s with
            still | ⟨phase, goes, answers⟩
          · rw [still]
            exact decided
          · rw [goes] at next ⊢
            exact decided.went next found rfl decided.mem rfl fun _ => answers
      · obtain ⟨phase, more, kept⟩ := proceed_kept held found s
        refine decided.went next found kept.runs
          (kept.works ▸ List.mem_append_left _ decided.mem) ?_ fun is => (same is).elim
        have none : more.filter (fun other => decide (other.claim.key = work.claim.key)) = [] :=
          List.filter_eq_nil_iff.mpr fun other mem => by simpa [kept.keys other mem] using same
        rw [RequestWorld.worksOf, kept.works, List.filter_append, none, List.append_nil,
          RequestWorld.worksOf]

theorem run_later (decided : DecidedBy hashes work earlier w) (unmanaged : work.managed = false)
    (later : List RequestOp)
    (within : (run (RequestWorld.step hashes) w later).clock ≤ work.claim.expiresAt) :
    DecidedBy hashes work earlier (run (RequestWorld.step hashes) w later) := by
  have kept : ClaimsInOrder hashes (run (RequestWorld.step hashes) w later) ∧
      ((run (RequestWorld.step hashes) w later).clock ≤ work.claim.expiresAt →
        DecidedBy hashes work earlier (run (RequestWorld.step hashes) w later)) :=
    run_invariant (I := fun v => ClaimsInOrder hashes v ∧
      (v.clock ≤ work.claim.expiresAt → DecidedBy hashes work earlier v))
      (fun v op ⟨held, decided⟩ => ⟨held.step op, fun within =>
        (decided ((clock_le held op).trans within)).step unmanaged op within⟩)
      ⟨decided.held, fun _ => decided⟩ later
  exact kept.2 within

end DecidedBy

/-! ### Every run -/

namespace RequestWorld

/-- A key is performed again only after the claim of its last performance expired. -/
def CommittedOnce (w : RequestWorld) : Prop :=
  w.works.Pairwise fun earlier next => earlier.claim.key = next.claim.key →
    earlier.claim.expiresAt < next.claim.createdAt

/-- What committed for a request. -/
def WorkedFor (w : RequestWorld) (runId : Nat) (r : RequestRun) : Prop :=
  ∃ work ∈ w.works, work.runId = runId ∧ work.request = r.request

/-- Nothing is in the tables but what requests that were answered so performed: each has one work,
and each claim is the one that committed beside a work, to be kept for its retention. -/
structure ChangedByPerformed (w : RequestWorld) : Prop where
  once : (w.works.map (·.runId)).Nodup
  stored : ∀ row ∈ w.claims, ∃ work ∈ w.works, work.claim = row
  performed : ∀ work ∈ w.works, ∃ r, w.runs[work.runId]? = some r ∧ r.request = work.request ∧
    r.managed = work.managed ∧ work.claim.key = r.request.key ∧
    work.claim.expiresAt = work.claim.createdAt + retention ∧
    (work.managed = false → ∃ response, work.claim.response = some response ∧
      r.phase = .answered (.performed response))
  worked : ∀ runId r response, w.runs[runId]? = some r → r.phase = .answered (.performed response) →
    w.WorkedFor runId r

end RequestWorld

section Every

variable {hashes : ApiHashes} {w : RequestWorld}

theorem worked_step (held : ClaimsInOrder hashes w)
    (worked : ∀ runId (r : RequestRun), w.runs[runId]? = some r → r.phase.isDone = true →
      ∃ work ∈ w.works, work.runId = runId) (op : RequestOp) :
    ∀ runId (r : RequestRun), (w.step hashes op).runs[runId]? = some r →
      r.phase.isDone = true → ∃ work ∈ (w.step hashes op).works, work.runId = runId := by
  intro runId r found done
  cases op with
  | arrive request =>
    rw [RequestWorld.step, RequestWorld.arrive] at found ⊢
    split at found
    · rw [List.getElem?_append] at found
      split at found
      · exact worked runId r found done
      · obtain rfl := List.mem_singleton.mp (List.mem_of_getElem? found)
        cases done
    · exact worked runId r found done
  | sweep age => exact worked runId r found done
  | tick ms => exact worked runId r found done
  | proceed i s =>
    cases is : w.runs[i]? with
    | none =>
      simp only [RequestWorld.step, is] at found ⊢
      exact worked runId r found done
    | some own =>
      simp only [RequestWorld.step, is] at found ⊢
      obtain ⟨phase, more, kept⟩ := proceed_kept held is s
      have old : ∀ k, (∃ work ∈ w.works, work.runId = k) →
          ∃ work ∈ (w.proceed hashes i own s).works, work.runId = k := fun k ⟨work, mem, id⟩ =>
        ⟨work, kept.works ▸ List.mem_append_left _ mem, id⟩
      rw [kept.runs, List.getElem?_set, if_pos (List.getElem?_eq_some_iff.mp is).1] at found
      split at found
      · rename_i same
        obtain rfl := Option.some.inj found
        rcases kept.worked done with before | ⟨work, mem, id⟩
        · exact old _ (worked runId own (same ▸ is) before)
        · exact ⟨work, kept.works ▸ List.mem_append_right _ mem, id.trans same⟩
      · exact old _ (worked runId r found done)

theorem worked_run (clock : Instant) (ops : List RequestOp) :
    ∀ runId (r : RequestRun),
      (run (RequestWorld.step hashes) (.start clock) ops).runs[runId]? = some r →
      r.phase.isDone = true →
      ∃ work ∈ (run (RequestWorld.step hashes) (.start clock) ops).works, work.runId = runId :=
  (run_invariant (I := fun w : RequestWorld => ClaimsInOrder hashes w ∧
    ∀ runId (r : RequestRun), w.runs[runId]? = some r → r.phase.isDone = true →
      ∃ work ∈ w.works, work.runId = runId)
    (fun _ op ⟨held, worked⟩ => ⟨held.step op, worked_step held worked op⟩)
    ⟨.start clock, fun _ _ found => by simp [RequestWorld.start] at found⟩ ops).2

theorem changedByPerformed (clock : Instant) (ops : List RequestOp) :
    (run (RequestWorld.step hashes) (.start clock) ops).ChangedByPerformed := by
  have held : ClaimsInOrder hashes _ := .reached ops clock
  refine ⟨held.once, held.stored, fun work mem => ?_, fun runId r response found performed => ?_⟩
  · obtain ⟨r, found, request, managed, inserted, -, performed⟩ := (held.works work mem).run
    exact ⟨r, found, request, managed, inserted.key, inserted.expires, performed⟩
  · obtain ⟨work, mem, id⟩ := worked_run clock ops runId r found
      (by simp [RequestPhase.isDone, performed])
    obtain ⟨own, found', request, -⟩ := (held.works work mem).run
    obtain rfl := Option.some.inj (found.symm.trans (id ▸ found'))
    exact ⟨work, mem, id, request.symm⟩

/-- A claim in the table has its response, so who reads it is not told to wait. -/
theorem read_answers (held : ClaimsInOrder hashes w) {r : RequestRun} (mem : r ∈ w.runs)
    (unmanaged : r.managed = false) (detail : Option String) :
    answerExisting hashes r.claim (w.stored r.request.key) ≠
      .error (idempotencyInProgress detail) := by
  cases found : w.stored r.request.key with
  | none =>
    exact fun same => inProgress_ne_inconsistent detail (Except.error.inj same).symm
  | some row =>
    have key : row.key = r.request.key := by simpa using List.find?_some found
    obtain ⟨work, is, rfl⟩ := held.stored row (List.mem_of_find?_eq_some found)
    obtain ⟨own, there, -, managed, inserted, -, performed⟩ := (held.works work is).run
    obtain ⟨route, params⟩ := held.same_route mem (List.mem_of_getElem? there)
      (key.symm.trans inserted.key)
    have unmanaged' : own.managed = false := by
      rw [← unmanaged, RequestRun.managed, RequestRun.managed, route]
    obtain ⟨response, has, -⟩ := performed (managed.symm.trans unmanaged')
    have alike : r.claim.subjectId = own.claim.subjectId := by
      simp [RequestRun.claim, ApiRequest.claimRequest, route, params]
    rw [answerExisting_stored hashes inserted.version (alike ▸ inserted.subject unmanaged') has]
    split
    · nofun
    · exact fun same => inProgress_ne_keyReuse detail _ (Except.error.inj same).symm

theorem proceed_inProgress (held : ClaimsInOrder hashes w) {i : Nat} {own r : RequestRun}
    {s : RequestStep} {detail : Option String} (there : w.runs[i]? = some own)
    (found : (w.proceed hashes i own s).runs[i]? = some r) (unmanaged : r.managed = false)
    (is : r.phase = .answered (.conflicted (idempotencyInProgress detail)))
    (goes : ∀ phase, (w.go i own phase).runs[i]? = some r → r = { own with phase }) :
    w.runs[i]? = some r ∨ w.held r.request.key = true := by
  unfold RequestWorld.proceed at found
  split at found
  case h_1 =>
    unfold RequestWorld.insertClaim at found
    split at found
    · exact .inl found
    · split at found
      · rename_i holds
        obtain rfl := goes _ found
        exact .inr holds
      · split at found <;> (obtain rfl := goes _ found; cases is)
  case h_2 =>
    unfold RequestWorld.readClaim at found
    split at found
    · obtain rfl := goes _ found
      cases is
    · rename_i error reads
      obtain rfl := goes _ found
      obtain rfl := RequestAnswer.conflicted.inj (RequestPhase.answered.inj is)
      exact (read_answers held (List.mem_of_getElem? there) unmanaged detail reads).elim
  case h_3 =>
    unfold RequestWorld.operate at found
    split at found <;> (obtain rfl := goes _ found; cases is)
  case h_4 =>
    obtain rfl := goes _ found
    cases is
  case h_5 =>
    obtain rfl := goes _ found
    cases is
  case h_6 =>
    unfold RequestWorld.lookupBatch at found
    split at found
    · split at found
      · obtain rfl := goes _ found
        cases is
      · split at found <;> (obtain rfl := goes _ found; cases is)
    · exact .inl found
  case h_7 =>
    unfold RequestWorld.createContainer at found
    split at found <;> (obtain rfl := goes _ found; cases is)
  case h_8 =>
    unfold RequestWorld.lookupRaced at found
    split at found <;> (obtain rfl := goes _ found; cases is)
  case h_9 =>
    unfold RequestWorld.finishImport at found
    split at found <;> (obtain rfl := goes _ found; cases is)
  case h_10 =>
    unfold RequestWorld.lose at found
    split at found
    · exact .inl found
    · obtain rfl := goes _ found
      cases is
  case h_11 => exact .inl found

/-- The claim is said to be in progress only while another transaction holds its key. -/
theorem inProgress_while_held (held : ClaimsInOrder hashes w) (op : RequestOp) {runId : Nat}
    {r : RequestRun} {detail : Option String} (found : (w.step hashes op).runs[runId]? = some r)
    (unmanaged : r.managed = false)
    (is : r.phase = .answered (.conflicted (idempotencyInProgress detail))) :
    w.runs[runId]? = some r ∨ w.held r.request.key = true := by
  cases op with
  | sweep age => exact .inl found
  | tick ms => exact .inl found
  | arrive request =>
    rw [RequestWorld.step, RequestWorld.arrive] at found
    split at found
    · rw [List.getElem?_append] at found
      split at found
      · exact .inl found
      · obtain rfl := List.mem_singleton.mp (List.mem_of_getElem? found)
        cases is
    · exact .inl found
  | proceed i s =>
    cases there : w.runs[i]? with
    | none =>
      simp only [RequestWorld.step, there] at found
      exact .inl found
    | some own =>
      simp only [RequestWorld.step, there] at found
      by_cases same : i = runId
      · subst same
        have lt := (List.getElem?_eq_some_iff.mp there).1
        have goes : ∀ phase, (w.go i own phase).runs[i]? = some r → r = { own with phase } :=
          fun phase found' => Option.some.inj (found'.symm.trans (List.getElem?_set_self lt))
        exact proceed_inProgress held there found unmanaged is goes
      · obtain ⟨phase, more, kept⟩ := proceed_kept held there s
        rw [kept.runs, List.getElem?_set_ne same] at found
        exact .inl found

end Every

/-- For every key: it is performed once within the retention of its claim, and the tables hold
nothing but what requests answered so performed. Where its route does not write its own claim:
within the retention nothing more is performed for it, every request that had no answer when the
claim committed is answered with the stored response, or the conflict if its fingerprint is
another, and none is told to wait but while another transaction holds the key. -/
theorem idempotency_kept (hashes : ApiHashes) (clock : Instant) (ops later : List RequestOp) :
    let w := run (RequestWorld.step hashes) (.start clock) ops
    let w' := run (RequestWorld.step hashes) w later
    w'.CommittedOnce ∧ w'.ChangedByPerformed ∧
      (∀ work ∈ w.works, work.managed = false → w'.clock ≤ work.claim.expiresAt →
        w'.worksOf work.claim.key = w.worksOf work.claim.key ∧
        ∀ (runId : Nat) (r : RequestRun) answer, w'.runs[runId]? = some r →
          r.request.key = work.claim.key →
          (∀ before : RequestRun, w.runs[runId]? = some before → before.isAnswered = false) →
          r.phase = .answered answer → work.Answers hashes r answer) ∧
      ∀ op (runId : Nat) (r : RequestRun) detail, (w'.step hashes op).runs[runId]? = some r →
        r.managed = false →
        r.phase = .answered (.conflicted (idempotencyInProgress detail)) →
        w'.runs[runId]? = some r ∨ w'.held r.request.key = true := by
  intro w w'
  have held : ClaimsInOrder hashes w := ClaimsInOrder.reached ops clock
  have all : w' = run (RequestWorld.step hashes) (.start clock) (ops ++ later) :=
    (run_append _ _ _).symm
  have held' : ClaimsInOrder hashes w' := all ▸ ClaimsInOrder.reached (ops ++ later) clock
  refine ⟨held'.ordered, all ▸ changedByPerformed clock (ops ++ later),
    fun work mem unmanaged within => ?_, fun op runId r detail => inProgress_while_held held' op⟩
  have start : w.clock ≤ w'.clock :=
    (run_invariant (I := fun v => ClaimsInOrder hashes v ∧ w.clock ≤ v.clock)
      (fun _ op ⟨held, le⟩ => ⟨held.step op, le.trans (clock_le held op)⟩)
      ⟨held, le_rfl⟩ later).2
  have decided := (DecidedBy.start held mem unmanaged (start.trans within)).run_later unmanaged
    later within
  refine ⟨decided.works, fun runId r answer found same before is => ?_⟩
  rcases decided.answers runId r found same with
    ⟨⟨own, there, answered⟩, -⟩ | arrived | finds | ⟨answer', is', answers⟩
  · simp [before own there] at answered
  · simp [arrived] at is
  · simp [finds] at is
  · obtain rfl := RequestPhase.answered.inj (is.symm.trans is')
    exact answers

/-! ### Two runs -/

/-- Digests that tell bodies apart. -/
def plainHashes : ApiHashes where
  requestFingerprint input := input.body.getD ""
  importFingerprint body := .ok (body.getD "")

def posting (path : List String) (body requestId : String) : RequestOp :=
  .arrive ⟨.post, path, "2026-01-01", "key", some body, requestId⟩

/-- A quote is created once: its retry is answered the same, another body is refused. -/
example :
    (run (RequestWorld.step plainHashes) (.start 0) [
      posting ["", "v1", "quotes"] "a" "req_1", .proceed 0 .insertClaim,
      posting ["", "v1", "quotes"] "a" "req_2", .proceed 1 .insertClaim,
      .proceed 0 (.operate (.ok ⟨⟨201, "quote"⟩, some "quo_1"⟩)), .proceed 0 .complete,
      .proceed 0 .commit, posting ["", "v1", "quotes"] "a" "req_3", .proceed 2 .insertClaim,
      .proceed 2 .readClaim, posting ["", "v1", "quotes"] "b" "req_4", .proceed 3 .insertClaim,
      .proceed 3 .readClaim]).runs.map (·.phase) =
    [.answered (.performed ⟨201, "quote"⟩),
      .answered (.conflicted (idempotencyInProgress none)),
      .answered (.replayed ⟨201, "quote"⟩),
      .answered (.conflicted (idempotencyKeyReuse "POST /v1/quotes"))] := by
  decide +kernel

/-- A batch is imported; its retry is answered with another response, and the key with another body
is an internal error. -/
def batchOps : List RequestOp :=
  [posting ["", "v1", "batches"] "a" "req_1", .proceed 0 (.lookupBatch ""),
    .proceed 0 (.createContainer "bat_1"), .proceed 0 (.finishImport (.ok "validated")),
    posting ["", "v1", "batches"] "a" "req_2", .proceed 1 (.lookupBatch "authorized"),
    posting ["", "v1", "batches"] "b" "req_3", .proceed 2 (.lookupBatch ""),
    .proceed 2 (.createContainer "bat_2"), .proceed 2 (.lookupRaced "")]

theorem batch_key_not_kept :
    let w := run (RequestWorld.step plainHashes) (.start 0) batchOps
    (∃ work ∈ w.works, w.clock ≤ work.claim.expiresAt ∧ work.claim.response = none ∧
      ∀ r ∈ w.runs, r.request.key = work.claim.key) ∧
    w.runs.map (·.phase) = [.answered (.performed ⟨201, "validated"⟩),
      .answered (.replayed ⟨200, "authorized"⟩), .answered (.refused internalError)] := by
  decide +kernel

end InrSettle
