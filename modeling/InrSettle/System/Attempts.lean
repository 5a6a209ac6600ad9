import InrSettle.System.Dispatch

/-!
# Payout attempts

The attempts of a settlement over its whole run: which one may still be paid, which one
was, under which keys they were sent, and the edges their statuses move along.
-/

namespace InrSettle

open Transaction CaseTables Run

/-! ### What an operation does to the attempts -/

/-- The attempts stand, there is one more, or one was updated. -/
inductive AttemptsMove (op : SettlementOp) (c c' : Case) : Prop where
  | still : c'.attempts = c.attempts → AttemptsMove op c c'
  | added {a : PayoutAttemptRow} {n : Nat} : Allocated op a n →
    c'.attempts = c.attempts ++ [a] → AttemptsMove op c c'
  | updated {attemptId : String} {set : PayoutAttemptRow → PayoutAttemptRow} :
    AttemptWrite c op attemptId set → AttemptAllowed c attemptId set →
    c'.attempts = (withAttempt c attemptId set).attempts → AttemptsMove op c c'

theorem PayoutMove.attempts {read : Reads} {op : SettlementOp} {c c' : Case}
    (moved : PayoutMove read op c c') : AttemptsMove op c c' := by
  cases moved with
  | still _ attempts => exact .still attempts
  | created _ _ _ _ _ attempts => exact .still attempts
  | moved _ _ _ _ _ _ attempts => exact .still attempts
  | dispatched _ _ _ _ _ none attempts made =>
    exact .added made (by rw [attempts, none, List.nil_append])
  | updated _ write allowed attempts => exact .updated write allowed attempts
  | updatedMoved _ _ _ _ _ write allowed attempts => exact .updated write allowed attempts
  | retried _ _ _ attempts _ made => exact .added made attempts

/-! ### Allocation -/

section Allocation

variable {c c' : Case} {op : SettlementOp}

/-- An attempt that was not rejected is the last one. -/
theorem InOrder.last_of_ne_rejected (held : InOrder c) {a : PayoutAttemptRow}
    (mem : a ∈ c.attempts) (kept : a.status ≠ .rejected) : a.attemptNumber = c.attempts.length := by
  have inRange : a.attemptNumber ∈ List.range' 1 c.attempts.length := by
    rw [← held.numbered]
    exact List.mem_map_of_mem mem
  simp only [List.mem_range'_1] at inRange
  by_contra earlier
  exact kept (held.superseded a mem (by omega))

theorem InOrder.eq_of_ne_rejected (held : InOrder c) {a b : PayoutAttemptRow}
    (ha : a ∈ c.attempts) (hb : b ∈ c.attempts) (keptA : a.status ≠ .rejected)
    (keptB : b.status ≠ .rejected) : a = b := by
  have distinct : (c.attempts.map (·.attemptNumber)).Nodup :=
    held.numbered ▸ List.nodup_range'
  exact Table.eq_of_key distinct ha hb
    ((held.last_of_ne_rejected ha keptA).trans (held.last_of_ne_rejected hb keptB).symm)

/-- A list of distinct rows that are all equal has at most one. -/
theorem length_le_one {rows : List PayoutAttemptRow} (distinct : rows.Nodup)
    (same : ∀ a ∈ rows, ∀ b ∈ rows, a = b) : rows.length ≤ 1 := by
  match rows, distinct, same with
  | [], _, _ => simp
  | [a], _, _ => simp
  | a :: b :: rest, distinct, same =>
    have apart : a ≠ b := fun is => by simp [is] at distinct
    exact (apart (same a (by simp) b (by simp))).elim

theorem InOrder.oneInFlight (held : InOrder c) :
    (c.attempts.filter (·.status.isInFlight)).length ≤ 1 := by
  refine length_le_one ((List.Nodup.of_map _ held.ids).filter _) fun a ha b hb => ?_
  obtain ⟨ha, flightA⟩ := List.mem_filter.mp ha
  obtain ⟨hb, flightB⟩ := List.mem_filter.mp hb
  refine held.eq_of_ne_rejected ha hb ?_ ?_
  · rintro is
    rw [is] at flightA
    cases flightA
  · rintro is
    rw [is] at flightB
    cases flightB

/-- The database lets a credited or returned attempt be nothing else again. -/
theorem attemptMayBecome_paid {old new : PayoutAttemptRow}
    (mayBecome : attemptMayBecome old new = true)
    (paid : old.status = .credited ∨ old.status = .returned) :
    new.status = .credited ∨ new.status = .returned := by
  simp only [attemptMayBecome, Bool.and_eq_true, Bool.or_eq_true, Bool.not_eq_true',
    beq_iff_eq] at mayBecome
  rcases mayBecome.2 with (inFlight | same) | ⟨-, returned⟩
  · rcases paid with is | is <;> rw [is] at inFlight <;> cases inFlight
  · rwa [same]
  · exact .inr returned

/-- The attempt was credited, whether or not it came back since. -/
def WasPaid (attemptId : String) (c : Case) : Prop :=
  ∃ a ∈ c.attempts, a.id = attemptId ∧ (a.status = .credited ∨ a.status = .returned)

theorem WasPaid.updated {attemptId other : String} {set : PayoutAttemptRow → PayoutAttemptRow}
    (paid : WasPaid attemptId c) (sameId : ∀ a, (set a).id = a.id)
    (allowed : AttemptAllowed c other set)
    (attempts : c'.attempts = (withAttempt c other set).attempts) : WasPaid attemptId c' := by
  obtain ⟨a, mem, is, status⟩ := paid
  rw [WasPaid, attempts]
  by_cases found : a.id = other
  · exact ⟨set a, Table.mem_setWhere.mpr (.inl ⟨a, mem, decide_eq_true found, rfl⟩),
      (sameId a).trans is, attemptMayBecome_paid (allowed a mem found).1 status⟩
  · exact ⟨a, Table.mem_setWhere.mpr (.inr ⟨mem, decide_eq_false found⟩), is, status⟩

theorem AttemptsMove.wasPaid {attemptId : String} (moved : AttemptsMove op c c')
    (paid : WasPaid attemptId c) : WasPaid attemptId c' := by
  cases moved with
  | still attempts => rwa [WasPaid, attempts]
  | added _ attempts =>
    obtain ⟨a, mem, is, status⟩ := paid
    exact ⟨a, by rw [attempts]; exact List.mem_append_left _ mem, is, status⟩
  | updated write allowed attempts => exact paid.updated write.id allowed attempts

/-- Every attempt is the settlement's own, under the key of its number. -/
def Keyed (settlementId : String) (c : Case) : Prop :=
  ∀ a ∈ c.attempts, a.settlementId = settlementId ∧
    payoutIdempotencyKey settlementId a.attemptNumber = some a.idempotencyKey

theorem Keyed.updated {settlementId other : String} {set : PayoutAttemptRow → PayoutAttemptRow}
    (keyed : Keyed settlementId c) (allowed : AttemptAllowed c other set)
    (attempts : c'.attempts = (withAttempt c other set).attempts) : Keyed settlementId c' := by
  intro a mem
  rw [attempts] at mem
  rcases Table.mem_setWhere.mp mem with ⟨old, oldMem, found, rfl⟩ | ⟨oldMem, -⟩
  · obtain ⟨mayBecome, -⟩ := allowed old oldMem (of_decide_eq_true found)
    simp only [attemptMayBecome, Bool.and_eq_true, beq_iff_eq] at mayBecome
    obtain ⟨⟨⟨⟨⟨settlement, number⟩, key⟩, -⟩, -⟩, -⟩ := mayBecome
    rw [settlement, number, key]
    exact keyed old oldMem
  · exact keyed a oldMem

theorem AttemptsMove.keyed (moved : AttemptsMove op c c') (keyed : Keyed op.subject c) :
    Keyed op.subject c' := by
  cases moved with
  | still attempts => rwa [Keyed, attempts]
  | @added a n made attempts =>
    intro b mem
    rw [attempts] at mem
    rcases List.mem_append.mp mem with old | new
    · exact keyed b old
    · rw [List.mem_singleton.mp new]
      exact ⟨made.settlement, made.number ▸ made.key⟩
  | updated _ allowed attempts => exact keyed.updated allowed attempts

end Allocation

section Runs

variable (digest : AuthorizedInstruction → String)

theorem keyed_run (ops : List WorldOp) (settlementId : String) :
    Keyed settlementId (caseAfter digest ops settlementId) :=
  caseInvariant (P := Keyed) (fun _ _ _ _ _ held moved => moved.payout.attempts.keyed held)
    (fun _ a mem => by cases mem) (Along.trivial World.empty ops) settlementId

/-- A payment is not forgotten, however the run goes on. -/
theorem wasPaid_run (w : World) (more : List WorldOp) (settlementId attemptId : String)
    (paid : WasPaid attemptId (w.now.cases settlementId)) :
    WasPaid attemptId ((run (World.step digest) w more).now.cases settlementId) := by
  refine run_invariant (I := fun w : World => WasPaid attemptId (w.now.cases settlementId)) ?_ paid more
  intro w op paid
  cases op with
  | funding op => exact paid
  | settlement asOf op =>
    exact step_cases (R := fun c c' => WasPaid attemptId c → WasPaid attemptId c') (fun _ h => h)
      (fun _ moved before => moved.payout.attempts.wasPaid before) settlementId paid

/-- What holds of the attempts of a settlement after a run, and of every state the run goes on
to. -/
structure AttemptsAllocated (ops : List WorldOp) (settlementId : String) : Prop where
  oneWaiting : ((caseAfter digest ops settlementId).attempts.filter fun a =>
    decide (a.status ∉ [PayoutAttemptStatus.rejected, .credited, .returned])).length ≤ 1
  numbered : (caseAfter digest ops settlementId).attempts.map (·.attemptNumber) =
    List.range' 1 (caseAfter digest ops settlementId).attempts.length
  superseded : ∀ a ∈ (caseAfter digest ops settlementId).attempts,
    a.attemptNumber < (caseAfter digest ops settlementId).attempts.length → a.status = .rejected
  onePaid : ∀ more, ∀ a ∈ (caseAfter digest ops settlementId).attempts,
    ∀ b ∈ (caseAfter digest (ops ++ more) settlementId).attempts,
    a.status = .credited → b.status = .credited → a.id = b.id
  distinctKeys : ∀ more otherId, ∀ a ∈ (caseAfter digest ops settlementId).attempts,
    ∀ b ∈ (caseAfter digest (ops ++ more) otherId).attempts,
    a.idempotencyKey = b.idempotencyKey → settlementId = otherId ∧
      a.attemptNumber = b.attemptNumber

/-- After every run, of any operations on any settlements in any order. -/
theorem attempts_allocated (ops : List WorldOp) (settlementId : String) :
    AttemptsAllocated digest ops settlementId := by
  have held := inOrder_run digest ops settlementId
  refine ⟨?_, held.numbered, held.superseded, ?_, ?_⟩
  · have waiting : ∀ status : PayoutAttemptStatus,
        decide (status ∉ [PayoutAttemptStatus.rejected, .credited, .returned]) =
          status.isInFlight := by
      intro status
      cases status <;> rfl
    simp only [waiting]
    exact held.oneInFlight
  · intro more a ha b hb paidA paidB
    have paid := wasPaid_run digest _ more settlementId a.id ⟨a, ha, rfl, .inl paidA⟩
    rw [← run_append] at paid
    obtain ⟨a', ha', is, status⟩ := paid
    have later := inOrder_run digest (ops ++ more) settlementId
    have same := later.eq_of_ne_rejected ha' hb
      (fun rejected => by rcases status with h | h <;> rw [rejected] at h <;> cases h)
      (fun rejected => by rw [rejected] at paidB; cases paidB)
    exact is.symm.trans (congrArg _ same)
  · intro more otherId a ha b hb same
    have keyA := (keyed_run digest ops settlementId a ha).2
    have keyB := (keyed_run digest (ops ++ more) otherId b hb).2
    rw [same] at keyA
    exact payoutIdempotencyKey_inj keyA keyB

end Runs

/-! ### Edges -/

/-- The status of an attempt, where there is one of that id. -/
def statusOf (c : Case) (attemptId : String) : Option PayoutAttemptStatus :=
  (c.attempts.find? fun a => decide (a.id = attemptId)).map (·.status)

/-- No attempt's status changed but along an edge of the attempt machine. -/
def AlongEdges (c c' : Case) : Prop :=
  ∀ attemptId, statusOf c' attemptId = statusOf c attemptId ∨
    ∃ row ∈ payoutMachine.rows, payoutMachine.leaves row (statusOf c attemptId) = true ∧
      statusOf c' attemptId = some row.target

/-- A submission whose acceptance is written after its attempt went UNKNOWN. -/
def lateAcceptance (w : World) : WorldOp → Bool
  | .settlement _ (.recordSubmission settlementId input) =>
    input.ack.status == .accepted && (w.now.cases settlementId).attempts.any fun a =>
      a.id == input.attemptId && a.status == .unknown
  | _ => false

section Edges

variable {c c' : Case}

theorem alongEdges_of_same (attempts : c'.attempts = c.attempts) : AlongEdges c c' :=
  fun attemptId => .inl (by rw [statusOf, statusOf, attempts])

theorem statusOf_some {attemptId : String} {status : PayoutAttemptStatus}
    (is : statusOf c attemptId = some status) :
    ∃ a ∈ c.attempts, a.id = attemptId ∧ a.status = status := by
  obtain ⟨a, found, rfl⟩ := Option.map_eq_some_iff.mp is
  exact ⟨a, List.mem_of_find?_eq_some found, by simpa using List.find?_some found, rfl⟩

theorem InOrder.find (held : InOrder c) {a : PayoutAttemptRow} (mem : a ∈ c.attempts) :
    (c.attempts.find? fun b => decide (b.id = a.id)) = some a := by
  cases found : c.attempts.find? fun b => decide (b.id = a.id) with
  | none => simpa using List.find?_eq_none.mp found a mem
  | some b =>
    exact congrArg some (Table.eq_of_key held.ids (List.mem_of_find?_eq_some found) mem
      (by simpa using List.find?_some found))

theorem statusOf_withAttempt {attemptId : String} {set : PayoutAttemptRow → PayoutAttemptRow}
    (sameId : ∀ a, (set a).id = a.id) (id : String) :
    statusOf (withAttempt c attemptId set) id =
      (c.attempts.find? fun a => decide (a.id = id)).map fun a =>
        if a.id = attemptId then (set a).status else a.status := by
  simp only [statusOf, withAttempt, Table.setWhere, List.find?_map, Option.map_map]
  have same : ((fun a : PayoutAttemptRow => decide (a.id = id)) ∘ fun row =>
      if decide (row.id = attemptId) = true then set row else row) =
      fun a => decide (a.id = id) := by
    funext a
    by_cases found : a.id = attemptId
    · simp [found, sameId]
    · simp [found]
  rw [same]
  refine Option.map_congr fun a _ => ?_
  by_cases found : a.id = attemptId
  · simp [found]
  · simp [found]

/-- An update moves along the edges if it moves the attempt it finds along one. -/
theorem alongEdges_withAttempt {attemptId : String} {set : PayoutAttemptRow → PayoutAttemptRow}
    (sameId : ∀ a, (set a).id = a.id)
    (attempts : c'.attempts = (withAttempt c attemptId set).attempts)
    (edges : ∀ a ∈ c.attempts, a.id = attemptId → (set a).status = a.status ∨
      ∃ row ∈ payoutMachine.rows, a.status ∈ row.source ∧ (set a).status = row.target) :
    AlongEdges c c' := by
  intro id
  have after : statusOf c' id = statusOf (withAttempt c attemptId set) id := by
    rw [statusOf, statusOf, attempts]
  rw [after, statusOf_withAttempt sameId]
  cases found : c.attempts.find? fun a => decide (a.id = id) with
  | none => exact .inl (by rw [statusOf, found]; rfl)
  | some a =>
    have before : statusOf c id = some a.status := by rw [statusOf, found]; rfl
    rw [before, Option.map_some]
    by_cases hit : a.id = attemptId
    · rw [if_pos hit]
      rcases edges a (List.mem_of_find?_eq_some found) hit with same | ⟨row, mem, source, target⟩
      · exact .inl (congrArg some same)
      · exact .inr ⟨row, mem, decide_eq_true source, congrArg some target⟩
    · rw [if_neg hit]
      exact .inl rfl

/-- A new attempt is submitted: P01. -/
theorem alongEdges_append {a : PayoutAttemptRow} (status : a.status = .submitted) (attempts : c'.attempts = c.attempts ++ [a]) :
    AlongEdges c c' := by
  intro id
  rw [statusOf, statusOf, attempts, List.find?_append]
  cases found : c.attempts.find? fun a => decide (a.id = id) with
  | some b => exact .inl rfl
  | none =>
    by_cases is : a.id = id
    · refine .inr ⟨⟨.p01, [], .dispatch, .submitted⟩, by decide, rfl, ?_⟩
      simp [is, status]
    · exact .inl (by simp [is])

/-- The edges an outcome moves an attempt along: P02, P03 and P06, P04 and P07, P08. -/
theorem outcome_edges {input : PayoutOutcomeInput} {a : PayoutAttemptRow}
    (permits : input.Permits a) :
    ∃ row ∈ payoutMachine.rows, a.status ∈ row.source ∧ (input.set a).status = row.target := by
  unfold PayoutOutcomeInput.Permits at permits
  unfold PayoutOutcomeInput.set
  cases outcome : input.outcome with
  | credited =>
    simp only [outcome] at permits ⊢
    cases status : a.status with
    | submitted | accepted =>
      exact ⟨⟨.p03, [.submitted, .accepted], .credited, .credited⟩, by decide, by decide, rfl⟩
    | unknown => exact ⟨⟨.p06, [.unknown], .pullResolvedCredited, .credited⟩, by decide, by decide, rfl⟩
    | credited | rejected | returned => rw [status] at permits; cases permits.1
  | rejected =>
    simp only [outcome] at permits ⊢
    cases status : a.status with
    | submitted | accepted =>
      exact ⟨⟨.p04, [.submitted, .accepted], .rejected, .rejected⟩, by decide, by decide, rfl⟩
    | unknown => exact ⟨⟨.p07, [.unknown], .pullResolvedRejected, .rejected⟩, by decide, by decide, rfl⟩
    | credited | rejected | returned => rw [status] at permits; cases permits
  | accepted =>
    simp only [outcome] at permits ⊢
    rw [permits]
    exact ⟨⟨.p02, [.submitted], .accepted, .accepted⟩, by decide, by decide, rfl⟩
  | returned =>
    simp only [outcome] at permits ⊢
    rw [permits]
    exact ⟨⟨.p08, [.credited], .returned, .returned⟩, by decide, by decide, rfl⟩
  | unknown => simp [outcome] at permits

/-- Every update moves its attempt along an edge, a late acceptance apart. -/
theorem write_edges {op : SettlementOp} {attemptId : String}
    {set : PayoutAttemptRow → PayoutAttemptRow} (held : InOrder c)
    (write : AttemptWrite c op attemptId set) (allowed : AttemptAllowed c attemptId set)
    (late : ∀ settlementId input, op = .recordSubmission settlementId input →
      input.ack.status = .accepted → ∀ a ∈ c.attempts, a.id = input.attemptId →
      a.status ≠ .unknown) :
    ∀ a ∈ c.attempts, a.id = attemptId → (set a).status = a.status ∨
      ∃ row ∈ payoutMachine.rows, a.status ∈ row.source ∧ (set a).status = row.target := by
  intro a mem is
  cases write with
  | @acknowledged settlementId input =>
    by_cases accepts : input.ack.status = .accepted
    · have known := late settlementId input rfl accepts a mem is
      have kept := (allowed a mem is).1
      have target : (acknowledged input a).status = .accepted := if_pos accepts
      rw [target]
      cases status : a.status with
      | submitted => exact .inr ⟨⟨.p02, [.submitted], .accepted, .accepted⟩, by decide⟩
      | accepted => exact .inl rfl
      | unknown => exact (known status).elim
      | credited | rejected | returned =>
        simp [attemptMayBecome, status, target, PayoutAttemptStatus.isTerminal] at kept
    · exact .inl (if_neg accepts)
  | @outcome _ input b reports trusted latest permits =>
    obtain rfl : a = b := Table.eq_of_key held.ids mem (held.latest latest).1 is
    exact .inr (outcome_edges permits)
  | overdue latest waiting =>
    obtain rfl := Table.eq_of_key held.ids mem (held.latest latest).1 is
    right
    refine ⟨⟨.p05, [.submitted, .accepted], .slaElapsed, .unknown⟩, by decide, ?_, rfl⟩
    rcases waiting with status | status <;> rw [status] <;> decide
  | totalled => exact .inl rfl

theorem AttemptsMove.alongEdges {op : SettlementOp} (moved : AttemptsMove op c c')
    (held : InOrder c) (late : ∀ settlementId input, op = .recordSubmission settlementId input →
      input.ack.status = .accepted → ∀ a ∈ c.attempts, a.id = input.attemptId →
      a.status ≠ .unknown) : AlongEdges c c' := by
  cases moved with
  | still attempts => exact alongEdges_of_same attempts
  | added made attempts => exact alongEdges_append made.status attempts
  | updated write allowed attempts =>
    exact alongEdges_withAttempt write.id attempts (write_edges held write allowed late)

/-- The checks of `payout_attempts` hold of every row. -/
def AttemptsChecked (c : Case) : Prop := ∀ a ∈ c.attempts, attemptChecks a = true

theorem AttemptsChecked.updated {attemptId : String} {set : PayoutAttemptRow → PayoutAttemptRow}
    (checked : AttemptsChecked c) (allowed : AttemptAllowed c attemptId set)
    (attempts : c'.attempts = (withAttempt c attemptId set).attempts) : AttemptsChecked c' := by
  intro a mem
  rw [attempts] at mem
  rcases Table.mem_setWhere.mp mem with ⟨old, oldMem, found, rfl⟩ | ⟨oldMem, -⟩
  · exact (allowed old oldMem (of_decide_eq_true found)).2
  · exact checked a oldMem

theorem AttemptsMove.checked {op : SettlementOp} (moved : AttemptsMove op c c')
    (checked : AttemptsChecked c) : AttemptsChecked c' := by
  cases moved with
  | still attempts => rwa [AttemptsChecked, attempts]
  | added made attempts =>
    intro b mem
    rw [attempts] at mem
    rcases List.mem_append.mp mem with old | new
    · exact checked b old
    · exact List.mem_singleton.mp new ▸ made.checks
  | updated _ allowed attempts => exact checked.updated allowed attempts

/-- Only a paid attempt has a credited amount. -/
theorem uncredited_of_inFlight {a : PayoutAttemptRow} (checks : attemptChecks a = true)
    (inFlight : a.status.isInFlight = true) : a.creditedMinor = none := by
  cases amount : a.creditedMinor with
  | none => rfl
  | some delivered =>
    simp only [attemptChecks, amount, Option.all_some, Bool.and_eq_true, Bool.or_eq_true,
      beq_iff_eq] at checks
    rcases checks.1.1.2.2 with is | is <;> rw [is] at inFlight <;> cases inFlight

/-- No edge leads from UNKNOWN to ACCEPTED. -/
theorem not_alongEdges {attemptId : String} (before : statusOf c attemptId = some .unknown)
    (now : statusOf c' attemptId = some .accepted) : ¬ AlongEdges c c' := by
  intro edges
  have apart : some PayoutAttemptStatus.accepted ≠ some .unknown ∧
      ∀ row ∈ payoutMachine.rows, payoutMachine.leaves row (some .unknown) = true →
        some PayoutAttemptStatus.accepted ≠ some row.target := by decide
  rcases edges attemptId with same | ⟨row, inTable, leaves, reached⟩
  · rw [now, before] at same
    exact apart.1 same
  · rw [before] at leaves
    rw [now] at reached
    exact apart.2 row inTable leaves reached

/-- A late acceptance is written. -/
theorem lateAcceptance_leaves {input : SubmissionInput} (held : InOrder c)
    (checked : AttemptsChecked c) (accepts : input.ack.status = .accepted) {a : PayoutAttemptRow}
    (mem : a ∈ c.attempts) (is : a.id = input.attemptId) (status : a.status = .unknown) :
    ¬ AlongEdges c (after (recordSubmission input) c) := by
  have only : ∀ b ∈ c.attempts, b.id = input.attemptId → b = a := fun b hb same =>
    Table.eq_of_key held.ids hb mem (same.trans is.symm)
  have target : (acknowledged input a).status = .accepted := if_pos accepts
  have sameId : ∀ b, (acknowledged input b).id = b.id := fun _ => rfl
  have mayBecome : ∀ b ∈ c.attempts, b.id = input.attemptId →
      attemptMayBecome b (acknowledged input b) = true := by
    intro b hb same
    rw [only b hb same]
    simp [attemptMayBecome, acknowledged, status, PayoutAttemptStatus.isTerminal]
  have checks : ∀ b ∈ c.attempts, b.id = input.attemptId →
      attemptChecks (acknowledged input b) = true := by
    intro b hb same
    rw [only b hb same]
    have before := checked a mem
    have uncredited := uncredited_of_inFlight before (by rw [status]; rfl)
    simpa [attemptChecks, acknowledged, status, accepts, uncredited] using before
  have done : Commits (recordSubmission input) c ⟨⟩
      (withAttempt c input.attemptId (acknowledged input)) := by
    simp only [recordSubmission, updateAttempt, commits_get_bind, commits_require_bind,
      commits_modify]
    exact ⟨mayBecome, checks, rfl⟩
  rw [after_of_commits done]
  intro edges
  have before : statusOf c a.id = some .unknown := by
    rw [statusOf, held.find mem, Option.map_some, status]
  have now : statusOf (withAttempt c input.attemptId (acknowledged input)) a.id =
      some .accepted := by
    rw [statusOf_withAttempt sameId, held.find mem, Option.map_some, if_pos is, target]
  exact not_alongEdges before now edges

end Edges

section EdgeRuns

variable (digest : AuthorizedInstruction → String)

/-- The step moves no attempt but along the edges of its machine. -/
def MovesAlongEdges (w : World) (op : WorldOp) : Prop :=
  ∀ settlementId, AlongEdges (w.now.cases settlementId)
    ((w.step digest op).now.cases settlementId)

theorem movesAlongEdges_iff {w : World} (held : ∀ id, InOrder (w.now.cases id))
    (checked : ∀ id, AttemptsChecked (w.now.cases id)) (op : WorldOp) :
    MovesAlongEdges digest w op ↔ lateAcceptance w op = false := by
  cases op with
  | funding op => exact ⟨fun _ => rfl, fun _ _ => alongEdges_of_same rfl⟩
  | settlement asOf op =>
    constructor
    · intro edges
      by_contra late
      rw [Bool.not_eq_false] at late
      cases op
      case recordSubmission settlementId input =>
        simp only [lateAcceptance, Bool.and_eq_true, beq_iff_eq, List.any_eq_true] at late
        obtain ⟨accepts, a, mem, is, status⟩ := late
        have stepped : AlongEdges (w.now.cases settlementId)
            (after (recordSubmission input) (w.now.cases settlementId)) := by
          have edge := edges (SettlementOp.recordSubmission settlementId input).subject
          rw [step_case_subject, settlementStep, after_onCase_case] at edge
          exact edge
        exact lateAcceptance_leaves (held settlementId) (checked settlementId) accepts mem is
          status stepped
      all_goals cases late
    · intro onTime settlementId
      refine step_cases (R := AlongEdges) (fun _ => alongEdges_of_same rfl) (fun s' moved => ?_)
        settlementId
      refine moved.payout.attempts.alongEdges (held _) ?_
      rintro settlementId input rfl accepts a mem is status
      simp only [lateAcceptance, accepts, beq_self_eq_true, Bool.true_and, List.any_eq_false,
        Bool.and_eq_true, beq_iff_eq] at onTime
      exact onTime a mem ⟨is, status⟩

/-- A run moves attempts along the edges of their machine exactly where no acceptance is written
late. -/
theorem changes_along_edges_iff (ops : List WorldOp) :
    Along (World.step digest) (MovesAlongEdges digest) World.empty ops ↔
      Along (World.step digest) (fun w op => lateAcceptance w op = false) World.empty ops := by
  refine along_congr
    (I := fun w => (∀ id, InOrder (w.now.cases id)) ∧ ∀ id, AttemptsChecked (w.now.cases id))
    ?_ (fun w op held => movesAlongEdges_iff digest held.1 held.2 op) ?_ ops
  · rintro w (op | ⟨asOf, op⟩) ⟨held, checked⟩
    · exact ⟨held, checked⟩
    · exact ⟨fun id => step_cases (R := fun c c' => InOrder c → InOrder c') (fun _ h => h)
          (fun _ moved before => moved.payout.inOrder before) id (held id),
        fun id => step_cases (R := fun c c' => AttemptsChecked c → AttemptsChecked c')
          (fun _ h => h) (fun _ moved before => moved.payout.attempts.checked before) id
          (checked id)⟩
  · exact ⟨fun _ => inOrder_empty, fun _ _ mem => by cases mem⟩

/-- The answer to a submission, written after the SLA sweep. -/
def acknowledging : WorldOp :=
  fresh (.recordSubmission "s" {
    attemptId := "a1", ack := { providerReference := "ref", status := .accepted }, now := 70000 })

def sweeping : WorldOp := fresh (.sweepPayoutSla "s" { actor := worker, now := 60006 })

/-- The acceptance of an UNKNOWN attempt is written, along no edge. -/
theorem acceptance_along_no_edge :
    ¬ Along (World.step fun _ => "hash") (MovesAlongEdges fun _ => "hash") World.empty
      ((funded ++ [dispatching, sweeping]) ++ [acknowledging]) := by
  intro edges
  obtain ⟨-, edge, -⟩ := along_append.mp edges
  have before : statusOf (caseAfter (fun _ => "hash") (funded ++ [dispatching, sweeping]) "s")
      "a1" = some .unknown := by decide +kernel
  have now : statusOf (caseAfter (fun _ => "hash")
      (funded ++ [dispatching, sweeping, acknowledging]) "s") "a1" = some .accepted := by
    decide +kernel
  exact not_alongEdges before now (edge "s")

end EdgeRuns

end InrSettle
