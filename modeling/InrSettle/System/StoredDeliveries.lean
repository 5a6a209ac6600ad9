import InrSettle.System.PayoutDeliveries
import InrSettle.System.PayoutRefusals
import InrSettle.System.Returns

/-!
# Deliveries that are stored

A delivery that can be filed is stored and answered, whatever its payload makes of the payout,
where the columns hold what it states. A figure no column holds takes the stored event with it.
-/

namespace InrSettle

open Transaction CaseTables InboxTables Run

/-! ### Rows as the database keeps them -/

/-- The checks of the rows hold, the attempts are in order and every value fits its column. -/
structure Sound (c : Case) : Prop where
  inOrder : InOrder c
  attempts : AttemptsChecked c
  settlement : ∀ row, c.settlement = some row → settlementChecks row = true
  fits : c.fits = true

theorem edgeAfter_sound (digest : AuthorizedInstruction → String) (ops : List EdgeOp)
    (settlementId : String) : Sound ((edgeAfter digest ops).world.now.cases settlementId) := by
  obtain ⟨worldOps, is⟩ := edgeAfter_world digest ops
  have returns := returnsInOrder_run digest worldOps settlementId
  have columns := columnsKept_run digest worldOps settlementId
  refine ⟨?_, ?_, ?_, edgeAfter_fits digest ops settlementId⟩
  · rw [is]
    exact returns.inOrder
  · rw [is]
    exact returns.checked
  · rw [is]
    exact columns.checked

section Outcomes

variable {c c' : Case} {a : PayoutAttemptRow} {set : PayoutAttemptRow → PayoutAttemptRow}
  {input : PayoutOutcomeInput} {status : Option SettlementStatus}

/-- An attempt's id is its own, so an update by id is an update of it alone. -/
theorem Sound.allowed (sound : Sound c) (mem : a ∈ c.attempts)
    (mayBecome : attemptMayBecome a (set a) = true) (checks : attemptChecks (set a) = true) :
    AttemptAllowed c a.id set := by
  intro b hb same
  obtain rfl := Table.eq_of_key sound.inOrder.ids hb mem same
  exact ⟨mayBecome, checks⟩

theorem attemptMayBecome_inFlight {b : PayoutAttemptRow} (inFlight : a.status.isInFlight = true)
    (identity : (b.settlementId, b.attemptNumber, b.idempotencyKey, b.destinationVersionId,
      b.dispatchedAt) = (a.settlementId, a.attemptNumber, a.idempotencyKey,
        a.destinationVersionId, a.dispatchedAt)) : attemptMayBecome a b = true := by
  simp only [Prod.mk.injEq] at identity
  obtain ⟨settlement, number, key, version, dispatched⟩ := identity
  have waiting : a.status.isTerminal = false := by
    simpa [PayoutAttemptStatus.isInFlight] using inFlight
  simp [attemptMayBecome, settlement, number, key, version, dispatched, waiting]

theorem credited_allowed (sound : Sound c) (mem : a ∈ c.attempts)
    (inFlight : a.status.isInFlight = true) (utr : isWellFormedUtr input.utr = true)
    (positive : ∀ n, input.creditedMinor = some n → 0 < n) :
    AttemptAllowed c a.id (credited input) := by
  refine sound.allowed mem (attemptMayBecome_inFlight inFlight rfl) ?_
  have checks := sound.attempts a mem
  have uncredited := uncredited_of_inFlight checks inFlight
  cases stated : input.utr with
  | none =>
    rw [stated] at utr
    cases utr
  | some text =>
    have long : 0 < text.length := by
      simp only [stated, isWellFormedUtr, Bool.and_eq_true, decide_eq_true_eq] at utr
      omega
    simp only [attemptChecks, uncredited, Option.any_none, Bool.or_false, Bool.and_eq_true,
      decide_eq_true_eq, beq_iff_eq] at checks
    cases figure : input.creditedMinor with
    | none => simp_all [attemptChecks, credited]
    | some n => simp_all [attemptChecks, credited]

theorem rejected_allowed (sound : Sound c) (mem : a ∈ c.attempts)
    (inFlight : a.status.isInFlight = true) : AttemptAllowed c a.id (rejected input) := by
  refine sound.allowed mem (attemptMayBecome_inFlight inFlight rfl) ?_
  have checks := sound.attempts a mem
  have uncredited := uncredited_of_inFlight checks inFlight
  simp only [attemptChecks, uncredited, Bool.and_eq_true] at checks
  simp_all [attemptChecks, rejected]

theorem accepted_allowed (sound : Sound c) (mem : a ∈ c.attempts)
    (submitted : a.status = .submitted) : AttemptAllowed c a.id (accepted input) := by
  have inFlight : a.status.isInFlight = true := by rw [submitted]; rfl
  refine sound.allowed mem (attemptMayBecome_inFlight inFlight rfl) ?_
  have checks := sound.attempts a mem
  have uncredited := uncredited_of_inFlight checks inFlight
  simp only [attemptChecks, uncredited, Bool.and_eq_true] at checks
  simp_all [attemptChecks, accepted]

theorem returned_allowed (sound : Sound c) (mem : a ∈ c.attempts) (paid : a.status = .credited) :
    AttemptAllowed c a.id (returned input) := by
  have checks := sound.attempts a mem
  refine sound.allowed mem ?_ ?_
  · simp [attemptMayBecome, returned, paid]
  · simp only [attemptChecks, paid, Bool.and_eq_true, decide_eq_true_eq] at checks
    cases utr : a.utr with
    | none => simp_all
    | some text => simp_all [attemptChecks, returned]

theorem updateAttempt_ends {attemptId : String} (allowed : AttemptAllowed c attemptId set) :
    Ends (updateAttempt attemptId set) c fun _ c' => c' = withAttempt c attemptId set := by
  simp only [updateAttempt, ends_get_bind, ends_require_bind, ends_modify]
  exact ⟨fun a mem is => (allowed a mem is).1, fun a mem is => (allowed a mem is).2, rfl⟩

theorem outcomeTransition_target (input : PayoutOutcomeInput) (a : PayoutAttemptRow)
    {t : Transition} (row : (outcomeTransition input a).trigger.row = some t) :
    t.target = some .payoutConfirmed ∨ t.target = some .exception := by
  unfold outcomeTransition at row
  split at row
  · obtain rfl := Option.some.inj row
    exact .inl rfl
  · obtain rfl := Option.some.inj row
    exact .inr rfl

/-- The database lets a settlement that waits for its payout be PAYOUT_CONFIRMED or EXCEPTION. -/
theorem waiting_mayBecome {row : SettlementRow} {target : SettlementStatus}
    {code : Option ExceptionCode} (waiting : row.status = .payoutSubmitted)
    (reached : target = .payoutConfirmed ∨ target = .exception)
    (checks : settlementChecks row = true) :
    settlementMayBecome row (moveRow (some target) [] code row) = true ∧
      settlementChecks (moveRow (some target) [] code row) = true := by
  simp only [settlementChecks, Bool.and_eq_true, decide_eq_true_eq] at checks
  rcases reached with rfl | rfl
  · refine ⟨?_, ?_⟩
    · simp [settlementMayBecome, moveRow, applyPatch, sameInstruction, waiting,
        SettlementStatus.isTerminal]
    · simpa [settlementChecks, moveRow, applyPatch] using checks
  · refine ⟨?_, ?_⟩
    · simp [settlementMayBecome, moveRow, applyPatch, sameInstruction, waiting,
        SettlementStatus.isTerminal]
    · simp [settlementChecks, moveRow, applyPatch, checks.1, waiting, exceptionOrigins]

/-- Nothing the database checks of a settlement stops T16 or T17. -/
theorem outcomeTransition_ends {a : PayoutAttemptRow}
    (checked : ∀ row, c.settlement = some row → settlementChecks row = true) :
    Ends (applyTransition (outcomeTransition input a)) c fun _ _ => True := by
  obtain ⟨t, answers, source⟩ := outcomeTransition_answers input a
  have patch : (outcomeTransition input a).patch = [] := by
    unfold outcomeTransition
    split <;> rfl
  unfold applyTransition
  simp only [answers.unowned, ne_eq, not_true_eq_false, if_false, ends_get_bind]
  cases found : c.settlement with
  | none => exact ends_pure.mpr trivial
  | some row =>
    simp only [answers.anyVersion, Option.any_none, Bool.false_eq_true, if_false,
      answers.evaluated]
    by_cases leaves : row.status ∈ t.source
    · simp only [leaves, if_true]
      split
      · exact ends_pure.mpr trivial
      have waiting : row.status = .payoutSubmitted := by simpa [source] using leaves
      have allowed : ∃ target, t.target = some target ∧
          settlementMayBecome row (moveRow (some target) []
            (outcomeTransition input a).exceptionCode row) = true ∧
          settlementChecks (moveRow (some target) [] (outcomeTransition input a).exceptionCode
            row) = true := by
        rcases outcomeTransition_target input a answers.row with is | is
        · exact ⟨_, is, waiting_mayBecome waiting (.inl rfl) (checked row found)⟩
        · exact ⟨_, is, waiting_mayBecome waiting (.inr rfl) (checked row found)⟩
      obtain ⟨target, is, mayBecome, checks⟩ := allowed
      simp only [is, patch, Option.isSome_some, true_or, if_true, updateSettlement, audit,
        bind_assoc, ends_require_bind, ends_modify_bind, ends_pure]
      exact ⟨mayBecome, checks, trivial⟩
    · simp only [leaves, if_false]
      exact ends_pure.mpr trivial

/-- A transition leaves the attempts and the returns alone. -/
theorem Moved.fits {asked : ApplyTransitionInput} (moved : Moved asked c c') :
    c'.fits = c.fits := by
  obtain ⟨old, new, t, -, -, rfl⟩ := moved
  rfl

theorem withAttempt_fits {attemptId : String} (fits : c.fits = true)
    (fitting : ∀ b ∈ c.attempts, b.id = attemptId → (set b).fits = true) :
    (withAttempt c attemptId set).fits = true := by
  simp only [Case.fits, withAttempt, Bool.and_eq_true, List.all_eq_true] at fits ⊢
  refine ⟨⟨fun b mem => ?_, fits.1.2⟩, fits.2⟩
  rcases Table.mem_setWhere.mp mem with ⟨old, oldMem, found, rfl⟩ | ⟨oldMem, -⟩
  · exact fitting old oldMem (of_decide_eq_true found)
  · exact fits.1.1 b oldMem

/-- An attempt is moved and the settlement asked, whatever it answers. -/
theorem moveAttempt_ends {done : PayoutDone} (sound : Sound c)
    (allowed : AttemptAllowed c a.id set)
    (fitting : ∀ b ∈ c.attempts, b.id = a.id → (set b).fits = true) :
    Ends (moveAttempt status input a set done) c fun _ c' => c'.fits = true := by
  have fits := withAttempt_fits sound.fits fitting
  unfold moveAttempt
  rw [ends_bind]
  refine (updateAttempt_ends allowed).mono ?_
  rintro _ c₁ rfl
  split
  · exact ends_pure.mpr fits
  rw [ends_bind]
  have asks : Ends (applyTransition (outcomeTransition input a)) (withAttempt c a.id set)
      fun _ _ => True := outcomeTransition_ends sound.settlement
  refine (asks.of_commits (fun r c₂ applied => ?_) : Ends _ _ fun _ c₂ =>
    True ∧ c₂.fits = true).mono ?_
  · rcases applyTransition_moved applied with ⟨-, rfl⟩ | ⟨-, moved⟩
    · exact fits
    · exact moved.fits.trans fits
  · rintro (failure | done') c₂ ⟨-, fits₂⟩
    · exact ends_pure.mpr fits₂
    · exact ends_pure.mpr fits₂

/-- The report's own texts hold no U+0000, its figure is positive, and fits where it is credited. -/
structure ReportFits (input : PayoutOutcomeInput) (c : Case) : Prop where
  rawCode : input.rawCode.all Json.nulFree = true
  reference : input.providerReference.all Json.nulFree = true
  positive : ∀ n, input.creditedMinor = some n → 0 < n
  credit : input.outcome = .credited → input.moves c = true →
    ∀ n, input.creditedMinor = some n → n ≤ maxBigint

theorem fits_orKept {value kept : Option String} (fits : value.all Json.nulFree = true)
    (before : kept.all Json.nulFree = true) : (orKept value kept).all Json.nulFree = true := by
  unfold orKept
  split
  · exact fits
  · exact before

theorem Sound.attempt_fits (sound : Sound c) {b : PayoutAttemptRow} (mem : b ∈ c.attempts) :
    b.fits = true := by
  have fits := sound.fits
  simp only [Case.fits, Bool.and_eq_true, List.all_eq_true] at fits
  exact fits.1.1 b mem

/-- In a sound case every report is applied or refused, and leaves the columns fitting. -/
theorem applyPayoutOutcome_ends (sound : Sound c) (report : ReportFits input c) :
    Ends (applyPayoutOutcome status input) c fun _ c' => c'.fits = true := by
  unfold applyPayoutOutcome
  split
  · exact ends_pure.mpr sound.fits
  rename_i trusted
  have trusted : input.trusted = true := by simpa using trusted
  simp only [ends_get_bind]
  cases latest : latestAttempt c with
  | none => exact ends_pure.mpr sound.fits
  | some a =>
    have mem : a ∈ c.attempts := (Table.latestBy_some latest).1
    simp only
    split
    case h_1 is =>
      split
      · exact ends_pure.mpr sound.fits
      rename_i wellFormed
      split
      · exact ends_pure.mpr sound.fits
      split
      · exact ends_pure.mpr sound.fits
      rename_i waiting
      have inFlight : a.status.isInFlight = true := by simpa using waiting
      have utr : isWellFormedUtr input.utr = true := by simpa using wellFormed
      have moves : input.moves c = true := by
        simp [PayoutOutcomeInput.moves, latest, trusted, inFlight, is, utr]
      refine moveAttempt_ends sound (credited_allowed sound mem inFlight utr report.positive) ?_
      intro b hb _
      have before := sound.attempt_fits hb
      simp only [PayoutAttemptRow.fits, Bool.and_eq_true] at before ⊢
      refine ⟨⟨?_, fits_orKept report.rawCode before.1.2⟩, fits_orKept report.reference before.2⟩
      cases figure : input.creditedMinor with
      | none => simpa [credited, figure] using before.1.1
      | some n => simpa [credited, figure] using report.credit is moves n figure
    case h_2 is =>
      split
      · exact ends_pure.mpr sound.fits
      split
      · exact ends_pure.mpr sound.fits
      rename_i waiting
      have inFlight : a.status.isInFlight = true := by simpa using waiting
      refine moveAttempt_ends sound (rejected_allowed sound mem inFlight) ?_
      intro b hb _
      have before := sound.attempt_fits hb
      simp only [PayoutAttemptRow.fits, Bool.and_eq_true] at before ⊢
      exact ⟨⟨before.1.1, fits_orKept report.rawCode before.1.2⟩,
        fits_orKept report.reference before.2⟩
    case h_3 is =>
      split
      · rename_i submitted
        rw [ends_bind]
        refine (updateAttempt_ends (accepted_allowed sound mem submitted)).mono ?_
        rintro _ c₁ rfl
        refine ends_pure.mpr (withAttempt_fits sound.fits fun b hb _ => ?_)
        have before := sound.attempt_fits hb
        simp only [PayoutAttemptRow.fits, Bool.and_eq_true] at before ⊢
        exact ⟨before.1, fits_orKept report.reference before.2⟩
      · exact ends_pure.mpr sound.fits
    case h_4 is =>
      split
      · exact ends_pure.mpr sound.fits
      split
      · exact ends_pure.mpr sound.fits
      rename_i paid
      rw [ends_bind]
      refine (updateAttempt_ends (returned_allowed sound mem (not_not.mp paid))).mono ?_
      rintro _ c₁ rfl
      refine ends_pure.mpr (withAttempt_fits sound.fits fun b hb _ => ?_)
      have before := sound.attempt_fits hb
      simp only [PayoutAttemptRow.fits, Bool.and_eq_true] at before ⊢
      exact ⟨⟨before.1.1, fits_orKept report.rawCode before.1.2⟩, before.2⟩
    case h_5 is => exact ends_pure.mpr sound.fits

end Outcomes

/-! ### Opening a return -/

/-- When the return came back: when the provider says so, or now. -/
def OpenReturnInput.observedAt (opening : OpenReturnInput) : Instant :=
  opening.occurredAt.getD opening.now

/-- The seconds from the credit to the return. -/
def OpenReturnInput.elapsed (opening : OpenReturnInput) (c : Case) : Nat :=
  (triageReturnArrival (((joinedAttempt c).bind (·.creditedAt)).getD opening.observedAt)
    opening.observedAt opening.windowSeconds).elapsedSeconds

/-- The columns of `settlement_returns` hold what is stated of the return, under a new id. -/
structure OpeningFits (opening : OpenReturnInput) (c : Case) : Prop where
  fresh : ∀ r ∈ c.returns, r.id ≠ opening.returnId
  amount : opening.amountMinor ≤ maxBigint
  elapsed : opening.elapsed c ≤ maxInteger
  reference : Json.nulFree opening.providerReturnReference = true

section Openings

variable {c c' : Case} {opening : OpenReturnInput}

/-- The case with one return opened and observed. -/
def Case.withOpening (c : Case) (row : SettlementReturnRow) (observation : ReturnObservationRow) :
    Case :=
  { c with
    returns := c.returns ++ [row]
    returnObservations := c.returnObservations ++ [observation] }

theorem withOpening_fits {row : SettlementReturnRow} {observation : ReturnObservationRow}
    (fits : c.fits = true) (rowFits : row.fits = true) (observed : observation.fits = true) :
    (c.withOpening row observation).fits = true := by
  simp only [Case.fits, Bool.and_eq_true] at fits
  simp [Case.fits, Case.withOpening, fits, rowFits, observed]

theorem openReturn_ends (sound : c.fits = true) (fitting : OpeningFits opening c) :
    Ends (openReturn opening) c fun _ c' => c'.fits = true := by
  have observed : ∀ returnId opened, (opening.observation returnId opened).fits = true := by
    intro returnId opened
    simpa [ReturnObservationRow.fits, OpenReturnInput.observation] using fitting.amount
  unfold openReturn
  simp only [ends_get_bind]
  split
  · exact ends_pure.mpr sound
  rename_i source found
  split
  · exact ends_pure.mpr sound
  split
  · exact ends_pure.mpr sound
  rename_i attemptId points
  split
  · exact ends_pure.mpr sound
  rename_i positive
  split
  · exact ends_pure.mpr sound
  have joined : source.attempt = joinedAttempt c := by
    obtain ⟨row, -, rfl⟩ := Option.map_eq_some_iff.mp found
    rfl
  split
  · simp only [insertObservation, ends_modify_bind, ends_pure]
    simp only [Case.fits, Bool.and_eq_true] at sound ⊢
    exact ⟨sound.1, by simp [sound.2, observed]⟩
  · rename_i unseen
    have unseen : ∀ q ∈ c.returns, ¬(q.payoutAttemptId = attemptId ∧
        q.providerReturnReference = opening.providerReturnReference) := by
      simpa using unseen
    set triage := triageReturnArrival
      ((source.attempt.bind (·.creditedAt)).getD (opening.occurredAt.getD opening.now))
      (opening.occurredAt.getD opening.now) opening.windowSeconds with triaged
    set row := opening.row attemptId (opening.occurredAt.getD opening.now) triage with rowIs
    have checks : returnChecks row = true := by
      simpa [returnChecks, rowIs, OpenReturnInput.row, countsTowardCap] using positive
    have rowFits : row.fits = true := by
      have elapsed : triage.elapsedSeconds ≤ maxInteger := by
        rw [triaged, joined]
        exact fitting.elapsed
      simp [SettlementReturnRow.fits, rowIs, OpenReturnInput.row, fitting.amount, elapsed,
        fitting.reference]
    have opened := withOpening_fits sound rowFits (observed opening.returnId true)
    simp only [insertReturn, bind_assoc, ends_get_bind, ends_require_bind, ends_modify_bind,
      insertObservation, emit, audit]
    refine ⟨fitting.fresh, checks, unseen, ?_⟩
    split
    · simp only [updateReturn, bind_assoc, ends_get_bind, ends_require_bind, ends_modify_bind,
        ends_pure]
      refine ⟨?_, ?_⟩
      · intro r mem is
        rcases List.mem_append.mp mem with old | new
        · exact (fitting.fresh r old is).elim
        · rw [List.mem_singleton.mp new]
          simpa [returnChecks, escalated, rowIs, OpenReturnInput.row, countsTowardCap]
            using positive
      · simp only [Case.fits, Case.withOpening, Bool.and_eq_true, List.all_eq_true] at opened ⊢
        refine ⟨⟨opened.1.1, fun r mem => ?_⟩, opened.2⟩
        rcases Table.mem_setWhere.mp mem with ⟨old, oldMem, -, rfl⟩ | ⟨oldMem, -⟩
        · exact opened.1.2 old oldMem
        · exact opened.1.2 r oldMem
    · exact ends_pure.mpr opened

/-- When an attempt was credited does not change as it comes back. -/
theorem creditedAt_withAttempt {attemptId : String} {set : PayoutAttemptRow → PayoutAttemptRow}
    (sameId : ∀ a, (set a).id = a.id) (sameTime : ∀ a, (set a).creditedAt = a.creditedAt) :
    (joinedAttempt (withAttempt c attemptId set)).bind (·.creditedAt) =
      (joinedAttempt c).bind (·.creditedAt) := by
  cases pointer : c.settlement.bind (·.payoutAttemptId) with
  | none =>
    have pointer' : (withAttempt c attemptId set).settlement.bind (·.payoutAttemptId) = none :=
      pointer
    simp only [joinedAttempt, pointer, pointer', Option.bind_none]
  | some pointed =>
    have pointer' : (withAttempt c attemptId set).settlement.bind (·.payoutAttemptId) =
      some pointed := pointer
    simp only [joinedAttempt, pointer, pointer', Option.bind_some]
    show ((Table.setWhere (fun a => decide (a.id = attemptId)) set c.attempts).find?
      fun a => decide (a.id = pointed)).bind (·.creditedAt) = _
    rw [Table.setWhere, List.find?_map]
    have same : ((fun a : PayoutAttemptRow => decide (a.id = pointed)) ∘ fun row =>
        if decide (row.id = attemptId) = true then set row else row) =
        fun a => decide (a.id = pointed) := by
      funext a
      by_cases found : a.id = attemptId <;> simp [found, sameId]
    rw [same, Option.bind_map]
    refine Option.bind_congr fun a _ => ?_
    by_cases found : a.id = attemptId <;> simp [found, sameTime]

end Openings

/-! ### Verified events -/

/-- The columns hold what a verified event states of its settlement. -/
structure PayoutEdge.EventFits (edge : PayoutEdge) (c : Case) (input : IngestInput)
    (settlementId rawCode : String) : Prop where
  credit : (edge.report input (edge.event input) rawCode).outcome = .credited →
    (edge.report input (edge.event input) rawCode).moves c = true →
    ∀ n, readMinorUnits ((edge.event input).payload.field "credited_minor") = some n →
      n ≤ maxBigint
  returned : (edge.report input (edge.event input) rawCode).outcome = .returned →
    ∀ opening, edge.onReturn (edge.told (edge.event input) settlementId rawCode) = some opening →
      OpeningFits opening c

theorem readMinorUnits_pos {value : Option Json.Value} {n : Int}
    (reads : readMinorUnits value = some n) : 0 < n := by
  unfold readMinorUnits at reads
  split at reads
  · obtain ⟨m, -, is⟩ := Option.bind_eq_some_iff.mp reads
    split at is
    · obtain rfl := Option.some.inj is
      omega
    · cases is
  · simpa using (Option.filter_eq_some_iff.mp reads).2
  · cases reads

/-- A figure written as a number fits its column: only digits in a text may not. -/
theorem readMinorUnits_number {value : Json.Number} {n : Int}
    (reads : readMinorUnits (some (.number value)) = some n) : n ≤ maxBigint := by
  have bound := (value.safe n (Option.filter_eq_some_iff.mp reads).1).2
  have small : (2 : Int) ^ 53 ≤ 2 ^ 63 - 1 := by decide
  exact (bound.trans_le small).le

section Events

variable {edge : PayoutEdge} {statusRead : String → Option SettlementStatus}
  {input : IngestInput} {event : PayoutEvent} {settlementId rawCode : String} {s s' : Inbox}

theorem nulFree_rawCode (payload : event.payload.storable = true)
    (eventType : Json.nulFree event.eventType = true)
    (reads : PayoutEdge.rawCode event = some rawCode) : Json.nulFree rawCode = true := by
  have member : ∀ name value, event.payload.given name = some value → value.storable = true :=
    fun name value found =>
      Json.Value.storable_field payload (Option.filter_eq_some_iff.mp found).1
  unfold PayoutEdge.rawCode at reads
  split at reads
  · rename_i value found
    refine Json.Value.nulFree_asText ?_ reads
    rcases Option.or_eq_some_iff.mp found with code | ⟨-, status⟩
    · exact member _ _ code
    · exact member _ _ status
  · obtain rfl := Option.some.inj reads
    exact eventType

theorem alarmUnmapped_ends (plain : Json.nulFree rawCode = true) :
    Ends (edge.alarmUnmapped input event settlementId rawCode) s fun _ s' =>
      s'.cases = s.cases := by
  unfold PayoutEdge.alarmUnmapped
  split
  · exact ends_pure.mpr rfl
  · simp only [markUnmapped, note, bind_assoc, ends_require_bind, ends_modify_bind, ends_modify]
    exact ⟨plain, trivial⟩

theorem ends_typed {α : Type} {m : CaseTx α} {c : Case} {Q : α → Case → Prop} :
    Ends (typed m) c Q ↔ Ends m c fun a c' => c'.fits = true ∧ Q a c' := by
  simp only [Ends, commits_typed, and_assoc]

theorem report_fits (payload : event.payload.storable = true) (plain : Json.nulFree rawCode = true)
    {c : Case} (credit : (edge.report input event rawCode).outcome = .credited →
      (edge.report input event rawCode).moves c = true →
      ∀ n, readMinorUnits (event.payload.field "credited_minor") = some n → n ≤ maxBigint) :
    ReportFits (edge.report input event rawCode) c where
  rawCode := by simpa [PayoutEdge.report] using plain
  reference := by
    cases found : event.payload.textField "reference" with
    | none => simp [PayoutEdge.report, found]
    | some text =>
      simpa [PayoutEdge.report, found] using Json.Value.nulFree_textField payload found
  positive _ figure := readMinorUnits_pos figure
  credit := credit

/-- What was fitting to open before the outcome is so after it. -/
theorem OpeningFits.applied {opening : OpenReturnInput} {c c' : Case} {done : PayoutDone}
    {report : PayoutOutcomeInput} {status : Option SettlementStatus}
    (fits : OpeningFits opening c) (isReturn : report.outcome = .returned)
    (h : Commits (applyPayoutOutcome status report) c (.ok done) c') :
    OpeningFits opening c' := by
  obtain ⟨a, -, -, ⟨-, -, rfl⟩ | ⟨-, rfl⟩⟩ := applyPayoutOutcome_returned isReturn h
  · have set : report.set = returned report := by
      funext b
      simp [PayoutOutcomeInput.set, isReturn]
    have time := @creditedAt_withAttempt c a.id (returned report) (fun _ => rfl)
      fun _ => rfl
    have elapsed : opening.elapsed (withAttempt c a.id report.set) = opening.elapsed c := by
      rw [OpenReturnInput.elapsed, set, time]
      rfl
    exact ⟨fits.fresh, fits.amount, elapsed ▸ fits.elapsed, fits.reference⟩
  · exact fits

theorem tellReturn_ends {applied : PayoutResult} (fits : (s.cases settlementId).fits = true)
    (fitting : (edge.interpretation event rawCode).outcome = .returned →
      ∀ done, applied = .ok done → ∀ opening,
        edge.onReturn (edge.told event settlementId rawCode) = some opening →
          OpeningFits opening (s.cases settlementId)) :
    Ends (edge.tellReturn event settlementId rawCode applied) s fun _ _ => True := by
  unfold PayoutEdge.tellReturn
  split
  · rename_i done opening opens
    split
    · rename_i isReturn
      rw [ends_bind, aboutSettlement, ends_focus, ends_typed]
      refine (openReturn_ends fits (fitting isReturn done rfl opening opens)).mono ?_
      exact fun _ c' fits' => ⟨fits', ends_pure.mpr trivial⟩
    · exact ends_pure.mpr trivial
  · exact ends_pure.mpr trivial

/-- A verified event about a settlement is answered. -/
theorem applyVerified_ends (sound : Sound (s.cases settlementId))
    (payload : (edge.event input).payload.storable = true)
    (eventType : Json.nulFree (edge.event input).eventType = true)
    (reads : PayoutEdge.rawCode (edge.event input) = some rawCode)
    (fits : edge.EventFits (s.cases settlementId) input settlementId rawCode) :
    Ends (edge.applyVerified statusRead input (edge.event input) settlementId) s fun r _ =>
      ∃ done, r = .ok done ∧ done.duplicate = false := by
  have plain := nulFree_rawCode payload eventType reads
  unfold PayoutEdge.applyVerified
  rw [reads, orThrow, pure_bind, ends_bind]
  refine (alarmUnmapped_ends plain).mono ?_
  rintro _ s₁ same
  split
  · simp only [interpretEvent, ends_modify_bind, ends_pure]
    exact ⟨_, rfl, rfl⟩
  rw [ends_bind, aboutSettlement, ends_focus, ends_typed, same]
  have applies : Ends (applyPayoutOutcome (statusRead settlementId)
      (edge.report input (edge.event input) rawCode)) (s.cases settlementId)
      fun _ c' => c'.fits = true :=
    applyPayoutOutcome_ends sound (report_fits payload plain fits.credit)
  refine (applies.of_commits fun _ _ done => done).mono ?_
  rintro applied c₁ ⟨fits₁, done⟩
  refine ⟨fits₁, ?_⟩
  simp only [interpretEvent, ends_modify_bind]
  rw [ends_bind]
  refine (tellReturn_ends ?_ ?_).mono ?_
  · simpa using fits₁
  · intro isReturn paid is opening opens
    subst is
    simpa using (fits.returned isReturn opening opens).applied isReturn done
  · exact fun _ _ _ => ends_pure.mpr ⟨_, rfl, rfl⟩

end Events

/-! ### Deliveries -/

/-- The settlement the event is about, where its payload names one. -/
def PayoutEdge.subject (edge : PayoutEdge) (input : IngestInput) : Option String :=
  (edge.resolveSettlementId (edge.event input).payload).filter (· ≠ "")

/-- The columns hold what the delivery states: its texts, under an id that is new and an event id
no other tenant has stored, and, of a verified event, its code as a text and its figures. -/
structure PayoutEdge.Fits (edge : PayoutEdge) (w : EdgeWorld) (input : IngestInput) : Prop where
  texts : storable (edge.row input) = true
  fresh : ∀ row ∈ w.events, row.id ≠ input.eventRowId
  own : ∀ row ∈ w.events, row.key = (edge.row input).key → row.tenant = edge.tenant
  verified : (edge.verdict input).isValid = true → ∀ settlementId,
    edge.subject input = some settlementId → edge.seen input w.inbox = false →
      ∃ rawCode, PayoutEdge.rawCode (edge.event input) = some rawCode ∧
        edge.EventFits (w.world.now.cases settlementId) input settlementId rawCode

/-- The event of the delivery is among those stored. -/
def Inbox.Holds (s : Inbox) (row : ProviderEventRow) : Prop :=
  ∃ kept ∈ s.events, kept.stored = row.stored

theorem StoredKept.holds {s s' : Inbox} (kept : StoredKept s s') {row : ProviderEventRow}
    (held : s.Holds row) : s'.Holds row := by
  obtain ⟨found, mem, is⟩ := held
  have later := kept.subset (List.mem_map_of_mem mem)
  obtain ⟨found', mem', same⟩ := List.mem_map.mp later
  exact ⟨found', mem', same.trans is⟩

section Deliveries

variable {edge : PayoutEdge} {statusRead : String → Option SettlementStatus}
  {input : IngestInput} {s : Inbox}

/-- A row of the event: the one this delivery stored, or the one it repeats. -/
def PayoutEdge.Filed (edge : PayoutEdge) (input : IngestInput) (done : Ingested) (s : Inbox) :
    Prop :=
  ∃ row, s.Holds row ∧ row.tenant = edge.tenant ∧ row.key = (edge.row input).key ∧
    (done.duplicate = false → row = edge.row input)

/-- Once its row is inserted a delivery is answered, and the row stays. -/
theorem filed_of_inserted {m : InboxTx WebhookResult} (kept : Keeps StoredKept m)
    (held : s.Holds (edge.row input))
    (ends : Ends m s fun r _ => ∃ done, r = .ok done ∧ done.duplicate = false) :
    Ends m s fun r s' => ∃ done, r = .ok done ∧ edge.Filed input done s' := by
  refine (ends.of_commits fun _ _ done => kept done).mono ?_
  rintro r s' ⟨⟨done, is, -⟩, later⟩
  exact ⟨done, is, edge.row input, later.holds held, rfl, rfl, fun _ => rfl⟩

theorem ingestPayoutWebhook_malformed (malformed : edge.verdict input = .invalid .malformed) :
    Ends (edge.ingestPayoutWebhook statusRead input) s fun r s' =>
      r = .error .malformed ∧ s'.cases = s.cases ∧ s'.events = s.events ∧
        ∃ audited : AuditRow, audited.action = "payout.webhook_malformed" ∧
          s'.audits = s.audits ++ [audited] := by
  unfold PayoutEdge.ingestPayoutWebhook
  rw [malformed]
  simp only [note, ends_modify_bind, ends_pure, true_and]
  exact ⟨_, rfl, rfl⟩

theorem ingestPayoutWebhook_ends {w : EdgeWorld}
    (sound : ∀ settlementId, Sound (w.world.now.cases settlementId))
    (formed : edge.verdict input ≠ .invalid .malformed) (fits : edge.Fits w input) :
    Ends (edge.ingestPayoutWebhook statusRead input) w.inbox fun r s' =>
      ∃ done, r = .ok done ∧ edge.Filed input done s' := by
  have texts := fits.texts
  simp only [storable, Bool.and_eq_true] at texts
  obtain ⟨⟨⟨eventId, eventType⟩, payload⟩, -⟩ := texts
  unfold PayoutEdge.ingestPayoutWebhook
  split
  · rename_i malformed
    exact (formed malformed).elim
  simp only [ends_require_bind, ends_get_bind]
  refine ⟨eventId, ?_⟩
  split
  · rename_i seen
    obtain ⟨row, mem, is⟩ := List.any_eq_true.mp seen
    simp only [Bool.and_eq_true, decide_eq_true_eq] at is
    exact ends_pure.mpr ⟨_, rfl, row, ⟨row, mem, rfl⟩, is.1, is.2, fun first => by cases first⟩
  rename_i unseen
  have unseen : edge.seen input w.inbox = false := by simpa using unseen
  have apart : ∀ other ∈ w.events, other.key ≠ (edge.row input).key := by
    intro other mem same
    have here := List.any_eq_false.mp unseen other mem
    simp only [Bool.and_eq_true, decide_eq_true_eq] at here
    exact here ⟨fits.own other mem same, same⟩
  simp only [insertProviderEvent, bind_assoc, ends_get_bind, ends_require_bind, ends_modify_bind]
  refine ⟨fits.texts, fits.fresh, apart, ?_⟩
  have held : ({ w.inbox with events := w.inbox.events ++ [edge.row input] } : Inbox).Holds
      (edge.row input) := ⟨_, List.mem_append_right _ (List.mem_singleton_self _), rfl⟩
  split
  · refine filed_of_inserted (.bind (interpretEvent_stored _ _ _) fun _ =>
      .bind (note_stored _) fun _ => .pure _) held ?_
    simp only [interpretEvent, note, ends_modify_bind, ends_pure]
    exact ⟨_, rfl, rfl⟩
  · rename_i is
    split
    · refine filed_of_inserted (.bind (interpretEvent_stored _ _ _) fun _ => .pure _) held ?_
      simp only [interpretEvent, ends_modify_bind, ends_pure]
      exact ⟨_, rfl, rfl⟩
    · rename_i settlementId subject
      refine filed_of_inserted applyVerified_stored held ?_
      have valid : (edge.verdict input).isValid = true := by rw [is]; rfl
      obtain ⟨rawCode, reads, eventFits⟩ := fits.verified valid settlementId subject unseen
      exact applyVerified_ends (sound settlementId) payload eventType reads eventFits

theorem step_inbox (digest : AuthorizedInstruction → String) (w : EdgeWorld) (asOf : Nat) :
    (w.step digest (.delivery edge asOf input)).inbox =
      after (edge.ingestPayoutWebhook (w.statuses asOf) input) w.inbox := rfl

/-- What becomes of a delivery. -/
structure DeliveryKept (digest : AuthorizedInstruction → String) (w : EdgeWorld)
    (edge : PayoutEdge) (asOf : Nat) (input : IngestInput) : Prop where
  /-- A malformed body is answered and audited, and changes nothing else. -/
  refused : edge.verdict input = .invalid .malformed →
    answer (edge.ingestPayoutWebhook (w.statuses asOf) input) w.inbox =
        some (.error .malformed) ∧
      ∃ audited : AuditRow, audited.action = "payout.webhook_malformed" ∧
        (w.step digest (.delivery edge asOf input)).inbox =
          { w.inbox with audits := w.audits ++ [audited] }
  /-- Any other is answered and filed for good. -/
  filed : edge.verdict input ≠ .invalid .malformed → edge.Fits w input →
    ∃ done, answer (edge.ingestPayoutWebhook (w.statuses asOf) input) w.inbox =
        some (.ok done) ∧
      ∀ more, edge.Filed input done
        (run (EdgeWorld.step digest) (w.step digest (.delivery edge asOf input)) more).inbox

/-- After every run, of any operations and deliveries in any order, every delivery is kept, whatever
its body, its headers and what its payload makes of the payout. -/
theorem deliveries_kept (digest : AuthorizedInstruction → String) (ops : List EdgeOp)
    (edge : PayoutEdge) (asOf : Nat) (input : IngestInput) :
    DeliveryKept digest (edgeAfter digest ops) edge asOf input where
  refused malformed := by
    have ends : Ends (edge.ingestPayoutWebhook ((edgeAfter digest ops).statuses asOf) input)
        (edgeAfter digest ops).inbox _ := ingestPayoutWebhook_malformed malformed
    obtain ⟨r, answers, rfl, cases, events, audited, is, audits⟩ := ends.answer
    refine ⟨answers, audited, is, ?_⟩
    rw [step_inbox]
    generalize after _ _ = s at cases events audits ⊢
    obtain ⟨cases', events', audits'⟩ := s
    subst cases events audits
    rfl
  filed formed fits := by
    have ends : Ends (edge.ingestPayoutWebhook ((edgeAfter digest ops).statuses asOf) input)
        (edgeAfter digest ops).inbox _ :=
      ingestPayoutWebhook_ends (edgeAfter_sound digest ops) formed fits
    obtain ⟨r, answers, done, rfl, filed⟩ := ends.answer
    refine ⟨done, answers, fun more => ?_⟩
    have start : edge.Filed input done
      ((edgeAfter digest ops).step digest (.delivery edge asOf input)).inbox := filed
    refine run_invariant (I := fun w : EdgeWorld => edge.Filed input done w.inbox) ?_ start more
    rintro w op ⟨row, held, rest⟩
    exact ⟨row, (step_stored op).holds held, rest⟩

end Deliveries

/-! ### Deliveries that are not -/

section Lost

/-- A delivery on which the provider's verifier says `verdict`. -/
def verdictEdge (verdict : SignatureVerdict) : PayoutEdge where
  tenant := "tenant"
  provider := ⟨"provider", fun _ _ _ => verdict⟩
  mapping := ⟨"provider", "1", []⟩
  parse := fun _ => none
  parseDate := fun _ => none
  resolveSettlementId := fun payload => payload.textField "settlement_id"
  onReturn := fun _ => none

def arriving : IngestInput := ⟨"", [], ⟨.provider, "provider"⟩, "row", "unverified", 10⟩

/-- A signed credit of the payout. -/
def creditOf (minorUnits : String) : SignatureVerdict :=
  .valid "event" "payout.credited" (.object [("settlement_id", .string "s"),
    ("utr", .string "UTR0000000001"), ("credited_minor", .string minorUnits)])

/-- The payout is with the provider. -/
def awaiting : EdgeWorld :=
  edgeAfter (fun _ => "hash") ((funded ++ [dispatching]).map .other)

/-- The delivery is answered, and a row of its event is stored. -/
def Kept (w : EdgeWorld) (edge : PayoutEdge) (input : IngestInput) : Prop :=
  (answer (edge.ingestPayoutWebhook (w.statuses 0) input) w.inbox).isSome = true ∧
    ((w.step (fun _ => "hash") (.delivery edge 0 input)).events.any fun row =>
      decide (row.key = (edge.row input).key)) = true

instance (w : EdgeWorld) (edge : PayoutEdge) (input : IngestInput) :
    Decidable (Kept w edge input) := inferInstanceAs (Decidable (_ ∧ _))

example : Kept awaiting (verdictEdge (creditOf "1000")) arriving := by decide +kernel

/-- A malformed body is not stored; and a signed credit of `2 ^ 63` minor units, one more than a
`bigint`, is neither answered nor stored. -/
theorem delivery_lost : ¬Kept awaiting (verdictEdge (.invalid .malformed)) arriving ∧
    ¬Kept awaiting (verdictEdge (creditOf "9223372036854775808")) arriving := by
  decide +kernel

end Lost

end InrSettle
