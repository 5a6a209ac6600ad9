import InrSettle.Funding.Announcements
import InrSettle.System.Runs

/-!
# Which operations announce a release or a drawdown

A settlement's events of these types come from its transitions alone. The triggers whose rows
neither carry nor permit one of them say nothing, so only the operations that ask for another
trigger are left to look at.
-/

namespace InrSettle

open Transaction CaseTables

/-! ### Counting -/

/-- How often the settlement's own transactions emitted an event of a type. -/
def Case.told (c : Case) (type : EventType) : Nat :=
  c.events.countP fun e => decide (e.type = type)

/-- How many events of a type a transition leaves: its status event, and the companions. -/
def ApplyTransitionInput.tells (input : ApplyTransitionInput) (type : EventType) : Nat :=
  (((input.trigger.row.bind (·.statusEvent)).toList.map EventType.status) ++
    input.companions.map fun offered => EventType.companion offered.type).countP fun told =>
      decide (told = type)

theorem Moved.told {input : ApplyTransitionInput} {c c' : Case} (moved : Moved input c c')
    (type : EventType) : c'.told type = c.told type + input.tells type := by
  obtain ⟨old, new, t, -, takes, rfl⟩ := moved
  rw [ApplyTransitionInput.tells, takes.row, Option.bind_some]
  refine List.countP_append.trans (congrArg (c.told type + ·) ?_)
  rw [transitionEvents, List.countP_append, List.countP_append, List.countP_map, List.countP_map,
    List.countP_map, List.countP_map]
  rfl

/-- The settlement's own events of a type. -/
def Case.saying (c : Case) (type : EventType) : List EventRow :=
  c.events.filter fun e => decide (e.type = type)

theorem Case.told_eq (c : Case) (type : EventType) : c.told type = (c.saying type).length :=
  List.countP_eq_length_filter

theorem Moved.saying {input : ApplyTransitionInput} {c c' : Case} (moved : Moved input c c')
    (type : EventType) : ∃ said, c'.saying type = c.saying type ++ said ∧
      said.length = input.tells type := by
  have told := moved.told type
  obtain ⟨old, new, t, -, takes, rfl⟩ := moved
  refine ⟨_, List.filter_append .., ?_⟩
  rw [Case.told_eq, Case.told_eq, Case.saying, Case.saying] at told
  simp only [Case.transitioned, List.filter_append, List.length_append] at told
  omega

/-- Every companion of a transition that was taken is permitted by its row. -/
theorem applyTransition_permitted {input : ApplyTransitionInput} {c c' : Case} {done : Transitioned}
    (h : Commits (applyTransition input) c (.ok done) c') :
    ∃ t, input.trigger.row = some t ∧
      ∀ offered ∈ input.companions, offered.type ∈ t.permittedCompanions := by
  rw [applyTransition] at h
  simp only at h
  split at h
  · cases (commits_pure.mp h).1
  simp only [commits_get_bind] at h
  split at h
  · cases (commits_pure.mp h).1
  split at h
  · cases (commits_pure.mp h).1
  split at h
  · cases (commits_pure.mp h).1
  · cases (commits_pure.mp h).1
  · cases (commits_pure.mp h).1
  · cases (commits_pure.mp h).1
  rename_i t target evaluated
  split at h
  · cases (commits_pure.mp h).1
  rename_i legal
  obtain ⟨inTable, answers, -⟩ := evaluateTransition_ok evaluated
  have row : input.trigger.row = some t := by
    rw [show input.trigger = t.trigger from answers.symm]
    exact row_of_mem t inTable
  refine ⟨t, row, ?_⟩
  simpa [List.filter_eq_nil_iff] using legal

/-! ### Saying nothing -/

/-- The settlement's own transactions emitted no event of these types. -/
def Unsaid (types : List EventType) (c c' : Case) : Prop :=
  ∀ type ∈ types, c'.saying type = c.saying type

instance (types : List EventType) : Std.Refl (Unsaid types) := ⟨fun _ _ _ => rfl⟩

instance (types : List EventType) : IsTrans Case (Unsaid types) :=
  ⟨fun _ _ _ first second type mem => (second type mem).trans (first type mem)⟩

/-- The same, of the whole store. -/
def StoreUnsaid (types : List EventType) (s s' : Store) : Prop := Unsaid types s.case s'.case

instance (types : List EventType) : Std.Refl (StoreUnsaid types) := ⟨fun _ _ _ => rfl⟩

instance (types : List EventType) : IsTrans Store (StoreUnsaid types) :=
  ⟨fun s s' s'' first second => trans_of (Unsaid types) (a := s.case) (b := s'.case)
    (c := s''.case) first second⟩

/-- A trigger whose row neither carries nor permits an event of these types. -/
def Trigger.isQuietOf (types : List EventType) (trigger : Trigger) : Bool :=
  trigger.row.all fun t => types.all fun type =>
    decide (type ∉ t.statusEvent.toList.map EventType.status) &&
      decide (type ∉ t.permittedCompanions.map EventType.companion)

/-- The triggers most operations ask for. -/
def askedTriggers : List Trigger :=
  [.runPreflight, .preflightPassed, .preflightBlocked, .attachQuote, .authorize,
    .requestCancellation, .beginReservation, .reservationSucceeded, .reservationFailed,
    .dispatchPayout, .payoutCredited, .payoutRejected, .payoutTimeout, .beginReconciliation,
    .reconciledMatched, .reconciledMismatch, .reconciliationStalled, .reservationExpired,
    .drawdownTimeout]

/-- Types of which none of these triggers says anything, nor any event outside a transition. -/
structure Hushed (types : List EventType) : Prop where
  triggers : ∀ trigger ∈ askedTriggers, trigger.isQuietOf types = true
  outside : ∀ type ∈ [.status .created, .returnObserved, .returnConfirmed, .returnRejected,
    .returnRepaid], type ∉ types

section Unsaid

variable {types : List EventType}

theorem unsaid_of_events {c c' : Case} (events : c'.events = c.events) : Unsaid types c c' :=
  fun _ _ => congrArg (List.filter _) events

theorem unsaid_emit {event : EventRow} (type : EventType) (is : event.type = type)
    (other : type ∉ types) : Keeps (Unsaid types) (emit event) := by
  refine .modify fun c counted mem => ?_
  have apart : event.type ≠ counted := fun same => other (is ▸ same ▸ mem)
  simp [Case.saying, apart]

theorem unsaid_audit (row : AuditRow) : Keeps (Unsaid types) (audit row) :=
  .modify fun _ => unsaid_of_events rfl

theorem unsaid_orThrow {α : Type} (message : String) (value : Option α) :
    Keeps (Unsaid types) (orThrow message value : CaseTx α) := by
  cases value with
  | none => exact .abort _
  | some a => exact .pure a

theorem unsaid_transition {input : ApplyTransitionInput} (trigger : Trigger)
    (is : input.trigger = trigger) (quiet : trigger.isQuietOf types = true) :
    Keeps (Unsaid types) (applyTransition input) := by
  intro c r c' h type mem
  rcases applyTransition_moved h with ⟨-, rfl⟩ | ⟨⟨done, rfl⟩, moved⟩
  · rfl
  obtain ⟨t, row, permitted⟩ := applyTransition_permitted h
  simp only [Trigger.isQuietOf, ← is, row, Option.all_some, List.all_eq_true, Bool.and_eq_true,
    decide_eq_true_eq] at quiet
  obtain ⟨noStatus, noCompanion⟩ := quiet type mem
  have none : input.tells type = 0 := by
    rw [ApplyTransitionInput.tells, row, Option.bind_some, List.countP_eq_zero]
    intro told inTold
    rw [decide_eq_true_eq]
    rintro rfl
    rcases List.mem_append.mp inTold with status | companion
    · exact noStatus status
    · obtain ⟨offered, among, rfl⟩ := List.mem_map.mp companion
      exact noCompanion (List.mem_map_of_mem (permitted offered among))
  obtain ⟨said, is', length⟩ := moved.saying type
  rw [is', List.append_right_eq_self, ← List.length_eq_zero_iff, length, none]

theorem Hushed.transition {input : ApplyTransitionInput} (hushed : Hushed types)
    (trigger : Trigger) (is : input.trigger = trigger) (asked : trigger ∈ askedTriggers) :
    Keeps (Unsaid types) (applyTransition input) :=
  unsaid_transition trigger is (hushed.triggers _ asked)

theorem Hushed.emit {event : EventRow} (hushed : Hushed types) (type : EventType)
    (is : event.type = type) (outside : type ∈ [.status .created, .returnObserved,
      .returnConfirmed, .returnRejected, .returnRepaid]) : Keeps (Unsaid types) (emit event) :=
  unsaid_emit type is (hushed.outside _ outside)

theorem unsaid_onCase {α : Type} {m : CaseTx α} (unsaid : Keeps (Unsaid types) m) :
    Keeps (StoreUnsaid types) (onCase m) :=
  .focus unsaid fun _ _ kept => kept

theorem unsaid_onLiquidity {α : Type} (m : LiquidityTx α) :
    Keeps (StoreUnsaid types) (onLiquidity m) := by
  intro s r s' h
  obtain ⟨l, -, rfl⟩ := commits_onLiquidity.mp h
  exact fun _ _ => rfl

/-! ### The tables -/

theorem unsaid_updateAttempt (attemptId : String) (set : PayoutAttemptRow → PayoutAttemptRow) :
    Keeps (Unsaid types) (updateAttempt attemptId set) :=
  .bind .get fun _ => .bind (.require _ _) fun _ => .bind (.require _ _) fun _ =>
    .modify fun _ => unsaid_of_events rfl

theorem unsaid_insertAttempt (a : PayoutAttemptRow) : Keeps (Unsaid types) (insertAttempt a) := by
  intro c r c' h
  obtain ⟨-, rfl⟩ := insertAttempt_spec h
  exact unsaid_of_events rfl

theorem unsaid_insertException (e : SettlementExceptionRow) :
    Keeps (Unsaid types) (insertException e) :=
  .bind .get fun _ => .bind (.require _ _) fun _ => .bind (.require _ _) fun _ =>
    .modify fun _ => unsaid_of_events rfl

theorem unsaid_resolveExceptions (which : SettlementExceptionRow → Bool) (now : Instant)
    (resolvedBy reason : String) :
    Keeps (Unsaid types) (resolveExceptions which now resolvedBy reason) :=
  .bind .get fun _ => .bind (.require _ _) fun _ => .modify fun _ => unsaid_of_events rfl

theorem unsaid_updateReconciliation (r : ReconciliationRow) :
    Keeps (Unsaid types) (updateReconciliation r) :=
  .bind (.require _ _) fun _ => .modify fun _ => unsaid_of_events rfl

theorem unsaid_updateReturn (returnId : String)
    (set : SettlementReturnRow → SettlementReturnRow) :
    Keeps (Unsaid types) (updateReturn returnId set) :=
  .bind .get fun _ => .bind (.require _ _) fun _ => .modify fun _ => unsaid_of_events rfl

theorem unsaid_insertObservation (o : ReturnObservationRow) :
    Keeps (Unsaid types) (insertObservation o) :=
  .modify fun _ => unsaid_of_events rfl

/-! ### The operations -/

/-- The operations that may ask for a transition with an announcement, or that write a drawdown. -/
def SettlementOp.mayAnnounce : SettlementOp → Bool
  | .honourCancellation _ | .resolveException _ | .requestDrawdown _ | .resolveDrawdown _
  | .resolveExceptionAsOperator .. => true
  | .openException input => input.trigger == .drawdownFailed
  | _ => false

section Operations

variable {digest : AuthorizedInstruction → String} (hushed : Hushed types)

include hushed

theorem unsaid_requestCancellation (input : CancelInput) :
    Keeps (Unsaid types) (requestCancellation input) := by
  refine .bind .get fun c => ?_
  split
  · exact .pure _
  split
  · exact .bind (unsaid_audit _) fun _ => .pure _
  · exact .bind (hushed.transition .requestCancellation rfl (by decide)) fun _ => .pure _

theorem unsaid_authorizeSettlement (settlement : Option SettlementRow) (input : AuthorizeInput) :
    Keeps (Unsaid types) (authorizeSettlement digest settlement input) := by
  unfold authorizeSettlement
  split
  · exact .pure _
  split
  · exact .pure _
  dsimp only
  split
  · exact .pure _
  split
  · exact .bind (unsaid_audit _) fun _ => .pure _
  split
  · refine .bind (hushed.transition .authorize rfl (by decide)) fun outcome => ?_
    cases outcome with
    | error failure => exact .pure _
    | ok done =>
      dsimp only
      split <;> exact .pure _
  · refine .bind (hushed.transition .authorize rfl (by decide)) fun outcome => ?_
    cases outcome <;> exact .pure _

theorem unsaid_dispatchPayout (input : DispatchInput) :
    Keeps (Unsaid types) (dispatchPayout input) := by
  refine .bind .get fun c => ?_
  split
  · exact .pure _
  split
  · exact .pure _
  split
  · split
    · exact .pure _
    dsimp only
    split
    · exact .pure _
    split
    · split <;> exact .pure _
    · exact .pure _
    · refine .bind (unsaid_orThrow _ _) fun key =>
        .bind (hushed.transition .dispatchPayout rfl (by decide)) fun outcome => ?_
      cases outcome with
      | error failure => exact .pure _
      | ok done => exact .bind (unsaid_insertAttempt _) fun _ => .pure _
    · exact .pure _
  · exact .pure _

omit hushed in
theorem unsaid_openException (settlement : Option SettlementRow) (input : OpenExceptionInput)
    (quiet : input.trigger.trigger.isQuietOf types = true) :
    Keeps (Unsaid types) (openException settlement input) := by
  unfold openException
  split
  · exact .pure _
  refine .bind (unsaid_transition _ rfl quiet) fun outcome => ?_
  cases outcome with
  | error failure => exact .pure _
  | ok done => exact .bind (unsaid_insertException _) fun _ => .pure _

/-- Of the exceptions, only a failed drawdown may be announced. -/
theorem Hushed.opens {trigger : ExceptionTrigger} (other : trigger ≠ .drawdownFailed) :
    trigger.trigger.isQuietOf types = true := by
  refine hushed.triggers _ ?_
  cases trigger <;> first | decide | exact (other rfl).elim

theorem unsaid_moveAttempt (status : Option SettlementStatus) (input : PayoutOutcomeInput)
    (attempt : PayoutAttemptRow) (set : PayoutAttemptRow → PayoutAttemptRow) (done : PayoutDone) :
    Keeps (Unsaid types) (moveAttempt status input attempt set done) := by
  refine .bind (unsaid_updateAttempt _ _) fun _ => ?_
  split
  · exact .pure _
  have quiet : (outcomeTransition input attempt).trigger ∈ askedTriggers := by
    unfold outcomeTransition
    split <;> simp [askedTriggers]
  refine .bind (hushed.transition _ rfl quiet) fun outcome => ?_
  cases outcome <;> exact .pure _

theorem unsaid_applyPayoutOutcome (status : Option SettlementStatus) (input : PayoutOutcomeInput) :
    Keeps (Unsaid types) (applyPayoutOutcome status input) := by
  unfold applyPayoutOutcome
  split
  · exact .pure _
  refine .bind .get fun c => ?_
  split
  · exact .pure _
  split
  · split
    · exact .pure _
    split
    · exact .pure _
    split
    · exact .pure _
    · exact unsaid_moveAttempt hushed _ _ _ _ _
  · split
    · exact .pure _
    split
    · exact .pure _
    · exact unsaid_moveAttempt hushed _ _ _ _ _
  · split
    · exact .bind (unsaid_updateAttempt _ _) fun _ => .pure _
    · exact .pure _
  · split
    · exact .pure _
    split
    · exact .pure _
    · exact .bind (unsaid_updateAttempt _ _) fun _ => .pure _
  · exact .pure _

theorem unsaid_sweepPayoutSla (input : SweepInput) :
    Keeps (Unsaid types) (sweepPayoutSla input) := by
  refine .bind .get fun c => ?_
  split
  · exact .pure _
  split
  · exact .pure _
  split
  · exact .pure _
  refine .bind (unsaid_updateAttempt _ _) fun _ =>
    .bind (hushed.transition .payoutTimeout rfl (by decide)) fun outcome => ?_
  cases outcome <;> exact .pure _

omit hushed in
theorem unsaid_retryPayout (input : RetryInput) : Keeps (Unsaid types) (retryPayout input) := by
  refine .bind .get fun c => ?_
  split
  · exact .pure _
  split
  · exact .pure _
  · exact .bind (unsaid_orThrow _ _) fun _ => .bind (unsaid_insertAttempt _) fun _ =>
      .bind (unsaid_audit _) fun _ => .pure _

theorem unsaid_beginReconciliation (input : BeginInput) :
    Keeps (Unsaid types) (beginReconciliation input) := by
  unfold beginReconciliation
  split
  · exact .pure _
  refine .bind .get fun c => ?_
  split
  · exact .pure _
  split
  · exact .pure _
  have inserted : ∀ r, Keeps (Unsaid types) (insertReconciliation r) := fun r =>
    .bind .get fun _ => .bind (.require _ _) fun _ => .bind (.require _ _) fun _ =>
      .bind (.require _ _) fun _ => .modify fun _ => unsaid_of_events rfl
  refine .bind (inserted _) fun _ =>
    .bind (hushed.transition .beginReconciliation rfl (by decide)) fun outcome => ?_
  cases outcome <;> exact .pure _

theorem unsaid_applyObservation (input : ObservationInput) :
    Keeps (Unsaid types) (applyObservation input) := by
  refine .bind .get fun c => ?_
  split
  · exact .pure _
  split
  · exact .pure _
  dsimp only
  split
  · exact .pure _
  refine .bind (unsaid_updateReconciliation _) fun _ => .bind (unsaid_audit _) fun _ => ?_
  split
  · exact .pure _
  refine .bind (unsaid_updateReconciliation _) fun _ => .bind (unsaid_audit _) fun _ =>
    .bind (hushed.transition .reconciledMismatch rfl (by decide)) fun outcome => ?_
  cases outcome <;> exact .pure _

theorem unsaid_sweepReconciliationSla (input : ReconciliationSweepInput) :
    Keeps (Unsaid types) (sweepReconciliationSla input) := by
  refine .bind .get fun c => ?_
  split
  · exact .pure _
  split
  · exact .pure _
  split
  · exact .pure _
  split
  · exact .pure _
  refine .bind (unsaid_updateReconciliation _) fun _ => .bind (unsaid_audit _) fun _ =>
    .bind (hushed.transition .reconciliationStalled rfl (by decide)) fun outcome => ?_
  cases outcome <;> exact .pure _

omit hushed in
theorem unsaid_resolveReconciliation (input : ResolveReconciliationInput) :
    Keeps (Unsaid types) (resolveReconciliation input) := by
  refine .bind .get fun c => ?_
  split
  · exact .pure _
  split
  · exact .pure _
  split
  · exact .pure _
  split
  · exact .pure _
  · exact .bind (unsaid_updateReconciliation _) fun _ => .bind (unsaid_audit _) fun _ => .pure _

theorem unsaid_openReturn (input : OpenReturnInput) : Keeps (Unsaid types) (openReturn input) := by
  refine .bind .get fun c => ?_
  split
  · exact .pure _
  split
  · exact .pure _
  split
  · exact .pure _
  split
  · exact .pure _
  split
  · exact .pure _
  split
  · exact .bind (unsaid_insertObservation _) fun _ => .pure _
  have inserted : ∀ r, Keeps (Unsaid types) (insertReturn r) := fun r =>
    .bind .get fun _ => .bind (.require _ _) fun _ => .bind (.require _ _) fun _ =>
      .bind (.require _ _) fun _ => .modify fun _ => unsaid_of_events rfl
  refine .bind (inserted _) fun _ => .bind (unsaid_insertObservation _) fun _ =>
    .bind (hushed.emit .returnObserved rfl (by decide)) fun _ => .bind (unsaid_audit _) fun _ => ?_
  dsimp only
  split
  · exact .bind (unsaid_updateReturn _ _) fun _ => .bind (unsaid_audit _) fun _ => .pure _
  · exact .pure _

theorem unsaid_applyEvent (status : Option SettlementStatus) (input : PayoutOutcomeInput)
    (onReturn : Option OpenReturnInput) :
    Keeps (Unsaid types) (applyEvent status input onReturn) := by
  refine .bind (unsaid_applyPayoutOutcome hushed _ _) fun applied => ?_
  split
  · split
    · exact .bind (unsaid_openReturn hushed _) fun _ => .pure _
    · exact .pure _
  · exact .pure _

omit hushed in
theorem unsaid_escalateReturn (input : EscalateInput) :
    Keeps (Unsaid types) (escalateReturn input) := by
  refine .bind .get fun c => ?_
  split
  · exact .pure _
  split
  · exact .pure _
  · exact .bind (unsaid_updateReturn _ _) fun _ => .bind (unsaid_audit _) fun _ => .pure _

theorem unsaid_rejectReturn (input : RejectInput) : Keeps (Unsaid types) (rejectReturn input) := by
  refine .bind .get fun c => ?_
  split
  · exact .pure _
  dsimp only
  split
  · exact .pure _
  split
  · exact .pure _
  · exact .bind (unsaid_updateReturn _ _) fun _ =>
      .bind (hushed.emit .returnRejected rfl (by decide)) fun _ =>
        .bind (unsaid_audit _) fun _ => .pure _

/-! ### The operations on the whole store -/

theorem unsaid_beginReservation (facility : Option FacilityView) (input : ReserveForInput) :
    Keeps (StoreUnsaid types) (beginReservation facility input) := by
  refine .bind .get fun s => ?_
  split
  · exact .pure _
  split
  · exact .pure _
  refine .bind (unsaid_onCase (hushed.transition .beginReservation rfl (by decide)))
    fun outcome => ?_
  cases outcome <;> exact .pure _

theorem unsaid_completeReservation (input : ReserveForInput) (stamp : ReserveStamp) :
    Keeps (StoreUnsaid types) (completeReservation input stamp) := by
  refine .bind (unsaid_onLiquidity _) fun facility => ?_
  cases facility with
  | none => exact .pure _
  | some facility =>
    refine .bind (unsaid_onLiquidity _) fun reserved => ?_
    cases reserved with
    | error refusal =>
      exact .bind (unsaid_onCase (hushed.transition .reservationFailed rfl (by decide)))
        fun _ => .pure _
    | ok reserved =>
      refine .bind (unsaid_onCase (hushed.transition .reservationSucceeded rfl (by decide)))
        fun succeeded => ?_
      cases succeeded <;> exact .pure _

theorem unsaid_evaluateAndSettle (input : EvaluateInput) :
    Keeps (StoreUnsaid types) (evaluateAndSettle digest input) := by
  refine .bind .get fun s => ?_
  split
  · exact .pure _
  have inserted : ∀ e, Keeps (Unsaid types) (insertEvaluation e) := fun e =>
    .modify fun _ => unsaid_of_events rfl
  refine .bind (unsaid_onCase (inserted _)) fun _ => ?_
  split
  · exact .pure _
  split
  · exact .bind (unsaid_onCase (unsaid_audit _)) fun _ => .pure _
  refine .bind (unsaid_onCase (hushed.transition .reconciledMatched rfl (by decide)))
    fun outcome => ?_
  cases outcome <;> exact .pure _

theorem unsaid_confirmReturn (input : ConfirmInput) :
    Keeps (StoreUnsaid types) (confirmReturn input) := by
  refine .bind .get fun s => ?_
  split
  · exact .pure _
  split
  · exact .pure _
  split
  · exact .pure _
  dsimp only
  split
  · exact .pure _
  split
  · exact .pure _
  split
  · exact .pure _
  split
  · exact .bind (unsaid_onCase (unsaid_escalateReturn _)) fun _ => .pure _
  refine .bind (unsaid_onCase (unsaid_updateAttempt _ _)) fun _ =>
    .bind (unsaid_onCase (unsaid_updateReturn _ _)) fun _ =>
      .bind (unsaid_onCase (unsaid_insertObservation _)) fun _ => .bind .get fun s => ?_
  split
  · exact .pure _
  dsimp only
  split
  · exact .pure _
  refine .bind (unsaid_onLiquidity _) fun requested => ?_
  cases requested with
  | error refusal => exact .pure _
  | ok done =>
    refine .bind (unsaid_onCase (unsaid_updateReturn _ _)) fun _ => ?_
    split
    · exact .pure _
    · exact .bind (unsaid_onCase (hushed.emit .returnConfirmed rfl (by decide))) fun _ =>
        .bind (unsaid_onCase (unsaid_audit _)) fun _ => .pure _

theorem unsaid_markReturnRepaid (input : RepaidInput) :
    Keeps (StoreUnsaid types) (markReturnRepaid input) := by
  refine .bind .get fun s => ?_
  split
  · exact .pure _
  split
  · exact .pure _
  split
  · exact .pure _
  split
  · exact .pure _
  dsimp only
  split
  · exact .pure _
  · exact .bind (unsaid_onCase (unsaid_updateReturn _ _)) fun _ =>
      .bind (unsaid_onCase (hushed.emit .returnRepaid rfl (by decide))) fun _ =>
        .bind (unsaid_onCase (unsaid_audit _)) fun _ => .pure _

omit hushed in
theorem unsaid_compensateCancellation (input : CompensateInput) :
    Keeps (StoreUnsaid types) (compensateCancellation input) := by
  refine .bind .get fun s => ?_
  split
  · exact .pure _
  split
  · exact .pure _
  split
  · refine .bind (unsaid_onLiquidity _) fun released => ?_
    cases released <;> exact .pure _
  · refine .bind (unsaid_onLiquidity _) fun repayment => ?_
    cases repayment <;> exact .pure _
  · exact .pure _
  · exact .pure _

variable {read : Reads} {s : Store}

omit hushed in
theorem unsaid_after {α : Type} {m : CaseTx α} (unsaid : Keeps (Unsaid types) m) :
    Unsaid types s.case (after (onCase m) s).case :=
  (unsaid_onCase unsaid).after s

/-- Of the operations that ask for no transition with an announcement. -/
theorem settlementStep_unsaid {op : SettlementOp} (quiet : op.mayAnnounce = false)
    (expires : ∀ settlementId input, op = .expireAttachedQuote settlementId input →
      Trigger.quoteExpired.isQuietOf types = true)
    (cancels : ∀ input, op = .cancelSettlement input → Trigger.cancel.isQuietOf types = true) :
    Unsaid types s.case (settlementStep digest read s op).case := by
  cases op with
  | createSettlement input =>
    refine unsaid_after ?_
    have inserted : ∀ row, Keeps (Unsaid types) (insertSettlement row) := fun row =>
      .bind .get fun _ => .bind (.require _ _) fun _ => .bind (.require _ _) fun _ =>
        .modify fun _ => unsaid_of_events rfl
    exact .bind (inserted _) fun _ =>
      .bind (hushed.emit (.status .created) rfl (by decide)) fun _ =>
        .bind (unsaid_audit _) fun _ => .pure _
  | startPreflight settlementId actor =>
    refine unsaid_after ?_
    unfold startPreflight
    split
    · exact .pure _
    · exact hushed.transition .runPreflight rfl (by decide)
  | completePreflight input =>
    refine unsaid_after ?_
    unfold completePreflight
    split
    · exact .pure _
    · refine hushed.transition
        (if input.blocking.isEmpty then .preflightPassed else .preflightBlocked) rfl ?_
      split <;> decide
  | attachQuote settlementId input =>
    refine unsaid_after ?_
    unfold attachQuote
    split
    · exact .pure _
    · exact hushed.transition .attachQuote rfl (by decide)
  | expireAttachedQuote settlementId input =>
    refine unsaid_after ?_
    unfold expireAttachedQuote
    split
    · exact .pure _
    · exact unsaid_transition .quoteExpired rfl (expires _ _ rfl)
  | authorizeSettlement input => exact unsaid_after (unsaid_authorizeSettlement hushed _ _)
  | cancelSettlement input =>
    refine unsaid_after ?_
    unfold cancelSettlement
    split
    · exact .pure _
    split
    · exact .bind (unsaid_transition .cancel rfl (cancels _ rfl)) fun _ => .pure _
    · exact unsaid_requestCancellation hushed input
  | requestCancellation input => exact unsaid_after (unsaid_requestCancellation hushed input)
  | dispatchPayout input => exact unsaid_after (unsaid_dispatchPayout hushed input)
  | openException input =>
    have other : input.trigger ≠ .drawdownFailed := by
      simpa [SettlementOp.mayAnnounce] using quiet
    exact unsaid_after (unsaid_openException _ _ (hushed.opens other))
  | beginReservation input => exact (unsaid_beginReservation hushed _ _).after s
  | completeReservation settlementId stamp =>
    dsimp only [settlementStep]
    split
    · exact fun _ _ => rfl
    · exact (unsaid_completeReservation hushed _ _).after s
  | compensateCancellation input => exact (unsaid_compensateCancellation input).after s
  | releaseReservation input => exact (unsaid_onLiquidity (releaseReservation input)).after s
  | recordSubmission settlementId input => exact unsaid_after (unsaid_updateAttempt _ _)
  | recordTimeout settlementId actor => exact unsaid_after (unsaid_audit _)
  | applyPayoutOutcome settlementId input =>
    exact unsaid_after (unsaid_applyPayoutOutcome hushed _ _)
  | sweepPayoutSla settlementId input => exact unsaid_after (unsaid_sweepPayoutSla hushed input)
  | retryPayout input => exact unsaid_after (unsaid_retryPayout input)
  | beginReconciliation input => exact unsaid_after (unsaid_beginReconciliation hushed input)
  | applyObservation input => exact unsaid_after (unsaid_applyObservation hushed input)
  | sweepReconciliationSla input => exact unsaid_after (unsaid_sweepReconciliationSla hushed input)
  | resolveReconciliation input => exact unsaid_after (unsaid_resolveReconciliation input)
  | evaluateAndSettle input => exact (unsaid_evaluateAndSettle hushed input).after s
  | openReturn input => exact unsaid_after (unsaid_openReturn hushed input)
  | applyEvent settlementId input onReturn => exact unsaid_after (unsaid_applyEvent hushed _ _ _)
  | confirmReturn input => exact (unsaid_confirmReturn hushed input).after s
  | escalateReturn input => exact unsaid_after (unsaid_escalateReturn input)
  | rejectReturn input => exact unsaid_after (unsaid_rejectReturn hushed input)
  | markReturnRepaid input => exact (unsaid_markReturnRepaid hushed input).after s
  | honourCancellation | resolveException | requestDrawdown | resolveDrawdown
  | resolveExceptionAsOperator => cases quiet

end Operations

end Unsaid

/-! ### Announcing nothing -/

/-- The settlement's own transactions announced nothing more. -/
def Silent (c c' : Case) : Prop :=
  ∀ type ∈ announcements, c'.told type = c.told type

instance : Std.Refl Silent := ⟨fun _ _ _ => rfl⟩

instance : IsTrans Case Silent :=
  ⟨fun _ _ _ first second type mem => (second type mem).trans (first type mem)⟩

theorem Unsaid.silent {c c' : Case} (unsaid : Unsaid announcements c c') : Silent c c' :=
  fun type mem => by rw [Case.told_eq, Case.told_eq, unsaid type mem]

theorem silent_of_events {c c' : Case} (events : c'.events = c.events) : Silent c c' :=
  fun _ _ => congrArg (List.countP _) events

theorem hushed_announcements : Hushed announcements := ⟨by decide, by decide⟩

/-- Of the operations that ask for no transition with an announcement. -/
theorem settlementStep_silent {digest : AuthorizedInstruction → String} {read : Reads} {s : Store}
    {op : SettlementOp} (quiet : op.mayAnnounce = false) :
    Silent s.case (settlementStep digest read s op).case :=
  (settlementStep_unsaid hushed_announcements quiet (fun _ _ _ => by decide)
    fun _ _ => by decide).silent

end InrSettle
