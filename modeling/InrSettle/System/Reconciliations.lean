import InrSettle.System.Transitions

/-!
# Reconciliations

What a settlement in RECONCILING has of its reconciliation, over whole runs. Every
observation that does not match moves the settlement away; an operator's resume brings
it back as the exception left it.
-/

namespace InrSettle

open Transaction CaseTables Run

/-! ### The settlement row, away from T19 -/

/-- What an operation that does not begin reconciliation can do to the settlement row. -/
inductive RowElsewhere (c c' : Case) : Prop where
  | still : c'.settlement = c.settlement → RowElsewhere c c'
  | created {input : CreateInput} : c'.settlement = some input.row → RowElsewhere c c'
  | taken {input : ApplyTransitionInput} {old new : SettlementRow} {t : Transition} :
    c.settlement = some old → c'.settlement = some new → Takes input t old new →
    input.trigger ≠ .beginReconciliation → RowElsewhere c c'

/-- The settlement waits on its reconciliation, or went into an exception while it did. -/
def SettlementRow.Reconciles (row : SettlementRow) : Prop :=
  row.status = .reconciling ∨ row.exceptionEnteredFrom = some .reconciling

/-- The settlement waits on its reconciliation and no exception has taken it away from there. -/
def SettlementRow.AwaitsFirst (row : SettlementRow) : Prop :=
  row.status = .reconciling ∧ row.exceptionEnteredFrom ≠ some .reconciling

theorem leadsTo_reconciling {trigger : Trigger} {enteredFrom : Option SettlementStatus}
    (leads : trigger.leadsTo enteredFrom = some .reconciling)
    (other : trigger ≠ .beginReconciliation) : enteredFrom = some .reconciling := by
  cases trigger <;> first | exact leads | exact (other rfl).elim | cases leads

section Row

variable {input : ApplyTransitionInput} {t : Transition} {old new : SettlementRow}

theorem Takes.reconciles (takes : Takes input t old new)
    (other : input.trigger ≠ .beginReconciliation) (after : new.Reconciles) : old.Reconciles := by
  rcases after with is | origin
  · rw [takes.status] at is
    cases leads : input.trigger.leadsTo old.exceptionEnteredFrom with
    | none =>
      rw [leads] at is
      exact .inl is
    | some target =>
      rw [leads] at is
      exact .inr (leadsTo_reconciling (leads.trans (congrArg some is)) other)
  · rw [takes.enteredFrom] at origin
    split at origin
    · exact .inl (Option.some.inj origin)
    · exact .inr origin

theorem Takes.awaitsFirst (takes : Takes input t old new)
    (other : input.trigger ≠ .beginReconciliation) (after : new.AwaitsFirst) :
    old.AwaitsFirst := by
  obtain ⟨is, first⟩ := after
  rw [takes.enteredFrom] at first
  rw [takes.status] at is
  cases leads : input.trigger.leadsTo old.exceptionEnteredFrom with
  | none =>
    rw [leads] at is first
    exact ⟨is, first⟩
  | some target =>
    rw [leads] at is first
    have target : target = .reconciling := is
    subst target
    exact (first (leadsTo_reconciling leads other)).elim

end Row

section Elsewhere

variable {c c' : Case}

theorem rowElsewhere_of_moved {input : ApplyTransitionInput} {c₁ c₂ : Case}
    (moved : Moved input c₁ c₂) (settlement : c₁.settlement = c.settlement)
    (row : c'.settlement = c₂.settlement) (other : input.trigger ≠ .beginReconciliation) :
    RowElsewhere c c' := by
  obtain ⟨old, new, t, found, takes, rfl⟩ := moved
  rw [settlement] at found
  exact .taken found row takes other

theorem rowElsewhere_of_turn {input : ApplyTransitionInput} {c₁ : Case} (turn : Turn input c₁ c')
    (settlement : c₁.settlement = c.settlement) (other : input.trigger ≠ .beginReconciliation) :
    RowElsewhere c c' := by
  rcases turn with rfl | moved
  · exact .still settlement
  · exact rowElsewhere_of_moved moved settlement rfl other

/-- What holds of a row that begins reconciling held of the row before. -/
theorem RowElsewhere.reconciles (moved : RowElsewhere c c') {row : SettlementRow}
    (made : c'.settlement = some row) (reconciles : row.Reconciles) :
    ∃ old, c.settlement = some old ∧ old.Reconciles := by
  cases moved with
  | still same => exact ⟨row, same ▸ made, reconciles⟩
  | created is =>
    obtain rfl := Option.some.inj (is.symm.trans made)
    rcases reconciles with status | origin
    · cases status
    · cases origin
  | taken found is takes other =>
    obtain rfl := Option.some.inj (is.symm.trans made)
    exact ⟨_, found, takes.reconciles other reconciles⟩

theorem RowElsewhere.awaitsFirst (moved : RowElsewhere c c') {row : SettlementRow}
    (made : c'.settlement = some row) (awaits : row.AwaitsFirst) :
    ∃ old, c.settlement = some old ∧ old.AwaitsFirst := by
  cases moved with
  | still same => exact ⟨row, same ▸ made, awaits⟩
  | created is =>
    obtain rfl := Option.some.inj (is.symm.trans made)
    cases awaits.1
  | taken found is takes other =>
    obtain rfl := Option.some.inj (is.symm.trans made)
    exact ⟨_, found, takes.awaitsFirst other awaits⟩

end Elsewhere

/-! ### Reconciliation moves -/

/-- The operations that may escalate a reconciliation. -/
def SettlementOp.mayEscalate : SettlementOp → Bool
  | applyObservation _ | sweepReconciliationSla _ => true
  | _ => false

/-- What one operation can do to the reconciliation of a settlement. -/
inductive ReconciliationMove (op : SettlementOp) (c c' : Case) : Prop where
  | kept : c'.reconciliation = c.reconciliation → RowElsewhere c c' → ReconciliationMove op c c'
  | begun {begun : ReconciliationRow} : c'.reconciliation = some begun →
    begun.status = .pending → ReconciliationMove op c c'
  | matched {current answered : ReconciliationRow} : c.reconciliation = some current →
    current.status = .pending → c'.reconciliation = some answered → answered.status = .matched →
    answered.observedMinor = some answered.expectedMinor → c'.settlement = c.settlement →
    ReconciliationMove op c c'
  | escalated {current escalated : ReconciliationRow} : op.mayEscalate = true →
    c.reconciliation = some current → current.status = .pending →
    c'.reconciliation = some escalated → escalated.status = .manualReview → RowElsewhere c c' →
    ReconciliationMove op c c'
  | resolved {current resolved : ReconciliationRow} : c.reconciliation = some current →
    current.status = .manualReview → c'.reconciliation = some resolved →
    resolved.resolvedBy.isSome → c'.settlement = c.settlement → ReconciliationMove op c c'

section Projection

variable {digest : AuthorizedInstruction → String} {read : Reads} {s s' : Store}
  {op : SettlementOp}

theorem Asks.ne {input : ApplyTransitionInput} {trigger excluded : Trigger}
    {patch : List ColumnWrite} {code : Option ExceptionCode} (asks : Asks input trigger patch code)
    (other : trigger ≠ excluded) : input.trigger ≠ excluded := by
  rw [asks.trigger]
  exact other

theorem plainList_beginsNone : ∀ trigger ∈ plainList, trigger ≠ .beginReconciliation := by decide

theorem reconciliationMove_of_moved {input : ApplyTransitionInput} {c₁ c₂ c' : Case}
    (moved : Moved input c₁ c₂) (settlement : c₁.settlement = s.case.settlement)
    (reconciliation : c₁.reconciliation = s.case.reconciliation)
    (row : c'.settlement = c₂.settlement) (kept : c'.reconciliation = c₂.reconciliation)
    (other : input.trigger ≠ .beginReconciliation) : ReconciliationMove op s.case c' := by
  refine .kept ?_ (rowElsewhere_of_moved moved settlement row other)
  obtain ⟨old, new, t, found, takes, rfl⟩ := moved
  exact kept.trans reconciliation

theorem Turn.reconciliation {input : ApplyTransitionInput} {c c' : Case} (turn : Turn input c c') :
    c'.reconciliation = c.reconciliation := by
  rcases turn with rfl | ⟨old, new, t, found, takes, rfl⟩
  · rfl
  · rfl

theorem drawdownTransition_beginsNone (input : ResolveDrawdownInput) (target : DrawdownStatus) :
    (drawdownTransition input target).trigger ≠ .beginReconciliation := by
  cases target <;> simp [drawdownTransition]

theorem outcomeTransition_beginsNone (input : PayoutOutcomeInput) (a : PayoutAttemptRow) :
    (outcomeTransition input a).trigger ≠ .beginReconciliation := by
  rw [outcomeTransition_trigger]
  split <;> decide

/-- What an observation that matched says of the amounts. -/
theorem observed_matched {input : ObservationInput} {current : ReconciliationRow}
    (matched : (input.verdict current).isMatched = true) :
    input.observedMinor = some current.expectedMinor := by
  have same := compareObservation_matched.mp matched
  obtain ⟨amount, is, equal⟩ := Option.map_eq_some_iff.mp same
  rw [is]
  exact congrArg (fun money => some money.minorUnits) equal

theorem manualReview_of_resolves {status : ReconciliationStatus}
    {trigger : ReconciliationResolution} {row : ReconciliationTransition}
    (evaluated : reconciliationMachine.evaluate (some status) trigger.trigger = some row) :
    status = .manualReview := by
  cases status <;> cases trigger <;> revert evaluated row <;> decide

theorem StoreMove.reconciliation (moved : StoreMove digest read s op s') :
    ReconciliationMove op s.case s'.case := by
  cases moved with
  | noted audits => exact .kept rfl (.still rfl)
  | created absent checks => exact .kept rfl (.created rfl)
  | plain answers patch moved =>
    exact reconciliationMove_of_moved moved rfl rfl rfl rfl
      (plainList_beginsNone _ (mem_plainList _ answers))
  | authorized found asks actor moved =>
    exact reconciliationMove_of_moved moved rfl rfl rfl rfl (asks.ne (by decide))
  | dispatched found before version none numbered asks moved fresh =>
    exact reconciliationMove_of_moved moved rfl rfl rfl rfl (asks.ne (by decide))
  | @openedException asked row input c found asks answers moved ids single =>
    refine reconciliationMove_of_moved moved rfl rfl rfl rfl (asks.ne ?_)
    cases asked.trigger <;> decide
  | @resolvedException resolve row input c found asks stated before moved =>
    refine reconciliationMove_of_moved moved rfl rfl rfl rfl (asks.ne ?_)
    cases resolve.resolution <;> decide
  | submitted allowed => exact .kept rfl (.still rfl)
  | outcome reports latest trusted permits allowed result =>
    rcases result with rfl | ⟨-, -, moved⟩
    · exact .kept rfl (.still rfl)
    · exact reconciliationMove_of_moved moved rfl rfl rfl rfl (outcomeTransition_beginsNone _ _)
  | swept latest waiting elapsed allowed asks turn =>
    exact .kept turn.reconciliation (rowElsewhere_of_turn turn rfl (asks.ne (by decide)))
  | retried latest rejected numbered fresh => exact .kept rfl (.still rfl)
  | reserved pending allowed asks turn =>
    exact .kept turn.reconciliation (rowElsewhere_of_turn turn rfl (asks.ne (by decide)))
  | reservationFailed pending refused asks moved =>
    exact reconciliationMove_of_moved moved rfl rfl rfl rfl (asks.ne (by decide))
  | drawn active asks moved ids single =>
    exact reconciliationMove_of_moved moved rfl rfl rfl rfl (asks.ne (by decide))
  | drawdownResolved latest evaluated followed result =>
    rcases result with rfl | ⟨-, moved⟩
    · exact .kept rfl (.still rfl)
    · exact reconciliationMove_of_moved moved rfl rfl rfl rfl (drawdownTransition_beginsNone _ _)
  | compensated done => exact .kept rfl (.still rfl)
  | released done => exact .kept rfl (.still rfl)
  | @operatorResolved ctx resolve old e r c l found isOpen before gave result =>
    rcases result with rfl | ⟨compensation, c, audits, -, moved, rfl⟩
    · exact .kept rfl (.still rfl)
    · refine reconciliationMove_of_moved moved rfl rfl rfl rfl ?_
      have trigger : (resolve.transition ctx old e.code compensation).trigger =
        resolve.resolution.trigger := rfl
      rw [trigger]
      cases resolve.resolution <;> decide
  | reconciliationBegun none present checks turn => exact .begun turn.reconciliation rfl
  | observationMatched found pending matched =>
    exact .matched found pending rfl rfl (observed_matched matched) rfl
  | observationDiffered found pending differed turn =>
    exact .escalated rfl found pending turn.reconciliation rfl
      (rowElsewhere_of_turn turn rfl (by simp [ObservationInput.transition]))
  | reconciliationSwept found pending elapsed turn =>
    exact .escalated rfl found pending turn.reconciliation rfl
      (rowElsewhere_of_turn turn rfl (by simp [ReconciliationSweepInput.transition]))
  | reconciliationResolved found evaluated =>
    exact .resolved found (manualReview_of_resolves evaluated) rfl rfl rfl
  | evaluated => exact .kept rfl (.still rfl)
  | settled gathered final moved =>
    exact reconciliationMove_of_moved moved rfl rfl rfl rfl (by simp [EvaluateInput.transition])
  | returned opens =>
    have about := openReturn_about opens
    exact .kept about.reconciliation (.still about.settlement)
  | eventReturned latest trusted is applied opens =>
    have about := openReturn_about opens
    rcases applied with ⟨-, -, rfl⟩ | ⟨-, rfl⟩
    · exact .kept about.reconciliation (.still about.settlement)
    · exact .kept about.reconciliation (.still about.settlement)
  | returnEscalated found source => exact .kept rfl (.still rfl)
  | returnCapped found source => exact .kept rfl (.still rfl)
  | returnCounted counts => exact .kept rfl (.still rfl)
  | returnConfirmed counts drawn asked => exact .kept rfl (.still rfl)
  | returnRejected found source => exact .kept rfl (.still rfl)
  | returnRepaid found source requested paid => exact .kept rfl (.still rfl)

end Projection

/-! ### An answer that does not match moves the settlement away -/

/-- A transition the table has, with its guards answered true, is not refused. -/
theorem applyTransition_accepted {input : ApplyTransitionInput} {c c' : Case}
    {r : TransitionOutcome} {row : SettlementRow} {t : Transition}
    {target : Option SettlementStatus} (h : Commits (applyTransition input) c r c')
    (found : c.settlement = some row) (noPatch : input.patch = [])
    (anyVersion : input.expectedVersion = none)
    (evaluated : evaluateTransition ⟨some row.status, input.trigger, input.guards,
      row.exceptionEnteredFrom⟩ = .ok t target)
    (permitted : ∀ offered ∈ input.companions, offered.type ∈ t.permittedCompanions) :
    Moved input c c' := by
  rcases applyTransition_moved h with ⟨⟨failure, rfl⟩, -⟩ | ⟨-, moved⟩
  · -- Every refusal is one of the checks, and each of them passes.
    have legal : input.companions.filter (fun offered =>
        decide (offered.type ∉ t.permittedCompanions)) = [] := by
      simpa [List.filter_eq_nil_iff] using permitted
    simp only [applyTransition, noPatch, List.filterMap_nil, ne_eq, not_true_eq_false, if_false,
      commits_get_bind, found, anyVersion, Option.any_none, Bool.false_eq_true, evaluated,
      legal] at h
    split at h
    · simp only [updateSettlement, audit, bind_assoc, commits_require_bind, commits_modify_bind,
        commits_pure, reduceCtorEq, false_and, and_false] at h
    · simp only [audit, commits_modify_bind, commits_pure, reduceCtorEq, false_and] at h
  · exact moved

section Escalation

variable {c c' : Case} {row : SettlementRow}

theorem Moved.enters {input : ApplyTransitionInput} {c₁ : Case} (moved : Moved input c₁ c')
    (leads : ∀ enteredFrom, input.trigger.leadsTo enteredFrom = some .exception) :
    c'.status = some .exception := by
  obtain ⟨old, new, t, found, takes, rfl⟩ := moved
  rw [Case.status, Case.transitioned, Option.map_some, takes.status, leads]
  rfl

/-- An observation that escalates the reconciliation of a RECONCILING settlement is T21. -/
theorem applyObservation_escalates {input : ObservationInput} {r : ReconciliationResult}
    (h : Commits (applyObservation input) c r c') (found : c.settlement = some row)
    (is : row.status = .reconciling) :
    c' = c ∨ c'.status = some .exception ∨
      ∃ answered, c'.reconciliation = some answered ∧ answered.status = .matched := by
  rcases applyObservation_commits h with
    rfl | ⟨current, audits, -, -, ⟨-, rfl⟩ | ⟨-, outcome, applied⟩⟩
  · exact .inl rfl
  · exact .inr (.inr ⟨_, rfl, rfl⟩)
  · refine .inr (.inl (Moved.enters (applyTransition_accepted applied found rfl rfl
      (by rw [is]; rfl) ?_) fun _ => rfl))
    intro offered offers
    obtain rfl := List.mem_singleton.mp offers
    exact List.mem_append_left _ (List.mem_singleton_self _)

/-- A sweep that escalates the reconciliation of a RECONCILING settlement is T30. -/
theorem sweepReconciliationSla_escalates {input : ReconciliationSweepInput}
    {r : ReconciliationResult} (h : Commits (sweepReconciliationSla input) c r c')
    (found : c.settlement = some row) (is : row.status = .reconciling) :
    c' = c ∨ c'.status = some .exception := by
  rcases sweepReconciliationSla_commits h with
    rfl | ⟨current, audits, outcome, -, -, -, applied⟩
  · exact .inl rfl
  · refine .inr (Moved.enters (applyTransition_accepted applied found rfl rfl
      (by rw [is]; rfl) ?_) fun _ => rfl)
    intro offered offers
    cases offers

end Escalation

/-! ### The invariant -/

/-- How the settlement row and the reconciliation stand to each other. -/
structure ReconciliationLinked (c : Case) : Prop where
  present : ∀ row, c.settlement = some row → row.Reconciles → c.reconciliation ≠ none
  awaited : ∀ row, c.settlement = some row → row.AwaitsFirst →
    ∀ current, c.reconciliation = some current →
      current.status = .pending ∨ current.status = .matched
  matched : ∀ current, c.reconciliation = some current → current.status = .matched →
    current.resolvedBy = none → current.observedMinor = some current.expectedMinor

section Invariant

variable {digest : AuthorizedInstruction → String} {read : Reads} {s : Store}
  {op : SettlementOp} {c c' : Case}

/-- A move keeps the linkage where an escalation moves the settlement away. -/
theorem ReconciliationMove.linked (moved : ReconciliationMove op c c')
    (escalates : ∀ row current escalated, op.mayEscalate = true → c.settlement = some row →
      row.status = .reconciling → c.reconciliation = some current → current.status = .pending →
      c'.reconciliation = some escalated → escalated.status = .manualReview →
      c'.status = some .exception)
    (held : ReconciliationLinked c) : ReconciliationLinked c' := by
  obtain ⟨present, awaited, matched⟩ := held
  cases moved with
  | kept same row =>
    refine ⟨fun new made reconciles => ?_, fun new made awaits current found => ?_,
      same ▸ matched⟩
    · obtain ⟨old, found, reconciled⟩ := row.reconciles made reconciles
      rw [same]
      exact present old found reconciled
    · obtain ⟨old, was, awaited'⟩ := row.awaitsFirst made awaits
      exact awaited old was awaited' current (same ▸ found)
  | begun is pending =>
    refine ⟨fun _ _ _ => by simp [is], fun _ _ _ current found => ?_, fun current found answered => ?_⟩
    · obtain rfl := Option.some.inj (is.symm.trans found)
      exact .inl pending
    · obtain rfl := Option.some.inj (is.symm.trans found)
      simp [pending] at answered
  | matched was pending is answered equal same =>
    refine ⟨fun _ _ _ => by simp [is], fun _ _ _ current found => ?_, fun current found _ _ => ?_⟩
    · obtain rfl := Option.some.inj (is.symm.trans found)
      exact .inr answered
    · obtain rfl := Option.some.inj (is.symm.trans found)
      exact equal
  | escalated may was pending is review row =>
    refine ⟨fun _ _ _ => by simp [is], fun new made awaits => ?_, fun current found answered => ?_⟩
    · obtain ⟨old, found, reconciling, -⟩ := row.awaitsFirst made awaits
      have away := escalates old _ _ may found reconciling was pending is review
      rw [Case.status, made, Option.map_some, awaits.1] at away
      cases away
    · obtain rfl := Option.some.inj (is.symm.trans found)
      simp [review] at answered
  | resolved was review is attributed same =>
    refine ⟨fun _ _ _ => by simp [is], fun row made awaits => ?_, fun current found _ unresolved => ?_⟩
    · rw [same] at made
      rcases awaited row made awaits _ was with pending | answered
      · simp [pending] at review
      · simp [answered] at review
    · obtain rfl := Option.some.inj (is.symm.trans found)
      simp [unresolved] at attributed

/-- An operation that escalates the reconciliation of a RECONCILING settlement moves it into
EXCEPTION. -/
theorem settlementStep_escalates {row : SettlementRow} {current escalated : ReconciliationRow}
    (answers : op.mayEscalate = true) (found : s.case.settlement = some row)
    (is : row.status = .reconciling) (was : s.case.reconciliation = some current)
    (pending : current.status = .pending)
    (now : (settlementStep digest read s op).case.reconciliation = some escalated)
    (review : escalated.status = .manualReview) :
    (settlementStep digest read s op).case.status = some .exception := by
  -- A commit that left the reconciliation as it was escalated nothing.
  have quiet : ∀ c' : Case, c' = s.case → c'.reconciliation = some escalated →
      c'.status = some .exception := by
    rintro _ rfl now
    obtain rfl := Option.some.inj (was.symm.trans now)
    simp [pending] at review
  cases op with
  | applyObservation input =>
    simp only [settlementStep, after_onCase_case] at now ⊢
    refine after_induction (P := fun c' : Case => c'.reconciliation = some escalated →
      c'.status = some .exception) (quiet _ rfl) (fun r c' h now => ?_) now
    rcases applyObservation_escalates h found is with same | away | ⟨answered, now', matched⟩
    · exact quiet c' same now
    · exact away
    · obtain rfl := Option.some.inj (now'.symm.trans now)
      simp [matched] at review
  | sweepReconciliationSla input =>
    simp only [settlementStep, after_onCase_case] at now ⊢
    refine after_induction (P := fun c' : Case => c'.reconciliation = some escalated →
      c'.status = some .exception) (quiet _ rfl) (fun r c' h now => ?_) now
    rcases sweepReconciliationSla_escalates h found is with same | away
    · exact quiet c' same now
    · exact away
  | _ => cases answers

theorem settlementStep_linked (held : ReconciliationLinked s.case) :
    ReconciliationLinked (settlementStep digest read s op).case :=
  (settlementStep_move op).reconciliation.linked
    (fun _ _ _ may found is was pending now review =>
      settlementStep_escalates may found is was pending now review) held

theorem settlementStep_leavesAnswered {input : ObservationInput} {current : ReconciliationRow}
    (found : s.case.reconciliation = some current) (answered : current.status ≠ .pending) :
    (settlementStep digest read s (.applyObservation input)).case.reconciliation =
      some current := by
  simp only [settlementStep, after_onCase_case]
  refine after_induction (P := fun c' : Case => c'.reconciliation = some current) found
    fun r c' h => ?_
  rcases applyObservation_commits h with rfl | ⟨_, audits, was, pending, -⟩
  · exact found
  · obtain rfl := Option.some.inj (was.symm.trans found)
    exact (answered pending).elim

end Invariant

/-! ### Over runs -/

section Runs

variable (digest : AuthorizedInstruction → String)

/-- At some point of the run the settlement was in EXCEPTION, entered from RECONCILING. -/
def LeftReconciling (ops : List WorldOp) (settlementId : String) : Prop :=
  ∃ n ≤ ops.length, ∃ row, (caseAfter digest (ops.take n) settlementId).settlement = some row ∧
    row.status = .exception ∧ row.exceptionEnteredFrom = some .reconciling

/-- An observation leaves a reconciliation that is answered as it is. -/
def LeavesAnswered (settlementId : String) (w : World) (op : WorldOp) : Prop :=
  ∀ asOf input current, op = .settlement asOf (.applyObservation input) →
    (w.now.cases settlementId).reconciliation = some current → current.status ≠ .pending →
    ((w.step digest op).now.cases settlementId).reconciliation = some current

theorem step_leavesAnswered (w : World) (op : WorldOp) (settlementId : String) :
    LeavesAnswered digest settlementId w op := by
  rintro asOf input current rfl found answered
  by_cases subject : settlementId = (SettlementOp.applyObservation input).subject
  · subst subject
    rw [step_case_subject]
    exact settlementStep_leavesAnswered found answered
  · rw [step_case_of_ne subject]
    exact found

theorem reconciliationLinked_run (ops : List WorldOp) (settlementId : String) :
    ReconciliationLinked (caseAfter digest ops settlementId) := by
  refine stepInvariant (P := fun _ => ReconciliationLinked)
    (fun w asOf op _ held => settlementStep_linked held) (fun id => ?_)
    (Along.trivial World.empty ops) settlementId
  refine ⟨fun _ found => ?_, fun _ found => ?_, fun _ found => ?_⟩ <;> cases found

variable {digest}

theorem LeftReconciling.append {ops : List WorldOp} {settlementId : String}
    (left : LeftReconciling digest ops settlementId) (op : WorldOp) :
    LeftReconciling digest (ops ++ [op]) settlementId := by
  obtain ⟨n, within, row, found, was⟩ := left
  refine ⟨n, within.trans (by simp), row, ?_, was⟩
  rwa [List.take_append_of_le_length within]

/-- An exception recorded as entered from RECONCILING was. -/
theorem leftReconciling_run (ops : List WorldOp) (settlementId : String) {row : SettlementRow}
    (found : (caseAfter digest ops settlementId).settlement = some row)
    (origin : row.exceptionEnteredFrom = some .reconciling) :
    LeftReconciling digest ops settlementId := by
  induction ops using List.reverseRecOn generalizing row with
  | nil => cases found
  | append_singleton ops op ih =>
    have step := step_row digest (run (World.step digest) World.empty ops) op settlementId
    rw [← caseAfter_append] at step
    rcases step with same | ⟨_, _, -, -, still | ⟨-, made, -⟩ | ⟨was, made, takes, -⟩⟩
    · exact (ih (same.symm.trans found) origin).append op
    · exact (ih (still.symm.trans found) origin).append op
    · obtain rfl := Option.some.inj (made.symm.trans found)
      cases origin
    · obtain rfl := Option.some.inj (made.symm.trans found)
      have entered := takes.enteredFrom
      split at entered
      · rename_i leads
        refine ⟨(ops ++ [op]).length, le_rfl, _, by rwa [List.take_length], ?_, origin⟩
        rw [takes.status, leads]
        rfl
      · exact (ih was (entered.symm.trans origin)).append op

variable (digest)

/-- What holds of a settlement's reconciliation over a run. -/
structure ReconciliationKept (ops : List WorldOp) (settlementId : String) : Prop where
  /-- RECONCILING: the one reconciliation is PENDING or MATCHED, or the settlement came back. -/
  awaited : ∀ row, (caseAfter digest ops settlementId).settlement = some row →
    row.status = .reconciling →
    ∃ current, (caseAfter digest ops settlementId).reconciliation = some current ∧
      (current.status = .pending ∨ current.status = .matched ∨
        LeftReconciling digest ops settlementId)
  matched : ∀ current, (caseAfter digest ops settlementId).reconciliation = some current →
    current.status = .matched → current.resolvedBy = none →
    current.observedMinor = some current.expectedMinor
  answered : Along (World.step digest) (LeavesAnswered digest settlementId) World.empty ops

/-- After every run, of any operations on any settlements in any order. -/
theorem reconciliation_kept (ops : List WorldOp) (settlementId : String) :
    ReconciliationKept digest ops settlementId := by
  obtain ⟨present, awaited, matched⟩ := reconciliationLinked_run digest ops settlementId
  refine ⟨fun row found is => ?_, matched,
    (Along.trivial World.empty ops).mono fun w op _ => step_leavesAnswered digest w op _⟩
  obtain ⟨current, is'⟩ := Option.ne_none_iff_exists'.mp (present row found (.inl is))
  refine ⟨current, is', ?_⟩
  by_cases origin : row.exceptionEnteredFrom = some .reconciling
  · exact .inr (.inr (leftReconciling_run ops settlementId found origin))
  · exact (awaited row found ⟨is, origin⟩ current is').imp_right .inl

end Runs

/-- From PAYOUT_CONFIRMED to a mismatch that is escalated, and back by an attributed resume. -/
def mismatching : List WorldOp := [
  fresh (.beginReconciliation ⟨"s", rupees 1000, worker, 60, "reconciliation", 20⟩),
  fresh (.applyObservation ⟨"s", .authoritativeStatusPull, some 900, "INR", worker, 21⟩),
  fresh (.resolveException {
    settlementId := "s", resolution := .resume, actor := approver, reason := "provider asked"
    now := 22 })]

/-- The settlement is RECONCILING again, and its reconciliation is under review. -/
theorem resumed_under_review :
    (caseAfter (fun _ => "hash") (funded ++ [dispatching, reporting .credited 10] ++ mismatching)
        "s").status = some .reconciling ∧
      (caseAfter (fun _ => "hash") (funded ++ [dispatching, reporting .credited 10] ++ mismatching)
        "s").reconciliation.map (·.status) = some .manualReview := by
  decide +kernel

end InrSettle
