import InrSettle.System.Dispatch

/-!
# Open exceptions

A settlement in EXCEPTION and the row an operator resolves. Only `openException` writes
that row; every other way into EXCEPTION leaves the settlement without one.
-/

namespace InrSettle

open Transaction CaseTables Run

/-- The exceptions of a settlement nobody resolved yet. -/
def openExceptions (c : Case) : List SettlementExceptionRow :=
  c.exceptions.filter (·.resolvedAt.isNone)

/-! ### Ways into EXCEPTION -/

theorem ExceptionTrigger.opens (trigger : ExceptionTrigger)
    (enteredFrom : Option SettlementStatus) :
    trigger.trigger.isResolution = false ∧
      trigger.trigger.leadsTo enteredFrom = some .exception := by
  cases trigger <;> exact ⟨rfl, rfl⟩

/-- Whether the settlement is in the status now. -/
def Case.isIn (c : Case) (status : SettlementStatus) : Bool :=
  c.settlement.any fun row => row.status == status

/-- An operation that brings the settlement into EXCEPTION without its row, or with a row that
records a status read before the settlement left it. -/
def unattended (read : Reads) (s : Store) : SettlementOp → Bool
  | .completeReservation _ stamp =>
    s.case.isIn .liquidityReserving && read.pending.any fun input =>
      reservationRefused s.liquidity (input.reserve stamp)
  | .resolveDrawdown input =>
    s.case.isIn .drawdownRequested && (latestDrawdown s.case).any fun d =>
      (drawdownMachine.evaluate (some d.status) input.trigger.trigger).any fun row =>
        row.target == .unknown || row.target == .failed && input.providerEventVerified
  | .applyPayoutOutcome _ input | .applyEvent _ input _ =>
    s.case.isIn .payoutSubmitted && read.settlement.map (·.status) != some .exception &&
      input.trusted && input.outcome == .rejected &&
      (latestAttempt s.case).any (·.status.isInFlight)
  | .sweepPayoutSla _ input =>
    s.case.isIn .payoutSubmitted && (latestAttempt s.case).any fun a =>
      (a.status == .submitted || a.status == .accepted) &&
        slaElapsed a.dispatchedAt a.slaSeconds input.now
  | .applyObservation input =>
    s.case.isIn .reconciling && s.case.reconciliation.any fun current =>
      current.status == .pending && !(input.verdict current).isMatched
  | .sweepReconciliationSla input =>
    s.case.isIn .reconciling && s.case.reconciliation.any fun current =>
      current.status == .pending &&
        decide (current.openedAt + current.slaSeconds * 1000 ≤ input.now)
  | .openException input =>
    s.case.settlement.any fun now => read.settlement.any fun row =>
      row.status != now.status && decide (now.status ∈ input.trigger.trigger.sources) &&
        input.trigger.trigger.guards.all fun guard => input.guards.lookup guard == some true
  | _ => false

/-- The step brings no settlement into EXCEPTION without its row. -/
def Attends (w : World) : WorldOp → Prop
  | .funding _ => True
  | .settlement asOf op => unattended (w.read asOf op) (w.now.store op.subject) op = false

instance (w : World) : (op : WorldOp) → Decidable (Attends w op)
  | .funding _ => isTrue trivial
  | .settlement _ _ => inferInstanceAs (Decidable (_ = _))

/-! ### Exception moves -/

/-- What one operation can do to the status of a settlement and its exceptions. -/
inductive ExceptionMove (read : Reads) (s : Store) (op : SettlementOp) (c' : Case) : Prop where
  | still : c'.settlement = s.case.settlement → c'.exceptions = s.case.exceptions →
    ExceptionMove read s op c'
  | created {row : SettlementRow} : s.case.settlement = none → c'.settlement = some row →
    row.status = .draft → c'.exceptions = s.case.exceptions → ExceptionMove read s op c'
  | moved {input : ApplyTransitionInput} {old new : SettlementRow} {t : Transition} :
    s.case.settlement = some old → c'.settlement = some new → Takes input t old new →
    input.trigger.isOrdinary = true → c'.exceptions = s.case.exceptions →
    ExceptionMove read s op c'
  | opened {asked : OpenExceptionInput} {row old new : SettlementRow}
      {input : ApplyTransitionInput} {t : Transition} {e : SettlementExceptionRow} :
    op = .openException asked → read.settlement = some row → s.case.settlement = some old →
    c'.settlement = some new → Takes input t old new →
    Asks input asked.trigger.trigger [] (some e.code) → input.guards = asked.guards →
    e.enteredFrom = row.status → e.resolvedAt = none →
    c'.exceptions = s.case.exceptions ++ [e] → ExceptionMove read s op c'
  | resolved {input : ApplyTransitionInput} {old new : SettlementRow} {t : Transition}
      {which : SettlementExceptionRow → Bool} {now : Instant} {resolvedBy reason : String} :
    s.case.settlement = some old → c'.settlement = some new → Takes input t old new →
    input.trigger.isResolution = true →
    (∀ e, openExceptionFor s.case = some e → which e = true) →
    c'.exceptions = (withResolved s.case which now resolvedBy reason).exceptions →
    ExceptionMove read s op c'
  | unrecorded {input : ApplyTransitionInput} {old new : SettlementRow} {t : Transition} :
    s.case.settlement = some old → c'.settlement = some new → Takes input t old new →
    input.trigger.isResolution = false → c'.exceptions = s.case.exceptions →
    unattended read s op = true → ExceptionMove read s op c'

section Projection

variable {digest : AuthorizedInstruction → String} {read : Reads} {s s' : Store}
  {op : SettlementOp}

theorem plainList_ordinary : ∀ trigger ∈ plainList, trigger.isOrdinary = true := by decide

theorem exceptionMove_of_moved {input : ApplyTransitionInput} {c₁ c₂ c' : Case}
    (moved : Moved input c₁ c₂) (settlement : c₁.settlement = s.case.settlement)
    (row : c'.settlement = c₂.settlement) (same : c'.exceptions = s.case.exceptions)
    (ordinary : input.trigger.isOrdinary = true) : ExceptionMove read s op c' := by
  obtain ⟨old, new, t, found, takes, rfl⟩ := moved
  rw [settlement] at found
  exact .moved found row takes ordinary same

theorem unrecorded_of_moved {input : ApplyTransitionInput} {c₁ c₂ c' : Case}
    (moved : Moved input c₁ c₂) (settlement : c₁.settlement = s.case.settlement)
    (row : c'.settlement = c₂.settlement) (same : c'.exceptions = s.case.exceptions)
    (notResolution : input.trigger.isResolution = false) (missed : unattended read s op = true) :
    ExceptionMove read s op c' := by
  obtain ⟨old, new, t, found, takes, rfl⟩ := moved
  rw [settlement] at found
  exact .unrecorded found row takes notResolution same missed

theorem Moved.exceptions {input : ApplyTransitionInput} {c c' : Case} (moved : Moved input c c') :
    c'.exceptions = c.exceptions := by
  obtain ⟨old, new, t, found, takes, rfl⟩ := moved
  rfl

theorem Moved.guarded {input : ApplyTransitionInput} {c c' : Case} (moved : Moved input c c') :
    ∀ guard ∈ input.trigger.guards, input.guards.lookup guard = some true := by
  obtain ⟨old, new, t, found, takes, rfl⟩ := moved
  exact takes.guarded

theorem exceptionMove_of_turn {input : ApplyTransitionInput} {c₁ c' : Case}
    (turn : Turn input c₁ c') (settlement : c₁.settlement = s.case.settlement)
    (same : c'.exceptions = s.case.exceptions) (ordinary : input.trigger.isOrdinary = true) :
    ExceptionMove read s op c' := by
  rcases turn with rfl | moved
  · exact .still settlement same
  · exact exceptionMove_of_moved moved settlement rfl same ordinary

theorem Turn.exceptions {input : ApplyTransitionInput} {c c' : Case} (turn : Turn input c c') :
    c'.exceptions = c.exceptions := by
  rcases turn with rfl | moved
  · rfl
  · exact moved.exceptions

theorem Resolution.trigger_isResolution (resolution : Resolution) :
    resolution.trigger.isResolution = true := by
  cases resolution <;> rfl

/-- A drawdown that is resolved is REQUESTED no more. -/
theorem drawdown_leaves_requested {status : DrawdownStatus} {trigger : DrawdownResolution}
    {row : DrawdownTransition}
    (evaluated : drawdownMachine.evaluate (some status) trigger.trigger = some row) :
    row.target ≠ .requested := by
  cases status <;> cases trigger <;> revert evaluated row <;> decide

/-- A transition out of a status finds the settlement in it. -/
theorem Moved.isIn {input : ApplyTransitionInput} {c c' : Case} {status : SettlementStatus}
    (moved : Moved input c c') (settlement : c.settlement = s.case.settlement)
    (sources : input.trigger.sources = [status]) : s.case.isIn status = true := by
  obtain ⟨old, new, t, found, takes, rfl⟩ := moved
  have source := takes.source
  rw [sources, List.mem_singleton] at source
  rw [settlement] at found
  simp [Case.isIn, found, source]

theorem Asks.isOrdinary {input : ApplyTransitionInput} {trigger : Trigger}
    {patch : List ColumnWrite} {code : Option ExceptionCode} (asks : Asks input trigger patch code)
    (ordinary : trigger.isOrdinary = true) : input.trigger.isOrdinary = true := by
  rw [asks.trigger]
  exact ordinary

theorem StoreMove.exceptions (moved : StoreMove digest read s op s') :
    ExceptionMove read s op s'.case := by
  cases moved with
  | noted audits => exact .still rfl rfl
  | created absent checks => exact .created absent rfl rfl rfl
  | plain answers patch moved =>
    exact exceptionMove_of_moved moved rfl rfl (moved.exceptions.trans rfl)
      (plainList_ordinary _ (mem_plainList _ answers))
  | authorized found asks actor moved =>
    exact exceptionMove_of_moved moved rfl rfl (moved.exceptions.trans rfl)
      (asks.isOrdinary (by decide))
  | dispatched found before version none numbered asks moved fresh =>
    exact exceptionMove_of_moved moved rfl rfl (moved.exceptions.trans rfl)
      (asks.isOrdinary (by decide))
  | @openedException asked row input c found asks answers moved ids single =>
    obtain ⟨old, new, t, found', takes, rfl⟩ := moved
    exact .opened (e := ⟨asked.exceptionId, asked.code, row.status, none, none, none⟩) rfl found
      found' rfl takes asks answers rfl rfl rfl
  | @resolvedException resolve row input c found asks stated before moved =>
    obtain ⟨old, new, t, found', takes, rfl⟩ := moved
    refine .resolved found' rfl takes ?_ ?_ rfl
    · rw [asks.trigger]
      exact resolve.resolution.trigger_isResolution
    · intro e isOpen
      have unresolved := List.find?_some isOpen
      exact unresolved
  | submitted allowed => exact .still rfl rfl
  | @outcome op input a c reports latest trusted permits allowed result =>
    rcases result with rfl | ⟨elsewhere, is | is, moved⟩
    · exact .still rfl rfl
    · refine exceptionMove_of_moved moved rfl rfl (moved.exceptions.trans rfl) ?_
      rw [outcomeTransition_trigger, if_pos is]
      rfl
    · have trigger := outcomeTransition_trigger input a
      rw [is, if_neg (by decide)] at trigger
      refine unrecorded_of_moved moved rfl rfl (moved.exceptions.trans rfl)
        (by rw [trigger]; rfl) ?_
      have inFlight : a.status.isInFlight = true := by
        simpa only [PayoutOutcomeInput.Permits, is] using permits
      have isIn := moved.isIn (s := s) rfl (by rw [trigger]; rfl)
      cases op <;> cases reports <;>
        simp [unattended, isIn, elsewhere, trusted, is, latest, inFlight]
  | swept latest waiting elapsed allowed asks turn =>
    rcases turn with rfl | moved
    · exact .still rfl rfl
    · refine unrecorded_of_moved moved rfl rfl (moved.exceptions.trans rfl)
        (by rw [asks.trigger]; rfl) ?_
      have isIn := moved.isIn (s := s) rfl (by rw [asks.trigger]; rfl)
      simp only [unattended, isIn, latest, Option.any_some, elapsed, Bool.and_true, Bool.true_and]
      simpa using waiting
  | retried latest rejected numbered fresh => exact .still rfl rfl
  | reserved pending allowed asks turn =>
    exact exceptionMove_of_turn turn rfl (turn.exceptions.trans rfl) (asks.isOrdinary (by decide))
  | reservationFailed pending refused asks moved =>
    have isIn := moved.isIn (s := s) rfl (by rw [asks.trigger]; rfl)
    exact unrecorded_of_moved moved rfl rfl (moved.exceptions.trans rfl)
      (by rw [asks.trigger]; rfl) (by simp [unattended, isIn, pending, refused])
  | drawn active asks moved ids single =>
    exact exceptionMove_of_moved moved rfl rfl (moved.exceptions.trans rfl)
      (asks.isOrdinary (by decide))
  | @drawdownResolved input d row r c l latest evaluated followed result =>
    rcases result with rfl | ⟨-, moved⟩
    · exact .still rfl rfl
    · cases target : row.target with
      | confirmed =>
        rw [target] at moved
        exact exceptionMove_of_moved moved rfl rfl (moved.exceptions.trans rfl) rfl
      | failed =>
        rw [target] at moved
        have isIn := moved.isIn (s := s) rfl rfl
        have verified : input.providerEventVerified = true := by
          have asked : Guard.providerEventVerified ∈ Trigger.drawdownFailed.guards := by decide
          simpa [drawdownTransition, List.lookup] using moved.guarded _ asked
        exact unrecorded_of_moved moved rfl rfl (moved.exceptions.trans rfl) rfl
          (by simp [unattended, isIn, latest, evaluated, target, verified])
      | unknown =>
        rw [target] at moved
        have isIn := moved.isIn (s := s) rfl rfl
        exact unrecorded_of_moved moved rfl rfl (moved.exceptions.trans rfl) rfl
          (by simp [unattended, isIn, latest, evaluated, target])
      | requested => exact (drawdown_leaves_requested evaluated target).elim
  | compensated done => exact .still rfl rfl
  | released done => exact .still rfl rfl
  | @operatorResolved ctx resolve old e r c l found isOpen before gave result =>
    rcases result with rfl | ⟨compensation, c, audits, -, moved, rfl⟩
    · exact .still rfl rfl
    · obtain ⟨old, new, t, found', takes, rfl⟩ := moved
      refine .resolved found' rfl takes resolve.resolution.trigger_isResolution ?_ rfl
      intro q isOpen'
      rw [isOpen] at isOpen'
      simp [Option.some.inj isOpen']
  | reconciliationBegun none present checks turn =>
    exact exceptionMove_of_turn turn rfl (turn.exceptions.trans rfl) rfl
  | observationMatched found pending matched => exact .still rfl rfl
  | observationDiffered found pending differed turn =>
    rcases turn with rfl | moved
    · exact .still rfl rfl
    · have isIn := moved.isIn (s := s) rfl rfl
      exact unrecorded_of_moved moved rfl rfl (moved.exceptions.trans rfl) rfl
        (by simp [unattended, isIn, found, pending, differed])
  | reconciliationSwept found pending elapsed turn =>
    rcases turn with rfl | moved
    · exact .still rfl rfl
    · have isIn := moved.isIn (s := s) rfl rfl
      exact unrecorded_of_moved moved rfl rfl (moved.exceptions.trans rfl) rfl
        (by simp [unattended, isIn, found, pending, elapsed])
  | reconciliationResolved found evaluated => exact .still rfl rfl
  | evaluated => exact .still rfl rfl
  | settled gathered final moved =>
    exact exceptionMove_of_moved moved rfl rfl (moved.exceptions.trans rfl) rfl
  | returned opens =>
    have about := openReturn_about opens
    exact .still about.settlement about.exceptions
  | eventReturned latest trusted is applied opens =>
    have about := openReturn_about opens
    rcases applied with ⟨-, -, rfl⟩ | ⟨-, rfl⟩
    · exact .still about.settlement about.exceptions
    · exact .still about.settlement about.exceptions
  | returnEscalated found source => exact .still rfl rfl
  | returnCapped found source => exact .still rfl rfl
  | returnCounted counts => exact .still rfl rfl
  | returnConfirmed counts drawn asked => exact .still rfl rfl
  | returnRejected found source => exact .still rfl rfl
  | returnRepaid found source requested paid => exact .still rfl rfl

end Projection

/-! ### The row of an open exception -/

/-- In EXCEPTION there is one open exception and the settlement records it; elsewhere none. -/
structure Linked (c : Case) : Prop where
  attended : ∀ row, c.settlement = some row → row.status = .exception → ∃ e,
    openExceptions c = [e] ∧ row.openExceptionCode = some e.code ∧
      row.exceptionEnteredFrom = some e.enteredFrom ∧ e.enteredFrom ≠ .exception
  none : (∀ row, c.settlement = some row → row.status ≠ .exception) → openExceptions c = []

section Preserved

variable {read : Reads} {s : Store} {op : SettlementOp} {c' : Case}

theorem Linked.congr {c c' : Case} (held : Linked c) (settlement : c'.settlement = c.settlement)
    (exceptions : c'.exceptions = c.exceptions) : Linked c' := by
  obtain ⟨attended, none⟩ := held
  rw [openExceptions, ← exceptions, ← openExceptions, ← settlement] at attended none
  exact ⟨attended, none⟩

theorem openExceptions_resolved {c : Case} {which : SettlementExceptionRow → Bool} {now : Instant}
    {resolvedBy reason : String} (found : ∀ e ∈ openExceptions c, which e = true) :
    openExceptions (withResolved c which now resolvedBy reason) = [] := by
  refine List.filter_eq_nil_iff.mpr fun e mem => ?_
  rcases Table.mem_setWhere.mp mem with ⟨old, -, -, rfl⟩ | ⟨old, left⟩
  · simp [resolved]
  · intro isOpen
    have picked := found e (List.mem_filter.mpr ⟨old, isOpen⟩)
    rw [left] at picked
    cases picked

theorem openExceptionFor_eq (c : Case) : openExceptionFor c = (openExceptions c).head? := by
  simp [openExceptionFor, openExceptions]

theorem Takes.ordinary {input : ApplyTransitionInput} {t : Transition} {old new : SettlementRow}
    (takes : Takes input t old new) (ordinary : input.trigger.isOrdinary = true) :
    old.status ≠ .exception ∧ new.status ≠ .exception := by
  obtain ⟨notResolution, elsewhere⟩ := ordinary_leadsTo ordinary old.exceptionEnteredFrom
  have before : old.status ≠ .exception := fun is =>
    exception_not_source _ notResolution (is ▸ takes.source)
  refine ⟨before, ?_⟩
  rw [takes.status]
  cases leads : input.trigger.leadsTo old.exceptionEnteredFrom with
  | none => exact before
  | some target => exact fun is => elsewhere (leads.trans (congrArg some is))

/-- A resolution leaves EXCEPTION, where the record it resumes to is not EXCEPTION itself. -/
theorem Takes.resolution {input : ApplyTransitionInput} {t : Transition} {old new : SettlementRow}
    (takes : Takes input t old new) (resolution : input.trigger.isResolution = true)
    {origin : SettlementStatus} (recorded : old.exceptionEnteredFrom = some origin)
    (other : origin ≠ .exception) : old.status = .exception ∧ new.status ≠ .exception := by
  obtain ⟨sources, leads⟩ := resolution_leadsTo resolution old.exceptionEnteredFrom
  have source := takes.source
  rw [sources, List.mem_singleton] at source
  refine ⟨source, ?_⟩
  rw [takes.status]
  rcases leads with ⟨-, leads⟩ | is | is
  · rw [leads, recorded]
    exact other
  · rw [is]
    show SettlementStatus.failed ≠ .exception
    decide
  · rw [is]
    show SettlementStatus.cancelled ≠ .exception
    decide

theorem ExceptionMove.linked (moved : ExceptionMove read s op c') (held : Linked s.case)
    (attends : unattended read s op = false) : Linked c' := by
  cases moved with
  | still settlement exceptions => exact held.congr settlement exceptions
  | created absent row draft exceptions =>
    have closed : openExceptions c' = [] := by
      rw [openExceptions, exceptions]
      exact held.none (by simp [absent])
    refine ⟨fun r is inException => ?_, fun _ => closed⟩
    obtain rfl := Option.some.inj (row.symm.trans is)
    rw [draft] at inException
    cases inException
  | moved found row takes ordinary exceptions =>
    obtain ⟨before, after⟩ := takes.ordinary ordinary
    have closed : openExceptions c' = [] := by
      rw [openExceptions, exceptions]
      exact held.none fun r is => Option.some.inj (found.symm.trans is) ▸ before
    refine ⟨fun r is inException => ?_, fun _ => closed⟩
    obtain rfl := Option.some.inj (row.symm.trans is)
    exact (after inException).elim
  | @opened asked seen old new input t e isOpening read found row takes asks answers origin isOpen
      exceptions =>
    obtain ⟨notResolution, leads⟩ := asked.trigger.opens old.exceptionEnteredFrom
    have before : old.status ≠ .exception := fun is =>
      exception_not_source _ notResolution (is ▸ asks.trigger ▸ takes.source)
    have closed : openExceptions s.case = [] :=
      held.none fun r is => Option.some.inj (found.symm.trans is) ▸ before
    -- The row records the status that was read; it is the one the settlement leaves.
    have current : seen.status = old.status := by
      subst isOpening
      by_contra stale
      have source : old.status ∈ asked.trigger.trigger.sources := asks.trigger ▸ takes.source
      have answered : ∀ guard ∈ asked.trigger.trigger.guards,
          asked.guards.lookup guard = some true := by
        rw [← asks.trigger, ← answers]
        exact takes.guarded
      simp [unattended, found, read, source, stale] at attends
      obtain ⟨guard, asked, unanswered⟩ := attends
      exact unanswered (answered guard asked)
    have only : openExceptions c' = [e] := by
      rw [openExceptions, exceptions, List.filter_append, ← openExceptions, closed]
      simp [isOpen]
    refine ⟨fun r is _ => ?_, fun others => ?_⟩
    · obtain rfl := Option.some.inj (row.symm.trans is)
      refine ⟨e, only, ?_, ?_, ?_⟩
      · rw [takes.openCode, asks.trigger, leads, if_pos rfl, asks.code]
      · rw [takes.enteredFrom, asks.trigger, leads, if_pos rfl, origin, current]
      · rw [origin, current]
        exact before
    · refine (others new row ?_).elim
      rw [takes.status, asks.trigger, leads]
      rfl
  | @resolved input old new t which now resolvedBy reason found row takes resolution picks
      exceptions =>
    have before : old.status = .exception := by
      have source := takes.source
      rwa [(resolution_leadsTo resolution none).1, List.mem_singleton] at source
    obtain ⟨e, only, -, recorded, other⟩ := held.attended old found before
    have closed : openExceptions c' = [] := by
      rw [openExceptions, exceptions]
      refine openExceptions_resolved fun q isOpen => ?_
      rw [only, List.mem_singleton] at isOpen
      exact picks q (by rw [openExceptionFor_eq, only, isOpen, List.head?_cons])
    refine ⟨fun r is inException => ?_, fun _ => closed⟩
    obtain rfl := Option.some.inj (row.symm.trans is)
    exact ((takes.resolution resolution recorded other).2 inException).elim
  | unrecorded _ _ _ _ _ missed =>
    rw [attends] at missed
    cases missed

end Preserved

/-! ### Runs -/

section Runs

variable {digest : AuthorizedInstruction → String} {ops : List WorldOp}

theorem linked_run (steps : Along (World.step digest) Attends World.empty ops)
    (settlementId : String) :
    Linked ((run (World.step digest) World.empty ops).now.cases settlementId) := by
  refine caseInvariant (P := fun _ => Linked) ?_
    (fun _ => ⟨by simp [World.empty, Tenant.empty], fun _ => rfl⟩) steps settlementId
  intro w asOf op s' attends held moved
  exact moved.exceptions.linked held attends

/-- An operator finds the exception of a settlement that has an open one. -/
theorem operator_finds {s s' : Store} {e : SettlementExceptionRow} {ctx : OperatorContext}
    {input : OperatorResolveInput} {r : Except OperatorRefusal OperatorDone}
    (only : openExceptions s.case = [e])
    (done : Commits (resolveExceptionAsOperator ctx input) s r s') :
    r ≠ .error .noOpenException := by
  have isOpen : openExceptionFor s.case = some e := by rw [openExceptionFor_eq, only, List.head?_cons]
  simp only [resolveExceptionAsOperator, requireCapability, bind_assoc, commits_require_bind,
    commits_get_bind, isOpen] at done
  obtain ⟨-, -, done⟩ := done
  split at done
  · rw [(commits_pure.mp done).1]
    simp
  split at done
  · rw [(commits_pure.mp done).1]
    simp
  split at done
  · rw [(commits_pure.mp done).1]
    simp
  obtain ⟨given, s₁, -, done⟩ := commits_bind.mp done
  cases given with
  | error refusal =>
    rw [(commits_pure.mp done).1]
    simp
  | ok compensation =>
    obtain ⟨outcome, s₂, -, done⟩ := commits_bind.mp done
    cases outcome with
    | error failure =>
      rw [(commits_pure.mp done).1]
      simp
    | ok moved =>
      obtain ⟨_, _, -, done⟩ := commits_bind.mp done
      obtain ⟨_, _, -, done⟩ := commits_bind.mp done
      rw [(commits_pure.mp done).1]
      simp

/-- What an operator relies on: a settlement is in EXCEPTION exactly where it has one open
exception, which it records, and resolving it never answers that there is none. -/
structure ExceptionsShown (s : Store) : Prop where
  exactlyOne : ∀ row, s.case.settlement = some row →
    (row.status = .exception ↔ ∃ e, openExceptions s.case = [e])
  recorded : ∀ row e, s.case.settlement = some row → e ∈ openExceptions s.case →
    row.openExceptionCode = some e.code ∧ row.exceptionEnteredFrom = some e.enteredFrom
  found : ∀ row, s.case.settlement = some row → row.status = .exception →
    ∀ ctx input r s', Commits (resolveExceptionAsOperator ctx input) s r s' →
      r ≠ .error .noOpenException

theorem Linked.shown {s : Store} (held : Linked s.case) : ExceptionsShown s := by
  have one : ∀ row, s.case.settlement = some row →
      (row.status = .exception ↔ ∃ e, openExceptions s.case = [e]) := by
    intro row found
    constructor
    · intro inException
      obtain ⟨e, only, -⟩ := held.attended row found inException
      exact ⟨e, only⟩
    · rintro ⟨e, only⟩
      by_contra elsewhere
      have closed := held.none fun r is => Option.some.inj (found.symm.trans is) ▸ elsewhere
      rw [only] at closed
      cases closed
  refine ⟨one, fun row e found isOpen => ?_, fun row found inException ctx input r s' done => ?_⟩
  · have inException : row.status = .exception := by
      by_contra elsewhere
      have closed := held.none fun r is => Option.some.inj (found.symm.trans is) ▸ elsewhere
      rw [closed] at isOpen
      cases isOpen
    obtain ⟨only, is, code, origin, -⟩ := held.attended row found inException
    rw [is, List.mem_singleton] at isOpen
    rw [isOpen]
    exact ⟨code, origin⟩
  · obtain ⟨e, only⟩ := (one row found).mp inException
    exact operator_finds only done

/-- In a run no step of which brings a settlement into EXCEPTION without its row, every settlement
is in EXCEPTION exactly where it has one open exception. -/
theorem exceptions_shown (digest : AuthorizedInstruction → String) (ops : List WorldOp)
    (steps : Along (World.step digest) Attends World.empty ops) (settlementId : String) :
    ExceptionsShown ((run (World.step digest) World.empty ops).now.store settlementId) :=
  (linked_run steps settlementId).shown

/-- The payout's SLA has elapsed and the exception is opened for it. -/
def opening : WorldOp :=
  fresh (.openException {
    settlementId := "s", trigger := .payoutTimeout, code := .payoutStatusUnknown, actor := worker
    guards := [(.railSlaElapsed, true)], exceptionId := "e" })

theorem exceptions_shown_opened :
    ExceptionsShown ((run (World.step fun _ => "hash") World.empty
      (funded ++ [dispatching, opening])).now.store "s") :=
  exceptions_shown _ _ (by decide +kernel) "s"

/-- A rejected payout: the settlement is in EXCEPTION and no row says so. -/
theorem rejected_not_shown :
    ¬ ExceptionsShown ((run (World.step fun _ => "hash") World.empty
      (funded ++ [dispatching, reporting .rejected 7])).now.store "s") := by
  intro shown
  have inException : ((run (World.step fun _ => "hash") World.empty
      (funded ++ [dispatching, reporting .rejected 7])).now.cases "s").settlement.map
      (·.status) = some .exception := by decide +kernel
  have none : openExceptions ((run (World.step fun _ => "hash") World.empty
      (funded ++ [dispatching, reporting .rejected 7])).now.cases "s") = [] := by decide +kernel
  obtain ⟨row, found, status⟩ := Option.map_eq_some_iff.mp inException
  obtain ⟨e, only⟩ := (shown.exactlyOne row found).mp status
  exact List.cons_ne_nil e [] (only.symm.trans none)

end Runs

end InrSettle
