import InrSettle.Service.Transition

/-!
# Turns

What a service's one transition did, said by its trigger: which statuses it left,
which guards were answered, and the columns of the row it wrote.
-/

namespace InrSettle

open Transaction CaseTables

variable {input : ApplyTransitionInput} {t : Transition} {old new : SettlementRow}

theorem Takes.row (takes : Takes input t old new) : input.trigger.row = some t := by
  rw [← takes.answers]
  exact row_of_mem t takes.inTable

theorem Takes.source (takes : Takes input t old new) : old.status ∈ input.trigger.sources := by
  simpa [Trigger.sources, takes.row] using takes.leaves

theorem Takes.guarded (takes : Takes input t old new) :
    ∀ g ∈ input.trigger.guards, input.guards.lookup g = some true := by
  simpa [Trigger.guards, takes.row] using takes.guards

theorem Takes.leadsTo (takes : Takes input t old new) (enteredFrom : Option SettlementStatus) :
    t.leadsTo enteredFrom = input.trigger.leadsTo enteredFrom := by
  have resumes := resumes_iff t takes.inTable
  rw [takes.answers] at resumes
  simp [Transition.leadsTo, Trigger.leadsTo, resumes, takes.row]

/-- The same, by its trigger alone. -/
theorem Takes.eq (takes : Takes input t old new) : ∃ version, new =
    { moveRow (input.trigger.leadsTo old.exceptionEnteredFrom) input.patch input.exceptionCode
        old with version := version } := by
  rw [← takes.leadsTo]
  exact takes.moved

/-! ### The columns of the row -/

section Columns

variable (target : Option SettlementStatus) (patch : List ColumnWrite)
  (code : Option ExceptionCode) (row : SettlementRow)

@[simp] theorem moveRow_id : (moveRow target patch code row).id = (applyPatch patch row).id := by
  cases target <;> rfl

@[simp] theorem moveRow_status :
    (moveRow target patch code row).status = target.getD (applyPatch patch row).status := by
  cases target <;> rfl

@[simp] theorem moveRow_exceptionEnteredFrom :
    (moveRow target patch code row).exceptionEnteredFrom =
      if target = some .exception then some row.status
      else (applyPatch patch row).exceptionEnteredFrom := by
  cases target <;> simp [moveRow]

@[simp] theorem moveRow_openExceptionCode :
    (moveRow target patch code row).openExceptionCode =
      if target = some .exception then code
      else if target.isSome ∧ row.status = .exception then none
      else (applyPatch patch row).openExceptionCode := by
  cases target <;> simp [moveRow]

@[simp] theorem moveRow_pointOfNoReturnAt :
    (moveRow target patch code row).pointOfNoReturnAt =
      (applyPatch patch row).pointOfNoReturnAt := by
  cases target <;> rfl

@[simp] theorem moveRow_payoutAttemptId :
    (moveRow target patch code row).payoutAttemptId = (applyPatch patch row).payoutAttemptId := by
  cases target <;> rfl

@[simp] theorem moveRow_cancellationRequestedAt :
    (moveRow target patch code row).cancellationRequestedAt =
      (applyPatch patch row).cancellationRequestedAt := by
  cases target <;> rfl

@[simp] theorem moveRow_authorizedTerms :
    (moveRow target patch code row).authorizedTerms = (applyPatch patch row).authorizedTerms := by
  cases target <;> rfl

@[simp] theorem moveRow_authorizedTermsHash :
    (moveRow target patch code row).authorizedTermsHash =
      (applyPatch patch row).authorizedTermsHash := by
  cases target <;> rfl

@[simp] theorem moveRow_authorizedAt :
    (moveRow target patch code row).authorizedAt = (applyPatch patch row).authorizedAt := by
  cases target <;> rfl

@[simp] theorem moveRow_authorizedBy :
    (moveRow target patch code row).authorizedBy = (applyPatch patch row).authorizedBy := by
  cases target <;> rfl

@[simp] theorem moveRow_destinationVersionId :
    (moveRow target patch code row).destinationVersionId =
      (applyPatch patch row).destinationVersionId := by
  cases target <;> rfl

end Columns

@[simp] theorem applyPatch_nil (row : SettlementRow) : applyPatch [] row = row := rfl

@[simp] theorem applyPatch_cons (write : ColumnWrite) (patch : List ColumnWrite)
    (row : SettlementRow) : applyPatch (write :: patch) row = applyPatch patch (write.apply row) :=
  rfl

/-! ### The columns the machine owns -/

/-- The machine's columns of a settlement row. -/
structure OwnedColumns where
  status : SettlementStatus
  customerStatus : Option CustomerStatus
  version : Nat
  exceptionEnteredFrom : Option SettlementStatus
  openExceptionCode : Option ExceptionCode
  deriving DecidableEq

def SettlementRow.owned (row : SettlementRow) : OwnedColumns where
  status := row.status
  customerStatus := row.customerStatus
  version := row.version
  exceptionEnteredFrom := row.exceptionEnteredFrom
  openExceptionCode := row.openExceptionCode

/-- A patch no caller is refused for leaves the machine's columns alone. -/
theorem applyPatch_owned {patch : List ColumnWrite}
    (unowned : patch.filterMap ColumnWrite.machineOwned = []) (row : SettlementRow) :
    (applyPatch patch row).owned = row.owned := by
  induction patch generalizing row with
  | nil => rfl
  | cons write rest ih =>
    rw [List.filterMap_cons] at unowned
    split at unowned
    · rename_i free
      have same : (write.apply row).owned = row.owned := by
        cases write <;> first | rfl | cases free
      rw [applyPatch_cons, ih unowned, same]
    · cases unowned

/-- What a transition writes to the machine's columns does not depend on the caller's patch. -/
theorem Takes.owned (takes : Takes input t old new) : new.owned =
    (stampSettlement old (moveRow (t.leadsTo old.exceptionEnteredFrom) [] input.exceptionCode
      old)).owned := by
  have same := applyPatch_owned takes.unowned old
  simp only [SettlementRow.owned, OwnedColumns.mk.injEq] at same
  obtain ⟨status, customer, version, enteredFrom, code⟩ := same
  rw [takes.stamped]
  cases leads : t.leadsTo old.exceptionEnteredFrom with
  | none =>
    simp [stampSettlement, moveRow, SettlementRow.owned, status, customer, version, enteredFrom,
      code]
  | some target =>
    by_cases moves : target = old.status <;>
      simp [stampSettlement, moveRow, SettlementRow.owned, moves, version, enteredFrom, code]

theorem Takes.status (takes : Takes input t old new) :
    new.status = (input.trigger.leadsTo old.exceptionEnteredFrom).getD old.status := by
  obtain ⟨version, rfl⟩ := takes.eq
  have same := congrArg OwnedColumns.status (applyPatch_owned takes.unowned old)
  simp only [SettlementRow.owned] at same
  simp [same]

theorem Takes.enteredFrom (takes : Takes input t old new) :
    new.exceptionEnteredFrom =
      if input.trigger.leadsTo old.exceptionEnteredFrom = some .exception then some old.status
      else old.exceptionEnteredFrom := by
  obtain ⟨version, rfl⟩ := takes.eq
  have same := congrArg OwnedColumns.exceptionEnteredFrom (applyPatch_owned takes.unowned old)
  simp only [SettlementRow.owned] at same
  simp [same]

theorem Takes.openCode (takes : Takes input t old new) :
    new.openExceptionCode =
      if input.trigger.leadsTo old.exceptionEnteredFrom = some .exception then
        input.exceptionCode
      else if (input.trigger.leadsTo old.exceptionEnteredFrom).isSome ∧
        old.status = .exception then none
      else old.openExceptionCode := by
  obtain ⟨version, rfl⟩ := takes.eq
  have same := congrArg OwnedColumns.openExceptionCode (applyPatch_owned takes.unowned old)
  simp only [SettlementRow.owned] at same
  simp [same]

theorem stampSettlement_status (old new : SettlementRow) :
    (stampSettlement old new).status = new.status := by
  obtain ⟨version, stamped⟩ := stampSettlement_eq old new
  rw [stamped]

theorem stampSettlement_version (old new : SettlementRow) :
    (stampSettlement old new).version =
      if new.status = old.status then new.version else old.version + 1 := by
  by_cases same : new.status = old.status <;> simp [stampSettlement, same]

/-- Exactly a change of status moves the version, by one. -/
theorem Takes.version (takes : Takes input t old new) :
    new.version = if new.status = old.status then old.version else old.version + 1 := by
  have kept : ∀ target, (moveRow target [] input.exceptionCode old).version = old.version := by
    intro target
    cases target <;> rfl
  have version := congrArg OwnedColumns.version takes.owned
  have status := congrArg OwnedColumns.status takes.owned
  simp only [SettlementRow.owned, stampSettlement_status, stampSettlement_version, kept]
    at version status
  rw [version, status]

/-- The customer is shown the projection of where the settlement is. -/
theorem Takes.projected (takes : Takes input t old new)
    (before : old.customerStatus = customerStatusColumn old.status old.openExceptionCode) :
    new.customerStatus = customerStatusColumn new.status new.openExceptionCode := by
  have written := takes.owned
  cases leads : t.leadsTo old.exceptionEnteredFrom with
  | none =>
    have same : new.owned = old.owned := by
      rw [written, leads]
      show (stampSettlement old old).owned = old.owned
      simp [stampSettlement]
    simp only [SettlementRow.owned, OwnedColumns.mk.injEq] at same
    rw [same.2.1, same.1, same.2.2.2.2]
    exact before
  | some target =>
    rw [leads] at written
    have columns : ∀ row : SettlementRow, row = stampSettlement old
        (moveRow (some target) [] input.exceptionCode old) →
        row.customerStatus = customerStatusColumn row.status row.openExceptionCode := by
      rintro row rfl
      obtain ⟨version, stamped⟩ := stampSettlement_eq old
        (moveRow (some target) [] input.exceptionCode old)
      rw [stamped]
      cases target <;> simp [moveRow, customerStatusColumn]
    have shown := columns _ rfl
    simp only [SettlementRow.owned, OwnedColumns.mk.injEq] at written
    rw [written.2.1, written.1, written.2.2.2.2]
    exact shown

/-! ### Triggers around EXCEPTION -/

/-- The triggers that end an exception. -/
def Trigger.isResolution : Trigger → Bool
  | resolveResume | resolveFail | resolveCancel => true
  | _ => false

/-- The triggers that lead into EXCEPTION. -/
def Trigger.opens (trigger : Trigger) : Bool :=
  trigger.row.any fun t => t.target == some .exception

/-- The triggers that neither enter EXCEPTION nor leave it. -/
def Trigger.isOrdinary (trigger : Trigger) : Bool := !trigger.opens && !trigger.isResolution

theorem resolution_leadsTo {trigger : Trigger} (is : trigger.isResolution = true)
    (enteredFrom : Option SettlementStatus) : trigger.sources = [.exception] ∧
      (trigger = .resolveResume ∧ trigger.leadsTo enteredFrom = enteredFrom ∨
        trigger = .resolveFail ∨ trigger = .resolveCancel) := by
  cases trigger <;> first | exact ⟨rfl, by simp [Trigger.leadsTo]⟩ | cases is

theorem exception_not_source (trigger : Trigger) (ordinary : trigger.isResolution = false) :
    .exception ∉ trigger.sources := by
  cases trigger <;> first | decide | cases ordinary

/-- Only a resolution looks at where the exception was entered from. -/
theorem leadsTo_eq {trigger : Trigger} (ordinary : trigger.isResolution = false)
    (enteredFrom : Option SettlementStatus) :
    trigger.leadsTo enteredFrom = trigger.leadsTo none := by
  cases trigger <;> first | rfl | cases ordinary

theorem ordinary_leadsTo {trigger : Trigger} (ordinary : trigger.isOrdinary = true)
    (enteredFrom : Option SettlementStatus) :
    trigger.isResolution = false ∧ trigger.leadsTo enteredFrom ≠ some .exception := by
  have notResolution : trigger.isResolution = false := by
    simp only [Trigger.isOrdinary, Bool.and_eq_true, Bool.not_eq_true'] at ordinary
    exact ordinary.2
  refine ⟨notResolution, ?_⟩
  rw [leadsTo_eq notResolution]
  cases trigger <;> first | decide | cases ordinary

/-! ### Statuses a settlement stays in -/

/-- The row is in one of the statuses, and an exception it is in was entered from one of the
origins. -/
structure StaysIn (statuses origins : List SettlementStatus) (row : SettlementRow) : Prop where
  status : row.status ∈ statuses
  origin : row.status = .exception → ∃ origin ∈ origins, row.exceptionEnteredFrom = some origin

/-- No trigger but a resolution leads out of the statuses, exceptions are entered from the origins,
and resuming leads back. -/
structure Closed (statuses origins : List SettlementStatus) : Prop where
  leads : ∀ trigger : Trigger, trigger.isResolution = false → ∀ status ∈ statuses,
    status ∈ trigger.sources → ∀ target, trigger.leadsTo none = some target →
      target ∈ statuses ∧ (target = .exception → status ∈ origins)
  resumes : ∀ origin ∈ origins, origin ∈ statuses ∧ origin ≠ .exception

/-- A transition keeps a row in statuses that are closed, an ending only where they hold its end. -/
theorem Takes.staysIn {statuses origins : List SettlementStatus} (takes : Takes input t old new)
    (closed : Closed statuses origins) (held : StaysIn statuses origins old)
    (fails : input.trigger = .resolveFail → .failed ∈ statuses)
    (cancels : input.trigger = .resolveCancel → .cancelled ∈ statuses) :
    StaysIn statuses origins new := by
  have source := takes.source
  cases resolution : input.trigger.isResolution with
  | true =>
    obtain ⟨sources, ⟨-, leads⟩ | fail | cancel⟩ :=
      resolution_leadsTo resolution old.exceptionEnteredFrom
    · rw [sources, List.mem_singleton] at source
      obtain ⟨origin, mem, entered⟩ := held.origin source
      obtain ⟨inside, other⟩ := closed.resumes origin mem
      have status : new.status = origin := by rw [takes.status, leads, entered]; rfl
      exact ⟨status ▸ inside, fun is => (other (status.symm.trans is)).elim⟩
    · have status : new.status = .failed := by rw [takes.status, fail]; rfl
      exact ⟨status ▸ fails fail, fun is => by rw [status] at is; cases is⟩
    · have status : new.status = .cancelled := by rw [takes.status, cancel]; rfl
      exact ⟨status ▸ cancels cancel, fun is => by rw [status] at is; cases is⟩
  | false =>
    cases leads : input.trigger.leadsTo old.exceptionEnteredFrom with
    | none =>
      have status : new.status = old.status := by rw [takes.status, leads]; rfl
      refine ⟨status ▸ held.status, fun is => ?_⟩
      exact (exception_not_source _ resolution ((status.symm.trans is) ▸ source)).elim
    | some target =>
      have status : new.status = target := by rw [takes.status, leads]; rfl
      obtain ⟨inside, entered⟩ := closed.leads _ resolution _ held.status source target
        (leadsTo_eq resolution _ ▸ leads)
      refine ⟨status ▸ inside, fun is => ⟨old.status, entered (status.symm.trans is), ?_⟩⟩
      rw [takes.enteredFrom, leads, status.symm.trans is]
      rfl

/-! ### Moved cases -/

/-- The settlement moved as the input asks, with its events and its audit row. -/
def Moved (input : ApplyTransitionInput) (c c' : Case) : Prop :=
  ∃ old new t, c.settlement = some old ∧ Takes input t old new ∧
    c' = c.transitioned new (transitionEvents input old t (t.leadsTo old.exceptionEnteredFrom))
      [transitionAudit input old.id]

/-- Every committed transition was refused, or moved the settlement. -/
theorem applyTransition_moved {c c' : Case} {r : TransitionOutcome}
    (h : Commits (applyTransition input) c r c') :
    (∃ failure, r = .error failure) ∧ c' = c ∨ (∃ done, r = .ok done) ∧ Moved input c c' := by
  rcases applyTransition_spec h with ⟨failure, rfl, rfl⟩ | ⟨old, new, t, found, takes, done, rfl⟩
  · exact .inl ⟨⟨failure, rfl⟩, rfl⟩
  · obtain ⟨done, rfl, -⟩ := done
    exact .inr ⟨⟨done, rfl⟩, old, new, t, found, takes, rfl⟩

section Transitioned

variable (c : Case) (row : SettlementRow) (events : List EventRow) (audits : List AuditRow)

@[simp] theorem transitioned_settlement :
    (c.transitioned row events audits).settlement = some row := rfl

@[simp] theorem transitioned_attempts :
    (c.transitioned row events audits).attempts = c.attempts := rfl

@[simp] theorem transitioned_exceptions :
    (c.transitioned row events audits).exceptions = c.exceptions := rfl

@[simp] theorem transitioned_drawdowns :
    (c.transitioned row events audits).drawdowns = c.drawdowns := rfl

@[simp] theorem transitioned_reconciliation :
    (c.transitioned row events audits).reconciliation = c.reconciliation := rfl

@[simp] theorem transitioned_audits :
    (c.transitioned row events audits).audits = c.audits ++ audits := rfl

end Transitioned

end InrSettle
