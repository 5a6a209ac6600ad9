import InrSettle.Store.Case

/-!
# The transition service

The one function that moves a settlement: it locks the row, asks the table, writes
the new status with the caller's patch, and leaves the status event, the companion
events and the audit row in the same transaction.
-/

namespace InrSettle

open Transaction CaseTables

/-! ### The caller's patch -/

/-- One column of a patch and the value it sets. -/
inductive ColumnWrite where
  | status (value : SettlementStatus)
  | customerStatus (value : Option CustomerStatus)
  | version (value : Nat)
  | exceptionEnteredFrom (value : Option SettlementStatus)
  | openExceptionCode (value : Option ExceptionCode)
  | quoteId (value : Option String)
  | destinationId (value : String)
  | destinationVersionId (value : String)
  | authorizedTerms (value : AuthorizedInstruction)
  | authorizedTermsHash (value : String)
  | authorizedAt (value : Instant)
  | authorizedBy (value : String)
  | cancellationRequestedAt (value : Instant)
  | cancellationRequestedBy (value : String)
  | pointOfNoReturnAt (value : Instant)
  | payoutAttemptId (value : String)
  | settledAt (value : Instant)
  | receiptId (value : String)
  deriving DecidableEq

namespace ColumnWrite

/-- `MACHINE_OWNED_COLUMNS`: the name of a column no caller may set. -/
def machineOwned : ColumnWrite → Option String
  | status _ => some "status"
  | customerStatus _ => some "customerStatus"
  | version _ => some "version"
  | exceptionEnteredFrom _ => some "exceptionEnteredFrom"
  | openExceptionCode _ => some "openExceptionCode"
  | _ => none

def apply (s : SettlementRow) : ColumnWrite → SettlementRow
  | status value => { s with status := value }
  | customerStatus value => { s with customerStatus := value }
  | version value => { s with version := value }
  | exceptionEnteredFrom value => { s with exceptionEnteredFrom := value }
  | openExceptionCode value => { s with openExceptionCode := value }
  | quoteId value => { s with quoteId := value }
  | destinationId value => { s with destinationId := some value }
  | destinationVersionId value => { s with destinationVersionId := some value }
  | authorizedTerms value => { s with authorizedTerms := some value }
  | authorizedTermsHash value => { s with authorizedTermsHash := some value }
  | authorizedAt value => { s with authorizedAt := some value }
  | authorizedBy value => { s with authorizedBy := some value }
  | cancellationRequestedAt value => { s with cancellationRequestedAt := some value }
  | cancellationRequestedBy value => { s with cancellationRequestedBy := some value }
  | pointOfNoReturnAt value => { s with pointOfNoReturnAt := some value }
  | payoutAttemptId value => { s with payoutAttemptId := some value }
  | settledAt value => { s with settledAt := some value }
  | receiptId value => { s with receiptId := some value }

end ColumnWrite

def applyPatch (patch : List ColumnWrite) (s : SettlementRow) : SettlementRow :=
  patch.foldl ColumnWrite.apply s

/-! ### Applying a transition -/

inductive TransitionFailure where
  | settlementNotFound
  | protectedField (fields : List String)
  | invalidTransition (source : SettlementStatus) (trigger : Trigger)
  | guardFailed (transition : TransitionId) (failed : List Guard)
  | guardUnanswered (transition : TransitionId) (unanswered : List Guard)
  | resumeTargetUnknown (transition : TransitionId)
  | staleVersion (expected actual : Nat)
  | illegalCompanion (events : List CompanionEvent)
  deriving DecidableEq

def TransitionFailure.wire : TransitionFailure → String
  | settlementNotFound => "settlement_not_found"
  | protectedField _ => "protected_field"
  | invalidTransition .. => "invalid_transition"
  | guardFailed .. => "guard_failed"
  | guardUnanswered .. => "guard_unanswered"
  | resumeTargetUnknown _ => "resume_target_unknown"
  | staleVersion .. => "stale_version"
  | illegalCompanion _ => "illegal_companion"

structure Transitioned where
  transition : TransitionId
  source : SettlementStatus
  target : Option SettlementStatus
  version : Nat
  deriving DecidableEq

/-- `TransitionOutcome`. -/
abbrev TransitionOutcome := Except TransitionFailure Transitioned

structure CompanionEmission where
  type : CompanionEvent
  subjectType : SubjectType
  subjectId : String
  payload : List (String × String) := []
  deriving DecidableEq

structure ApplyTransitionInput where
  trigger : Trigger
  actor : PrincipalRef
  guards : GuardContext
  expectedVersion : Option Nat := none
  companions : List CompanionEmission := []
  patch : List ColumnWrite := []
  statusEventPayload : List (String × String) := []
  exceptionCode : Option ExceptionCode := none
  reason : Option String := none
  deriving DecidableEq

/-- The row a transition writes: the patch, and the columns the machine owns. -/
def moveRow (target : Option SettlementStatus) (patch : List ColumnWrite)
    (code : Option ExceptionCode) (old : SettlementRow) : SettlementRow :=
  match target with
  | none => applyPatch patch old
  | some status =>
    { applyPatch patch old with
      status := status
      customerStatus := customerStatusColumn status (if status = .exception then code else none)
      exceptionEnteredFrom := if status = .exception then some old.status
        else (applyPatch patch old).exceptionEnteredFrom
      openExceptionCode := if status = .exception then code
        else if old.status = .exception then none
        else (applyPatch patch old).openExceptionCode }

def statusEventOf (input : ApplyTransitionInput) (current : SettlementRow) (t : Transition)
    (target : Option SettlementStatus) (event : SettlementStatusEvent) : EventRow where
  type := .status event
  subjectType := .settlement
  subjectId := current.id
  actor := input.actor
  payload := [("transition", t.id.wire), ("from", current.status.wire),
    ("to", (target.map (·.wire)).getD "null")] ++ input.statusEventPayload

def CompanionEmission.event (companion : CompanionEmission) (actor : PrincipalRef) :
    EventRow where
  type := .companion companion.type
  subjectType := companion.subjectType
  subjectId := companion.subjectId
  actor := actor
  payload := companion.payload

/-- The status event, where there is one, and then the companions. -/
def transitionEvents (input : ApplyTransitionInput) (current : SettlementRow) (t : Transition)
    (target : Option SettlementStatus) : List EventRow :=
  t.statusEvent.toList.map (statusEventOf input current t target) ++
    input.companions.map fun companion => companion.event input.actor

def applyTransition (input : ApplyTransitionInput) : CaseTx TransitionOutcome := do
  let trespassing := input.patch.filterMap ColumnWrite.machineOwned
  if trespassing ≠ [] then return .error (.protectedField trespassing)
  else
    let c ← get
    match c.settlement with
    | none => return .error .settlementNotFound
    | some current =>
      if input.expectedVersion.any (· ≠ current.version) then
        return .error (.staleVersion (input.expectedVersion.getD 0) current.version)
      else match evaluateTransition ⟨some current.status, input.trigger, input.guards,
          current.exceptionEnteredFrom⟩ with
      | .invalidTransition .. => return .error (.invalidTransition current.status input.trigger)
      | .guardFailed transition failed => return .error (.guardFailed transition failed)
      | .guardUnanswered transition unanswered =>
        return .error (.guardUnanswered transition unanswered)
      | .resumeTargetUnknown transition => return .error (.resumeTargetUnknown transition)
      | .ok t target =>
        let illegal := input.companions.filter fun offered =>
          decide (offered.type ∉ t.permittedCompanions)
        if illegal ≠ [] then return .error (.illegalCompanion (illegal.map (·.type)))
        else
          if target.isSome ∨ input.patch ≠ [] then
            updateSettlement current (moveRow target input.patch input.exceptionCode current)
          modify fun c => { c with
            events := c.events ++ transitionEvents input current t target }
          audit {
            actor := input.actor
            action := s!"settlement.{input.trigger.wire}"
            subjectType := .settlement
            subjectId := current.id
            reason := input.reason }
          return .ok {
            transition := t.id
            source := current.status
            target := target
            version := if target.isSome then current.version + 1 else current.version }

structure CreateInput where
  settlementId : String
  beneficiaryId : String
  destinationId : Option String := none
  recipientAmountMinor : Int
  fundingCurrency : String
  purposeCode : Option String := none
  replacesSettlementId : Option String := none
  actor : PrincipalRef
  deriving DecidableEq

def CreateInput.row (input : CreateInput) : SettlementRow where
  id := input.settlementId
  beneficiaryId := input.beneficiaryId
  destinationId := input.destinationId
  recipientAmountMinor := input.recipientAmountMinor
  fundingCurrency := input.fundingCurrency
  purposeCode := input.purposeCode
  replacesSettlementId := input.replacesSettlementId
  status := .draft
  createdBy := input.actor.id

/-- T01. -/
def createSettlement (input : CreateInput) : CaseTx String := do
  insertSettlement input.row
  emit {
    type := .status .created
    subjectType := .settlement
    subjectId := input.settlementId
    actor := input.actor
    payload := [("transition", "T01"), ("to", "DRAFT")] }
  audit {
    actor := input.actor
    action := "settlement.create"
    subjectType := .settlement
    subjectId := input.settlementId }
  return input.settlementId

/-! ### What a transition did -/

/-- A settlement's rows after a transition: the settlement row replaced, events and audit rows
appended. -/
def Case.transitioned (c : Case) (row : SettlementRow) (events : List EventRow)
    (audits : List AuditRow) : Case :=
  { c with
    settlement := some row
    events := c.events ++ events
    audits := c.audits ++ audits }

/-- What was checked before a settlement moved, and where it moved. -/
structure Takes (input : ApplyTransitionInput) (t : Transition) (old new : SettlementRow) :
    Prop where
  unowned : input.patch.filterMap ColumnWrite.machineOwned = []
  inTable : t ∈ transitions
  answers : t.trigger = input.trigger
  leaves : old.status ∈ t.source
  guards : ∀ g ∈ t.guards, input.guards.lookup g = some true
  written : (t.leadsTo old.exceptionEnteredFrom).isSome ∨ input.patch ≠ [] →
    settlementMayBecome old (moveRow (t.leadsTo old.exceptionEnteredFrom) input.patch
      input.exceptionCode old) = true ∧
    settlementChecks (moveRow (t.leadsTo old.exceptionEnteredFrom) input.patch
      input.exceptionCode old) = true
  stamped : new = stampSettlement old
    (moveRow (t.leadsTo old.exceptionEnteredFrom) input.patch input.exceptionCode old)

theorem stampSettlement_eq (old new : SettlementRow) :
    ∃ version, stampSettlement old new = { new with version := version } := by
  unfold stampSettlement
  split
  · exact ⟨_, rfl⟩
  · exact ⟨_, rfl⟩

/-- The row a taken transition writes, up to its version. -/
theorem Takes.moved {input : ApplyTransitionInput} {t : Transition} {old new : SettlementRow}
    (takes : Takes input t old new) : ∃ version, new =
      { moveRow (t.leadsTo old.exceptionEnteredFrom) input.patch input.exceptionCode old with
        version := version } :=
  takes.stamped ▸ stampSettlement_eq _ _

/-- The audit row every transition leaves. -/
def transitionAudit (input : ApplyTransitionInput) (settlementId : String) : AuditRow where
  actor := input.actor
  action := s!"settlement.{input.trigger.wire}"
  subjectType := .settlement
  subjectId := settlementId
  reason := input.reason

theorem applyTransition_spec {input : ApplyTransitionInput} {c c' : Case} {r : TransitionOutcome}
    (h : Commits (applyTransition input) c r c') :
    (∃ failure, r = .error failure ∧ c' = c) ∨
      ∃ old new t, c.settlement = some old ∧ Takes input t old new ∧
        (∃ done, r = .ok done ∧ done.transition = t.id) ∧
        c' = c.transitioned new (transitionEvents input old t (t.leadsTo old.exceptionEnteredFrom))
          [transitionAudit input old.id] := by
  unfold applyTransition at h
  simp only at h
  split at h
  · exact .inl ⟨_, commits_pure.mp h⟩
  rename_i unowned
  have unowned := not_not.mp unowned
  simp only [commits_get_bind] at h
  cases found : c.settlement with
  | none =>
    simp only [found] at h
    exact .inl ⟨_, commits_pure.mp h⟩
  | some current =>
    simp only [found] at h
    split at h
    · exact .inl ⟨_, commits_pure.mp h⟩
    split at h
    · exact .inl ⟨_, commits_pure.mp h⟩
    · exact .inl ⟨_, commits_pure.mp h⟩
    · exact .inl ⟨_, commits_pure.mp h⟩
    · exact .inl ⟨_, commits_pure.mp h⟩
    rename_i t target evaluated
    obtain ⟨inTable, answers, leaves, guards, rfl, -⟩ := evaluateTransition_ok evaluated
    simp only [Transition.leaves, decide_eq_true_eq] at leaves
    split at h
    · exact .inl ⟨_, commits_pure.mp h⟩
    right
    by_cases writes : (t.leadsTo current.exceptionEnteredFrom).isSome ∨ input.patch ≠ []
    · rw [if_pos writes] at h
      simp only [updateSettlement, audit, bind_assoc, commits_require_bind, commits_modify_bind,
        commits_pure] at h
      obtain ⟨mayBecome, checks, rfl, rfl⟩ := h
      exact ⟨current, _, t, rfl,
        ⟨unowned, inTable, answers, leaves, guards, fun _ => ⟨mayBecome, checks⟩, rfl⟩,
        ⟨_, rfl, rfl⟩, rfl⟩
    · rw [if_neg writes] at h
      simp only [audit, commits_modify_bind, commits_pure] at h
      obtain ⟨rfl, rfl⟩ := h
      obtain ⟨noTarget, noPatch⟩ := not_or.mp writes
      simp only [Bool.not_eq_true, Option.isSome_eq_false_iff, Option.isNone_iff_eq_none,
        not_not] at noTarget noPatch
      refine ⟨current, current, t, rfl,
        ⟨unowned, inTable, answers, leaves, guards, fun h => (writes h).elim, ?_⟩,
        ⟨_, rfl, rfl⟩, ?_⟩
      · simp [noTarget, noPatch, moveRow, applyPatch, stampSettlement]
      · simp [Case.transitioned, transitionAudit, found]

end InrSettle
