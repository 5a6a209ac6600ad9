import InrSettle.Library.Refusal
import InrSettle.System.OpenExceptions

/-!
# Transitions asked for after a write

A service that writes its own row first and then asks for the transition has every guard
answered by then: all that can refuse it is the status of the settlement.
-/

namespace InrSettle

open Transaction CaseTables

/-! ### Transitions only the status refuses -/

/-- An input with everything of the transition's row answered, at any version. -/
structure ApplyTransitionInput.Answers (input : ApplyTransitionInput) (t : Transition) : Prop where
  row : input.trigger.row = some t
  notResume : t.id ≠ .t22
  unowned : input.patch.filterMap ColumnWrite.machineOwned = []
  anyVersion : input.expectedVersion = none
  guards : ∀ g ∈ t.guards, input.guards.lookup g = some true
  permitted : ∀ offered ∈ input.companions, offered.type ∈ t.permittedCompanions

theorem filter_trigger : ∀ t ∈ transitions,
    (transitions.filter fun u => decide (u.trigger = t.trigger)) = [t] := by decide +kernel

theorem row_mem {trigger : Trigger} {t : Transition} (row : trigger.row = some t) :
    t ∈ transitions ∧ t.trigger = trigger :=
  ⟨List.mem_of_find?_eq_some row, of_decide_eq_true (List.find?_some row :)⟩

theorem ApplyTransitionInput.Answers.evaluated {input : ApplyTransitionInput} {t : Transition}
    (answers : input.Answers t) (status : SettlementStatus)
    (enteredFrom : Option SettlementStatus) :
    evaluateTransition ⟨some status, input.trigger, input.guards, enteredFrom⟩ =
      if status ∈ t.source then .ok t t.target
      else .invalidTransition (some status) input.trigger := by
  obtain ⟨mem, is⟩ := row_mem answers.row
  have only : (transitions.filter fun u =>
      decide (u.trigger = input.trigger) && u.leaves (some status)) =
        if status ∈ t.source then [t] else [] := by
    have swap : (fun u : Transition => decide (u.trigger = input.trigger) &&
        u.leaves (some status)) = fun u => u.leaves (some status) &&
          decide (u.trigger = input.trigger) := funext fun u => Bool.and_comm _ _
    rw [swap, ← List.filter_filter, ← is, filter_trigger t mem]
    by_cases source : status ∈ t.source <;> simp [Transition.leaves, source]
  rw [evaluateTransition]
  simp only [only]
  by_cases source : status ∈ t.source
  · have unanswered : (t.guards.filter fun g => (input.guards.lookup g).isNone) = [] :=
      List.filter_eq_nil_iff.mpr fun g asked => by simp [answers.guards g asked]
    have failed : (t.guards.filter fun g => input.guards.lookup g == some false) = [] :=
      List.filter_eq_nil_iff.mpr fun g asked => by simp [answers.guards g asked]
    simp [source, unanswered, failed, answers.notResume]
  · simp [source]

/-- The transition is taken exactly from the statuses of its row. -/
theorem ApplyTransitionInput.Answers.commits {input : ApplyTransitionInput} {t : Transition}
    {c c' : Case} {r : TransitionOutcome} (answers : input.Answers t)
    (h : Commits (applyTransition input) c r c') :
    (c.settlement.any fun row => decide (row.status ∈ t.source)) = true ∧
        (∃ done, r = .ok done) ∧ Moved input c c' ∨
      (c.settlement.any fun row => decide (row.status ∈ t.source)) = false ∧
        (∃ failure, r = .error failure) ∧ c' = c := by
  rcases applyTransition_moved h with ⟨refused, rfl⟩ | ⟨done, moved⟩
  · refine .inr ⟨?_, refused, rfl⟩
    cases found : c'.settlement with
    | none => rfl
    | some row =>
      by_contra inSource
      have source : row.status ∈ t.source := by simpa using inSource
      have legal : input.companions.filter (fun offered =>
          decide (offered.type ∉ t.permittedCompanions)) = [] := by
        simpa [List.filter_eq_nil_iff] using answers.permitted
      obtain ⟨failure, rfl⟩ := refused
      simp only [applyTransition, answers.unowned, ne_eq, not_true_eq_false, if_false,
        commits_get_bind, found, answers.anyVersion, Option.any_none, Bool.false_eq_true,
        answers.evaluated, source, if_true, legal] at h
      split at h
      · simp only [updateSettlement, audit, bind_assoc, commits_require_bind,
          commits_modify_bind, commits_pure, reduceCtorEq, false_and, and_false] at h
      · simp only [audit, commits_modify_bind, commits_pure, reduceCtorEq, false_and] at h
  · obtain ⟨old, new, u, found, takes, rfl⟩ := moved
    have same : u = t := Option.some.inj (takes.row.symm.trans answers.row)
    subst same
    exact .inl ⟨by simp [found, takes.leaves], done, old, new, u, found, takes, rfl⟩

/-! ### Expected versions -/

/-- The settlement has another version than the input expects. -/
def ApplyTransitionInput.isStale (input : ApplyTransitionInput) (c : Case) : Bool :=
  c.settlement.any fun row => input.expectedVersion.any (· ≠ row.version)

theorem applyTransition_stale {input : ApplyTransitionInput} {c c' : Case} {r : TransitionOutcome}
    (stale : input.isStale c = true) (h : Commits (applyTransition input) c r c') :
    (∃ failure, r = .error failure) ∧ c' = c := by
  rcases applyTransition_moved h with refused | ⟨⟨done, rfl⟩, old, new, t, found, takes, rfl⟩
  · exact refused
  · have stale : input.expectedVersion.any (· ≠ old.version) = true := by
      simpa [ApplyTransitionInput.isStale, found] using stale
    simp only [applyTransition, takes.unowned, ne_eq, not_true_eq_false, if_false, commits_get_bind,
      found] at h
    rw [if_pos (by simpa using stale)] at h
    cases (commits_pure.mp h).1

/-- An input that is not stale is the input at any version. -/
theorem applyTransition_current {input : ApplyTransitionInput} {c c' : Case}
    {r : TransitionOutcome} (current : input.isStale c = false) :
    Commits (applyTransition input) c r c' ↔
      Commits (applyTransition { input with expectedVersion := none }) c r c' := by
  simp only [applyTransition]
  split
  · exact Iff.rfl
  simp only [commits_get_bind]
  cases found : c.settlement with
  | none => exact Iff.rfl
  | some row =>
    have current : input.expectedVersion.any (· ≠ row.version) = false := by
      simpa [ApplyTransitionInput.isStale, found] using current
    simp only [current, Option.any_none, Bool.false_eq_true, if_false]
    exact Iff.rfl

/-- A row of one source status asks whether the settlement is in it. -/
theorem isIn_source {c : Case} {status : SettlementStatus} :
    (c.settlement.any fun row => decide (row.status ∈ [status])) = c.isIn status := by
  cases found : c.settlement <;> simp [Case.isIn, found, beq_eq_decide]

end InrSettle
