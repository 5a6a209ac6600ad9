import InrSettle.System.Announcing
import InrSettle.System.OperatorRefusals

/-!
# One announcement for one change

The liquidity service announces a release as it makes it. A transition that names the release
again, beside its own event, makes it two; a drawdown that is confirmed while the settlement no
longer waits for it is never announced.
-/

namespace InrSettle

open Transaction CaseTables FundingTables Run

/-! ### Events and rows -/

/-- How often an event of a type was emitted about a settlement. -/
def Tenant.told (t : Tenant) (settlementId : String) (type : EventType) : Nat :=
  (t.cases settlementId).told type + t.liquidity.told type settlementId

/-- A settlement's drawdowns that were confirmed. -/
def Case.confirmedDrawdowns (c : Case) : Nat :=
  c.drawdowns.countP fun d => decide (d.status = .confirmed)

/-- The `reservation_consumed` movements of a settlement's reservations. -/
def consumptionsOf (l : Liquidity) (settlementId : String) : Nat :=
  ((reservationsOf l settlementId).map fun r => l.consumptions r.id).sum

/-- One announcement for each reservation released, each drawdown requested and each confirmed, and
one movement for each reservation consumed. -/
structure EventsExact (t : Tenant) (settlementId : String) : Prop where
  released : t.told settlementId (.companion .reservationReleased) =
    t.liquidity.standing .released settlementId
  consumed : consumptionsOf t.liquidity settlementId = t.liquidity.standing .consumed settlementId
  requested : t.told settlementId (.status .drawdownRequested) =
    (t.cases settlementId).drawdowns.length
  confirmed : t.told settlementId (.status .drawdownConfirmed) =
    (t.cases settlementId).confirmedDrawdowns
  announced : t.told settlementId (.companion .drawdownConfirmed) =
    (t.cases settlementId).confirmedDrawdowns

/-! ### Where they come apart -/

/-- Whether the transition is open to the settlement, with these guards answered. -/
def Case.accepts (c : Case) (trigger : Trigger) (guards : GuardContext) : Bool :=
  c.settlement.any fun row => decide (row.status ∈ trigger.sources) &&
    trigger.guards.all fun g => guards.lookup g == some true

/-- The guards `honourCancellation` answers from the row it read. -/
def honourGuards (row : SettlementRow) : GuardContext :=
  [(.cancellationPending, row.cancellationRequestedAt.isSome), (.atCheckpoint, true),
    (.beforePointOfNoReturn, row.pointOfNoReturnAt.isNone)]

/-- The guards `resolveException` answers from the row it read. -/
def resolveGuards (reason : String) (row : SettlementRow) : GuardContext :=
  [(.resolutionAttributed, isStated reason), (.noValueDelivered, row.pointOfNoReturnAt.isNone),
    (.beforePointOfNoReturn, row.pointOfNoReturnAt.isNone)]

/-- The operation names a release beside a transition it takes: a release it has itself announced,
or one that no reservation moves for. -/
def SettlementOp.namesRelease (read : Reads) (s : Store) : SettlementOp → Bool
  | .honourCancellation input => read.settlement.any fun row =>
      decide (row.status ≠ .authorized) &&
        decide (input.facilityCompensation.getD
          (if row.status = .drawdownConfirmed then .repayment else .release) = .release) &&
        s.case.accepts .cancellationHonoured (honourGuards row)
  | .openException input => input.trigger == .drawdownFailed && read.settlement.isSome &&
      s.case.accepts .drawdownFailed input.guards
  | .resolveException input => read.settlement.any fun row =>
      decide (input.resolution ≠ .resume) &&
        decide (input.facilityCompensation.getD .release = .release) &&
        s.case.accepts input.resolution.trigger (resolveGuards input.reason row)
  | .resolveDrawdown input =>
      (input.move s.case).any (fun moved => decide (moved.2.target = .failed)) && input.lands s
  | .resolveExceptionAsOperator ctx input =>
      (SettlementOp.resolveExceptionAsOperator ctx input).givesBack s
  | _ => false

/-- The operation confirms a drawdown and is refused the transition that announces it. -/
def SettlementOp.confirmsUnheard (s : Store) : SettlementOp → Bool
  | .resolveDrawdown input =>
      (input.move s.case).any (fun moved => decide (moved.2.target = .confirmed)) && !input.lands s
  | _ => false

/-- No step names a release beside a transition, and none confirms a drawdown unheard. -/
def AnnouncesOnce (w : World) : WorldOp → Prop
  | .funding _ => True
  | .settlement asOf op => op.namesRelease (w.read asOf op) (w.now.store op.subject) = false ∧
      op.confirmsUnheard (w.now.store op.subject) = false

instance (w : World) : (op : WorldOp) → Decidable (AnnouncesOnce w op)
  | .funding _ => isTrue trivial
  | .settlement asOf op => inferInstanceAs (Decidable
      (op.namesRelease (w.read asOf op) (w.now.store op.subject) = false ∧
        op.confirmsUnheard (w.now.store op.subject) = false))

/-! ### Transitions that say nothing -/

section Told

variable {input : ApplyTransitionInput} {c c' : Case} {r : TransitionOutcome}

theorem Moved.accepted (moved : Moved input c c') :
    c.accepts input.trigger input.guards = true := by
  obtain ⟨old, new, t, found, takes, -⟩ := moved
  simp only [Case.accepts, found, Option.any_some, Bool.and_eq_true, decide_eq_true_eq,
    List.all_eq_true, beq_iff_eq]
  exact ⟨takes.source, takes.guarded⟩

/-- The trigger's own event is no announcement. -/
def Trigger.isUnannounced (trigger : Trigger) : Bool :=
  (trigger.row.bind (·.statusEvent)).all fun event => decide (.status event ∉ announcements)

theorem tells_zero {type : EventType} (mem : type ∈ announcements)
    (status : input.trigger.isUnannounced = true)
    (companions : ∀ offered ∈ input.companions, EventType.companion offered.type ∉ announcements) :
    input.tells type = 0 := by
  rw [ApplyTransitionInput.tells, List.countP_eq_zero]
  intro told inTold
  rw [decide_eq_true_eq]
  rintro rfl
  rcases List.mem_append.mp inTold with own | companion
  · obtain ⟨event, is, rfl⟩ := List.mem_map.mp own
    have plain := status
    rw [Trigger.isUnannounced, Option.mem_toList.mp is, Option.all_some, decide_eq_true_eq] at plain
    exact plain mem
  · obtain ⟨offered, among, rfl⟩ := List.mem_map.mp companion
    exact companions offered among mem

theorem silent_commit (h : Commits (applyTransition input) c r c')
    (status : input.trigger.isUnannounced = true)
    (companions : Moved input c c' →
      ∀ offered ∈ input.companions, EventType.companion offered.type ∉ announcements) :
    Silent c c' := by
  rcases applyTransition_moved h with ⟨-, rfl⟩ | ⟨-, moved⟩
  · exact refl c'
  · intro type mem
    rw [moved.told, tells_zero mem status (companions moved), Nat.add_zero]

end Told

section Silent

variable {digest : AuthorizedInstruction → String} {read : Reads} {s s' : Store}

theorem honourCancellation_silent {input : HonourInput} {r : TransitionOutcome} {c : Case}
    (quiet : (SettlementOp.honourCancellation input).namesRelease read s = false)
    (h : Commits (honourCancellation read.settlement input) s.case r c) : Silent s.case c := by
  unfold honourCancellation at h
  split at h
  · obtain ⟨-, rfl⟩ := commits_pure.mp h
    exact refl _
  rename_i row found
  have plain : Trigger.cancellationHonoured.isUnannounced = true := by decide
  refine silent_commit h plain fun moved offered mem => ?_
  have accepted : s.case.accepts .cancellationHonoured (honourGuards row) = true := moved.accepted
  simp only at mem
  split at mem
  · cases mem
  rename_i elsewhere
  obtain rfl := List.mem_singleton.mp mem
  have other : input.facilityCompensation.getD
      (if row.status = .drawdownConfirmed then .repayment else .release) ≠ .release := by
    intro is
    simp [SettlementOp.namesRelease, found, elsewhere, is, accepted] at quiet
  dsimp only
  cases is : input.facilityCompensation.getD
      (if row.status = .drawdownConfirmed then .repayment else .release) with
  | release => exact (other is).elim
  | repayment => decide

theorem openException_silent {input : OpenExceptionInput} {r : TransitionOutcome} {c : Case}
    (quiet : (SettlementOp.openException input).namesRelease read s = false)
    (h : Commits (openException read.settlement input) s.case r c) : Silent s.case c := by
  by_cases fails : input.trigger = .drawdownFailed
  · unfold openException at h
    split at h
    · obtain ⟨-, rfl⟩ := commits_pure.mp h
      exact refl _
    rename_i row found
    obtain ⟨outcome, c₁, applied, h⟩ := commits_bind.mp h
    have plain : input.trigger.trigger.isUnannounced = true := by
      rw [fails]
      decide
    have same : Silent s.case c₁ := silent_commit applied plain fun moved => by
      have accepted : s.case.accepts input.trigger.trigger input.guards = true := moved.accepted
      rw [fails] at accepted
      have refuted : s.case.accepts .drawdownFailed input.guards = false := by
        simpa [SettlementOp.namesRelease, found, fails] using quiet
      rw [show ExceptionTrigger.drawdownFailed.trigger = .drawdownFailed from rfl, refuted]
        at accepted
      cases accepted
    refine trans_of Silent same ?_
    cases outcome with
    | error failure =>
      obtain ⟨-, rfl⟩ := commits_pure.mp h
      exact refl _
    | ok done =>
      obtain ⟨_, c₂, inserted, h⟩ := commits_bind.mp h
      obtain ⟨-, rfl⟩ := commits_pure.mp h
      exact Unsaid.silent (unsaid_insertException _ inserted)
  · exact Unsaid.silent (unsaid_openException _ _ (hushed_announcements.opens fails) h)

theorem resolution_unannounced (resolution : Resolution) :
    resolution.trigger.isUnannounced = true := by
  cases resolution <;> decide

theorem resolveException_silent {input : ResolveInput} {r : TransitionOutcome} {c : Case}
    (quiet : (SettlementOp.resolveException input).namesRelease read s = false)
    (h : Commits (resolveException read.settlement input) s.case r c) : Silent s.case c := by
  unfold resolveException at h
  split at h
  · obtain ⟨-, rfl⟩ := commits_pure.mp h
    exact refl _
  rename_i row found
  obtain ⟨outcome, c₁, applied, h⟩ := commits_bind.mp h
  have same : Silent s.case c₁ := by
    refine silent_commit applied (resolution_unannounced _) fun moved offered mem => ?_
    have accepted : s.case.accepts input.resolution.trigger
        (resolveGuards input.reason row) = true := moved.accepted
    simp only at mem
    split at mem
    · cases mem
    rename_i ends
    obtain rfl := List.mem_singleton.mp mem
    have other : input.facilityCompensation.getD .release ≠ .release := by
      intro is
      simp [SettlementOp.namesRelease, found, ends, is, accepted] at quiet
    dsimp only
    cases is : input.facilityCompensation.getD .release with
    | release => exact (other is).elim
    | repayment => decide
  refine trans_of Silent same ?_
  cases outcome with
  | error failure =>
    obtain ⟨-, rfl⟩ := commits_pure.mp h
    exact refl _
  | ok done =>
    obtain ⟨_, c₂, resolved, h⟩ := commits_bind.mp h
    obtain ⟨-, rfl⟩ := commits_pure.mp h
    exact Unsaid.silent (unsaid_resolveExceptions _ _ _ _ resolved)

/-- A compensation that released had an ACTIVE reservation to release. -/
theorem compensateCancellation_holdsActive {input : CompensateInput}
    (h : Commits (compensateCancellation input) s (.ok .reservationReleased) s') :
    holdsActive s input.settlementId = true := by
  simp only [compensateCancellation, commits_get_bind] at h
  split at h
  · cases (commits_pure.mp h).1
  rename_i row found
  split at h
  · cases (commits_pure.mp h).1
  rename_i reservation latest
  split at h
  · rename_i active
    simp [holdsActive, found, latest, active]
  · obtain ⟨repayment, s₁, -, h⟩ := commits_bind.mp h
    cases repayment <;> cases (commits_pure.mp h).1
  · cases (commits_pure.mp h).1
  · cases (commits_pure.mp h).1

theorem resolveExceptionAsOperator_silent {ctx : OperatorContext} {input : OperatorResolveInput}
    {r : Except OperatorRefusal OperatorDone}
    (quiet : (SettlementOp.resolveExceptionAsOperator ctx input).namesRelease read s = false)
    (h : Commits (resolveExceptionAsOperator ctx input) s r s') : Silent s.case s'.case := by
  simp only [resolveExceptionAsOperator, requireCapability, bind_assoc, commits_require_bind,
    commits_get_bind] at h
  obtain ⟨able, valid, h⟩ := h
  split at h
  · obtain ⟨-, rfl⟩ := commits_pure.mp h
    exact refl _
  rename_i settlement found
  split at h
  · obtain ⟨-, rfl⟩ := commits_pure.mp h
    exact refl _
  rename_i open' isOpen
  split at h
  · obtain ⟨-, rfl⟩ := commits_pure.mp h
    exact refl _
  rename_i undelivered
  split at h
  · obtain ⟨-, rfl⟩ := commits_pure.mp h
    exact refl _
  rename_i uncrossed
  obtain ⟨given, s₁, gave, h⟩ := commits_bind.mp h
  have before : s₁.case = s.case := by rw [giveBack_case gave]
  cases given with
  | error why =>
    obtain ⟨-, rfl⟩ := commits_pure.mp h
    rw [before]
    exact refl _
  | ok compensation =>
    obtain ⟨outcome, s₂, ran, h⟩ := commits_bind.mp h
    obtain ⟨c, applied, rfl⟩ := commits_onCase.mp ran
    have same : Silent s.case c := by
      rw [← before]
      refine silent_commit applied (resolution_unannounced _) fun _ offered mem => ?_
      by_cases resumes : input.resolution = .resume
      · simp [OperatorResolveInput.transition, resumes] at mem
      have crosses : settlement.pointOfNoReturnAt = none := by
        cases resolution : input.resolution with
        | resume => exact (resumes resolution).elim
        | fail => simpa [resolution] using undelivered
        | cancel => simpa [resolution] using uncrossed
      have gives := gave
      rw [OperatorResolveInput.giveBack, if_neg resumes] at gives
      cases compensation with
      | none => simp [OperatorResolveInput.transition, resumes, Compensation.companion] at mem
      | repaymentRequested =>
        have is : offered.type = .repaymentRequested := by
          simp [OperatorResolveInput.transition, resumes, Compensation.companion] at mem
          rw [mem]
        rw [is]
        decide
      | reservationReleased =>
        have holds : holdsActive s input.settlementId = true :=
          compensateCancellation_holdsActive gives
        simp [SettlementOp.namesRelease, SettlementOp.givesBack, OperatorResolveInput.ends, resumes,
          able, valid, isOpen, found, crosses, holds] at quiet
    refine trans_of Silent same ?_
    cases outcome with
    | error failure =>
      obtain ⟨-, rfl⟩ := commits_pure.mp h
      exact refl c
    | ok done =>
      obtain ⟨_, s₃, resolving, h⟩ := commits_bind.mp h
      obtain ⟨c', resolved, rfl⟩ := commits_onCase.mp resolving
      obtain ⟨_, s₄, noting, h⟩ := commits_bind.mp h
      obtain ⟨c'', noted, rfl⟩ := commits_onCase.mp noting
      obtain ⟨-, rfl⟩ := commits_pure.mp h
      obtain rfl := commits_modify.mp noted
      have said : Silent _ _ := Unsaid.silent (unsaid_resolveExceptions _ _ _ _ resolved)
      exact trans_of Silent said (silent_of_events rfl)

end Silent

/-! ### Drawdowns -/

/-- Each drawdown requested and each confirmed was announced once, and no release was named. -/
structure CaseExact (c : Case) : Prop where
  released : c.told (.companion .reservationReleased) = 0
  requested : c.told (.status .drawdownRequested) = c.drawdowns.length
  confirmed : c.told (.status .drawdownConfirmed) = c.confirmedDrawdowns
  announced : c.told (.companion .drawdownConfirmed) = c.confirmedDrawdowns

theorem caseExact_empty : CaseExact {} := ⟨rfl, rfl, rfl, rfl⟩

section Drawdowns

variable {digest : AuthorizedInstruction → String} {read : Reads} {s s' : Store}
  {op : SettlementOp} {c c' : Case}

theorem CaseExact.silent (held : CaseExact c) (silent : Silent c c')
    (drawdowns : c'.drawdowns = c.drawdowns) : CaseExact c' where
  released := (silent _ (by decide)).trans held.released
  requested := (silent _ (by decide)).trans (drawdowns ▸ held.requested)
  confirmed := (silent _ (by decide)).trans (by
    rw [held.confirmed, Case.confirmedDrawdowns, Case.confirmedDrawdowns, drawdowns])
  announced := (silent _ (by decide)).trans (by
    rw [held.announced, Case.confirmedDrawdowns, Case.confirmedDrawdowns, drawdowns])

theorem CaseExact.requestsDrawdown {input : DrawInput} {r : FundingResult}
    (held : CaseExact s.case) (h : Commits (requestDrawdown input) s r s') :
    CaseExact s'.case := by
  simp only [requestDrawdown, commits_get_bind] at h
  split at h
  · obtain ⟨-, rfl⟩ := commits_pure.mp h
    exact held
  obtain ⟨outcome, s₁, ran, h⟩ := commits_bind.mp h
  obtain ⟨c, applied, rfl⟩ := commits_onCase.mp ran
  rcases applyTransition_moved applied with ⟨⟨_, rfl⟩, rfl⟩ | ⟨⟨_, rfl⟩, moved⟩
  · obtain ⟨-, rfl⟩ := commits_pure.mp h
    exact held
  have told := moved.told
  have drawdowns := moved.drawdowns
  cases found : activeReservation s.liquidity input.settlementId with
  | none =>
    obtain ⟨old, new, t, -, takes, -⟩ := moved
    have asked : Guard.activeReservationExists ∈ Trigger.requestDrawdown.guards := by decide
    have guard := takes.guarded .activeReservationExists asked
    simp [List.lookup, found] at guard
  | some reservation =>
    simp only [found] at h
    obtain ⟨_, s₂, ran, h⟩ := commits_bind.mp h
    obtain ⟨-, rfl⟩ := commits_pure.mp h
    obtain ⟨c₂, inserted, rfl⟩ := commits_onCase.mp ran
    simp only [CaseTables.insertDrawdown, commits_get_bind, commits_require_bind,
      commits_modify] at inserted
    obtain ⟨-, -, -, -, rfl⟩ := inserted
    have count : ({ c with drawdowns := c.drawdowns ++ [input.row reservation] } :
        Case).confirmedDrawdowns = s.case.confirmedDrawdowns := by
      simp [Case.confirmedDrawdowns, drawdowns, DrawInput.row]
    constructor
    · exact (told _).trans held.released
    · refine (told _).trans ?_
      rw [held.requested]
      simp only [List.length_append, drawdowns]
      rfl
    · exact (told _).trans (held.confirmed.trans count.symm)
    · exact (told _).trans (held.announced.trans count.symm)

/-- An answer that names no release, and confirms no drawdown unheard. -/
theorem CaseExact.resolvesDrawdown {input : ResolveDrawdownInput} {r : FundingResult}
    (held : CaseExact s.case) (once : DrawsOnce s.case)
    (quiet : (SettlementOp.resolveDrawdown input).namesRelease read s = false)
    (heard : (SettlementOp.resolveDrawdown input).confirmsUnheard s = false)
    (h : Commits (resolveDrawdown input) s r s') : CaseExact s'.case := by
  rcases resolveDrawdown_does h with ⟨-, rfl⟩ | ⟨d, row, _, move, latest, evaluated, -, result⟩
  · exact held
  have alone := once.latest latest
  have only : (withDrawdown s.case d.id row.target input.now input.providerReference).drawdowns =
      [movedDrawdown row.target input.now input.providerReference d] := withDrawdown_single alone
  obtain ⟨open', targets⟩ := drawdownMachine_rows evaluated
  have none : s.case.confirmedDrawdowns = 0 := by
    have waiting : d.status ≠ .confirmed := fun is => by
      rw [is] at open'
      cases open'
    simp [Case.confirmedDrawdowns, alone, waiting]
  have one : s.case.drawdowns.length = 1 := by rw [alone]; rfl
  have after : ∀ c : Case, c.drawdowns = [movedDrawdown row.target input.now
      input.providerReference d] →
      c.drawdowns.length = 1 ∧ c.confirmedDrawdowns = if row.target = .confirmed then 1 else 0 := by
    intro c is
    simp [Case.confirmedDrawdowns, is, movedDrawdown]
  rcases result with ⟨lands, -, moved⟩ | ⟨refused, -, stays⟩
  · have told := moved.told
    obtain ⟨length, confirmed⟩ := after _ (moved.drawdowns.trans only)
    have names : row.target ≠ .failed := fun fails => by
      simp [SettlementOp.namesRelease, move, fails, lands] at quiet
    rcases targets with is | is | is
    · rw [is] at told
      constructor
      · exact (told _).trans held.released
      · exact (told _).trans (held.requested.trans (one.trans length.symm))
      · rw [told, confirmed, is]
        exact congrArg (· + 1) (held.confirmed.trans none)
      · rw [told, confirmed, is]
        exact congrArg (· + 1) (held.announced.trans none)
    · exact (names is).elim
    · rw [is] at told
      constructor
      · exact (told _).trans held.released
      · exact (told _).trans (held.requested.trans (one.trans length.symm))
      · rw [told, confirmed, is]
        exact held.confirmed.trans none
      · rw [told, confirmed, is]
        exact held.announced.trans none
  · have unheard : row.target ≠ .confirmed := fun confirms => by
      simp [SettlementOp.confirmsUnheard, move, confirms, refused] at heard
    obtain ⟨length, confirmed⟩ := after s'.case (by rw [stays, only])
    have told : ∀ type, s'.case.told type = s.case.told type := fun type => by
      rw [stays]
      rfl
    rw [if_neg unheard] at confirmed
    exact ⟨(told _).trans held.released,
      (told _).trans (held.requested.trans (one.trans length.symm)),
      (told _).trans (held.confirmed.trans (none.trans confirmed.symm)),
      (told _).trans (held.announced.trans (none.trans confirmed.symm))⟩

theorem HoldsMove.drawdownsKept (moved : HoldsMove read s op s')
    (draws : ∀ input, op ≠ .requestDrawdown input)
    (resolves : ∀ input, op ≠ .resolveDrawdown input) :
    s'.case.drawdowns = s.case.drawdowns := by
  cases moved with
  | still drawdowns => exact drawdowns
  | reserved _ _ _ drawdowns => exact drawdowns
  | drawn is => exact (draws _ is).elim
  | resolved is => exact (resolves _ is).elim
  | released _ _ drawdowns => exact drawdowns
  | asked _ _ drawdowns => exact drawdowns

theorem CaseExact.step (held : CaseExact s.case) (once : DrawsOnce s.case)
    (quiet : op.namesRelease read s = false) (heard : op.confirmsUnheard s = false) :
    CaseExact (settlementStep digest read s op).case := by
  have moved : StoreMove digest read s op (settlementStep digest read s op) :=
    settlementStep_move op
  have kept := moved.holds.drawdownsKept
  cases speaks : op.mayAnnounce with
  | false =>
    refine held.silent (settlementStep_silent speaks) (kept ?_ ?_)
    · rintro input rfl
      cases speaks
    · rintro input rfl
      cases speaks
  | true =>
  cases op with
  | honourCancellation input =>
    refine held.silent ?_ (kept (fun _ is => by cases is) fun _ is => by cases is)
    refine after_induction (P := fun s' : Store => Silent s.case s'.case) (refl _) ?_
    intro r s' done
    obtain ⟨c, inner, rfl⟩ := commits_onCase.mp done
    exact honourCancellation_silent quiet inner
  | openException input =>
    refine held.silent ?_ (kept (fun _ is => by cases is) fun _ is => by cases is)
    refine after_induction (P := fun s' : Store => Silent s.case s'.case) (refl _) ?_
    intro r s' done
    obtain ⟨c, inner, rfl⟩ := commits_onCase.mp done
    exact openException_silent quiet inner
  | resolveException input =>
    refine held.silent ?_ (kept (fun _ is => by cases is) fun _ is => by cases is)
    refine after_induction (P := fun s' : Store => Silent s.case s'.case) (refl _) ?_
    intro r s' done
    obtain ⟨c, inner, rfl⟩ := commits_onCase.mp done
    exact resolveException_silent quiet inner
  | resolveExceptionAsOperator ctx input =>
    refine held.silent ?_ (kept (fun _ is => by cases is) fun _ is => by cases is)
    exact after_induction (P := fun s' : Store => Silent s.case s'.case) (refl _) fun r s' done =>
      resolveExceptionAsOperator_silent quiet done
  | requestDrawdown input =>
    show CaseExact (after (requestDrawdown input) s).case
    exact after_induction (P := fun s' : Store => CaseExact s'.case) held fun _ _ done =>
      held.requestsDrawdown done
  | resolveDrawdown input =>
    show CaseExact (after (resolveDrawdown input) s).case
    exact after_induction (P := fun s' : Store => CaseExact s'.case) held fun _ _ done =>
      held.resolvesDrawdown once quiet heard done
  | _ => cases speaks

end Drawdowns

/-! ### The funding tables -/

section Funding

variable {digest : AuthorizedInstruction → String} {read : Reads} {s s' : Store}
  {op : SettlementOp} {l l' : Liquidity}

theorem Announced.follows {input : ResolveDrawdownInput} {target : DrawdownStatus}
    {r : Except ReservationRefusal PUnit} (announced : Announced l) (books : Books l)
    (h : Commits (followReservation input target) l r l') : Announced l' := by
  unfold followReservation at h
  split at h
  · obtain ⟨_, _, consumed, h⟩ := commits_bind.mp h
    obtain ⟨-, rfl⟩ := commits_pure.mp h
    exact announced.consumes books consumed
  · obtain ⟨_, _, released, h⟩ := commits_bind.mp h
    obtain ⟨-, rfl⟩ := commits_pure.mp h
    exact announced.releases books released
  · obtain ⟨-, rfl⟩ := commits_pure.mp h
    exact announced

/-- A store that announces what it does still does after a commit. -/
def StaysAnnounced (s s' : Store) : Prop := Announced s.liquidity → Announced s'.liquidity

instance : Std.Refl StaysAnnounced := ⟨fun _ => id⟩

instance : IsTrans Store StaysAnnounced := ⟨fun _ _ _ first second => second ∘ first⟩

theorem completeReservation_announced (input : ReserveForInput) (stamp : ReserveStamp) :
    Keeps StaysAnnounced (completeReservation input stamp) := by
  have onCase_announced : ∀ {α : Type} (m : CaseTx α), Keeps StaysAnnounced (onCase m) := by
    intro α m s r s' h
    obtain ⟨c, -, rfl⟩ := commits_onCase.mp h
    exact id
  have locks : Keeps StaysAnnounced (onLiquidity (lockFacility input.facilityId)) := by
    intro s r s' h
    obtain ⟨l, locked, rfl⟩ := commits_onLiquidity.mp h
    exact fun announced => (lockFacility_spec locked).1 ▸ announced
  have reserves : ∀ input : ReserveInput,
      Keeps StaysAnnounced (onLiquidity (reserveLiquidity input)) := by
    intro input s r s' h
    obtain ⟨l, reserved, rfl⟩ := commits_onLiquidity.mp h
    exact fun announced => announced.reserves reserved
  refine .bind locks fun facility => ?_
  cases facility with
  | none => exact .pure _
  | some facility =>
    refine .bind (reserves _) fun reserved => ?_
    cases reserved with
    | error refusal => exact .bind (onCase_announced _) fun _ => .pure _
    | ok reserved =>
      refine .bind (onCase_announced _) fun succeeded => ?_
      cases succeeded <;> exact .pure _

theorem Announced.operation (announced : Announced s.liquidity) (books : Books s.liquidity) :
    Announced (settlementStep digest read s op).liquidity := by
  have moved : StoreMove digest read s op (settlementStep digest read s op) :=
    settlementStep_move op
  cases moved.holds with
  | still _ liquidity => exact liquidity ▸ announced
  | @reserved settlementId stamp input _ is pending =>
    subst is
    have step : settlementStep digest read s (.completeReservation settlementId stamp) =
        after (completeReservation input stamp) s := by
      simp only [settlementStep, pending]
    rw [step]
    exact (completeReservation_announced input stamp).after s announced
  | drawn _ _ _ _ _ _ _ liquidity => exact liquidity ▸ announced
  | resolved _ _ _ _ followed => exact announced.follows books followed
  | released _ done _ => exact announced.releases books done
  | asked _ done _ => exact announced.requests done

end Funding

/-! ### Over a run -/

section Exact

variable {digest : AuthorizedInstruction → String}

/-- The movements of the one reservation a settlement has. -/
theorem consumptionsOf_eq {w : World} (held : ReservationsInOrder w)
    (announced : Announced w.now.liquidity) (settlementId : String) :
    consumptionsOf w.now.liquidity settlementId =
      w.now.liquidity.standing .consumed settlementId := by
  have standing : w.now.liquidity.standing .consumed settlementId =
      (reservationsOf w.now.liquidity settlementId).countP fun r =>
        decide (r.status = .consumed) := by
    rw [reservationsOf, List.countP_filter, Liquidity.standing]
    exact List.countP_congr fun r _ => by simp [and_comm]
  rw [standing, consumptionsOf]
  rcases (held.once settlementId).single with none | ⟨r, one, -⟩
  · rw [none]
    rfl
  · have mem : r ∈ w.now.liquidity.reservations :=
      (mem_reservationsOf.mp (one ▸ List.mem_singleton_self r)).1
    have own : w.now.liquidity.consumed r.id =
        [r].countP fun r => decide (r.status = .consumed) := by
      rw [Liquidity.consumed, ← Table.filter_key_eq_singleton held.funding.books.reservationIds mem,
        List.countP_filter]
      exact List.countP_congr fun q _ => by simp [and_comm]
    rw [one, List.map_singleton, List.sum_singleton, announced.consumed, own]

theorem step_announced (w : World) (op : WorldOp)
    (held : FundingInOrder w.now.liquidity ∧ Announced w.now.liquidity) :
    FundingInOrder (w.step digest op).now.liquidity ∧
      Announced (w.step digest op).now.liquidity := by
  refine ⟨step_fundingInOrder w op held.1, ?_⟩
  cases op with
  | funding op => exact held.2.step held.1.books op.op
  | settlement asOf op =>
    rw [step_liquidity]
    exact Announced.operation held.2 held.1.books

/-- In every run in which no step names a release beside a transition, and none confirms a drawdown
unheard, every release and every drawdown was announced once, and every consumption moved the
ledger once. -/
theorem events_exact (ops : List WorldOp)
    (steps : Along (World.step digest) AnnouncesOnce World.empty ops) (settlementId : String) :
    EventsExact (run (World.step digest) World.empty ops).now settlementId := by
  have order : ReservationsInOrder (run (World.step digest) World.empty ops) :=
    run_invariant (fun w op held => step_reservationsInOrder op held) reservationsInOrder_empty ops
  have announced : Announced (run (World.step digest) World.empty ops).now.liquidity :=
    (run_invariant
      (I := fun w : World => FundingInOrder w.now.liquidity ∧ Announced w.now.liquidity)
      step_announced ⟨fundingInOrder_empty, announced_empty⟩ ops).2
  have held : CaseExact ((run (World.step digest) World.empty ops).now.cases settlementId) := by
    refine (stepInvariant (P := fun _ c => DrawsOnce c ∧ CaseExact c)
      (fun w asOf op allowed held => ?_) (fun _ => ⟨drawsOnce_empty, caseExact_empty⟩) steps
      settlementId).2
    have moved : StoreMove digest (w.read asOf op) (w.now.store op.subject) op _ :=
      settlementStep_move op
    exact ⟨moved.holds.drawsOnce moved.row held.1,
      CaseExact.step held.2 held.1 allowed.1 allowed.2⟩
  have drawdowns := fun type mem other => announced.drawdowns type mem other settlementId
  constructor
  · rw [Tenant.told, held.released, announced.released, Nat.zero_add]
  · exact consumptionsOf_eq order announced settlementId
  · rw [Tenant.told, held.requested, drawdowns _ (by decide) (by decide), Nat.add_zero]
  · rw [Tenant.told, held.confirmed, drawdowns _ (by decide) (by decide), Nat.add_zero]
  · rw [Tenant.told, held.announced, drawdowns _ (by decide) (by decide), Nat.add_zero]

/-- What the settlement holds is given back on its own. -/
def givingBack : WorldOp :=
  fresh (.compensateCancellation ⟨"s", worker, "repayment", "t2", 5⟩)

/-- Of a reservation released by its compensation alone. -/
theorem events_exact_released :
    (run (World.step fun _ => "hash") World.empty (authorizing ++ capacity ++
        [givingBack])).now.told "s" (.companion .reservationReleased) = 1 ∧
      EventsExact (run (World.step fun _ => "hash") World.empty
        (authorizing ++ capacity ++ [givingBack])).now "s" :=
  ⟨by decide +kernel, events_exact _ (by decide +kernel) "s"⟩

/-- A cancellation asked for before the drawdown and honoured there. -/
def honouring : List WorldOp := [
  fresh (.requestCancellation ⟨"s", creator, true, none, 4⟩),
  fresh (.honourCancellation ⟨"s", worker, none⟩)]

/-- A failed drawdown releases one reservation and announces it twice. A cancellation is honoured
with a release that no reservation moved for. A drawdown confirmed after its SLA is not
announced. -/
theorem events_inexact :
    ¬EventsExact (run (World.step fun _ => "hash") World.empty
        (authorizing ++ capacity ++ [drawing, resolving .failed 5])).now "s" ∧
      ¬EventsExact (run (World.step fun _ => "hash") World.empty
        (authorizing ++ capacity ++ honouring)).now "s" ∧
      ¬EventsExact (run (World.step fun _ => "hash") World.empty (authorizing ++ capacity ++
        [drawing, resolving .slaElapsed 5, resolving .pullResolvedConfirmed 6])).now "s" :=
  ⟨fun twice => absurd twice.released (by decide +kernel),
    fun unmoved => absurd unmoved.released (by decide +kernel),
    fun unheard => absurd unheard.announced (by decide +kernel)⟩

end Exact

end InrSettle
