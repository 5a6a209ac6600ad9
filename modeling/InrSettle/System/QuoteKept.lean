import InrSettle.System.Market

/-!
# Operations and the quote a settlement holds

Which operations leave a settlement with the quote it holds: all but attaching a
quote and expiring it, and none but attaching leads to QUOTED.
-/

namespace InrSettle

open Transaction CaseTables

/-- The quote the settlement's row holds. -/
def Case.quoteId (c : Case) : Option String := c.settlement.bind (·.quoteId)

/-! ### Operations that leave the quote alone -/

/-- The settlement holds the quote it held, and is in QUOTED only if it was. -/
def QuoteKept (c c' : Case) : Prop :=
  c'.quoteId = c.quoteId ∧ (c'.status = some .quoted → c.status = some .quoted)

instance : Std.Refl QuoteKept := ⟨fun _ => ⟨rfl, id⟩⟩

instance : IsTrans Case QuoteKept :=
  ⟨fun _ _ _ first second => ⟨second.1.trans first.1, first.2 ∘ second.2⟩⟩

theorem quoteKept_of_settlement {c c' : Case} (same : c'.settlement = c.settlement) :
    QuoteKept c c' := by
  simp [QuoteKept, Case.quoteId, Case.status, same]

/-- The patch does not write the quote. -/
def LeavesQuote (patch : List ColumnWrite) : Prop :=
  ∀ row, (applyPatch patch row).quoteId = row.quoteId

theorem leavesQuote_nil : LeavesQuote [] := fun _ => rfl

theorem leavesQuote_of_eq_nil {patch : List ColumnWrite} (none : patch = []) :
    LeavesQuote patch := by
  rw [none]
  exact leavesQuote_nil

/-- Only attaching a quote leads to QUOTED, and an exception is never entered from there. -/
theorem leadsTo_quoted {trigger : Trigger} {enteredFrom : Option SettlementStatus}
    (resumes : enteredFrom ≠ some .quoted)
    (quoted : trigger.leadsTo enteredFrom = some .quoted) : trigger = .attachQuote := by
  cases trigger <;> first | rfl | exact (resumes quoted).elim | cases quoted

section Transitions

variable {input : ApplyTransitionInput} {t : Transition} {old new : SettlementRow}

theorem Takes.quoteId (takes : Takes input t old new) :
    new.quoteId = (applyPatch input.patch old).quoteId := by
  obtain ⟨version, rfl⟩ := takes.eq
  cases input.trigger.leadsTo old.exceptionEnteredFrom <;> rfl

theorem Takes.quoted (takes : Takes input t old new) (other : input.trigger ≠ .attachQuote)
    (resumes : old.exceptionEnteredFrom ≠ some .quoted) (is : new.status = .quoted) :
    old.status = .quoted := by
  rw [takes.status] at is
  cases leads : input.trigger.leadsTo old.exceptionEnteredFrom with
  | none => rwa [leads] at is
  | some target =>
    rw [leads] at is
    have quoted : target = .quoted := is
    exact (other (leadsTo_quoted resumes (quoted ▸ leads))).elim

end Transitions

/-- An origin the check admits is not QUOTED. -/
theorem ColumnsKept.resumes {c : Case} (columns : ColumnsKept c) :
    ∀ row, c.settlement = some row → row.exceptionEnteredFrom ≠ some .quoted := by
  intro row found is
  exact absurd (origin_of_checked (columns.checked row found) is) (by decide)

section Kept

variable {digest : AuthorizedInstruction → String} {read : Reads} {s s' : Store}
  {op : SettlementOp}

theorem Asks.leavesQuote {input : ApplyTransitionInput} {trigger : Trigger}
    {patch : List ColumnWrite} {code : Option ExceptionCode} (asks : Asks input trigger patch code)
    (leaves : LeavesQuote patch) : LeavesQuote input.patch := by
  rw [asks.patch]
  exact leaves

theorem Asks.unasked {input : ApplyTransitionInput} {trigger : Trigger}
    {patch : List ColumnWrite} {code : Option ExceptionCode} (asks : Asks input trigger patch code)
    (unasked : trigger ∉ plainList) : input.trigger ∉ plainList := by
  rw [asks.trigger]
  exact unasked

theorem Resolution.unasked (resolution : Resolution) : resolution.trigger ∉ plainList := by
  cases resolution <;> decide

theorem ExceptionTrigger.unasked (trigger : ExceptionTrigger) : trigger.trigger ∉ plainList := by
  cases trigger <;> decide

theorem outcomeTransition_unasked (input : PayoutOutcomeInput) (a : PayoutAttemptRow) :
    (outcomeTransition input a).trigger ∉ plainList := by
  rw [outcomeTransition_trigger]
  split <;> decide

theorem drawdownTransition_unasked (input : ResolveDrawdownInput) (target : DrawdownStatus) :
    (drawdownTransition input target).trigger ∉ plainList := by
  cases target <;> simp [drawdownTransition, plainList]

/-- What an operation does to the settlement's row: a transition that no plain operation asks for
leaves the quote. -/
inductive RowTurn (op : SettlementOp) (c c' : Case) : Prop where
  | still : c'.settlement = c.settlement → RowTurn op c c'
  | created {input : CreateInput} : c.settlement = none → c'.settlement = some input.row →
    RowTurn op c c'
  | taken {input : ApplyTransitionInput} {old new : SettlementRow} {t : Transition} :
    c.settlement = some old → c'.settlement = some new → Takes input t old new →
    (input.trigger ∈ op.plainTriggers ∨ input.trigger ∉ plainList ∧ LeavesQuote input.patch) →
    RowTurn op c c'

theorem Moved.rowTurn {input : ApplyTransitionInput} {c c₁ c' : Case} (moved : Moved input c₁ c')
    (settlement : c₁.settlement = c.settlement) (leaves : LeavesQuote input.patch)
    (unasked : input.trigger ∉ plainList) : RowTurn op c c' := by
  obtain ⟨old, new, t, found, takes, rfl⟩ := moved
  exact .taken (settlement.symm.trans found) rfl takes (.inr ⟨unasked, leaves⟩)

theorem Turn.rowTurn {input : ApplyTransitionInput} {c c₁ c' : Case} (turn : Turn input c₁ c')
    (settlement : c₁.settlement = c.settlement) (leaves : LeavesQuote input.patch)
    (unasked : input.trigger ∉ plainList) : RowTurn op c c' := by
  rcases turn with rfl | moved
  · exact .still settlement
  · exact moved.rowTurn settlement leaves unasked

theorem RowTurn.settlement {c c' c'' : Case} (turn : RowTurn op c c')
    (same : c''.settlement = c'.settlement) : RowTurn op c c'' := by
  cases turn with
  | still is => exact .still (same.trans is)
  | created absent is => exact .created absent (same.trans is)
  | taken before after takes asks => exact .taken before (same.trans after) takes asks

theorem StoreMove.rowTurn (moved : StoreMove digest read s op s') :
    RowTurn op s.case s'.case := by
  cases moved with
  | noted audits => exact .still rfl
  | created absent checks => exact .created absent rfl
  | plain answers patch moved =>
    obtain ⟨old, new, t, found, takes, rfl⟩ := moved
    exact .taken found rfl takes (.inl answers)
  | authorized found asks actor moved =>
    exact moved.rowTurn rfl (asks.leavesQuote fun _ => rfl) (asks.unasked (by decide))
  | dispatched found before version none numbered asks moved fresh =>
    exact (moved.rowTurn rfl (asks.leavesQuote fun _ => rfl) (asks.unasked (by decide))).settlement
      rfl
  | openedException found asks answers moved ids single =>
    exact (moved.rowTurn rfl (asks.leavesQuote leavesQuote_nil)
      (asks.unasked (ExceptionTrigger.unasked _))).settlement rfl
  | resolvedException found asks stated before moved =>
    exact (moved.rowTurn rfl (asks.leavesQuote leavesQuote_nil)
      (asks.unasked (Resolution.unasked _))).settlement rfl
  | submitted allowed => exact .still rfl
  | outcome reports latest trusted permits allowed result =>
    rcases result with rfl | ⟨-, -, moved⟩
    · exact .still rfl
    · exact moved.rowTurn rfl (leavesQuote_of_eq_nil (outcomeTransition_patch _ _))
        (outcomeTransition_unasked _ _)
  | swept latest waiting elapsed allowed asks turn =>
    exact turn.rowTurn rfl (asks.leavesQuote leavesQuote_nil) (asks.unasked (by decide))
  | retried latest rejected numbered fresh => exact .still rfl
  | reserved pending allowed asks turn =>
    exact turn.rowTurn rfl (asks.leavesQuote leavesQuote_nil) (asks.unasked (by decide))
  | reservationFailed pending refused asks moved =>
    exact moved.rowTurn rfl (asks.leavesQuote leavesQuote_nil) (asks.unasked (by decide))
  | drawn active asks moved ids single =>
    exact (moved.rowTurn rfl (asks.leavesQuote leavesQuote_nil)
      (asks.unasked (by decide))).settlement rfl
  | drawdownResolved latest evaluated followed result =>
    rcases result with rfl | ⟨-, moved⟩
    · exact .still rfl
    · exact moved.rowTurn rfl (leavesQuote_of_eq_nil (drawdownTransition_ordinary _ _).1)
        (drawdownTransition_unasked _ _)
  | compensated done => exact .still rfl
  | released done => exact .still rfl
  | operatorResolved found isOpen before gave result =>
    rcases result with rfl | ⟨compensation, c, audits, -, moved, rfl⟩
    · exact .still rfl
    · exact (moved.rowTurn rfl leavesQuote_nil (Resolution.unasked _)).settlement rfl
  | reconciliationBegun none present checks turn =>
    exact turn.rowTurn rfl leavesQuote_nil (by simp [BeginInput.transition, plainList])
  | observationMatched found pending matched => exact .still rfl
  | observationDiffered found pending differed turn =>
    exact turn.rowTurn rfl leavesQuote_nil (by simp [ObservationInput.transition, plainList])
  | reconciliationSwept found pending elapsed turn =>
    exact turn.rowTurn rfl leavesQuote_nil
      (by simp [ReconciliationSweepInput.transition, plainList])
  | reconciliationResolved found evaluated => exact .still rfl
  | evaluated => exact .still rfl
  | settled gathered final moved =>
    exact moved.rowTurn rfl (fun _ => rfl) (by simp [EvaluateInput.transition, plainList])
  | returned opens => exact .still (openReturn_about opens).settlement
  | eventReturned latest trusted is applied opens =>
    have about := openReturn_about opens
    rcases applied with ⟨-, -, rfl⟩ | ⟨-, rfl⟩ <;> exact .still about.settlement
  | returnEscalated found source => exact .still rfl
  | returnCapped found source => exact .still rfl
  | returnCounted counts => exact .still rfl
  | returnConfirmed counts drawn asked => exact .still rfl
  | returnRejected found source => exact .still rfl
  | returnRepaid found source requested paid => exact .still rfl

theorem StoreMove.quoteKept (moved : StoreMove digest read s op s')
    (notPlain : op.plainTriggers = []) (columns : ColumnsKept s.case) :
    QuoteKept s.case s'.case := by
  cases moved.rowTurn with
  | still same => exact quoteKept_of_settlement same
  | created absent is =>
    exact ⟨by simp [Case.quoteId, absent, is, CreateInput.row],
      fun quoted => by simp [Case.status, is, CreateInput.row] at quoted⟩
  | taken before after takes asks =>
    obtain ⟨unasked, leaves⟩ := asks.resolve_left (by simp [notPlain])
    rename_i input old new t
    have other : input.trigger ≠ .attachQuote := by
      intro is
      rw [is] at unasked
      exact unasked (by decide)
    refine ⟨?_, fun is => ?_⟩
    · simp [Case.quoteId, before, after, takes.quoteId, leaves old]
    · obtain ⟨row, found, quoted⟩ := Option.map_eq_some_iff.mp is
      obtain rfl := Option.some.inj (after.symm.trans found)
      simp [Case.status, before, takes.quoted other (columns.resumes _ before) quoted]

/-- A refused transition leaves the quote, and so does one whose patch and trigger do. -/
theorem applyTransition_quoteKept {input : ApplyTransitionInput} (trigger : Trigger)
    (asks : input.trigger = trigger) (leaves : LeavesQuote input.patch)
    (other : trigger ≠ .attachQuote) (ordinary : trigger.isResolution = false) :
    Keeps QuoteKept (applyTransition input) := by
  intro c r c' h
  rcases applyTransition_moved h with ⟨-, rfl⟩ | ⟨-, moved⟩
  · exact refl c'
  obtain ⟨old, new, t, found, takes, rfl⟩ := moved
  refine ⟨by simp [Case.quoteId, found, takes.quoteId, leaves old], fun is => ?_⟩
  have status : new.status = .quoted := Option.some.inj is
  rw [takes.status, asks, leadsTo_eq ordinary] at status
  cases leads : trigger.leadsTo none with
  | none =>
    rw [leads] at status
    exact Option.map_eq_some_iff.mpr ⟨old, found, status⟩
  | some target =>
    rw [leads] at status
    have quoted : target = .quoted := status
    exact (other (leadsTo_quoted (by simp) (quoted ▸ leads))).elim

theorem after_quoteKept {α : Type} {m : CaseTx α} (kept : Keeps QuoteKept m) :
    QuoteKept s.case (after (onCase m) s).case := by
  rw [after_onCase_case]
  exact kept.after s.case

theorem requestCancellation_quoteKept (input : CancelInput) :
    Keeps QuoteKept (requestCancellation input) := by
  refine .bind .get fun c => ?_
  split
  · exact .pure _
  split
  · exact .bind (.modify fun _ => quoteKept_of_settlement rfl) fun _ => .pure _
  · exact .bind (applyTransition_quoteKept .requestCancellation rfl (fun _ => rfl) (by decide)
      (by decide)) fun _ => .pure _

/-- Of the operations that write no row but the settlement's, the two about its quote apart. -/
theorem plain_quoteKept (plain : op.plainTriggers ≠ [])
    (apart : .attachQuote ∉ op.plainTriggers) (alive : .quoteExpired ∉ op.plainTriggers) :
    QuoteKept s.case (settlementStep digest read s op).case := by
  cases op with
  | startPreflight settlementId actor =>
    refine after_quoteKept ?_
    unfold startPreflight
    split
    · exact .pure _
    · exact applyTransition_quoteKept .runPreflight rfl leavesQuote_nil (by decide) (by decide)
  | completePreflight input =>
    refine after_quoteKept ?_
    unfold completePreflight
    split
    · exact .pure _
    · refine applyTransition_quoteKept
        (if input.blocking.isEmpty then .preflightPassed else .preflightBlocked) rfl
        leavesQuote_nil ?_ ?_ <;> split <;> decide
  | cancelSettlement input =>
    refine after_quoteKept ?_
    unfold cancelSettlement
    split
    · exact .pure _
    split
    · exact .bind (applyTransition_quoteKept .cancel rfl leavesQuote_nil (by decide) (by decide))
        fun _ => .pure _
    · exact requestCancellation_quoteKept input
  | requestCancellation input => exact after_quoteKept (requestCancellation_quoteKept input)
  | honourCancellation input =>
    refine after_quoteKept ?_
    unfold honourCancellation
    split
    · exact .pure _
    · exact applyTransition_quoteKept .cancellationHonoured rfl leavesQuote_nil (by decide)
        (by decide)
  | beginReservation input =>
    refine Keeps.after (R := fun s s' : Store => QuoteKept s.case s'.case) ?_ s
    refine .bind .get fun _ => ?_
    split
    · exact .pure _
    split
    · exact .pure _
    refine .bind (.focus (applyTransition_quoteKept .beginReservation rfl leavesQuote_nil
      (by decide) (by decide)) fun _ _ kept => kept) fun outcome => ?_
    cases outcome <;> exact .pure _
  | attachQuote => simp [SettlementOp.plainTriggers] at apart
  | expireAttachedQuote => simp [SettlementOp.plainTriggers] at alive
  | _ => exact (plain rfl).elim

end Kept

end InrSettle
