import InrSettle.System.Dispatch

/-!
# The point of no return

Past the mark a settlement only moves among the statuses of a delivery. What can end
one that was dispatched is a resolution that answers its guards from a row read
before the dispatch.
-/

namespace InrSettle

open Transaction Run

/-- The statuses of a settlement past the point of no return. -/
def delivering : List SettlementStatus :=
  [.payoutSubmitted, .payoutConfirmed, .reconciling, .exception, .settled]

/-- Past the mark the settlement is delivering, and an exception it is in was entered there. -/
def PastReturn (c : Case) : Prop :=
  ∀ row, c.settlement = some row → row.pointOfNoReturnAt.isSome = true →
    row.status ∈ delivering ∧ (row.status = .exception →
      row.exceptionEnteredFrom = some .payoutSubmitted ∨
      row.exceptionEnteredFrom = some .reconciling)

/-- A resolution that ends an exception on a row read before the mark that is there now. -/
def staleEnding (w : World) : WorldOp → Bool
  | .settlement asOf (.resolveException input) =>
    input.resolution != .resume && isStated input.reason &&
      ((w.read asOf (.resolveException input)).settlement.any fun row =>
        row.pointOfNoReturnAt.isNone) &&
      ((w.now.cases input.settlementId).settlement.any fun row =>
        row.status == .exception && row.pointOfNoReturnAt.isSome)
  | _ => false

def NoStaleEnding (w : World) (op : WorldOp) : Prop := staleEnding w op = false

instance (w : World) (op : WorldOp) : Decidable (NoStaleEnding w op) :=
  inferInstanceAs (Decidable (_ = _))

/-! ### Moves past the mark -/

theorem delivering_closed : Closed delivering [.payoutSubmitted, .reconciling] where
  leads trigger ordinary := by cases trigger <;> first | decide | cases ordinary
  resumes := by decide

section Preserved

variable {read : Reads} {op : SettlementOp} {c c' : Case}

/-- A transition of a settlement past the mark that does not end it. -/
theorem pastReturn_takes {input : ApplyTransitionInput} {t : Transition} {old new : SettlementRow}
    (takes : Takes input t old new)
    (delivers : old.status ∈ delivering ∧ (old.status = .exception →
      old.exceptionEnteredFrom = some .payoutSubmitted ∨
      old.exceptionEnteredFrom = some .reconciling))
    (notEnding : input.trigger ≠ .resolveFail ∧ input.trigger ≠ .resolveCancel) :
    new.status ∈ delivering ∧ (new.status = .exception →
      new.exceptionEnteredFrom = some .payoutSubmitted ∨
      new.exceptionEnteredFrom = some .reconciling) := by
  have held : StaysIn delivering [.payoutSubmitted, .reconciling] old :=
    ⟨delivers.1, fun is => by simpa using delivers.2 is⟩
  obtain ⟨status, origin⟩ := takes.staysIn delivering_closed held (fun is => (notEnding.1 is).elim)
    fun is => (notEnding.2 is).elim
  exact ⟨status, fun is => by simpa using origin is⟩

theorem PayoutMove.pastReturn (moved : PayoutMove read op c c') (held : PastReturn c)
    (fresh : ∀ resolve row old, op = .resolveException resolve → read.settlement = some row →
      c.settlement = some old → resolve.resolution ≠ .resume → isStated resolve.reason = true →
      row.pointOfNoReturnAt = none → old.status = .exception → old.pointOfNoReturnAt = none) : PastReturn c' := by
  intro row found marked
  cases moved with
  | still settlement => exact held row (settlement ▸ found) marked
  | created _ is before =>
    obtain rfl := Option.some.inj (is.symm.trans found)
    simp [before] at marked
  | @moved input old new t was is takes patch _ ends =>
    obtain rfl := Option.some.inj (is.symm.trans found)
    rw [(takes.keepsMarks patch).1] at marked
    refine pastReturn_takes takes (held old was marked) ?_
    rw [← not_or]
    intro ending
    have unmarked : old.pointOfNoReturnAt = none := by
      rcases ends ending with before | ⟨resolve, stale, rfl, seen, notResume, stated, before⟩
      · exact before
      · refine fresh resolve stale old rfl seen was notResume stated before ?_
        have source := takes.source
        rcases ending with ending | ending <;> rw [ending] at source <;>
          exact List.mem_singleton.mp source
    simp [unmarked] at marked
  | dispatched was is takes asks before =>
    obtain rfl := Option.some.inj (is.symm.trans found)
    have leads : ∀ origin, Trigger.dispatchPayout.leadsTo origin = some .payoutSubmitted :=
      fun _ => rfl
    simp [takes.status, asks.trigger, leads, delivering]
  | updated settlement => exact held row (settlement ▸ found) marked
  | @updatedMoved input old new t _ _ was is takes patch trigger =>
    obtain rfl := Option.some.inj (is.symm.trans found)
    have keeps : KeepsMarks input.patch := patch ▸ keepsMarks_nil
    rw [(takes.keepsMarks keeps).1] at marked
    refine pastReturn_takes takes (held old was marked) ?_
    rcases trigger with is | is | is <;> simp [is]
  | retried _ _ settlement => exact held row (settlement ▸ found) marked

end Preserved

variable {digest : AuthorizedInstruction → String} {ops : List WorldOp}

theorem pastReturn_run (steps : Along (World.step digest) NoStaleEnding World.empty ops)
    (settlementId : String) :
    PastReturn ((run (World.step digest) World.empty ops).now.cases settlementId) := by
  refine caseInvariant (P := fun _ => PastReturn) ?_ (by simp [PastReturn, World.empty, Tenant.empty]) steps settlementId
  intro w asOf op s' allowed held moved
  refine moved.payout.pastReturn held ?_
  rintro resolve row old rfl seen was notResume stated before isException
  have is : (w.now.cases resolve.settlementId).settlement = some old := was
  simpa [NoStaleEnding, staleEnding, seen, is, notResume, stated, before, isException]
    using allowed

/-- What the mark of no return promises of a settlement's rows after `ops`. -/
structure MarkHeld (digest : AuthorizedInstruction → String) (ops : List WorldOp)
    (settlementId : String) : Prop where
  ended : ∀ row, ((run (World.step digest) World.empty ops).now.cases settlementId).settlement =
    some row → row.status = .cancelled ∨ row.status = .failed →
    ((run (World.step digest) World.empty ops).now.cases settlementId).attempts = []
  marked : (mark ((run (World.step digest) World.empty ops).now.cases settlementId)).isSome =
    true ↔ ((run (World.step digest) World.empty ops).now.cases settlementId).attempts ≠ []
  delivers : ∀ row, ((run (World.step digest) World.empty ops).now.cases settlementId).settlement =
    some row → row.pointOfNoReturnAt.isSome = true → row.status ∈ delivering
  kept : ∀ before after at', ops = before ++ after →
    mark ((run (World.step digest) World.empty before).now.cases settlementId) = some at' →
    mark ((run (World.step digest) World.empty ops).now.cases settlementId) = some at'

/-- In a run without a stale ending no cancelled or failed settlement has an attempt, the mark is
set exactly where there is one, stays as it was set, and past it the settlement is delivering. -/
theorem mark_held (digest : AuthorizedInstruction → String) (ops : List WorldOp)
    (steps : Along (World.step digest) NoStaleEnding World.empty ops) (settlementId : String) :
    MarkHeld digest ops settlementId := by
  have marked := (inOrder_run digest ops settlementId).marked
  have delivers := pastReturn_run steps settlementId
  refine ⟨fun row found ended => ?_, marked, fun row found set => (delivers row found set).1, ?_⟩
  · by_contra dispatched
    have set : row.pointOfNoReturnAt.isSome = true := by
      simpa [mark, found] using marked.mpr dispatched
    have mem := (delivers row found set).1
    rcases ended with is | is <;> simp [is, delivering] at mem
  · rintro before after at' rfl set
    rw [run_append]
    exact run_invariant (I := fun w => mark (w.now.cases settlementId) = some at')
      (fun w op held => mark_step digest w op settlementId at' held) set after

/-- A resolution that fails the settlement, decided on what was read `asOf` commits ago. -/
def failing (asOf : Nat) : WorldOp :=
  .settlement asOf (.resolveException {
    settlementId := "s", resolution := .fail, actor := worker, reason := "lost", now := 8 })

/-- A rejected payout, and a resolution that reads the mark and is refused. -/
theorem mark_held_refused :
    MarkHeld (fun _ => "hash") (funded ++ [dispatching, reporting .rejected 7, failing 0]) "s" :=
  mark_held _ _ (by decide +kernel) "s"

/-- The same resolution, started before the dispatch committed: the settlement is FAILED and has
an attempt at the provider. -/
theorem staleEnding_fails_dispatched :
    ¬ MarkHeld (fun _ => "hash") (funded ++ [dispatching, reporting .rejected 7, failing 2]) "s" := by
  intro held
  have failed : ((run (World.step fun _ => "hash") World.empty
      (funded ++ [dispatching, reporting .rejected 7, failing 2])).now.cases "s").settlement.map
      (·.status) = some .failed := by decide +kernel
  have dispatched : ((run (World.step fun _ => "hash") World.empty
      (funded ++ [dispatching, reporting .rejected 7, failing 2])).now.cases "s").attempts ≠ [] := by
    decide +kernel
  obtain ⟨row, found, status⟩ := Option.map_eq_some_iff.mp failed
  exact dispatched (held.ended row found (.inr status))

end InrSettle
