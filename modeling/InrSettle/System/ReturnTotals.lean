import InrSettle.System.Returns

/-!
# The total an attempt keeps of its returns

`returned_total_minor` over whole runs, and the one step that leaves it behind.
-/

namespace InrSettle

open Transaction CaseTables Run

/-- Each attempt's total is what its counted returns take back. -/
def TotalsKept (c : Case) : Prop :=
  ∀ a ∈ c.attempts, a.returnedTotalMinor = takenBack c a.id

/-- An escalation of a return that is CONFIRMED. -/
def escalatesConfirmed (w : World) : WorldOp → Bool
  | .settlement _ (.escalateReturn input) =>
    (findReturn (w.now.cases input.settlementId) input.returnId).any (·.status == .confirmed)
  | _ => false

section Kept

variable {c c' : Case} {op : SettlementOp}

theorem ReturnsMove.totalsKept (moved : ReturnsMove op c c') (inOrder : InOrder c)
    (against : Against c) (held : TotalsKept c)
    (undisturbed : ∀ input, op = .escalateReturn input → ∀ r ∈ c.returns, r.id = input.returnId →
      r.status ≠ .confirmed) : TotalsKept c' := by
  intro a mem
  rw [← confirmedSoFar_eq]
  cases moved.attempts inOrder against a mem with
  | kept old _ _ total _ same => rw [total, held _ old, same, confirmedSoFar_eq]
  | lowered _ is current named confirmed _ =>
    exact (undisturbed _ is _ current named confirmed).elim
  | fresh whole nothing => rw [whole, nothing]
  | counted _ _ is total => rw [total, is, totalled]

end Kept

section Runs

variable (digest : AuthorizedInstruction → String)

/-- After every run in which no CONFIRMED return is escalated. -/
theorem totals_kept (ops : List WorldOp)
    (undisturbed : Along (World.step digest) (fun w op => escalatesConfirmed w op = false)
      World.empty ops) (settlementId : String) :
    TotalsKept (caseAfter digest ops settlementId) := by
  have held : ∀ id, ReturnsInOrder (caseAfter digest ops id) ∧
      TotalsKept (caseAfter digest ops id) := by
    refine caseInvariant (P := fun _ c => ReturnsInOrder c ∧ TotalsKept c) ?_
      (fun _ => ⟨returnsInOrder_empty, fun _ mem => by cases mem⟩) undisturbed
    rintro w asOf op s' calm ⟨inOrder, totals⟩ moved
    refine ⟨moved.returnsInOrder inOrder, (moved.returns inOrder.inOrder inOrder.checked).totalsKept
      inOrder.inOrder inOrder.against totals ?_⟩
    rintro input rfl r mem is confirmed
    have found : findReturn (w.now.cases input.settlementId) input.returnId = some r :=
      is ▸ inOrder.against.find mem
    simp [escalatesConfirmed, found, confirmed] at calm
  exact (held settlementId).2

/-- Of a return that is confirmed and never escalated. -/
theorem totals_kept_confirmed :
    TotalsKept (caseAfter (fun _ => "hash")
      (delivered ++ [comingBack "r1" 400, confirming "r1" "p1" (some 400)]) "s") :=
  totals_kept (fun _ => "hash") _ (by decide +kernel) "s"

/-- A confirmed return is escalated: it counts no longer, and the attempt's total stands. -/
theorem total_stands_after_escalation :
    ¬ TotalsKept (caseAfter (fun _ => "hash")
      (delivered ++ [comingBack "r1" 400, confirming "r1" "p1" (some 400), escalating "r1"])
      "s") := by
  unfold TotalsKept
  decide +kernel

end Runs

end InrSettle
