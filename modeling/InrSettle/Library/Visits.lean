import InrSettle.Library.Run

/-!
# Where a run has been

The states that a run has passed through, one after the other, and what is true of the labels taken.
-/

namespace Run

universe u v
variable {σ : Type u} {α : Type v} {step : σ → α → σ} {s : σ}

variable (step s) in
/-- The run has passed through states with the properties, the last of them first. -/
def Visits : List (σ → Prop) → List α → Prop
  | [], _ => True
  | P :: before, labels =>
    ∃ earlier, earlier <+: labels ∧ P (run step s earlier) ∧ Visits before earlier

theorem Visits.extend {places : List (σ → Prop)} {labels later : List α}
    (visits : Visits step s places labels) (isPrefix : labels <+: later) :
    Visits step s places later := by
  cases places with
  | nil => trivial
  | cons P before =>
    obtain ⟨earlier, inside, holds, others⟩ := visits
    exact ⟨earlier, inside.trans isPrefix, holds, others⟩

theorem Visits.here {P : σ → Prop} {places : List (σ → Prop)} {labels : List α}
    (holds : P (run step s labels)) (visits : Visits step s places labels) :
    Visits step s (P :: places) labels :=
  ⟨labels, List.prefix_rfl, holds, visits⟩

theorem Visits.next {places : List (σ → Prop)} {labels : List α}
    (visits : Visits step s places labels) (a : α) : Visits step s places (labels ++ [a]) :=
  visits.extend (List.prefix_append _ _)

/-- What no step undoes holds since the run has been there. -/
theorem Visits.still {P : σ → Prop} (kept : ∀ s a, P s → P (step s a)) {places : List (σ → Prop)}
    {labels : List α} (visits : Visits step s (P :: places) labels) : P (run step s labels) := by
  obtain ⟨earlier, ⟨later, rfl⟩, holds, -⟩ := visits
  rw [run_append]
  exact run_invariant kept holds later

/-- What is true at the start and after each further step is true of every run. -/
theorem history {Q : List α → σ → Prop} (start : Q [] s)
    (next : ∀ labels a, Q labels (run step s labels) →
      Q (labels ++ [a]) (step (run step s labels) a)) (labels : List α) :
    Q labels (run step s labels) := by
  induction labels using List.reverseRecOn with
  | nil => exact start
  | append_singleton labels a ih =>
    rw [run_append, run_cons, run_nil]
    exact next labels a ih

end Run
