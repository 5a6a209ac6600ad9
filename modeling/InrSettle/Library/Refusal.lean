import InrSettle.Library.Transaction

/-!
# Refusals

A transaction may answer with a refusal and commit all the same: what it had written by then
stays. A refusal is clean where it keeps what a view of the store shows.
-/

namespace Transaction

universe u v
variable {σ τ ε ρ α : Type u} {ν : Type v}

/-- A refusal the transaction commits keeps what the view shows. -/
def RefusalKeeps (view : σ → ν) (m : Tx σ ε (Except ρ α)) (s : σ) : Prop :=
  ∀ refusal s', Commits m s (.error refusal) s' → view s' = view s

/-- The condition under which refusals keep the view, and what the call is without it: a refusal
that has changed the view. -/
structure RefusalKeepsExactly (view : σ → ν) (m : Tx σ ε (Except ρ α)) (s : σ)
    (condition : Prop) : Prop where
  kept : condition → RefusalKeeps view m s
  changed : ¬condition → ∀ answer s', Commits m s answer s' →
    (∃ refusal, answer = .error refusal) ∧ view s' ≠ view s

/-- A transaction that answers with a refusal and leaves the view changed. -/
theorem not_refusalKeeps {view : σ → ν} {m : Tx σ ε (Except ρ α)} {s : σ}
    (refusal : ρ) (answered : answer m s = some (.error refusal)) (changed : view (after m s) ≠ view s) :
    ¬RefusalKeeps view m s :=
  fun keeps => changed (keeps refusal _ (answer_some answered))

section Exactly

variable {view : σ → ν} {m : Tx σ ε (Except ρ α)} {s : σ} {condition : Prop}

/-- Of a call that returns at all, the condition is the exact one. -/
theorem RefusalKeepsExactly.iff (exactly : RefusalKeepsExactly view m s condition)
    {answer : Except ρ α} {s' : σ} (returned : Commits m s answer s') :
    RefusalKeeps view m s ↔ condition := by
  refine ⟨fun keeps => ?_, exactly.kept⟩
  by_contra fails
  obtain ⟨⟨refusal, rfl⟩, changed⟩ := exactly.changed fails _ _ returned
  exact changed (keeps _ _ returned)

/-- From what every commit is: one that keeps the view or is no refusal, where the condition holds,
and a refusal that has changed the view, where it fails. -/
theorem refusalKeepsExactly_of_commits
    (commits : ∀ answer s', Commits m s answer s' →
      condition ∧ (view s' = view s ∨ ∃ done, answer = .ok done) ∨
      ¬condition ∧ (∃ refusal, answer = .error refusal) ∧ view s' ≠ view s) :
    RefusalKeepsExactly view m s condition where
  kept holds refusal s' committed := by
    rcases commits _ s' committed with ⟨-, kept | ⟨done, is⟩⟩ | ⟨fails, -⟩
    · exact kept
    · cases is
    · exact (fails holds).elim
  changed fails answer s' committed := by
    rcases commits answer s' committed with ⟨holds, -⟩ | ⟨-, changed⟩
    · exact (fails holds).elim
    · exact changed

/-- A transaction on one part of the store refuses as it does on that part. -/
theorem RefusalKeepsExactly.focus {part : σ → τ} {put : σ → τ → σ} {m : Tx τ ε (Except ρ α)}
    {view : τ → ν} (put_part : ∀ s t, part (put s t) = t)
    (exactly : RefusalKeepsExactly view m (part s) condition) :
    RefusalKeepsExactly (view ∘ part) (focus part put m) s condition where
  kept holds refusal s' committed := by
    obtain ⟨t, inner, rfl⟩ := commits_focus.mp committed
    simp only [Function.comp_apply, put_part]
    exact exactly.kept holds refusal t inner
  changed fails answer s' committed := by
    obtain ⟨t, inner, rfl⟩ := commits_focus.mp committed
    simp only [Function.comp_apply, put_part]
    exact exactly.changed fails answer t inner

end Exactly

end Transaction
