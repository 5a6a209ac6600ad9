import InrSettle.Library.Transaction

/-!
# Two runs of a transaction

Two transactions, each started in a store of its own, go alike when both commit with the
same answer and leave related stores, or neither commits.
-/

namespace Transaction

universe u

variable {σ τ ε ε' α β : Type u} {R : σ → τ → Prop}

def Alike (R : σ → τ → Prop) (m : Tx σ ε α) (s : σ) (m' : Tx τ ε' α) (t : τ) : Prop :=
  (∃ a s' t', Commits m s a s' ∧ Commits m' t a t' ∧ R s' t') ∨
    ((∀ a s', ¬Commits m s a s') ∧ ∀ a t', ¬Commits m' t a t')

section Rules

variable {s : σ} {t : τ}

theorem alike_pure {a : α} (related : R s t) :
    Alike R (pure a : Tx σ ε α) s (pure a : Tx τ ε' α) t :=
  .inl ⟨a, s, t, commits_pure.mpr ⟨rfl, rfl⟩, commits_pure.mpr ⟨rfl, rfl⟩, related⟩

theorem alike_abort {reason : ε} {reason' : ε'} :
    Alike R (abort reason : Tx σ ε α) s (abort reason' : Tx τ ε' α) t :=
  .inr ⟨fun _ _ => commits_abort.mp, fun _ _ => commits_abort.mp⟩

theorem alike_bind {m : Tx σ ε α} {m' : Tx τ ε' α} {f : α → Tx σ ε β} {f' : α → Tx τ ε' β}
    (first : Alike R m s m' t)
    (second : ∀ a s' t', Commits m s a s' → R s' t' → Alike R (f a) s' (f' a) t') :
    Alike R (m >>= f) s (m' >>= f') t := by
  rcases first with ⟨a, s', t', done, done', related⟩ | ⟨none, none'⟩
  · rcases second a s' t' done related with ⟨b, s'', t'', last, last', related⟩ | ⟨none, none'⟩
    · exact .inl ⟨b, s'', t'', commits_bind.mpr ⟨a, s', done, last⟩,
        commits_bind.mpr ⟨a, t', done', last'⟩, related⟩
    · refine .inr ⟨fun b s'' both => ?_, fun b t'' both => ?_⟩
      · obtain ⟨a', u, done₂, last⟩ := commits_bind.mp both
        obtain ⟨rfl, rfl⟩ := commits_unique done done₂
        exact none b s'' last
      · obtain ⟨a', u, done₂, last⟩ := commits_bind.mp both
        obtain ⟨rfl, rfl⟩ := commits_unique done' done₂
        exact none' b t'' last
  · refine .inr ⟨fun b s'' both => ?_, fun b t'' both => ?_⟩
    · obtain ⟨a, u, done, -⟩ := commits_bind.mp both
      exact none a u done
    · obtain ⟨a, u, done, -⟩ := commits_bind.mp both
      exact none' a u done

theorem alike_get_bind {f : σ → Tx σ ε β} {f' : τ → Tx τ ε' β} (rest : Alike R (f s) s (f' t) t) :
    Alike R (get >>= f) s (get >>= f') t := by
  simpa only [Alike, commits_get_bind] using rest

theorem alike_modify {g : σ → σ} {g' : τ → τ} (related : R (g s) (g' t)) :
    Alike R (modify g : Tx σ ε PUnit) s (modify g' : Tx τ ε' PUnit) t :=
  .inl ⟨⟨⟩, g s, g' t, commits_modify.mpr rfl, commits_modify.mpr rfl, related⟩

theorem alike_modify_bind {g : σ → σ} {g' : τ → τ} {f : PUnit → Tx σ ε β}
    {f' : PUnit → Tx τ ε' β} (rest : Alike R (f ⟨⟩) (g s) (f' ⟨⟩) (g' t)) :
    Alike R ((modify g : Tx σ ε PUnit) >>= f) s ((modify g' : Tx τ ε' PUnit) >>= f') t := by
  simpa only [Alike, commits_modify_bind] using rest

theorem alike_require_bind {p q : Prop} [Decidable p] [Decidable q] {reason : ε} {reason' : ε'}
    {f : PUnit → Tx σ ε β} {f' : PUnit → Tx τ ε' β} (same : p ↔ q)
    (rest : p → Alike R (f ⟨⟩) s (f' ⟨⟩) t) :
    Alike R (require p reason >>= f) s (require q reason' >>= f') t := by
  by_cases holds : p
  · simpa only [Alike, commits_require_bind, holds, same.mp holds, true_and] using rest holds
  · exact .inr ⟨fun _ _ done => holds (commits_require_bind.mp done).1,
      fun _ _ done => mt same.mpr holds (commits_require_bind.mp done).1⟩

theorem answer_none {m : Tx σ ε α} (none : ∀ a s', ¬Commits m s a s') : answer m s = Option.none := by
  cases answered : answer m s with
  | none => rfl
  | some a => exact (none a _ (answer_some answered)).elim

/-- Related stores are related after transactions that go alike. -/
theorem Alike.after {m : Tx σ ε α} {m' : Tx τ ε' α} (alike : Alike R m s m' t)
    (related : R s t) : R (Transaction.after m s) (Transaction.after m' t) := by
  rcases alike with ⟨a, s', t', done, done', related'⟩ | ⟨none, none'⟩
  · rw [after_of_commits done, after_of_commits done']
    exact related'
  · rw [after_of_answer_none (answer_none none), after_of_answer_none (answer_none none')]
    exact related

theorem Alike.answer {m : Tx σ ε α} {m' : Tx τ ε' α} (alike : Alike R m s m' t) :
    Transaction.answer m s = Transaction.answer m' t := by
  rcases alike with ⟨a, s', t', done, done', -⟩ | ⟨none, none'⟩
  · rw [answer_of_commits done, answer_of_commits done']
  · rw [answer_none none, answer_none none']

end Rules

end Transaction
