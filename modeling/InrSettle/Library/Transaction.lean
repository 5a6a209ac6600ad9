import Mathlib

/-!
# Transactions over a store

A transaction reads and writes a store and either commits, with a value and the
store it leaves, or aborts. An aborted transaction leaves nothing behind: what
it had written so far is not part of the result.
-/

namespace Transaction

universe u

/-- A computation over a store that may abort with a reason. -/
abbrev Tx (σ ε : Type u) := StateT σ (Except ε)

variable {σ τ ε α β : Type u}

/-- The transaction `m`, started in `s`, commits with value `a` and leaves `s'`. -/
def Commits (m : Tx σ ε α) (s : σ) (a : α) (s' : σ) : Prop :=
  m.run s = .ok (a, s')

def abort (reason : ε) : Tx σ ε α :=
  fun _ => .error reason

/-- Abort unless the condition holds. -/
def require (p : Prop) [Decidable p] (reason : ε) : Tx σ ε PUnit :=
  if p then pure ⟨⟩ else abort reason

/-- Run a transaction on one part of a larger store. -/
def focus (part : σ → τ) (put : σ → τ → σ) (m : Tx τ ε α) : Tx σ ε α :=
  fun s => match m.run (part s) with
    | .ok (a, t) => .ok (a, put s t)
    | .error reason => .error reason

/-- The store after the transaction: what it committed, or the store it started in. -/
def after (m : Tx σ ε α) (s : σ) : σ :=
  match m.run s with
  | .ok (_, s') => s'
  | .error _ => s

/-- What the transaction answered, where it committed. -/
def answer (m : Tx σ ε α) (s : σ) : Option α :=
  match m.run s with
  | .ok (a, _) => some a
  | .error _ => none

/-! ### What a committed transaction did -/

@[simp] theorem commits_pure {a b : α} {s s' : σ} :
    Commits (pure a : Tx σ ε α) s b s' ↔ b = a ∧ s' = s := by
  simp [Commits, pure, StateT.pure, Except.pure, StateT.run, eq_comm]

theorem commits_bind {m : Tx σ ε α} {f : α → Tx σ ε β} {s s' : σ} {b : β} :
    Commits (m >>= f) s b s' ↔ ∃ a t, Commits m s a t ∧ Commits (f a) t b s' := by
  simp only [Commits, StateT.run_bind]
  cases m.run s with
  | error reason => simp [bind, Except.bind]
  | ok result =>
    simp only [bind, Except.bind, Except.ok.injEq]
    exact ⟨fun h => ⟨_, _, rfl, h⟩, fun ⟨_, _, e, h⟩ => by subst e; exact h⟩

@[simp] theorem commits_get {s s' t : σ} :
    Commits (get : Tx σ ε σ) s t s' ↔ t = s ∧ s' = s := by
  simp [Commits, get, getThe, MonadStateOf.get, StateT.get, StateT.run, pure, Except.pure,
    eq_comm]

@[simp] theorem commits_modify {f : σ → σ} {s s' : σ} {a : PUnit} :
    Commits (modify f : Tx σ ε PUnit) s a s' ↔ s' = f s := by
  simp [Commits, modify, modifyGet, MonadStateOf.modifyGet, StateT.modifyGet, StateT.run, pure,
    Except.pure, eq_comm]

@[simp] theorem commits_abort {reason : ε} {s s' : σ} {a : α} :
    Commits (abort reason : Tx σ ε α) s a s' ↔ False := by
  simp [Commits, abort, StateT.run]

@[simp] theorem commits_require {p : Prop} [Decidable p] {reason : ε} {s s' : σ} {a : PUnit} :
    Commits (require p reason : Tx σ ε PUnit) s a s' ↔ p ∧ s' = s := by
  unfold require
  by_cases h : p <;> simp [h]

theorem commits_ite {p : Prop} [Decidable p] {m n : Tx σ ε α} {s s' : σ} {a : α} :
    Commits (if p then m else n) s a s' ↔ p ∧ Commits m s a s' ∨ ¬p ∧ Commits n s a s' := by
  by_cases h : p <;> simp [h]

theorem commits_focus {part : σ → τ} {put : σ → τ → σ} {m : Tx τ ε α} {s s' : σ} {a : α} :
    Commits (focus part put m) s a s' ↔ ∃ t, Commits m (part s) a t ∧ s' = put s t := by
  simp only [Commits, focus, StateT.run]
  cases m (part s) with
  | error reason => simp
  | ok result => simp [Prod.ext_iff, and_assoc, eq_comm]

theorem commits_map {m : Tx σ ε α} {g : α → β} {s s' : σ} {b : β} :
    Commits (g <$> m) s b s' ↔ ∃ a, Commits m s a s' ∧ b = g a := by
  simp only [map_eq_pure_bind, commits_bind, commits_pure]
  exact ⟨fun ⟨a, t, ran, e, same⟩ => ⟨a, same ▸ ran, e⟩, fun ⟨a, ran, e⟩ => ⟨a, s', ran, e, rfl⟩⟩

section Sequencing

variable {f : α → Tx σ ε β} {s s' : σ} {b : β}

@[simp] theorem commits_pure_bind {a : α} :
    Commits ((pure a : Tx σ ε α) >>= f) s b s' ↔ Commits (f a) s b s' := by
  rw [pure_bind]

@[simp] theorem commits_get_bind {g : σ → Tx σ ε β} :
    Commits ((get : Tx σ ε σ) >>= g) s b s' ↔ Commits (g s) s b s' := by
  simp [commits_bind]

@[simp] theorem commits_modify_bind {w : σ → σ} {g : PUnit → Tx σ ε β} :
    Commits ((modify w : Tx σ ε PUnit) >>= g) s b s' ↔ Commits (g ⟨⟩) (w s) b s' := by
  simp only [commits_bind, commits_modify]
  exact ⟨fun ⟨⟨⟩, _, e, h⟩ => e ▸ h, fun h => ⟨⟨⟩, _, rfl, h⟩⟩

@[simp] theorem commits_require_bind {p : Prop} [Decidable p] {reason : ε}
    {g : PUnit → Tx σ ε β} :
    Commits ((require p reason : Tx σ ε PUnit) >>= g) s b s' ↔ p ∧ Commits (g ⟨⟩) s b s' := by
  simp only [commits_bind, commits_require]
  exact ⟨fun ⟨⟨⟩, _, ⟨hp, e⟩, h⟩ => ⟨hp, e ▸ h⟩, fun ⟨hp, h⟩ => ⟨⟨⟩, _, ⟨hp, rfl⟩, h⟩⟩

@[simp] theorem commits_abort_bind {reason : ε} :
    Commits ((abort reason : Tx σ ε α) >>= f) s b s' ↔ False := by
  simp [commits_bind]

end Sequencing

/-- Either the transaction committed, or the store is as it was. -/
theorem after_cases (m : Tx σ ε α) (s : σ) :
    (∃ a, Commits m s a (after m s)) ∨ after m s = s := by
  unfold Commits after
  cases m.run s with
  | error reason => exact .inr rfl
  | ok result => exact .inl ⟨result.1, rfl⟩

/-- What holds before the transaction and after each commit of it holds after the transaction. -/
theorem after_induction {P : σ → Prop} {m : Tx σ ε α} {s : σ} (unchanged : P s)
    (committed : ∀ a s', Commits m s a s' → P s') : P (after m s) := by
  rcases after_cases m s with ⟨a, done⟩ | same
  · exact committed a _ done
  · rw [same]
    exact unchanged

theorem after_of_commits {m : Tx σ ε α} {s s' : σ} {a : α} (h : Commits m s a s') :
    after m s = s' := by
  simp only [Commits] at h
  simp only [after, h]

theorem part_after_focus {part : σ → τ} {put : σ → τ → σ} (put_part : ∀ s t, part (put s t) = t)
    (m : Tx τ ε α) (s : σ) : part (after (focus part put m) s) = after m (part s) := by
  have ran : (focus part put m).run s = match m.run (part s) with
      | .ok (a, t) => .ok (a, put s t)
      | .error reason => .error reason := rfl
  unfold after
  rw [ran]
  cases m.run (part s) with
  | error reason => rfl
  | ok result => exact put_part s result.2

/-- A transaction that answered committed the store it leaves. -/
theorem answer_some {m : Tx σ ε α} {s : σ} {a : α} (h : answer m s = some a) :
    Commits m s a (after m s) := by
  unfold answer at h
  unfold Commits after
  split at h
  · rename_i b s' ran
    rw [ran]
    obtain rfl := Option.some.inj h
    rfl
  · cases h

/-- A transaction that did not answer left nothing behind. -/
theorem after_of_answer_none {m : Tx σ ε α} {s : σ} (h : answer m s = none) : after m s = s := by
  cases ran : m.run s with
  | ok result => simp [answer, ran] at h
  | error reason => simp [after, ran]

theorem answer_of_commits {m : Tx σ ε α} {s s' : σ} {a : α} (h : Commits m s a s') :
    answer m s = some a := by
  simp only [Commits] at h
  simp only [answer, h]

theorem run_of_commits {m : Tx σ ε α} {s s' : σ} {a : α} (h : Commits m s a s') :
    m.run s = .ok (a, s') := h

theorem commits_of_run {m : Tx σ ε α} {s s' : σ} {a : α} (h : m.run s = .ok (a, s')) :
    Commits m s a s' := h

theorem commits_unique {m : Tx σ ε α} {s t t' : σ} {a b : α} (h : Commits m s a t)
    (h' : Commits m s b t') : a = b ∧ t = t' :=
  Prod.mk.inj (Except.ok.inj (h.symm.trans h'))

attribute [irreducible] Commits

/-! ### What a transaction is sure to do -/

/-- The transaction, started in `s`, commits, and what it answers and leaves satisfies `Q`. -/
def Ends (m : Tx σ ε α) (s : σ) (Q : α → σ → Prop) : Prop :=
  ∃ a s', Commits m s a s' ∧ Q a s'

section Ends

variable {m : Tx σ ε α} {s : σ} {Q Q' : α → σ → Prop}

@[simp] theorem ends_pure {a : α} : Ends (pure a : Tx σ ε α) s Q ↔ Q a s := by
  simp [Ends]

@[simp] theorem ends_abort {reason : ε} : ¬Ends (abort reason : Tx σ ε α) s Q := by
  rintro ⟨a, s', done, -⟩
  exact commits_abort.mp done

@[simp] theorem ends_modify {f : σ → σ} {Q : PUnit → σ → Prop} :
    Ends (modify f : Tx σ ε PUnit) s Q ↔ Q ⟨⟩ (f s) := by
  simp only [Ends, commits_modify, exists_eq_left]
  exact ⟨fun ⟨_, holds⟩ => holds, fun holds => ⟨⟨⟩, holds⟩⟩

theorem ends_bind {f : α → Tx σ ε β} {Q : β → σ → Prop} :
    Ends (m >>= f) s Q ↔ Ends m s fun a t => Ends (f a) t Q := by
  constructor
  · rintro ⟨b, s', done, holds⟩
    obtain ⟨a, t, first, second⟩ := commits_bind.mp done
    exact ⟨a, t, first, b, s', second, holds⟩
  · rintro ⟨a, t, first, b, s', second, holds⟩
    exact ⟨b, s', commits_bind.mpr ⟨a, t, first, second⟩, holds⟩

@[simp] theorem ends_get_bind {f : σ → Tx σ ε β} {Q : β → σ → Prop} :
    Ends ((get : Tx σ ε σ) >>= f) s Q ↔ Ends (f s) s Q := by
  simp [Ends]

@[simp] theorem ends_modify_bind {w : σ → σ} {f : PUnit → Tx σ ε β} {Q : β → σ → Prop} :
    Ends ((modify w : Tx σ ε PUnit) >>= f) s Q ↔ Ends (f ⟨⟩) (w s) Q := by
  simp [Ends]

@[simp] theorem ends_require_bind {p : Prop} [Decidable p] {reason : ε} {f : PUnit → Tx σ ε β}
    {Q : β → σ → Prop} :
    Ends ((require p reason : Tx σ ε PUnit) >>= f) s Q ↔ p ∧ Ends (f ⟨⟩) s Q := by
  simp only [Ends, commits_require_bind]
  exact ⟨fun ⟨b, s', ⟨holds, done⟩, q⟩ => ⟨holds, b, s', done, q⟩,
    fun ⟨holds, b, s', done, q⟩ => ⟨b, s', ⟨holds, done⟩, q⟩⟩

theorem ends_focus {part : σ → τ} {put : σ → τ → σ} {m : Tx τ ε α} :
    Ends (focus part put m) s Q ↔ Ends m (part s) fun a t => Q a (put s t) := by
  constructor
  · rintro ⟨a, s', done, holds⟩
    obtain ⟨t, inner, rfl⟩ := commits_focus.mp done
    exact ⟨a, t, inner, holds⟩
  · rintro ⟨a, t, inner, holds⟩
    exact ⟨a, put s t, commits_focus.mpr ⟨t, inner, rfl⟩, holds⟩

theorem Ends.mono (ends : Ends m s Q) (weaker : ∀ a s', Q a s' → Q' a s') : Ends m s Q' := by
  obtain ⟨a, s', done, holds⟩ := ends
  exact ⟨a, s', done, weaker a s' holds⟩

/-- A transaction that is sure to commit does what each of its commits does. -/
theorem Ends.of_commits (ends : Ends m s Q) (commits : ∀ a s', Commits m s a s' → Q' a s') :
    Ends m s fun a s' => Q a s' ∧ Q' a s' := by
  obtain ⟨a, s', done, holds⟩ := ends
  exact ⟨a, s', done, holds, commits a s' done⟩

theorem Ends.answer (ends : Ends m s Q) :
    ∃ a, Transaction.answer m s = some a ∧ Q a (after m s) := by
  obtain ⟨a, s', done, holds⟩ := ends
  exact ⟨a, answer_of_commits done, after_of_commits done ▸ holds⟩

end Ends

/-! ### Relations every commit respects -/

/-- Whatever `m` commits, it relates the store it started in to the store it leaves. -/
def Keeps (R : σ → σ → Prop) (m : Tx σ ε α) : Prop :=
  ∀ ⦃s a s'⦄, Commits m s a s' → R s s'

section Keeps

variable {R : σ → σ → Prop}

theorem Keeps.pure [Std.Refl R] (a : α) : Keeps R (pure a : Tx σ ε α) := by
  intro s b s' h
  obtain ⟨-, rfl⟩ := commits_pure.mp h
  exact refl _

theorem Keeps.get [Std.Refl R] : Keeps R (get : Tx σ ε σ) := by
  intro s b s' h
  obtain ⟨-, rfl⟩ := commits_get.mp h
  exact refl _

theorem Keeps.abort (reason : ε) : Keeps R (abort reason : Tx σ ε α) :=
  fun _ _ _ h => (commits_abort.mp h).elim

theorem Keeps.require [Std.Refl R] (p : Prop) [Decidable p] (reason : ε) :
    Keeps R (require p reason : Tx σ ε PUnit) := by
  intro s b s' h
  obtain ⟨-, rfl⟩ := commits_require.mp h
  exact refl _

theorem Keeps.modify {f : σ → σ} (h : ∀ s, R s (f s)) : Keeps R (modify f : Tx σ ε PUnit) := by
  intro s b s' committed
  obtain rfl := commits_modify.mp committed
  exact h s

theorem Keeps.bind [IsTrans σ R] {m : Tx σ ε α} {f : α → Tx σ ε β}
    (hm : Keeps R m) (hf : ∀ a, Keeps R (f a)) : Keeps R (m >>= f) := by
  intro s b s' h
  obtain ⟨a, t, first, second⟩ := commits_bind.mp h
  exact trans_of R (hm first) (hf a second)

theorem Keeps.ite {p : Prop} [Decidable p] {m n : Tx σ ε α}
    (hm : Keeps R m) (hn : Keeps R n) : Keeps R (if p then m else n) := by
  split
  · exact hm
  · exact hn

theorem Keeps.focus {S : τ → τ → Prop} {part : σ → τ} {put : σ → τ → σ} {m : Tx τ ε α}
    (hm : Keeps S m) (h : ∀ s t, S (part s) t → R s (put s t)) :
    Keeps R (focus part put m) := by
  intro s a s' committed
  obtain ⟨t, inner, rfl⟩ := commits_focus.mp committed
  exact h s t (hm inner)

theorem Keeps.mono {S : σ → σ → Prop} {m : Tx σ ε α} (hm : Keeps S m)
    (h : ∀ s s', S s s' → R s s') : Keeps R m :=
  fun _ _ _ committed => h _ _ (hm committed)

/-- A relation kept by every commit holds between a store and the store after the transaction. -/
theorem Keeps.after [Std.Refl R] {m : Tx σ ε α} (hm : Keeps R m) (s : σ) : R s (after m s) := by
  rcases after_cases m s with ⟨a, committed⟩ | unchanged
  · exact hm committed
  · rw [unchanged]
    exact refl _

end Keeps

end Transaction
