import Mathlib

/-!
# Runs of a labelled step function

A system is a step function from a state and a label to the next state. A run is
the list of labels taken; what each step needs of the state it is taken in is a
relation between states and labels, checked along the run.
-/

namespace Run

universe u v
variable {σ : Type u} {α : Type v}

/-- The state a list of labels leads to. -/
def run (step : σ → α → σ) (s : σ) (labels : List α) : σ :=
  labels.foldl step s

/-- Every label of the list is allowed in the state it is taken in. -/
def Along (step : σ → α → σ) (allowed : σ → α → Prop) : σ → List α → Prop
  | _, [] => True
  | s, a :: as => allowed s a ∧ Along step allowed (step s a) as

variable {step : σ → α → σ} {allowed : σ → α → Prop}

@[simp] theorem run_nil (s : σ) : run step s [] = s := rfl

@[simp] theorem run_cons (s : σ) (a : α) (as : List α) :
    run step s (a :: as) = run step (step s a) as := rfl

theorem run_append (s : σ) (as bs : List α) :
    run step s (as ++ bs) = run step (run step s as) bs :=
  List.foldl_append

instance [∀ s a, Decidable (allowed s a)] :
    (s : σ) → (labels : List α) → Decidable (Along step allowed s labels)
  | _, [] => isTrue trivial
  | s, a :: as =>
    have : Decidable (Along step allowed (step s a) as) := instDecidableAlong (step s a) as
    inferInstanceAs (Decidable (allowed s a ∧ Along step allowed (step s a) as))

/-- An invariant that every allowed step preserves holds wherever an allowed run ends. -/
theorem Along.invariant {I : σ → Prop} (preserved : ∀ s a, I s → allowed s a → I (step s a))
    {s : σ} {labels : List α} (start : I s) (steps : Along step allowed s labels) :
    I (run step s labels) := by
  induction labels generalizing s with
  | nil => exact start
  | cons a as ih => exact ih (preserved s a start steps.1) steps.2

/-- What follows, in each step, from an invariant of the allowed steps holds along an allowed run. -/
theorem Along.follow {allowed' : σ → α → Prop} {I : σ → Prop}
    (preserved : ∀ s a, I s → allowed s a → I (step s a))
    (follows : ∀ s a, I s → allowed s a → allowed' s a) {s : σ} {labels : List α} (start : I s)
    (steps : Along step allowed s labels) : Along step allowed' s labels := by
  induction labels generalizing s with
  | nil => trivial
  | cons a as ih =>
    exact ⟨follows s a start steps.1, ih (preserved s a start steps.1) steps.2⟩

/-- An invariant that every step preserves holds wherever a run ends. -/
theorem run_invariant {I : σ → Prop} (preserved : ∀ s a, I s → I (step s a))
    {s : σ} (start : I s) (labels : List α) : I (run step s labels) := by
  induction labels generalizing s with
  | nil => exact start
  | cons a as ih => exact ih (preserved s a start)

/-- A relation that every step keeps, being reflexive and transitive, relates the two ends. -/
theorem run_related {R : σ → σ → Prop} [Std.Refl R] [IsTrans σ R]
    (kept : ∀ s a, R s (step s a)) (s : σ) (labels : List α) : R s (run step s labels) := by
  induction labels generalizing s with
  | nil => exact refl s
  | cons a as ih => exact trans_of R (kept s a) (ih (step s a))

/-- What no step changes, no run changes. -/
theorem run_kept {κ : Type*} {column : σ → κ} (kept : ∀ s a, column (step s a) = column s) (s : σ)
    (labels : List α) : column (run step s labels) = column s := by
  induction labels generalizing s with
  | nil => rfl
  | cons a as ih => exact (ih (step s a)).trans (kept s a)

theorem Along.trivial (s : σ) (labels : List α) : Along step (fun _ _ => True) s labels := by
  induction labels generalizing s with
  | nil => exact True.intro
  | cons a as ih => exact ⟨True.intro, ih (step s a)⟩

theorem Along.mono {allowed' : σ → α → Prop} (weaker : ∀ s a, allowed s a → allowed' s a)
    {s : σ} {labels : List α} (steps : Along step allowed s labels) :
    Along step allowed' s labels := by
  induction labels generalizing s with
  | nil => trivial
  | cons a as ih => exact ⟨weaker s a steps.1, ih steps.2⟩

/-- Where two conditions agree in every state the system can be in, they agree along its runs. -/
theorem along_congr {allowed' : σ → α → Prop} {I : σ → Prop}
    (preserved : ∀ s a, I s → I (step s a))
    (agree : ∀ s a, I s → (allowed s a ↔ allowed' s a)) {s : σ} (start : I s) (labels : List α) :
    Along step allowed s labels ↔ Along step allowed' s labels := by
  induction labels generalizing s with
  | nil => exact Iff.rfl
  | cons a as ih => exact and_congr (agree s a start) (ih (preserved s a start))

/-- Where the allowed steps keep an invariant, a condition that under it says the same as being
allowed holds along the same runs. -/
theorem along_iff {allowed' : σ → α → Prop} {I : σ → Prop}
    (preserved : ∀ s a, I s → allowed s a → I (step s a))
    (agree : ∀ s a, I s → (allowed s a ↔ allowed' s a)) {s : σ} (start : I s) (labels : List α) :
    Along step allowed s labels ↔ Along step allowed' s labels := by
  induction labels generalizing s with
  | nil => exact Iff.rfl
  | cons a as ih =>
    constructor
    · exact fun ⟨first, rest⟩ =>
        ⟨(agree s a start).mp first, (ih (preserved s a start first)).mp rest⟩
    · intro ⟨first, rest⟩
      have allows := (agree s a start).mpr first
      exact ⟨allows, (ih (preserved s a start allows)).mpr rest⟩

/-- What follows from an invariant of every step holds along every run. -/
theorem along_of_invariant {I : σ → Prop} (preserved : ∀ s a, I s → I (step s a))
    (follows : ∀ s a, I s → allowed s a) {s : σ} (start : I s) (labels : List α) :
    Along step allowed s labels := by
  induction labels generalizing s with
  | nil => trivial
  | cons a as ih => exact ⟨follows s a start, ih (preserved s a start)⟩

theorem along_append {s : σ} {as bs : List α} :
    Along step allowed s (as ++ bs) ↔
      Along step allowed s as ∧ Along step allowed (run step s as) bs := by
  induction as generalizing s with
  | nil => simp [Along]
  | cons a as ih => simp [Along, ih, and_assoc]

/-- The run has passed through a state with the property. -/
def Passed (step : σ → α → σ) (P : σ → Prop) (s : σ) (labels : List α) : Prop :=
  ∃ earlier, earlier <+: labels ∧ P (run step s earlier)

theorem passed_nil {P : σ → Prop} {s : σ} : Passed step P s [] ↔ P s := by
  simp [Passed]

theorem passed_cons {P : σ → Prop} {s : σ} {a : α} {as : List α} :
    Passed step P s (a :: as) ↔ P s ∨ Passed step P (step s a) as := by
  constructor
  · rintro ⟨earlier, isPrefix, holds⟩
    cases earlier with
    | nil => exact .inl holds
    | cons b earlier =>
      obtain ⟨rfl, inside⟩ := List.cons_prefix_cons.mp isPrefix
      exact .inr ⟨earlier, inside, holds⟩
  · rintro (holds | ⟨earlier, isPrefix, holds⟩)
    · exact ⟨[], List.nil_prefix, holds⟩
    · exact ⟨a :: earlier, List.cons_prefix_cons.mpr ⟨rfl, isPrefix⟩, holds⟩

instance decidablePassed {P : σ → Prop} [DecidablePred P] :
    (s : σ) → (labels : List α) → Decidable (Passed step P s labels)
  | s, [] => decidable_of_iff (P s) passed_nil.symm
  | s, a :: as =>
    have : Decidable (Passed step P (step s a) as) := decidablePassed (step s a) as
    decidable_of_iff (P s ∨ Passed step P (step s a) as) passed_cons.symm

/-- What holds at the end of an allowed run and begins only where the property does, holds because
the run has passed through a state with the property. -/
theorem Along.passed {P Q : σ → Prop}
    (begins : ∀ s a, allowed s a → Q (step s a) → Q s ∨ P (step s a)) {s : σ} {labels : List α}
    (none : ¬Q s) (steps : Along step allowed s labels) (holds : Q (run step s labels)) :
    Passed step P s labels := by
  induction labels generalizing s with
  | nil => exact (none holds).elim
  | cons a as ih =>
    refine passed_cons.mpr (.inr ?_)
    by_cases next : Q (step s a)
    · rcases begins s a steps.1 next with before | here
      · exact (none before).elim
      · exact ⟨[], List.nil_prefix, here⟩
    · exact ih next steps.2 holds

/-- The states some run from `init` leads to. -/
def Reachable (step : σ → α → σ) (init s : σ) : Prop :=
  ∃ labels, run step init labels = s

theorem Reachable.init {init : σ} : Reachable step init init := ⟨[], rfl⟩

theorem Reachable.next {init s : σ} (reached : Reachable step init s) (a : α) :
    Reachable step init (step s a) := by
  obtain ⟨labels, rfl⟩ := reached
  exact ⟨labels ++ [a], by simp [run_append]⟩

theorem Reachable.invariant {I : σ → Prop} {init s : σ}
    (preserved : ∀ s a, I s → I (step s a)) (start : I init)
    (reached : Reachable step init s) : I s := by
  obtain ⟨labels, rfl⟩ := reached
  exact run_invariant preserved start labels

end Run
