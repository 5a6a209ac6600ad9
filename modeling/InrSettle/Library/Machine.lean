import Mathlib

/-!
# State machines given by a table

A row names the states it leaves, the trigger it answers and the state it
reaches. A row without source states creates: it is taken where there is no
state yet. The table is read from the top and the first matching row decides.
-/

universe u v w

/-- A table of rows, each with its source states, its trigger and its target. -/
structure Machine (State : Type u) (Trigger : Type v) (Row : Type w) where
  rows : List Row
  source : Row → List State
  trigger : Row → Trigger
  target : Row → State

namespace Machine

variable {State : Type u} {Trigger : Type v} {Row : Type w}
variable [DecidableEq State] [DecidableEq Trigger]

/-- Whether the row may be taken from this state, or from no state at all. -/
def leaves (m : Machine State Trigger Row) (row : Row) : Option State → Bool
  | none => (m.source row).isEmpty
  | some s => decide (s ∈ m.source row)

/-- The row the trigger takes. -/
def evaluate (m : Machine State Trigger Row) (source : Option State) (trigger : Trigger) :
    Option Row :=
  m.rows.find? fun row => decide (m.trigger row = trigger) && m.leaves row source

theorem evaluate_some {m : Machine State Trigger Row} {s : State} {trigger : Trigger} {row : Row}
    (h : m.evaluate (some s) trigger = some row) :
    row ∈ m.rows ∧ m.trigger row = trigger ∧ s ∈ m.source row := by
  refine ⟨List.mem_of_find?_eq_some h, ?_⟩
  simpa [leaves] using List.find?_some h

/-- A state no row leaves. -/
def Final (m : Machine State Trigger Row) (s : State) : Prop :=
  ∀ row ∈ m.rows, s ∉ m.source row

instance (m : Machine State Trigger Row) (s : State) : Decidable (m.Final s) :=
  inferInstanceAs (Decidable (∀ row ∈ m.rows, s ∉ m.source row))

theorem Final.evaluate_none {m : Machine State Trigger Row} {s : State} (final : m.Final s)
    (trigger : Trigger) : m.evaluate (some s) trigger = none := by
  refine List.find?_eq_none.mpr fun row hr => ?_
  simp [leaves, final row hr]

end Machine
