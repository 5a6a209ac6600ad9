import Mathlib

/-!
# The preferred entry of a list

Entries have a key, and the keys an order of preference, given as a list. Chosen is the first
entry of the first key that has one; where no key of the order has one, the first entry.
-/

namespace Preference

variable {α κ : Type*} [DecidableEq κ] {order : List κ} {key : α → κ} {entries : List α} {e : α}

def firstPreferred (order : List κ) (key : α → κ) (entries : List α) : Option α :=
  (order.findSome? fun k => entries.find? fun entry => decide (key entry = k)).or entries.head?

theorem firstPreferred_mem (chosen : firstPreferred order key entries = some e) : e ∈ entries := by
  rw [firstPreferred, Option.or_eq_some_iff] at chosen
  rcases chosen with found | ⟨-, found⟩
  · obtain ⟨k, -, found⟩ := List.exists_of_findSome?_eq_some found
    exact List.mem_of_find?_eq_some found
  · exact List.mem_of_head? found

theorem firstPreferred_eq_none_iff : firstPreferred order key entries = none ↔ entries = [] := by
  rw [firstPreferred, Option.or_eq_none_iff, List.head?_eq_none_iff]
  refine ⟨And.right, ?_⟩
  rintro rfl
  exact ⟨List.findSome?_eq_none_iff.mpr fun _ _ => rfl, rfl⟩

/-- No entry has a key of higher preference. -/
theorem idxOf_le_of_firstPreferred (chosen : firstPreferred order key entries = some e) :
    ∀ other ∈ entries, order.idxOf (key e) ≤ order.idxOf (key other) := by
  intro other mem
  rw [firstPreferred, Option.or_eq_some_iff] at chosen
  rcases chosen with found | ⟨none_, -⟩
  · obtain ⟨before, k, after, rfl, found, earlier⟩ := List.findSome?_eq_some_iff.mp found
    have is : key e = k := of_decide_eq_true (List.find?_some found :)
    have apart : ∀ {entry : α}, entry ∈ entries → key entry ∉ before := fun mem among =>
      absurd (List.find?_eq_none.mp (earlier _ among) _ mem) (by simp)
    rw [is, List.idxOf_append_of_notMem (is ▸ apart (List.mem_of_find?_eq_some found)),
      List.idxOf_append_of_notMem (apart mem), List.idxOf_cons_self]
    omega
  · -- no key of the order has an entry
    have unlisted : key other ∉ order := fun among =>
      absurd (List.find?_eq_none.mp (List.findSome?_eq_none_iff.mp none_ _ among) _ mem) (by simp)
    rw [List.idxOf_of_notMem unlisted]
    exact List.idxOf_le_length

end Preference
