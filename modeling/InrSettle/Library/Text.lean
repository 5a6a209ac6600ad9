import Mathlib

/-!
# Numbered texts

A text, a separator and a number in decimal digits. A separator that is no digit
tells where the number begins, so the key names the text and the number.
-/

namespace Text

universe u
variable {α : Type u}

/-- Two lists split at the last separator agree on both sides of it. -/
theorem split_at_last {separator : α} {xs ys before after : List α}
    (left : separator ∉ before) (right : separator ∉ after)
    (same : xs ++ separator :: before = ys ++ separator :: after) : xs = ys ∧ before = after := by
  rcases List.append_eq_append_iff.mp same with ⟨more, rfl, rest⟩ | ⟨more, rfl, rest⟩
  · cases more with
    | nil => exact ⟨by simp, (List.cons.inj rest).2⟩
    | cons head tail =>
      have tail := (List.cons.inj rest).2
      exact (left (by simp [tail])).elim
  · cases more with
    | nil => exact ⟨by simp, (List.cons.inj rest).2.symm⟩
    | cons head tail =>
      have tail := (List.cons.inj rest).2
      exact (right (by simp [tail])).elim

theorem toString_toList (n : Nat) : (toString n).toList = Nat.toDigits 10 n := by
  show (Nat.repr n).toList = _
  simp [Nat.repr]

theorem digits_inj {n m : Nat} (same : Nat.toDigits 10 n = Nat.toDigits 10 m) : n = m := by
  have read := congrArg (fun digits => Nat.ofDigitChars 10 digits 0) same
  simpa using read

theorem not_mem_digits {separator : Char} (noDigit : separator.isDigit = false) (n : Nat) :
    separator ∉ Nat.toDigits 10 n := by
  intro mem
  have digit := Nat.isDigit_of_mem_toDigits (by decide) (by decide) mem
  rw [noDigit] at digit
  cases digit

/-- A numbered text names its text and its number. -/
theorem numbered_inj {separator : Char} (noDigit : separator.isDigit = false) {s t : String}
    {n m : Nat} (same : s.toList ++ separator :: (toString n).toList =
      t.toList ++ separator :: (toString m).toList) : s = t ∧ n = m := by
  rw [toString_toList, toString_toList] at same
  obtain ⟨texts, digits⟩ :=
    split_at_last (not_mem_digits noDigit n) (not_mem_digits noDigit m) same
  exact ⟨String.toList_inj.mp texts, digits_inj digits⟩

end Text
