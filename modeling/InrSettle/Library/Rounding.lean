import Mathlib

/-!
# Rounding

Whole numbers scaled by a positive ratio, up one way and down the other, whole
parts of several numbers, and a ratio rounded half up to a number of decimals.
-/

namespace Rounding

/-! ### Scaling -/

section Scaling

variable {k : ℚ}

/-- Scaling and rounding up is adjoint to scaling back and rounding down. -/
theorem scaled_gc (positive : 0 < k) :
    GaloisConnection (fun a : ℤ => ⌈(a : ℚ) * k⌉) (fun b : ℤ => ⌊(b : ℚ) / k⌋) := by
  intro a b
  rw [Int.ceil_le, Int.le_floor, le_div_iff₀ positive]

theorem isLeast_ceil (x : ℚ) : IsLeast {n : ℤ | x ≤ n} ⌈x⌉ :=
  ⟨Int.le_ceil x, fun _ covers => Int.ceil_le.mpr covers⟩

theorem isGreatest_floor (x : ℚ) : IsGreatest {n : ℤ | (n : ℚ) ≤ x} ⌊x⌋ :=
  ⟨Int.floor_le x, fun _ covered => Int.le_floor.mpr covered⟩

theorem ceil_eq_self {x : ℚ} : (⌈x⌉ : ℚ) - x = 0 ↔ ∃ n : ℤ, x = n := by
  constructor
  · intro none
    exact ⟨⌈x⌉, by linarith⟩
  · rintro ⟨n, rfl⟩
    simp

theorem floor_eq_self {x : ℚ} : x - (⌊x⌋ : ℚ) = 0 ↔ ∃ n : ℤ, x = n := by
  constructor
  · intro none
    exact ⟨⌊x⌋, by linarith⟩
  · rintro ⟨n, rfl⟩
    simp

end Scaling

/-! ### Whole parts -/

section Parts

variable {d : ℤ} (positive : 0 < d) (xs : List ℤ)

include positive

theorem sum_parts_mul_le : (xs.map (· / d)).sum * d ≤ xs.sum := by
  induction xs with
  | nil => simp
  | cons x rest ih =>
    have first := Int.ediv_mul_le x positive.ne'
    rw [List.map_cons, List.sum_cons, List.sum_cons, add_mul]
    omega

/-- Each part leaves less than one. -/
theorem sum_lt_parts_mul (some_ : xs ≠ []) : xs.sum < ((xs.map (· / d)).sum + xs.length) * d := by
  induction xs with
  | nil => exact (some_ rfl).elim
  | cons x rest ih =>
    have first := Int.lt_ediv_add_one_mul_self x positive
    rw [List.map_cons, List.sum_cons, List.sum_cons, List.length_cons]
    have split : (x / d + (rest.map (· / d)).sum + ((rest.length + 1 : ℕ) : ℤ)) * d =
        (x / d + 1) * d + ((rest.map (· / d)).sum + rest.length) * d := by
      push_cast
      ring
    rw [split]
    rcases eq_or_ne rest [] with rfl | more
    · simpa using first
    · have := ih more
      omega

end Parts

/-! ### Half up -/

/-- How many units of `1 / 10 ^ places` are nearest, a half counting up. -/
def halfUp (places : Nat) (x : ℚ) : ℤ := ⌊x * 10 ^ places + 1 / 2⌋

section HalfUp

variable {places : Nat} {x : ℚ}

theorem halfUp_zero : halfUp places 0 = 0 := by
  rw [halfUp, Int.floor_eq_iff]
  norm_num

theorem halfUp_nonneg (nonneg : 0 ≤ x) : 0 ≤ halfUp places x := by
  have scaled : 0 ≤ x * 10 ^ places := by positivity
  refine Int.floor_nonneg.mpr ?_
  linarith

theorem halfUp_lt {n : ℤ} : halfUp places x < n ↔ x * 10 ^ places < n - 1 / 2 := by
  rw [halfUp, Int.floor_lt, lt_sub_iff_add_lt]

theorem halfUp_eq_zero (nonneg : 0 ≤ x) : halfUp places x = 0 ↔ x * 10 ^ places < 1 / 2 := by
  have below : halfUp places x < 1 ↔ x * 10 ^ places < 1 / 2 := by
    rw [halfUp_lt]
    norm_num
  rw [← below]
  have whole : 0 ≤ halfUp places x := halfUp_nonneg nonneg
  omega

/-- What has no more decimals is not rounded. -/
theorem halfUp_div (n : ℤ) : halfUp places ((n : ℚ) / 10 ^ places) = n := by
  rw [halfUp, div_mul_cancel₀ _ (by positivity), Int.floor_eq_iff]
  constructor <;> linarith

end HalfUp

end Rounding
