import Mathlib

/-!
# Decimal texts

A natural number written with a fixed number of digits after the point, what a
decimal text reads as, and digits grouped by commas.
-/

namespace Decimal

/-! ### Digits -/

/-- The number a text of decimal digits writes, if it is one. -/
def readDigits (text : List Char) : Option Nat :=
  if text ≠ [] ∧ text.all Char.isDigit then some (Nat.ofDigitChars 10 text 0) else none

/-- `padStart(width, '0')`. -/
def padStart (width : Nat) (text : List Char) : List Char :=
  List.replicate (width - text.length) '0' ++ text

theorem readDigits_of_digits {text : List Char} (some_ : text ≠ [])
    (digits : ∀ c ∈ text, c.isDigit = true) :
    readDigits text = some (Nat.ofDigitChars 10 text 0) := by
  rw [readDigits, if_pos ⟨some_, List.all_eq_true.mpr digits⟩]

theorem ofDigitChars_padStart (width n : Nat) :
    Nat.ofDigitChars 10 (padStart width (Nat.toDigits 10 n)) 0 = n := by
  simp [padStart, Nat.ofDigitChars_append]

theorem isDigit_of_mem_padStart {width n : Nat} :
    ∀ c ∈ padStart width (Nat.toDigits 10 n), c.isDigit = true := by
  intro c mem
  rcases List.mem_append.mp mem with zero | digit
  · rw [List.eq_of_mem_replicate zero]
    rfl
  · exact Nat.isDigit_of_mem_toDigits (by decide) (by decide) digit

theorem le_length_padStart (width : Nat) (text : List Char) :
    width ≤ (padStart width text).length := by
  simp only [padStart, List.length_append, List.length_replicate]
  omega

/-! ### Fixed scale -/

/-- The digits before and after the point. -/
def split (scale : Nat) (digits : List Char) : List Char × List Char :=
  digits.splitAt (digits.length - scale)

/-- `n / 10 ^ scale`, with `scale` digits after the point. -/
def fixed (scale n : Nat) : List Char :=
  let digits := padStart (scale + 1) (Nat.toDigits 10 n)
  (split scale digits).1 ++ '.' :: (split scale digits).2

/-- What a decimal text reads as: digits, or digits, a point and digits. -/
def read (text : List Char) : Option Rat :=
  match text.span (· ≠ '.') with
  | (whole, []) => (readDigits whole).map fun n => (n : Rat)
  | (whole, _ :: fraction) =>
    if whole = [] ∨ fraction = [] then none
    else (readDigits (whole ++ fraction)).map fun n => (n : Rat) / 10 ^ fraction.length

theorem split_append (scale : Nat) (digits : List Char) :
    (split scale digits).1 ++ (split scale digits).2 = digits := by
  simp [split]

theorem length_split_snd {scale : Nat} {digits : List Char} (enough : scale ≤ digits.length) :
    (split scale digits).2.length = scale := by
  simp only [split, List.splitAt_eq, List.length_drop]
  omega

/-- Digits end where the point stands. -/
theorem span_point {whole : List Char} (digits : ∀ c ∈ whole, c.isDigit = true)
    (fraction : List Char) :
    (whole ++ '.' :: fraction).span (· ≠ '.') = (whole, '.' :: fraction) := by
  have noPoint : ∀ c ∈ whole, (decide (c ≠ '.')) = true := by
    intro c mem
    have digit := digits c mem
    by_contra is
    simp only [ne_eq, decide_not, Bool.not_eq_true', decide_eq_false_iff_not, not_not] at is
    subst is
    exact absurd digit (by decide)
  rw [List.span_eq_takeWhile_dropWhile, List.takeWhile_append_of_pos noPoint,
    List.dropWhile_append_of_pos noPoint]
  simp

theorem read_point {whole fraction : List Char} (wholeSome : whole ≠ [])
    (fractionSome : fraction ≠ []) (digits : ∀ c ∈ whole ++ fraction, c.isDigit = true) :
    read (whole ++ '.' :: fraction) =
      some ((Nat.ofDigitChars 10 (whole ++ fraction) 0 : Rat) / 10 ^ fraction.length) := by
  have cut := span_point (fun c mem => digits c (List.mem_append_left _ mem)) fraction
  simp only [read, cut, wholeSome, fractionSome, or_self, if_false]
  rw [readDigits_of_digits (by simp [wholeSome]) digits]
  rfl

section Fixed

variable (scale n : Nat)

theorem fixed_whole_ne_nil :
    (split scale (padStart (scale + 1) (Nat.toDigits 10 n))).1 ≠ [] := by
  have enough := le_length_padStart (scale + 1) (Nat.toDigits 10 n)
  intro none
  have length := congrArg List.length none
  simp only [split, List.splitAt_eq, List.length_take, List.length_nil] at length
  omega

theorem isDigit_of_mem_fixed :
    (∀ c ∈ (split scale (padStart (scale + 1) (Nat.toDigits 10 n))).1, c.isDigit = true) ∧
      ∀ c ∈ (split scale (padStart (scale + 1) (Nat.toDigits 10 n))).2, c.isDigit = true := by
  have each := @isDigit_of_mem_padStart (scale + 1) n
  rw [← split_append scale (padStart (scale + 1) (Nat.toDigits 10 n))] at each
  exact ⟨fun c mem => each c (List.mem_append_left _ mem),
    fun c mem => each c (List.mem_append_right _ mem)⟩

theorem length_fixed_fraction :
    (split scale (padStart (scale + 1) (Nat.toDigits 10 n))).2.length = scale :=
  length_split_snd (Nat.le_of_succ_le (le_length_padStart (scale + 1) (Nat.toDigits 10 n)))

/-- A text of fixed scale reads as the number it was written for. -/
theorem read_fixed (positive : 0 < scale) : read (fixed scale n) = some ((n : Rat) / 10 ^ scale) := by
  have fraction := length_fixed_fraction scale n
  rw [fixed, read_point (fixed_whole_ne_nil scale n), split_append, fraction,
    ofDigitChars_padStart]
  · intro none
    simp [none] at fraction
    omega
  · rw [split_append]
    exact isDigit_of_mem_padStart

/-- Without its point, it is the digits of the number scaled up. -/
theorem readDigits_fixed : readDigits ((fixed scale n).erase '.') = some n := by
  have noPoint : '.' ∉ (split scale (padStart (scale + 1) (Nat.toDigits 10 n))).1 := by
    intro mem
    have inDigits : '.' ∈ padStart (scale + 1) (Nat.toDigits 10 n) := by
      rw [← split_append scale (padStart (scale + 1) (Nat.toDigits 10 n))]
      exact List.mem_append_left _ mem
    exact absurd (isDigit_of_mem_padStart _ inDigits) (by decide)
  rw [fixed, List.erase_append_right _ noPoint, List.erase_cons_head, split_append,
    readDigits_of_digits _ isDigit_of_mem_padStart, ofDigitChars_padStart]
  exact List.ne_nil_of_length_pos (Nat.lt_of_succ_le (le_trans (by simp) (le_length_padStart
    (scale + 1) (Nat.toDigits 10 n))))

end Fixed

/-! ### Leading zeros -/

/-- Without the zeros a digit follows. -/
def stripZeros : List Char → List Char
  | [] => []
  | c :: rest => if c = '0' ∧ rest.head?.any Char.isDigit then stripZeros rest else c :: rest

theorem readDigits_stripZeros (text : List Char) : readDigits (stripZeros text) = readDigits text := by
  induction text with
  | nil => rfl
  | cons c rest ih =>
    rw [stripZeros]
    split
    · rename_i zero
      obtain ⟨rfl, digit⟩ := zero
      rw [ih]
      cases rest with
      | nil => simp at digit
      | cons d rest => simp [readDigits, Nat.ofDigitChars_cons]
    · rfl

/-! ### Groups -/

/-- A comma wherever a positive multiple of `size` digits is left. -/
def grouped (size : Nat) : List Char → List Char
  | [] => []
  | c :: rest =>
    c :: if rest ≠ [] ∧ rest.length % size = 0 then ',' :: grouped size rest
      else grouped size rest

/-- A text without its commas. -/
def ungrouped (text : List Char) : List Char := text.filter (· ≠ ',')

@[simp] theorem ungrouped_append (xs ys : List Char) :
    ungrouped (xs ++ ys) = ungrouped xs ++ ungrouped ys := List.filter_append ..

theorem ungrouped_of_digits {text : List Char} (digits : ∀ c ∈ text, c.isDigit = true) :
    ungrouped text = text := by
  refine List.filter_eq_self.mpr fun c mem => ?_
  by_contra is
  simp only [ne_eq, decide_not, Bool.not_eq_true, Bool.not_eq_false', decide_eq_true_eq] at is
  subst is
  exact absurd (digits _ mem) (by decide)

theorem ungrouped_grouped {size : Nat} {text : List Char}
    (digits : ∀ c ∈ text, c.isDigit = true) : ungrouped (grouped size text) = text := by
  induction text with
  | nil => rfl
  | cons c rest ih =>
    have digit : ungrouped [c] = [c] := ungrouped_of_digits fun d mem => by
      rw [List.mem_singleton.mp mem]
      exact digits c (by simp)
    have rest' := ih fun d mem => digits d (List.mem_cons_of_mem _ mem)
    rw [grouped, ← List.singleton_append, ungrouped_append, digit]
    split
    · exact congrArg (c :: ·) rest'
    · exact congrArg (c :: ·) rest'

end Decimal
