import InrSettle.Library.JsNumber
import Mathlib

/-!
# Whole numbers as numbers

The integers with -0 and the numbers that are not finite: numbers whose numerals have
neither fraction nor exponent.
-/

namespace Js

inductive Whole where
  | int (n : Int)
  | minusZero
  | special (s : Special)
  deriving DecidableEq

namespace Whole

def digitsOf (n : Nat) : List Digit :=
  if n = 0 then [0] else (Nat.digits 10 n).reverse.map (Fin.ofNat 10)

theorem digitsOf_ok (n : Nat) :
    digitsOf n = [0] ∨ (digitsOf n).head?.any (· ≠ 0) = true := by
  unfold digitsOf
  split
  · exact .inl rfl
  · rename_i some_
    have first := Nat.getLast_digit_ne_zero 10 some_
    have small := Nat.digits_lt_base (b := 10) (by decide) (List.getLast_mem
      (Nat.digits_ne_nil_iff_ne_zero.mpr some_))
    refine .inr ?_
    rw [List.head?_map, List.head?_reverse, List.getLast?_eq_some_getLast
      (Nat.digits_ne_nil_iff_ne_zero.mpr some_), Option.map_some, Option.any_some,
      decide_eq_true_eq, ne_eq, Fin.ext_iff, Fin.val_ofNat, Nat.mod_eq_of_lt small]
    exact first

def natOf (digits : List Digit) : Nat := Nat.ofDigits 10 (digits.reverse.map (·.val))

theorem natOf_digitsOf (n : Nat) : natOf (digitsOf n) = n := by
  unfold natOf digitsOf
  split
  · rename_i zero
    rw [zero]
    rfl
  · have same : ((Nat.digits 10 n).reverse.map (Fin.ofNat 10)).reverse.map (·.val) =
        Nat.digits 10 n := by
      rw [← List.map_reverse, List.reverse_reverse, List.map_map]
      refine (List.map_congr_left fun d mem => ?_).trans (List.map_id _)
      exact Nat.mod_eq_of_lt (Nat.digits_lt_base (by decide) mem)
    rw [same, Nat.ofDigits_digits]

def numeralOf (negative : Bool) (n : Nat) : Numeral :=
  ⟨negative, digitsOf n, [], none, digitsOf_ok n, Numeral.exponentOk_none⟩

/-- The exponent takes the numeral past what a finite number may be. -/
def overflows (numeral : Numeral) : Bool :=
  match numeral.exponent with
  | some (false, ds) =>
    decide (natOf (numeral.whole ++ numeral.fraction) ≠ 0 ∧
      309 < natOf ds + numeral.whole.length)
  | _ => false

def ofNumeral (numeral : Numeral) : Whole :=
  if overflows numeral then .special (if numeral.negative then .minusInfinity else .infinity)
  else if numeral.negative ∧ natOf numeral.whole = 0 then .minusZero
  else .int (if numeral.negative then -natOf numeral.whole else natOf numeral.whole)

def write : Whole → Numeral
  | int n => numeralOf (decide (n < 0)) n.natAbs
  | minusZero | special _ => numeralOf false 0

def unsigned : Whole → Whole
  | minusZero => int 0
  | int n => int n
  | special s => special s

def special? : Whole → Option Special
  | special s => some s
  | int _ | minusZero => none

theorem ofNumeral_write (n : Whole) (finite : (special? n).isNone = true) :
    ofNumeral (write n) = unsigned n := by
  cases n with
  | int n =>
    simp only [write, ofNumeral, numeralOf, overflows, Bool.false_eq_true, if_false, natOf_digitsOf,
      decide_eq_true_eq, unsigned]
    rw [if_neg (by omega), int.injEq]
    split <;> omega
  | minusZero => rfl
  | special s => cases finite

instance : NumberFormat Whole where
  write := write
  read := ofNumeral
  special := special?
  ofSpecial := .special
  unsigned := unsigned
  read_write := ofNumeral_write
  write_unsigned n := by cases n <;> rfl
  special_unsigned n := by cases n <;> rfl
  unsigned_unsigned n := by cases n <;> rfl
  special_ofSpecial _ := rfl

end Whole

end Js
