import InrSettle.Library.JsNumber

/-!
# Bigints and their texts

The decimal text of a bigint, and the bigint a text is read as: white space around it, a
sign before decimal digits, and other bases are allowed.
-/

namespace Js

/-- `n.toString()`. -/
def decimal (n : Int) : Text :=
  signText (decide (n < 0)) ++ (Nat.toDigits 10 n.natAbs).map unit

/-- White space and line terminators. -/
def isBlank (u : CodeUnit) : Bool :=
  [9, 10, 11, 12, 13, 32, 160, 0x1680, 0x2028, 0x2029, 0x202F, 0x205F, 0x3000, 0xFEFF].contains u.val
    || decide (0x2000 ≤ u.val ∧ u.val ≤ 0x200A)

def trim (text : Text) : Text :=
  ((text.dropWhile isBlank).reverse.dropWhile isBlank).reverse

/-- Digits of a base. -/
def readNat (base : Nat) (text : Text) : Option Nat :=
  if text = [] then none
  else text.foldlM (fun read u =>
    ((hexValue u).filter (· < base)).map fun d => read * base + d) 0

/-- The base a prefix names. -/
def baseOf (letter : CodeUnit) : Option Nat :=
  if letter = unit 'b' ∨ letter = unit 'B' then some 2
  else if letter = unit 'o' ∨ letter = unit 'O' then some 8
  else if letter = unit 'x' ∨ letter = unit 'X' then some 16
  else none

def readUnsigned (text : Text) : Option Int :=
  match text with
  | zero :: letter :: digits =>
    match (if zero = unit '0' then baseOf letter else none) with
    | some base => (readNat base digits).map Int.ofNat
    | none => (readNat 10 text).map Int.ofNat
  | _ => (readNat 10 text).map Int.ofNat

/-- `BigInt(text)`, where it does not throw. -/
def bigIntOf (text : Text) : Option Int :=
  match trim text with
  | [] => some 0
  | u :: rest =>
    if u = unit '-' then (readNat 10 rest).map fun n => -(n : Int)
    else if u = unit '+' then (readNat 10 rest).map Int.ofNat
    else readUnsigned (u :: rest)

/-! ### Reading a decimal text -/

theorem unit_digit {c : Char} (digit : c.isDigit = true) :
    (unit c).val = c.toNat ∧ 48 ≤ c.toNat ∧ c.toNat ≤ 57 := by
  simp only [Char.isDigit, Bool.and_eq_true, decide_eq_true_eq, ge_iff_le,
    UInt32.le_iff_toNat_le] at digit
  have low : 48 ≤ c.toNat := digit.1
  have high : c.toNat ≤ 57 := digit.2
  exact ⟨Nat.mod_eq_of_lt (by omega), low, high⟩

theorem hexValue_digit {c : Char} (digit : c.isDigit = true) :
    hexValue (unit c) = some (c.toNat - 48) := by
  obtain ⟨code, low, high⟩ := unit_digit digit
  rw [hexValue, code, if_pos ⟨low, high⟩]

/-- Where its code is a digit's, a unit is no other unit. -/
theorem unit_digit_ne {c : Char} (digit : c.isDigit = true) {u : CodeUnit}
    (other : u.val < 48 ∨ 57 < u.val) : unit c ≠ u := by
  obtain ⟨code, low, high⟩ := unit_digit digit
  rintro rfl
  omega

theorem isBlank_digit {c : Char} (digit : c.isDigit = true) : isBlank (unit c) = false := by
  obtain ⟨code, low, high⟩ := unit_digit digit
  have digits : ∀ n < 58, 48 ≤ n → isBlank (Fin.ofNat 65536 n) = false := by decide
  exact digits c.toNat (by omega) low

theorem baseOf_digit {c : Char} (digit : c.isDigit = true) : baseOf (unit c) = none := by
  obtain ⟨code, low, high⟩ := unit_digit digit
  have digits : ∀ n < 58, 48 ≤ n → baseOf (Fin.ofNat 65536 n) = none := by decide
  exact digits c.toNat (by omega) low

theorem readNat_digits {digits : List Char} (some_ : digits ≠ [])
    (all : ∀ c ∈ digits, c.isDigit = true) :
    readNat 10 (digits.map unit) = some (Nat.ofDigitChars 10 digits 0) := by
  rw [readNat, if_neg (by simpa using some_)]
  generalize 0 = read
  clear some_
  induction digits generalizing read with
  | nil => simp
  | cons c rest ih =>
    obtain ⟨digit, others⟩ := List.forall_mem_cons.mp all
    obtain ⟨-, -, high⟩ := unit_digit digit
    have value : ((hexValue (unit c)).filter (· < 10)).map (fun d => read * 10 + d) =
        some (read * 10 + (c.toNat - 48)) := by
      rw [hexValue_digit digit, Option.filter_some, if_pos (by simp; omega), Option.map_some]
    rw [List.map_cons, List.foldlM_cons, value, Nat.ofDigitChars_cons, Nat.mul_comm 10]
    exact ih others _

theorem readUnsigned_digits {digits : List Char} (some_ : digits ≠ [])
    (all : ∀ c ∈ digits, c.isDigit = true) :
    readUnsigned (digits.map unit) = some (Nat.ofDigitChars 10 digits 0 : Int) := by
  have plain := congrArg (Option.map Int.ofNat) (readNat_digits some_ all)
  cases digits with
  | nil => exact (some_ rfl).elim
  | cons zero rest =>
    cases rest with
    | nil => exact plain
    | cons letter rest =>
      have noBase : (if unit zero = unit '0' then baseOf (unit letter) else none) = none := by
        rw [baseOf_digit (all letter (by simp)), ite_self]
      rw [List.map_cons, List.map_cons, readUnsigned, noBase]
      exact plain

theorem trim_of_not_blank {text : Text} (all : ∀ u ∈ text, isBlank u = false) :
    trim text = text := by
  have start : ∀ t : Text, (∀ u ∈ t, isBlank u = false) → t.dropWhile isBlank = t := by
    intro t all
    cases t with
    | nil => rfl
    | cons u rest => simp [all u]
  rw [trim, start text all, start _ (by simpa using all), List.reverse_reverse]

section Decimal

variable (n : Nat)

theorem digits_isDigit : ∀ c ∈ Nat.toDigits 10 n, c.isDigit = true :=
  fun _ mem => Nat.isDigit_of_mem_toDigits (by decide) (by decide) mem

theorem readNat_toDigits : readNat 10 ((Nat.toDigits 10 n).map unit) = some n := by
  rw [readNat_digits Nat.toDigits_ne_nil (digits_isDigit n), Nat.ofDigitChars_ten_toDigits]

theorem readUnsigned_toDigits :
    readUnsigned ((Nat.toDigits 10 n).map unit) = some (n : Int) := by
  rw [readUnsigned_digits Nat.toDigits_ne_nil (digits_isDigit n), Nat.ofDigitChars_ten_toDigits]

end Decimal

theorem digit_of_unit {u : CodeUnit} (digit : (digitOf u).isSome = true) :
    (Char.ofNat u.val).isDigit = true ∧ unit (Char.ofNat u.val) = u := by
  have digits : ∀ n < 58, 48 ≤ n → (Char.ofNat n).isDigit = true ∧
      unit (Char.ofNat n) = Fin.ofNat 65536 n := by decide
  unfold digitOf at digit
  split at digit
  · rename_i range
    obtain ⟨is, same⟩ := digits u.val (by omega) range.1
    exact ⟨is, same.trans (Fin.ext (Nat.mod_eq_of_lt u.isLt))⟩
  · cases digit

/-- Decimal digits, with a sign in front or without one, are read as a bigint. -/
theorem bigIntOf_digits {digits : Text} (some_ : digits ≠ [])
    (all : ∀ u ∈ digits, (digitOf u).isSome = true) :
    (bigIntOf digits).isSome = true ∧ (bigIntOf (unit '-' :: digits)).isSome = true := by
  obtain ⟨chars, is, rfl⟩ : ∃ chars : List Char, (∀ c ∈ chars, c.isDigit = true) ∧
      chars.map unit = digits := by
    refine ⟨digits.map fun u => Char.ofNat u.val, ?_, ?_⟩
    · exact List.forall_mem_map.mpr fun u mem => (digit_of_unit (all u mem)).1
    · rw [List.map_map]
      exact (List.map_congr_left fun u mem => (digit_of_unit (all u mem)).2).trans (List.map_id _)
  have some' : chars ≠ [] := fun none => some_ (by rw [none]; rfl)
  have read := readNat_digits some' is
  have blanks : ∀ u ∈ chars.map unit, isBlank u = false :=
    List.forall_mem_map.mpr fun c mem => isBlank_digit (is c mem)
  refine ⟨?_, ?_⟩
  · rw [bigIntOf, trim_of_not_blank blanks]
    cases chars with
    | nil => rfl
    | cons c rest =>
      have digit := is c List.mem_cons_self
      have unsigned := readUnsigned_digits some' is
      simp only [List.map_cons, if_neg (unit_digit_ne digit (u := unit '-') (by decide)),
        if_neg (unit_digit_ne digit (u := unit '+') (by decide))]
      rw [← List.map_cons, unsigned]
      rfl
  · rw [bigIntOf, trim_of_not_blank (List.forall_mem_cons.mpr ⟨by decide, blanks⟩)]
    simp only [if_true, read]
    rfl
/-- A bigint is read back off its decimal text. -/
theorem bigIntOf_decimal (n : Int) : bigIntOf (decimal n) = some n := by
  have blanks : ∀ u ∈ (Nat.toDigits 10 n.natAbs).map unit, isBlank u = false :=
    List.forall_mem_map.mpr fun c mem => isBlank_digit (digits_isDigit _ c mem)
  by_cases negative : n < 0
  · rw [bigIntOf, decimal, decide_eq_true negative, trim_of_not_blank]
    · simp only [signText, if_true, List.cons_append, List.nil_append, readNat_toDigits,
        Option.map_some]
      exact congrArg some (show -(n.natAbs : Int) = n by omega)
    · simp only [signText, if_true, List.cons_append, List.nil_append, List.forall_mem_cons]
      exact ⟨by decide, blanks⟩
  · rw [bigIntOf, decimal, decide_eq_false negative, trim_of_not_blank (by simpa [signText] using blanks)]
    have read := readUnsigned_toDigits n.natAbs
    cases digits : Nat.toDigits 10 n.natAbs with
    | nil => exact (Nat.toDigits_ne_nil digits).elim
    | cons c rest =>
      have digit := digits_isDigit n.natAbs c (by simp [digits])
      rw [digits] at read
      simp only [signText, Bool.false_eq_true, if_false, List.nil_append, List.map_cons,
        if_neg (unit_digit_ne digit (u := unit '-') (by decide)),
        if_neg (unit_digit_ne digit (u := unit '+') (by decide))]
      rw [← List.map_cons, read]
      exact congrArg some (by omega)

theorem decimal_injective : Function.Injective decimal := fun m n same => by
  have read := bigIntOf_decimal m
  rw [same, bigIntOf_decimal] at read
  exact (Option.some.inj read).symm

end Js
