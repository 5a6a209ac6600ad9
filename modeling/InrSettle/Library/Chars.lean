import Mathlib

/-!
# Texts as lists of characters

White space at the ends of a text, digits, and texts that are joined and split.
-/

namespace Chars

/-- White space and line terminators. -/
def isSpace (c : Char) : Bool :=
  [9, 10, 11, 12, 13, 32, 160, 0x1680, 0x2028, 0x2029, 0x202F, 0x205F, 0x3000, 0xFEFF].contains c.toNat
    || decide (0x2000 ≤ c.toNat ∧ c.toNat ≤ 0x200A)

def trim (text : List Char) : List Char :=
  ((text.dropWhile isSpace).reverse.dropWhile isSpace).reverse

theorem dropWhile_eq_self {text : List Char} (all : ∀ c ∈ text, isSpace c = false) :
    text.dropWhile isSpace = text := by
  cases text with
  | nil => rfl
  | cons c rest => rw [List.dropWhile_cons, all c List.mem_cons_self, if_neg Bool.false_ne_true]

theorem trim_eq_self {text : List Char} (all : ∀ c ∈ text, isSpace c = false) :
    trim text = text := by
  rw [trim, dropWhile_eq_self all, dropWhile_eq_self, List.reverse_reverse]
  exact fun c mem => all c (List.mem_reverse.mp mem)

/-- What is trimmed is white space on both sides. -/
theorem exists_trim (text : List Char) :
    ∃ before after : List Char, text = before ++ (trim text ++ after) ∧
      (∀ c ∈ before, isSpace c = true) ∧ ∀ c ∈ after, isSpace c = true := by
  have spaces : ∀ l : List Char, ∀ c ∈ l.takeWhile isSpace, isSpace c = true := fun l c mem =>
    List.mem_takeWhile_imp mem
  refine ⟨text.takeWhile isSpace,
    ((text.dropWhile isSpace).reverse.takeWhile isSpace).reverse, ?_, spaces text,
    fun c mem => spaces _ c (List.mem_reverse.mp mem)⟩
  rw [trim, ← List.reverse_append, List.takeWhile_append_dropWhile, List.reverse_reverse,
    List.takeWhile_append_dropWhile]

theorem mem_or_isSpace_of_mem {text : List Char} {c : Char} (mem : c ∈ text) :
    c ∈ trim text ∨ isSpace c = true := by
  obtain ⟨before, after, is, spaces, spacesAfter⟩ := exists_trim text
  rw [is, List.mem_append, List.mem_append] at mem
  rcases mem with mem | mem | mem
  · exact .inr (spaces c mem)
  · exact .inl mem
  · exact .inr (spacesAfter c mem)

/-- Trimming takes nothing away that is kept anyway. -/
theorem filter_trim (text : List Char) {keeps : Char → Bool}
    (noSpace : ∀ c, isSpace c = true → keeps c = false) :
    (trim text).filter keeps = text.filter keeps := by
  obtain ⟨before, after, is, spaces, spacesAfter⟩ := exists_trim text
  have none : ∀ l : List Char, (∀ c ∈ l, isSpace c = true) → l.filter keeps = [] :=
    fun l all => List.filter_eq_nil_iff.mpr fun c mem => by simp [noSpace c (all c mem)]
  conv_rhs => rw [is]
  rw [List.filter_append, List.filter_append, none before spaces, none after spacesAfter,
    List.nil_append, List.append_nil]

theorem isSpace_eq_false {c : Char} (plain : 33 ≤ c.toNat ∧ c.toNat ≤ 126) : isSpace c = false := by
  simp only [isSpace, Bool.or_eq_false_iff, List.contains_eq_mem, decide_eq_false_iff_not,
    List.mem_cons, List.not_mem_nil, or_false]
  omega

theorem isDigit_range {c : Char} (digit : c.isDigit = true) : 48 ≤ c.toNat ∧ c.toNat ≤ 57 := by
  simp only [Char.isDigit, Bool.and_eq_true, decide_eq_true_eq, ge_iff_le,
    UInt32.le_iff_toNat_le] at digit
  exact digit

theorem isSpace_digit {c : Char} (digit : c.isDigit = true) : isSpace c = false :=
  isSpace_eq_false (by have range := isDigit_range digit; omega)

theorem digits_isDigit (n : Nat) : ∀ c ∈ Nat.toDigits 10 n, c.isDigit = true :=
  fun _ mem => Nat.isDigit_of_mem_toDigits (by decide) (by decide) mem

/-- A text is cut at its first separator. -/
theorem cut_at_first {separator : Char} {before after : List Char} (first : separator ∉ before) :
    (before ++ separator :: after).takeWhile (· ≠ separator) = before ∧
      (before ++ separator :: after).dropWhile (· ≠ separator) = separator :: after := by
  induction before with
  | nil => simp
  | cons c rest ih =>
    have other : c ≠ separator := fun same => first (by simp [same])
    have ih := ih fun mem => first (List.mem_cons_of_mem _ mem)
    simp only [List.cons_append, List.takeWhile_cons, List.dropWhile_cons, ne_eq, other,
      not_false_eq_true, decide_true, if_true]
    exact ⟨congrArg _ ih.1, ih.2⟩

end Chars
