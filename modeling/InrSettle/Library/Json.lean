import Mathlib

/-!
# JSON strings

A string as a JSON text quotes it, and an object whose members are strings. Where a
quoted string ends is told by the text, so what follows it is too.
-/

namespace Json

def hexDigit (n : Nat) : Char :=
  if n < 10 then Char.ofNat (48 + n) else Char.ofNat (87 + n)

/-- A character between the quotes. -/
def escape (c : Char) : List Char :=
  if c = '"' then ['\\', '"']
  else if c = '\\' then ['\\', '\\']
  else if c.toNat = 8 then ['\\', 'b']
  else if c.toNat = 9 then ['\\', 't']
  else if c.toNat = 10 then ['\\', 'n']
  else if c.toNat = 12 then ['\\', 'f']
  else if c.toNat = 13 then ['\\', 'r']
  else if c.toNat < 32 then
    ['\\', 'u', '0', '0', hexDigit (c.toNat / 16), hexDigit (c.toNat % 16)]
  else [c]

/-- `JSON.stringify(text)`. -/
def quote (text : List Char) : List Char := '"' :: text.flatMap escape ++ ['"']

/-! ### Where an escape ends -/

/-- The codes of the characters that are written otherwise. -/
def special : List Nat := List.range 32 ++ [34, 92]

theorem special_apart : ∀ m ∈ special, ∀ n ∈ special,
    escape (Char.ofNat m) <+: escape (Char.ofNat n) → m = n := by decide +kernel

theorem escape_special : ∀ m ∈ special, (escape (Char.ofNat m)).head? = some '\\' := by
  decide +kernel

theorem escape_plain {c : Char} (plain : c.toNat ∉ special) : escape c = [c] := by
  simp only [special, List.mem_append, List.mem_range, List.mem_cons, List.not_mem_nil,
    or_false, not_or] at plain
  obtain ⟨notControl, notQuote, notBackslash⟩ := plain
  unfold escape
  rw [if_neg (by rintro rfl; exact notQuote rfl), if_neg (by rintro rfl; exact notBackslash rfl),
    if_neg (by omega), if_neg (by omega), if_neg (by omega), if_neg (by omega), if_neg (by omega),
    if_neg (by omega)]

theorem escape_inj_of_isPrefix {c d : Char} (isPrefix : escape c <+: escape d) : c = d := by
  by_cases plain : c.toNat ∈ special
  · by_cases plain' : d.toNat ∈ special
    · have codes := special_apart c.toNat plain d.toNat plain' (by simpa using isPrefix)
      rw [← Char.ofNat_toNat c, codes, Char.ofNat_toNat]
    · have head := escape_special c.toNat plain
      rw [Char.ofNat_toNat] at head
      rw [escape_plain plain'] at isPrefix
      obtain ⟨rest, is⟩ := isPrefix
      have same := congrArg List.head? is
      rw [List.head?_append, head] at same
      obtain rfl : '\\' = d := Option.some.inj same
      exact (plain' (by decide)).elim
  · rw [escape_plain plain] at isPrefix
    obtain ⟨rest, is⟩ := isPrefix
    by_cases plain' : d.toNat ∈ special
    · have head := escape_special d.toNat plain'
      rw [Char.ofNat_toNat, ← is] at head
      obtain rfl : c = '\\' := Option.some.inj head
      exact (plain (by decide)).elim
    · rw [escape_plain plain'] at is
      exact (List.cons.inj is).1

/-- A text between its quotes is read off what it is written in. -/
theorem escaped_prefix {s t xs ys : List Char}
    (same : s.flatMap escape ++ '"' :: xs = t.flatMap escape ++ '"' :: ys) : s = t ∧ xs = ys := by
  have noQuote : ∀ (c : Char) (rest more : List Char),
      escape c ++ rest ≠ '"' :: more := by
    intro c rest more is
    by_cases plain : c.toNat ∈ special
    · have head := escape_special c.toNat plain
      rw [Char.ofNat_toNat] at head
      have first := congrArg List.head? is
      rw [List.head?_append, head] at first
      exact absurd (Option.some.inj first) (by decide)
    · rw [escape_plain plain] at is
      obtain rfl := (List.cons.inj is).1
      exact plain (by decide)
  induction s generalizing t with
  | nil =>
    cases t with
    | nil => exact ⟨rfl, (List.cons.inj same).2⟩
    | cons d t =>
      rw [List.flatMap_cons, List.append_assoc] at same
      exact (noQuote _ _ _ same.symm).elim
  | cons c s ih =>
    cases t with
    | nil =>
      rw [List.flatMap_cons, List.append_assoc] at same
      exact (noQuote _ _ _ same).elim
    | cons d t =>
      rw [List.flatMap_cons, List.flatMap_cons, List.append_assoc, List.append_assoc] at same
      have first : c = d := by
        rcases List.append_eq_append_iff.mp same with ⟨more, is, -⟩ | ⟨more, is, -⟩
        · exact escape_inj_of_isPrefix ⟨more, is.symm⟩
        · exact (escape_inj_of_isPrefix ⟨more, is.symm⟩).symm
      subst first
      obtain ⟨rfl, rest⟩ := ih (List.append_cancel_left same)
      exact ⟨rfl, rest⟩

/-- A quoted text tells the text, and what follows it. -/
theorem quote_prefix {s t xs ys : List Char} (same : quote s ++ xs = quote t ++ ys) :
    s = t ∧ xs = ys := by
  simp only [quote, List.cons_append, List.append_assoc, List.nil_append] at same
  exact escaped_prefix (List.cons.inj same).2

/-! ### Objects of strings -/

/-- A member, and what follows it. -/
def withMember (key value rest : List Char) : List Char :=
  quote key ++ ':' :: (quote value ++ rest)

/-- The members after the first, and the end of the object. -/
def moreMembers : List (List Char × List Char) → List Char
  | [] => ['\x7d']
  | (key, value) :: rest => ',' :: withMember key value (moreMembers rest)

/-- `JSON.stringify` of an object whose members are strings, in the order they are given. -/
def object : List (List Char × List Char) → List Char
  | [] => ['\x7b', '\x7d']
  | (key, value) :: rest => '\x7b' :: withMember key value (moreMembers rest)

theorem withMember_inj {key key' value value' xs ys : List Char}
    (same : withMember key value xs = withMember key' value' ys) :
    key = key' ∧ value = value' ∧ xs = ys := by
  obtain ⟨keys, same⟩ := quote_prefix same
  obtain ⟨values, same⟩ := quote_prefix (List.cons.inj same).2
  exact ⟨keys, values, same⟩

theorem moreMembers_inj {xs ys : List (List Char × List Char)}
    (same : moreMembers xs = moreMembers ys) : xs = ys := by
  induction xs generalizing ys with
  | nil =>
    cases ys with
    | nil => rfl
    | cons => exact absurd (List.cons.inj same).1 (by decide)
  | cons x xs ih =>
    cases ys with
    | nil => exact absurd (List.cons.inj same).1 (by decide)
    | cons y ys =>
      obtain ⟨keys, values, rest⟩ := withMember_inj (List.cons.inj same).2
      rw [Prod.ext keys values, ih rest]

theorem object_inj {xs ys : List (List Char × List Char)} (same : object xs = object ys) :
    xs = ys := by
  cases xs with
  | nil =>
    cases ys with
    | nil => rfl
    | cons => exact absurd (List.cons.inj (List.cons.inj same).2).1 (by decide)
  | cons x xs =>
    cases ys with
    | nil => exact absurd (List.cons.inj (List.cons.inj same).2).1 (by decide)
    | cons y ys =>
      obtain ⟨keys, values, rest⟩ := withMember_inj (List.cons.inj same).2
      rw [Prod.ext keys values, moreMembers_inj rest]

end Json
