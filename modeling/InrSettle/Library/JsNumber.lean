import InrSettle.Library.JsText

/-!
# The numbers of a JSON text

A numeral in the form JSON gives it, how it is written and read, and what is asked of
a type of numbers that are written as numerals.
-/

namespace Js

abbrev Digit := Fin 10

scoped instance neZero_digit : NeZero 10 := ⟨by decide⟩

/-- A numeral; its exponent is written with a sign. -/
structure Numeral where
  negative : Bool
  whole : List Digit
  fraction : List Digit
  exponent : Option (Bool × List Digit)
  wholeOk : whole = [0] ∨ whole.head?.any (· ≠ 0) = true
  exponentOk : exponent.all (fun e => !e.2.isEmpty) = true
  deriving DecidableEq

theorem Numeral.exponentOk_none :
    (none : Option (Bool × List Digit)).all (fun e => !e.2.isEmpty) = true := rfl

/-! ### Writing -/

def Digit.unit (d : Digit) : CodeUnit := Fin.ofNat 65536 (48 + d.val)

def signText (negative : Bool) : Text := if negative then [unit '-'] else []

def fractionText : List Digit → Text
  | [] => []
  | d :: ds => unit '.' :: (d :: ds).map Digit.unit

def exponentText : Option (Bool × List Digit) → Text
  | none => []
  | some (negative, ds) => unit 'e' :: (if negative then unit '-' else unit '+') :: ds.map Digit.unit

def Numeral.text (n : Numeral) : Text :=
  signText n.negative ++ (n.whole.map Digit.unit ++ (fractionText n.fraction ++
    exponentText n.exponent))

/-! ### Reading -/

def digitOf (u : CodeUnit) : Option Digit :=
  if 48 ≤ u.val ∧ u.val ≤ 57 then some (Fin.ofNat 10 (u.val - 48)) else none

def readDigits : Text → List Digit × Text
  | [] => ([], [])
  | u :: rest =>
    match digitOf u with
    | some d => (d :: (readDigits rest).1, (readDigits rest).2)
    | none => ([], u :: rest)

def readMinus : Text → Bool × Text
  | [] => (false, [])
  | u :: rest => if u = unit '-' then (true, rest) else (false, u :: rest)

/-- The digits after a point, if there is one. -/
def readFraction : Text → Option (List Digit) × Text
  | [] => (none, [])
  | u :: rest =>
    if u = unit '.' then (some (readDigits rest).1, (readDigits rest).2) else (none, u :: rest)

/-- A sign that is not needed. -/
def readSign : Text → Bool × Text
  | [] => (false, [])
  | u :: rest =>
    if u = unit '-' then (true, rest) else if u = unit '+' then (false, rest)
    else (false, u :: rest)

def readExponent : Text → Option (Bool × List Digit) × Text
  | [] => (none, [])
  | u :: rest =>
    if u = unit 'e' ∨ u = unit 'E' then
      (some ((readSign rest).1, (readDigits (readSign rest).2).1),
        (readDigits (readSign rest).2).2)
    else (none, u :: rest)

/-- A numeral is read as far as it goes, and then looked at as a whole. -/
def readNumeral (text : Text) : Option (Numeral × Text) :=
  let (negative, text) := readMinus text
  let (whole, text) := readDigits text
  let (fraction, text) := readFraction text
  let (exponent, text) := readExponent text
  if ok : (whole = [0] ∨ whole.head?.any (· ≠ 0) = true) ∧
      fraction.all (fun ds => !ds.isEmpty) = true ∧
      exponent.all (fun e => !e.2.isEmpty) = true then
    some (⟨negative, whole, fraction.getD [], exponent, ok.1, ok.2.2⟩, text)
  else none

/-! ### Reading what is written -/

/-- A unit a numeral may go on with. -/
def goesOn (u : CodeUnit) : Bool :=
  (digitOf u).isSome || u == unit '.' || u == unit 'e' || u == unit 'E'

/-- The text does not go on with a numeral. -/
def Ends (rest : Text) : Prop := rest.head?.all (fun u => !goesOn u) = true

theorem digitOf_unit (d : Digit) : digitOf d.unit = some d := by
  revert d
  decide

theorem readDigits_append (ds : List Digit) {rest : Text}
    (ends : rest.head?.all (fun u => (digitOf u).isNone) = true) :
    readDigits (ds.map Digit.unit ++ rest) = (ds, rest) := by
  induction ds with
  | nil =>
    cases rest with
    | nil => rfl
    | cons u rest =>
      have none : digitOf u = none := by simpa using ends
      simp [readDigits, none]
  | cons d ds ih => simp [readDigits, digitOf_unit, ih]

theorem readMinus_append (negative : Bool) {rest : Text}
    (ends : rest.head?.all (fun u => u ≠ unit '-') = true) :
    readMinus (signText negative ++ rest) = (negative, rest) := by
  cases negative with
  | true => simp [signText, readMinus]
  | false =>
    cases rest with
    | nil => rfl
    | cons u rest =>
      have other : u ≠ unit '-' := by simpa using ends
      simp [signText, readMinus, other]

theorem readFraction_append (ds : List Digit) {rest : Text}
    (ends : rest.head?.all (fun u => (digitOf u).isNone && u != unit '.') = true) :
    readFraction (fractionText ds ++ rest) = (if ds = [] then none else some ds, rest) := by
  cases ds with
  | nil =>
    cases rest with
    | nil => rfl
    | cons u rest =>
      have other : u ≠ unit '.' := by
        simp only [List.head?_cons, Option.all_some, Bool.and_eq_true, bne_iff_ne] at ends
        exact ends.2
      simp [fractionText, readFraction, other]
  | cons d ds =>
    have stops : rest.head?.all (fun u => (digitOf u).isNone) = true := by
      cases rest with
      | nil => rfl
      | cons u rest =>
        simp only [List.head?_cons, Option.all_some, Bool.and_eq_true] at ends ⊢
        exact ends.1
    rw [fractionText, List.cons_append, readFraction, if_pos rfl, readDigits_append _ stops]
    simp

theorem readExponent_append (exponent : Option (Bool × List Digit)) {rest : Text}
    (ends : Ends rest) : readExponent (exponentText exponent ++ rest) = (exponent, rest) := by
  have stops : rest.head?.all (fun u => (digitOf u).isNone) = true := by
    cases rest with
    | nil => rfl
    | cons u rest =>
      simp only [Ends, goesOn, List.head?_cons, Option.all_some, Bool.not_eq_true',
        Bool.or_eq_false_iff] at ends ⊢
      simpa using ends.1.1.1
  cases exponent with
  | none =>
    cases rest with
    | nil => rfl
    | cons u rest =>
      simp only [Ends, goesOn, List.head?_cons, Option.all_some, Bool.not_eq_true',
        Bool.or_eq_false_iff, beq_eq_false_iff_ne] at ends
      simp [exponentText, readExponent, ends.1.2, ends.2]
  | some e =>
    obtain ⟨negative, ds⟩ := e
    have sign : readSign ((if negative then unit '-' else unit '+') :: (ds.map Digit.unit ++ rest)) =
        (negative, ds.map Digit.unit ++ rest) := by
      cases negative <;> rfl
    simp only [exponentText, List.cons_append, readExponent, true_or, if_pos, sign,
      readDigits_append ds stops]

theorem exponentText_stops (exponent : Option (Bool × List Digit)) {rest : Text}
    (ends : Ends rest) : (exponentText exponent ++ rest).head?.all
      (fun u => (digitOf u).isNone && u != unit '.') = true := by
  cases exponent with
  | none =>
    cases rest with
    | nil => rfl
    | cons u rest =>
      simp only [Ends, goesOn, List.head?_cons, Option.all_some, Bool.not_eq_true',
        Bool.or_eq_false_iff, beq_eq_false_iff_ne] at ends
      simp only [exponentText, List.nil_append, List.head?_cons, Option.all_some,
        Bool.and_eq_true, bne_iff_ne]
      exact ⟨by simpa using ends.1.1.1, ends.1.1.2⟩
  | some e => rfl

theorem fractionText_stops (ds : List Digit) {rest : Text}
    (ends : rest.head?.all (fun u => (digitOf u).isNone && u != unit '.') = true) :
    (fractionText ds ++ rest).head?.all (fun u => (digitOf u).isNone) = true := by
  cases ds with
  | nil =>
    cases rest with
    | nil => rfl
    | cons u rest =>
      simp only [List.head?_cons, Option.all_some, Bool.and_eq_true] at ends
      exact ends.1
  | cons d ds => rfl

theorem Numeral.whole_ne_nil (n : Numeral) : n.whole ≠ [] := by
  intro none
  have ok := n.wholeOk
  rw [none] at ok
  rcases ok with ok | ok <;> cases ok

/-- A numeral is read back off its text, where no other one goes on. -/
theorem readNumeral_text (n : Numeral) {rest : Text} (ends : Ends rest) :
    readNumeral (n.text ++ rest) = some (n, rest) := by
  obtain ⟨negative, whole, fraction, exponent, wholeOk, exponentOk⟩ := n
  have minus : (whole.map Digit.unit ++ (fractionText fraction ++
      (exponentText exponent ++ rest))).head?.all (fun u => u ≠ unit '-') = true := by
    cases whole with
    | nil => rcases wholeOk with ok | ok <;> cases ok
    | cons d ds =>
      have other : ∀ d : Digit, Digit.unit d ≠ unit '-' := by decide
      simpa using other d
  have stops := exponentText_stops exponent ends
  simp only [readNumeral, Numeral.text, List.append_assoc, readMinus_append negative minus,
    readDigits_append whole (fractionText_stops fraction stops),
    readFraction_append fraction stops, readExponent_append exponent ends]
  have fractionOk : (if fraction = [] then none else some fraction).all
      (fun ds => !ds.isEmpty) = true := by
    cases fraction <;> rfl
  rw [dif_pos ⟨wholeOk, fractionOk, exponentOk⟩]
  cases fraction <;> rfl

/-! ### Numbers -/

/-- The numbers that are not finite. -/
inductive Special where
  | nan | infinity | minusInfinity
  deriving DecidableEq

def Special.text : Special → Text
  | nan => ofString "NaN"
  | infinity => ofString "Infinity"
  | minusInfinity => ofString "-Infinity"

/-- Numbers that are written as numerals and read from them: a finite number is read back but for
the sign of a zero, which is not written. -/
class NumberFormat (N : Type) where
  write : N → Numeral
  read : Numeral → N
  special : N → Option Special
  ofSpecial : Special → N
  /-- The number, or 0 for -0. -/
  unsigned : N → N
  read_write : ∀ n, (special n).isNone = true → read (write n) = unsigned n
  write_unsigned : ∀ n, write (unsigned n) = write n
  special_unsigned : ∀ n, special (unsigned n) = special n
  unsigned_unsigned : ∀ n, unsigned (unsigned n) = unsigned n
  special_ofSpecial : ∀ s, special (ofSpecial s) = some s

section Format

variable {N : Type} [NumberFormat N]

open NumberFormat

/-- `Number.isFinite(n)`. -/
def NumberFormat.isFinite (n : N) : Bool := (special n).isNone

theorem NumberFormat.isFinite_unsigned (n : N) : isFinite (unsigned n) = isFinite n :=
  congrArg Option.isNone (special_unsigned n)

/-- Numbers are written alike where only the sign of a zero tells them apart. -/
theorem write_eq_iff {m n : N} (finite : isFinite m = true) (finite' : isFinite n = true) :
    write m = write n ↔ unsigned m = unsigned n := by
  constructor
  · intro same
    rw [← read_write m finite, same, read_write n finite']
  · intro same
    rw [← write_unsigned m, same, write_unsigned]

end Format

/-! ### Numerals as numbers -/

/-- Numbers that are told apart as they are written. -/
inductive Literal where
  | numeral (n : Numeral)
  | special (s : Special)
  deriving DecidableEq

namespace Literal

def zero : Numeral := ⟨false, [0], [], none, .inl rfl, rfl⟩

instance : NumberFormat Literal where
  write | numeral n => n
        | special _ => zero
  read := numeral
  special | numeral _ => none
          | special s => some s
  ofSpecial := special
  unsigned n := n
  read_write | numeral _, _ => rfl
  write_unsigned _ := rfl
  special_unsigned _ := rfl
  unsigned_unsigned _ := rfl
  special_ofSpecial _ := rfl

end Literal

end Js
