import Mathlib

/-!
# The strings of JavaScript

A string is the list of its UTF-16 code units, compared unit by unit. A JSON text
quotes a string so that every unit of it, a lone surrogate too, can be read back.
-/

namespace Js

/-- A UTF-16 code unit. -/
abbrev CodeUnit := Fin 65536

abbrev Text := List CodeUnit

scoped instance neZero_codeUnit : NeZero 65536 := ⟨by decide⟩

scoped instance lawfulBEq_text : LawfulBEq Text := inferInstance

/-- The code unit of a character that has one. -/
def unit (c : Char) : CodeUnit := Fin.ofNat 65536 c.toNat

def unitsOf (c : Char) : Text :=
  if c.toNat < 0x10000 then [unit c]
  else [Fin.ofNat 65536 (0xD800 + (c.toNat - 0x10000) / 0x400),
    Fin.ofNat 65536 (0xDC00 + (c.toNat - 0x10000) % 0x400)]

def ofString (s : String) : Text := s.toList.flatMap unitsOf

theorem unitsOf_append_inj {c d : Char} {xs ys : Text} (same : unitsOf c ++ xs = unitsOf d ++ ys) :
    c = d ∧ xs = ys := by
  have valid : ∀ e : Char, e.toNat < 0xD800 ∨ 0xDFFF < e.toNat ∧ e.toNat < 0x110000 := fun e => e.valid
  have first := valid c
  have second := valid d
  have code : c.toNat = d.toNat → c = d := fun is => by
    rw [← Char.ofNat_toNat c, is, Char.ofNat_toNat]
  unfold unitsOf at same
  split at same <;> split at same <;>
    simp only [unit, List.cons_append, List.nil_append, List.cons.injEq, Fin.ext_iff,
      Fin.val_ofNat] at same
  · exact ⟨code (by omega), same.2⟩
  · omega
  · omega
  · exact ⟨code (by omega), same.2.2⟩

theorem unitsOf_ne_nil (c : Char) : unitsOf c ≠ [] := by
  unfold unitsOf
  split <;> simp

theorem ofString_injective : Function.Injective ofString := by
  have chars : ∀ cs ds : List Char, cs.flatMap unitsOf = ds.flatMap unitsOf → cs = ds := by
    intro cs
    induction cs with
    | nil =>
      intro ds same
      cases ds with
      | nil => rfl
      | cons d ds => simp [unitsOf_ne_nil] at same
    | cons c cs ih =>
      intro ds same
      cases ds with
      | nil => simp [unitsOf_ne_nil] at same
      | cons d ds =>
        obtain ⟨rfl, rest⟩ := unitsOf_append_inj same
        rw [ih ds rest]
  intro s t same
  exact String.toList_inj.mp (chars _ _ same)

/-- `texts.join(',')`. -/
def joined : List Text → Text
  | [] => []
  | [text] => text
  | text :: next :: rest => text ++ unit ',' :: joined (next :: rest)

/-! ### Quoting -/

def isHighSurrogate (u : CodeUnit) : Bool := decide (0xD800 ≤ u.val ∧ u.val ≤ 0xDBFF)

def isLowSurrogate (u : CodeUnit) : Bool := decide (0xDC00 ≤ u.val ∧ u.val ≤ 0xDFFF)

/-- The code points of a text; a surrogate that is alone is U+FFFD. -/
def codePoints : Text → List Char
  | [] => []
  | [u] => [if isHighSurrogate u || isLowSurrogate u then '\uFFFD' else Char.ofNat u.val]
  | u :: v :: rest =>
    if isHighSurrogate u && isLowSurrogate v then
      Char.ofNat (0x10000 + (u.val - 0xD800) * 0x400 + (v.val - 0xDC00)) :: codePoints rest
    else
      (if isHighSurrogate u || isLowSurrogate u then '\uFFFD' else Char.ofNat u.val) ::
        codePoints (v :: rest)

/-- `text.toWellFormed()`. -/
def decoded (text : Text) : String := String.ofList (codePoints text)

def hexDigit (n : Nat) : CodeUnit := Fin.ofNat 65536 (if n < 10 then 48 + n else 87 + n)

/-- `\u` and four digits. -/
def unicodeEscape (u : CodeUnit) : Text :=
  [unit '\\', unit 'u', hexDigit (u.val / 4096), hexDigit (u.val / 256 % 16),
    hexDigit (u.val / 16 % 16), hexDigit (u.val % 16)]

/-- The letter that stands for a unit after a backslash. -/
def letterOf (u : CodeUnit) : Option CodeUnit :=
  if u = unit '"' then some (unit '"')
  else if u = unit '\\' then some (unit '\\')
  else if u.val = 8 then some (unit 'b')
  else if u.val = 9 then some (unit 't')
  else if u.val = 10 then some (unit 'n')
  else if u.val = 12 then some (unit 'f')
  else if u.val = 13 then some (unit 'r')
  else none

/-- A unit that is no half of a pair. -/
def escapeUnit (u : CodeUnit) : Text :=
  match letterOf u with
  | some letter => [unit '\\', letter]
  | none =>
    if u.val < 32 ∨ isHighSurrogate u = true ∨ isLowSurrogate u = true then unicodeEscape u else [u]

def escaped : Text → Text
  | [] => []
  | [u] => escapeUnit u
  | u :: v :: rest =>
    if isHighSurrogate u = true ∧ isLowSurrogate v = true then u :: v :: escaped rest
    else escapeUnit u ++ escaped (v :: rest)

/-- `JSON.stringify(text)`. -/
def quote (text : Text) : Text := unit '"' :: (escaped text ++ [unit '"'])

/-! ### Reading what is quoted -/

inductive FailureKind where
  | malformed | duplicateKey
  deriving DecidableEq

/-- Why a text could not be read, and what of it was left. -/
structure Failure where
  message : Text
  rest : Text
  kind : FailureKind := .malformed
  deriving DecidableEq

abbrev Read (α : Type) := Except Failure (α × Text)

def fail {α : Type} (message : String) (rest : Text) : Read α :=
  .error { message := ofString message, rest := rest }

def hexValue (u : CodeUnit) : Option Nat :=
  if 48 ≤ u.val ∧ u.val ≤ 57 then some (u.val - 48)
  else if 97 ≤ u.val ∧ u.val ≤ 102 then some (u.val - 87)
  else if 65 ≤ u.val ∧ u.val ≤ 70 then some (u.val - 55)
  else none

def hexValues (a b c d : CodeUnit) : Option CodeUnit := do
  let a ← hexValue a
  let b ← hexValue b
  let c ← hexValue c
  let d ← hexValue d
  return Fin.ofNat 65536 (a * 4096 + b * 256 + c * 16 + d)

/-- What a letter after a backslash stands for. -/
def unitFor (letter : CodeUnit) : Option CodeUnit :=
  if letter = unit '"' then some (unit '"')
  else if letter = unit '\\' then some (unit '\\')
  else if letter = unit '/' then some (unit '/')
  else if letter = unit 'b' then some 8
  else if letter = unit 'f' then some 12
  else if letter = unit 'n' then some 10
  else if letter = unit 'r' then some 13
  else if letter = unit 't' then some 9
  else none

def Read.cons (u : CodeUnit) : Read Text → Read Text :=
  Except.map fun read => (u :: read.1, read.2)

/-- A string, after the quotation mark that opens it. -/
def readString : Text → Read Text
  | [] => fail "unterminated string" []
  | u :: rest =>
    if u = unit '"' then .ok ([], rest)
    else if u = unit '\\' then
      match rest with
      | [] => fail "unterminated escape sequence" []
      | letter :: rest =>
        if letter = unit 'u' then
          match rest with
          | a :: b :: c :: d :: more =>
            match hexValues a b c d with
            | some v => (readString more).cons v
            | none => fail "malformed \\u escape" rest
          | _ => fail "malformed \\u escape" rest
        else
          match unitFor letter with
          | some v => (readString rest).cons v
          | none => .error { message := ofString "unknown escape \\" ++ [letter], rest := rest }
    else if u.val < 32 then fail "unescaped control character in string" (u :: rest)
    else (readString rest).cons u

theorem hexValue_hexDigit : ∀ n < 16, hexValue (hexDigit n) = some n := by decide

theorem hexValues_digits (u : CodeUnit) : hexValues (hexDigit (u.val / 4096))
    (hexDigit (u.val / 256 % 16)) (hexDigit (u.val / 16 % 16)) (hexDigit (u.val % 16)) =
      some u := by
  have bound := u.isLt
  simp only [hexValues, hexValue_hexDigit _ (show u.val / 4096 < 16 by omega),
    hexValue_hexDigit _ (show u.val / 256 % 16 < 16 by omega),
    hexValue_hexDigit _ (show u.val / 16 % 16 < 16 by omega),
    hexValue_hexDigit _ (show u.val % 16 < 16 by omega), Option.bind_eq_bind, Option.bind_some,
    Option.pure_def, Option.some.injEq, Fin.ext_iff, Fin.val_ofNat]
  omega

theorem unitFor_letterOf {u letter : CodeUnit} (is : letterOf u = some letter) :
    unitFor letter = some u ∧ letter ≠ unit 'u' := by
  unfold letterOf at is
  split at is
  · rename_i same
    subst same
    obtain rfl := Option.some.inj is
    decide
  split at is
  · rename_i same
    subst same
    obtain rfl := Option.some.inj is
    decide
  repeat'
    split at is
    · rename_i code
      obtain rfl := Option.some.inj is
      have same : u = Fin.ofNat 65536 u.val := by simp
      rw [same, code]
      decide
  cases is

theorem readString_mark (rest : Text) : readString (unit '"' :: rest) = .ok ([], rest) := by
  rw [readString.eq_def]
  exact if_pos rfl

theorem readString_letter {letter u : CodeUnit} (rest : Text) (other : letter ≠ unit 'u')
    (stands : unitFor letter = some u) :
    readString (unit '\\' :: letter :: rest) = (readString rest).cons u := by
  rw [readString.eq_def]
  simp only [if_neg (show unit '\\' ≠ unit '"' by decide), if_pos, if_neg other, stands]

theorem readString_digits {a b c d u : CodeUnit} (rest : Text)
    (stands : hexValues a b c d = some u) :
    readString (unit '\\' :: unit 'u' :: a :: b :: c :: d :: rest) =
      (readString rest).cons u := by
  rw [readString.eq_def]
  simp only [if_neg (show unit '\\' ≠ unit '"' by decide), if_pos, stands]

theorem readString_plain {u : CodeUnit} (rest : Text) (mark : u ≠ unit '"')
    (backslash : u ≠ unit '\\') (printable : ¬u.val < 32) :
    readString (u :: rest) = (readString rest).cons u := by
  rw [readString.eq_def]
  simp only [if_neg mark, if_neg backslash, if_neg printable]

theorem readString_escapeUnit (u : CodeUnit) (rest : Text) :
    readString (escapeUnit u ++ rest) = (readString rest).cons u := by
  unfold escapeUnit
  split
  · rename_i letter is
    obtain ⟨stands, other⟩ := unitFor_letterOf is
    exact readString_letter rest other stands
  · rename_i none
    split
    · exact readString_digits rest (hexValues_digits u)
    · rename_i plain
      refine readString_plain rest ?_ ?_ fun control => plain (.inl control)
      · rintro rfl
        cases none
      · rintro rfl
        cases none

/-- A string is read back off what it is quoted as. -/
theorem readString_escaped (text rest : Text) :
    readString (escaped text ++ unit '"' :: rest) = .ok (text, rest) := by
  fun_induction escaped text with
  | case1 => exact readString_mark rest
  | case2 u =>
    rw [readString_escapeUnit, readString_mark]
    rfl
  | case3 u v more pair ih =>
    have plain : ∀ w : CodeUnit, 0xD800 ≤ w.val →
        w ≠ unit '"' ∧ w ≠ unit '\\' ∧ ¬w.val < 32 := by
      intro w high
      refine ⟨?_, ?_, by omega⟩ <;> rintro rfl <;> exact absurd high (by decide)
    simp only [isHighSurrogate, isLowSurrogate, decide_eq_true_eq] at pair
    obtain ⟨mark, backslash, printable⟩ := plain u pair.1.1
    obtain ⟨mark', backslash', printable'⟩ := plain v (by omega)
    rw [List.cons_append, List.cons_append, readString_plain _ mark backslash printable,
      readString_plain _ mark' backslash' printable', ih]
    rfl
  | case4 u v more single ih =>
    rw [List.append_assoc, readString_escapeUnit, ih]
    rfl

end Js
