import InrSettle.Library.JsWellFormed

/-!
# Bytes and texts

UTF-8, and base64url without padding. What is no UTF-8 is read as the runtime reads it; a
character that is in neither alphabet is passed over.
-/

namespace Js

abbrev Bytes := List UInt8

/-! ### UTF-8 -/

/-- `Buffer.from(text, 'utf8')`. -/
def utf8 (text : Text) : Bytes := (decoded text).toByteArray.data.toList

/-- `buffer.toString('utf8')`; `lossy` reads what is no UTF-8. -/
def ofUtf8 (lossy : Bytes → Text) (bytes : Bytes) : Text :=
  match String.fromUTF8? ⟨bytes.toArray⟩ with
  | some s => ofString s
  | none => lossy bytes

theorem ofUtf8_utf8 (lossy : Bytes → Text) (text : Text) :
    ofUtf8 lossy (utf8 text) = ofString (decoded text) := by
  rw [ofUtf8, utf8, Array.toArray_toList, String.fromUTF8?, dif_pos (decoded text).isValidUTF8]
  rfl

theorem utf8_eq_iff {text text' : Text} :
    utf8 text = utf8 text' ↔ codePoints text = codePoints text' := by
  rw [utf8, utf8, Array.toList_inj]
  refine ⟨fun same => ?_, fun same => by rw [decoded, decoded, same]⟩
  exact String.ofList_injective (String.toByteArray_inj.mp (ByteArray.ext same))

/-! ### base64url -/

/-- The characters of base64url, in the order of their values. -/
def alphabet : Text := ofString "ABCDEFGHIJKLMNOPQRSTUVWXYZabcdefghijklmnopqrstuvwxyz0123456789-_"

def letter (n : Nat) : CodeUnit := alphabet.getD n (unit 'A')

/-- The value of a character of base64url, or of base64. -/
def valueOf (u : CodeUnit) : Option Nat :=
  if u = unit '+' then some 62 else if u = unit '/' then some 63 else alphabet.idxOf? u

/-- `buffer.toString('base64url')`. -/
def base64url : Bytes → Text
  | [] => []
  | [a] => [letter (a.toNat / 4), letter (a.toNat % 4 * 16)]
  | [a, b] => [letter (a.toNat / 4), letter (a.toNat % 4 * 16 + b.toNat / 16),
      letter (b.toNat % 16 * 4)]
  | a :: b :: c :: rest =>
    letter (a.toNat / 4) :: letter (a.toNat % 4 * 16 + b.toNat / 16) ::
      letter (b.toNat % 16 * 4 + c.toNat / 64) :: letter (c.toNat % 64) :: base64url rest

/-- The bytes of values of six bits. -/
def bytesOf : List Nat → Bytes
  | [] | [_] => []
  | [a, b] => [UInt8.ofNat (a * 4 + b / 16)]
  | [a, b, c] => [UInt8.ofNat (a * 4 + b / 16), UInt8.ofNat (b * 16 + c / 4)]
  | a :: b :: c :: d :: rest =>
    UInt8.ofNat (a * 4 + b / 16) :: UInt8.ofNat (b * 16 + c / 4) :: UInt8.ofNat (c * 64 + d) ::
      bytesOf rest

/-- `Buffer.from(text, 'base64url')`. -/
def ofBase64url (text : Text) : Bytes := bytesOf (text.filterMap valueOf)

theorem valueOf_letter {n : Nat} (small : n < 64) : valueOf (letter n) = some n :=
  (by decide +kernel : ∀ n : Fin 64, valueOf (letter n) = some n.val) ⟨n, small⟩

theorem letter_plain {n : Nat} (small : n < 64) : letter n ≠ unit '.' ∧ letter n ≠ unit '~' :=
  (by decide +kernel : ∀ n : Fin 64, letter n ≠ unit '.' ∧ letter n ≠ unit '~') ⟨n, small⟩

theorem byte_eq {n : Nat} {a : UInt8} (same : n % 256 = a.toNat) : UInt8.ofNat n = a :=
  UInt8.toNat_inj.mp (UInt8.toNat_ofNat'.trans same)

theorem ofBase64url_base64url (bytes : Bytes) : ofBase64url (base64url bytes) = bytes := by
  rw [ofBase64url]
  fun_induction base64url bytes with
  | case1 => rfl
  | case2 a =>
    have ha := a.toNat_lt
    rw [List.filterMap_cons_some (valueOf_letter (by omega)),
      List.filterMap_cons_some (valueOf_letter (by omega)), List.filterMap_nil, bytesOf,
      byte_eq (a := a) (by omega)]
  | case3 a b =>
    have ha := a.toNat_lt
    have hb := b.toNat_lt
    rw [List.filterMap_cons_some (valueOf_letter (by omega)),
      List.filterMap_cons_some (valueOf_letter (by omega)),
      List.filterMap_cons_some (valueOf_letter (by omega)), List.filterMap_nil, bytesOf,
      byte_eq (a := a) (by omega), byte_eq (a := b) (by omega)]
  | case4 a b c rest ih =>
    have ha := a.toNat_lt
    have hb := b.toNat_lt
    have hc := c.toNat_lt
    rw [List.filterMap_cons_some (valueOf_letter (by omega)),
      List.filterMap_cons_some (valueOf_letter (by omega)),
      List.filterMap_cons_some (valueOf_letter (by omega)),
      List.filterMap_cons_some (valueOf_letter (by omega)), bytesOf, ih,
      byte_eq (a := a) (by omega), byte_eq (a := b) (by omega), byte_eq (a := c) (by omega)]

theorem base64url_eq_nil {bytes : Bytes} : base64url bytes = [] ↔ bytes = [] := by
  fun_cases base64url bytes <;> simp

theorem mem_base64url {bytes : Bytes} {u : CodeUnit} (mem : u ∈ base64url bytes) :
    ∃ n, n < 64 ∧ u = letter n := by
  fun_induction base64url bytes with
  | case1 => cases mem
  | case2 a =>
    have ha := a.toNat_lt
    rcases List.mem_cons.mp mem with is | mem
    · exact ⟨_, by omega, is⟩
    · exact ⟨_, by omega, List.mem_singleton.mp mem⟩
  | case3 a b =>
    have ha := a.toNat_lt
    have hb := b.toNat_lt
    rcases List.mem_cons.mp mem with is | mem
    · exact ⟨_, by omega, is⟩
    · rcases List.mem_cons.mp mem with is | mem
      · exact ⟨_, by omega, is⟩
      · exact ⟨_, by omega, List.mem_singleton.mp mem⟩
  | case4 a b c rest ih =>
    have ha := a.toNat_lt
    have hb := b.toNat_lt
    have hc := c.toNat_lt
    simp only [List.mem_cons] at mem
    rcases mem with is | is | is | is | mem
    · exact ⟨_, by omega, is⟩
    · exact ⟨_, by omega, is⟩
    · exact ⟨_, by omega, is⟩
    · exact ⟨_, by omega, is⟩
    · exact ih mem

/-- Neither separator of an encoded field is in the alphabet. -/
theorem base64url_plain (bytes : Bytes) :
    unit '.' ∉ base64url bytes ∧ unit '~' ∉ base64url bytes := by
  constructor
  · intro mem
    obtain ⟨n, small, is⟩ := mem_base64url mem
    exact (letter_plain small).1 is.symm
  · intro mem
    obtain ⟨n, small, is⟩ := mem_base64url mem
    exact (letter_plain small).2 is.symm

end Js
