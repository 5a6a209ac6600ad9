import InrSettle.Domain.Signature
import InrSettle.Library.Text
import Mathlib

/-!
# Signed deliveries

A header that was built is parsed into what it was built from. As the signed text names
the time and the body, a verifier accepts a header for what one of its secrets signed.
-/

namespace InrSettle

open Chars

/-- A digest in lower case. -/
def lowerHex (digest : List Char) : Prop :=
  digest ≠ [] ∧ ∀ c ∈ digest, c.isDigit = true ∨ 'a' ≤ c ∧ c ≤ 'f'

/-! ### Characters of a header -/

theorem lowerHex_range {c : Char} (hex : c.isDigit = true ∨ 'a' ≤ c ∧ c ≤ 'f') :
    48 ≤ c.toNat ∧ c.toNat ≤ 57 ∨ 97 ≤ c.toNat ∧ c.toNat ≤ 102 := by
  rcases hex with digit | ⟨low, high⟩
  · exact .inl (isDigit_range digit)
  · exact .inr ⟨low, high⟩

theorem lowerHex_plain {c : Char} (hex : c.isDigit = true ∨ 'a' ≤ c ∧ c ≤ 'f') :
    Chars.isSpace c = false ∧ isHex c = true ∧ c ≠ ',' ∧ c.toLower = c := by
  have range := lowerHex_range hex
  refine ⟨isSpace_eq_false (by omega), ?_, ?_, ?_⟩
  · rcases hex with digit | letter <;> simp [isHex, *]
  · rintro rfl
    revert range
    decide
  · have upper : ¬(65 ≤ c.toNat ∧ c.toNat ≤ 90) := by omega
    rw [Char.toLower, dif_neg]
    rintro ⟨low, high⟩
    exact upper ⟨low, high⟩

theorem digit_lowerHex {digits : List Char} (all : ∀ c ∈ digits, c.isDigit = true) :
    ∀ c ∈ digits, c.isDigit = true ∨ 'a' ≤ c ∧ c ≤ 'f' :=
  fun c mem => .inl (all c mem)

/-! ### Reading what was built -/

variable {hmac : List Char → List Char → List Char}

theorem readPart_time (parsed : Option Nat × List (List Char)) (n : Nat) :
    readPart parsed ('t' :: '=' :: Nat.toDigits 10 n) = some (some n, parsed.2) := by
  have pieces := @cut_at_first '=' ['t'] (Nat.toDigits 10 n) (by decide)
  have plain := digits_isDigit n
  have value : Chars.trim (Nat.toDigits 10 n) = Nat.toDigits 10 n :=
    trim_eq_self fun c mem => isSpace_digit (plain c mem)
  have key : Chars.trim ['t'] = ['t'] := by decide
  simp only [List.cons_append, List.nil_append] at pieces
  rw [readPart, if_pos (by simp), pieces.1, pieces.2, List.drop_one, List.tail_cons, value, key]
  simp only [if_true]
  rw [if_pos ⟨Nat.toDigits_ne_nil, List.all_eq_true.mpr plain⟩, Nat.ofDigitChars_ten_toDigits]

theorem readPart_signature (parsed : Option Nat × List (List Char)) {digest : List Char}
    (hex : lowerHex digest) :
    readPart parsed (signatureScheme ++ '=' :: digest) = some (parsed.1, parsed.2 ++ [digest]) := by
  have pieces := @cut_at_first '=' signatureScheme digest (by decide)
  have plain : ∀ c ∈ digest, _ := fun c mem => lowerHex_plain (hex.2 c mem)
  have value : Chars.trim digest = digest := trim_eq_self fun c mem => (plain c mem).1
  have key : Chars.trim signatureScheme = signatureScheme := by decide
  have lower : digest.map Char.toLower = digest :=
    (List.map_congr_left fun c mem => (plain c mem).2.2.2).trans (List.map_id _)
  have hexes : digest.all isHex = true := List.all_eq_true.mpr fun c mem => (plain c mem).2.1
  rw [readPart, if_pos (by simp), pieces.1, pieces.2, List.drop_one, List.tail_cons, value, key]
  simp only [hexes, lower]
  simp [signatureScheme, hex.1]

theorem foldlM_signatures (digests : List (List Char)) (hex : ∀ digest ∈ digests, lowerHex digest)
    (time : Option Nat) (before : List (List Char)) :
    (digests.map fun digest => signatureScheme ++ '=' :: digest).foldlM readPart (time, before) =
      some (time, before ++ digests) := by
  induction digests generalizing before with
  | nil => simp
  | cons digest rest ih =>
    obtain ⟨first, others⟩ := List.forall_mem_cons.mp hex
    rw [List.map_cons, List.foldlM_cons, readPart_signature _ first]
    have step := ih others (before ++ [digest])
    simpa using step

/-- The digests a header carries. -/
def signaturesOf (hmac : List Char → List Char → List Char) (secrets : List (List Char))
    (timestampSeconds : Nat) (rawBody : List Char) : List (List Char) :=
  secrets.map fun secret => computeSignature hmac secret timestampSeconds rawBody

theorem parse_buildSignatureHeader (hex : ∀ secret message, lowerHex (hmac secret message))
    (secrets : List (List Char)) (timestampSeconds : Nat) (rawBody : List Char) :
    parseSignatureHeader (buildSignatureHeader hmac secrets timestampSeconds rawBody) =
      if secrets = [] then none
      else some ⟨timestampSeconds, signaturesOf hmac secrets timestampSeconds rawBody⟩ := by
  have hexes : ∀ digest ∈ signaturesOf hmac secrets timestampSeconds rawBody, lowerHex digest :=
    List.forall_mem_map.mpr fun secret _ => hex _ _
  have parts : (buildSignatureHeader hmac secrets timestampSeconds rawBody).splitOn ',' =
      ('t' :: '=' :: Nat.toDigits 10 timestampSeconds) ::
        (signaturesOf hmac secrets timestampSeconds rawBody).map fun digest =>
          signatureScheme ++ '=' :: digest := by
    rw [signaturesOf, List.map_map]
    refine List.splitOn_intercalate ',' (List.forall_mem_cons.mpr ⟨?_, ?_⟩) (by simp)
    · simp only [List.mem_cons, not_or]
      exact ⟨by decide, by decide, Text.not_mem_digits (by decide) _⟩
    · refine List.forall_mem_map.mpr fun secret _ mem => ?_
      simp only [List.mem_append, List.mem_cons] at mem
      rcases mem with mem | mem | mem
      · revert mem
        decide
      · cases mem
      · exact (lowerHex_plain ((hex secret _).2 _ mem)).2.2.1 rfl
  rw [parseSignatureHeader, parts, List.foldlM_cons, readPart_time]
  have rest := foldlM_signatures _ hexes (some timestampSeconds) []
  simp only [Option.bind_eq_bind, Option.bind_some, rest, List.nil_append]
  cases secrets with
  | nil => simp [signaturesOf]
  | cons secret others => simp [signaturesOf]

/-! ### What a signature is for -/

/-- A signed text names its time and its body. -/
theorem signedPayload_inj {m n : Nat} {body body' : List Char}
    (same : signedPayload m body = signedPayload n body') : m = n ∧ body = body' := by
  have noPoint := @Text.not_mem_digits '.' (by decide)
  obtain ⟨digits, rest⟩ := @cut_at_first '.' (Nat.toDigits 10 m) body (noPoint m)
  rw [signedPayload, signedPayload] at same
  rw [same, (cut_at_first (noPoint n)).1] at digits
  rw [same, (cut_at_first (noPoint n)).2] at rest
  exact ⟨Text.digits_inj digits.symm, (List.cons.inj rest).2.symm⟩

theorem computeSignature_inj (injective : Function.Injective2 hmac) {s s' : List Char} {m n : Nat}
    {body body' : List Char} (same : computeSignature hmac s m body = computeSignature hmac s' n body') :
    s = s' ∧ m = n ∧ body = body' := by
  obtain ⟨secrets, payloads⟩ := injective same
  exact ⟨secrets, signedPayload_inj payloads⟩

theorem verifySignature_ok {header rawBody : List Char} {secrets : List (List Char)}
    {nowSeconds : Int} {toleranceSeconds : Option Nat} :
    verifySignature hmac header rawBody secrets nowSeconds toleranceSeconds = .ok ↔
      ∃ parsed, parseSignatureHeader header = some parsed ∧
        (nowSeconds - parsed.timestampSeconds).natAbs ≤
          toleranceSeconds.getD signatureToleranceSeconds ∧
        ∃ secret ∈ secrets,
          computeSignature hmac secret parsed.timestampSeconds rawBody ∈ parsed.signatures := by
  rw [verifySignature]
  cases parseSignatureHeader header with
  | none => simp
  | some parsed =>
    simp only [Option.some.injEq, exists_eq_left', List.any_eq_true, decide_eq_true_eq,
      exists_eq_right']
    split
    · rename_i late
      simp only [reduceCtorEq, false_iff, not_and]
      omega
    · rename_i inTime
      rw [Nat.not_lt] at inTime
      split
      · rename_i found
        exact iff_of_true rfl ⟨inTime, found⟩
      · rename_i notFound
        exact iff_of_false nofun fun is => notFound is.2

/-- A digest that names its secret and its message. -/
def numberDigest (secret message : List Char) : List Char :=
  Nat.toDigits 10 (Encodable.encode (secret.map Char.toNat, message.map Char.toNat))

theorem numberDigest_hex (secret message : List Char) : lowerHex (numberDigest secret message) :=
  ⟨Nat.toDigits_ne_nil, fun c mem => .inl (digits_isDigit _ c mem)⟩

theorem numberDigest_injective : Function.Injective2 numberDigest := by
  intro s s' m m' same
  have codes := Encodable.encode_injective (Text.digits_inj same)
  obtain ⟨secrets, messages⟩ := Prod.mk.inj codes
  have units : Function.Injective Char.toNat := fun c d same => Char.toNat_inj.mp same
  exact ⟨List.map_injective_iff.mpr units secrets, List.map_injective_iff.mpr units messages⟩

end InrSettle
