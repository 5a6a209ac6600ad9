import InrSettle.Service.FieldEncryption

/-!
# Fields are bound to their contexts

With an ideal cipher, a ciphertext opens under its context and under no other one exactly
if the framing can be read back: of the parts, and of the text that is bound.
-/

namespace InrSettle.Crypto

open Js

/-- AES-GCM as an ideal cipher: it opens what it sealed, and nothing under other bound data. -/
structure Ideal (p : Primitives) : Prop where
  opens : ∀ key iv aad plaintext : Bytes, key.length = 32 → iv.length = 12 →
    p.decipher key iv aad (p.encipher key iv aad plaintext) = some plaintext
  binds : ∀ key iv aad aad' plaintext : Bytes, aad' ≠ aad →
    p.decipher key iv aad' (p.encipher key iv aad plaintext) = none
  tagged : ∀ key iv aad plaintext : Bytes, (p.encipher key iv aad plaintext).tag ≠ []
  sized : ∀ key iv aad plaintext : Bytes,
    (p.encipher key iv aad plaintext).ciphertext.length = plaintext.length
  derives : ∀ seed info : Bytes, (p.hkdf seed info).length = 32

/-! ### Framing -/

theorem splitBy_joinedBy {separator : Char} {parts : List Text} (some_ : parts ≠ []) :
    splitBy separator (joinedBy separator parts) = parts.flatMap (splitBy separator) := by
  induction parts with
  | nil => exact (some_ rfl).elim
  | cons part rest ih =>
    cases rest with
    | nil => simp [joinedBy, List.intercalate]
    | cons next rest =>
      have joined : joinedBy separator (part :: next :: rest) =
          part ++ unit separator :: joinedBy separator (next :: rest) := by
        simp [joinedBy, List.intercalate]
      rw [joined, splitBy, List.splitOn_append_cons_self, List.flatMap_cons]
      exact congrArg (part.splitOn (unit separator) ++ ·) (ih (List.cons_ne_nil _ _))

theorem splitBy_plain {separator : Char} {part : Text} (plain : unit separator ∉ part) :
    splitBy separator part = [part] :=
  List.splitOn_eq_singleton plain

theorem splitBy_ne_nil (separator : Char) (part : Text) : splitBy separator part ≠ [] :=
  List.splitOn_ne_nil _ _

theorem splitBy_singleton {separator : Char} {part piece : Text}
    (one : splitBy separator part = [piece]) : part = piece := by
  have whole : [unit separator].intercalate (part.splitOn (unit separator)) = part :=
    List.intercalate_splitOn (unit separator)
  rw [← splitBy, one] at whole
  simpa [List.intercalate] using whole.symm

/-- A part with a separator in it begins with another part. -/
theorem splitBy_of_mem {separator : Char} {part : Text} (mem : unit separator ∈ part) :
    ∃ first rest, splitBy separator part = first :: rest ∧ first ≠ part := by
  obtain ⟨first, rest, rfl, plain⟩ := List.eq_append_cons_of_mem mem
  refine ⟨first, _, List.splitOn_append_cons_self_of_not_mem plain rest, fun same => ?_⟩
  have lengths := congrArg List.length same
  simp at lengths

/-! ### Contexts -/

/-- The parts of a context can be told apart in the text it is bound by, and read back from its
bytes. -/
def Unambiguous (context : FieldContext) : Prop :=
  ∀ part ∈ [context.field, context.workspaceId, context.environment],
    Stable part ∧ unit '|' ∉ part

theorem bar_plain : isSurrogate (unit '|') = false := by decide

theorem bar_other : unit '|' ≠ replacement := by decide

theorem codePoints_aadText (context : FieldContext) : codePoints (aadText context) =
    codePoints fieldEncryptionVersion ++ '|' :: (codePoints context.field ++ '|' ::
      (codePoints context.workspaceId ++ '|' :: codePoints context.environment)) := by
  rw [aadText, codePoints_around bar_plain, codePoints_around bar_plain,
    codePoints_around bar_plain]
  rfl

theorem splitBy_aadText (context : FieldContext) : splitBy '|' (aadText context) =
    fieldEncryptionVersion :: (splitBy '|' context.field ++
      (splitBy '|' context.workspaceId ++ splitBy '|' context.environment)) := by
  have version : splitBy '|' fieldEncryptionVersion = [fieldEncryptionVersion] :=
    splitBy_plain (by decide)
  rw [aadText, splitBy, List.splitOn_append_cons_self, List.splitOn_append_cons_self,
    List.splitOn_append_cons_self, ← splitBy, version]
  rfl

theorem stable_aadText {context : FieldContext} (unambiguous : Unambiguous context) :
    Stable (aadText context) := by
  have version : Stable fieldEncryptionVersion := ⟨by decide, by decide⟩
  rw [aadText, stable_around bar_plain bar_other, stable_around bar_plain bar_other,
    stable_around bar_plain bar_other]
  exact ⟨version, (unambiguous _ (by simp)).1, (unambiguous _ (by simp)).1,
    (unambiguous _ (by simp)).1⟩

theorem aad_inj {context context' : FieldContext} (unambiguous : Unambiguous context)
    (same : aad context' = aad context) : context' = context := by
  have texts := eq_of_codePoints (stable_aadText unambiguous) (utf8_eq_iff.mp same)
  have pieces := (splitBy_aadText context').symm.trans
    ((congrArg (splitBy '|') texts).trans (splitBy_aadText context))
  have whole (part : Text) (mem : part ∈ [context.field, context.workspaceId,
      context.environment]) : splitBy '|' part = [part] := splitBy_plain (unambiguous part mem).2
  rw [whole context.field (by simp), whole context.workspaceId (by simp),
    whole context.environment (by simp), List.cons_inj_right] at pieces
  obtain ⟨first, firsts, isFirst⟩ :=
    List.exists_cons_of_ne_nil (splitBy_ne_nil '|' context'.field)
  obtain ⟨second, seconds, isSecond⟩ :=
    List.exists_cons_of_ne_nil (splitBy_ne_nil '|' context'.workspaceId)
  obtain ⟨third, thirds, isThird⟩ :=
    List.exists_cons_of_ne_nil (splitBy_ne_nil '|' context'.environment)
  rw [isFirst, isSecond, isThird] at pieces
  have lengths := congrArg List.length pieces
  simp only [List.length_append, List.length_cons, List.length_nil] at lengths
  obtain rfl : firsts = [] := List.length_eq_zero_iff.mp (by omega)
  obtain rfl : seconds = [] := List.length_eq_zero_iff.mp (by omega)
  obtain rfl : thirds = [] := List.length_eq_zero_iff.mp (by omega)
  simp only [List.cons_append, List.nil_append, List.cons.injEq, and_true] at pieces
  obtain ⟨rfl, rfl, rfl⟩ := pieces
  obtain ⟨field, workspaceId, environment⟩ := context'
  rw [FieldContext.mk.injEq]
  exact ⟨splitBy_singleton isFirst, splitBy_singleton isSecond, splitBy_singleton isThird⟩

theorem aad_eq_of_codePoints {context context' : FieldContext}
    (same : codePoints (aadText context') = codePoints (aadText context)) :
    aad context' = aad context :=
  utf8_eq_iff.mpr same

/-- The parts of a context that is ambiguous can be cut in another way, or are read from the bytes of
other texts. -/
theorem exists_same_aad {context : FieldContext} (ambiguous : ¬Unambiguous context) :
    ∃ context', context' ≠ context ∧ aad context' = aad context := by
  obtain ⟨field, workspaceId, environment⟩ := context
  unfold Unambiguous at ambiguous
  push Not at ambiguous
  obtain ⟨part, mem, unreadable⟩ := ambiguous
  by_cases stable : Stable part
  · have bar := unreadable stable
    obtain ⟨first, rest, rfl⟩ := List.append_of_mem bar
    simp only [List.mem_cons, List.not_mem_nil, or_false] at mem
    rcases mem with rfl | rfl | rfl
    · refine ⟨⟨first, rest ++ unit '|' :: workspaceId, environment⟩, fun same => ?_, ?_⟩
      · have lengths := congrArg (·.field.length) same
        simp at lengths
      · simp [aad, aadText]
    · refine ⟨⟨field, first, rest ++ unit '|' :: environment⟩, fun same => ?_, ?_⟩
      · have lengths := congrArg (·.workspaceId.length) same
        simp at lengths
      · simp [aad, aadText]
    · refine ⟨⟨field, workspaceId ++ unit '|' :: first, rest⟩, fun same => ?_, ?_⟩
      · have lengths := congrArg (·.workspaceId.length) same
        simp at lengths
      · simp [aad, aadText]
  · obtain ⟨other, differs, points⟩ := exists_other stable
    simp only [List.mem_cons, List.not_mem_nil, or_false] at mem
    rcases mem with rfl | rfl | rfl
    · refine ⟨⟨other, workspaceId, environment⟩, fun same => differs ?_, ?_⟩
      · exact congrArg FieldContext.field same
      · refine aad_eq_of_codePoints ?_
        rw [codePoints_aadText, codePoints_aadText, points]
    · refine ⟨⟨field, other, environment⟩, fun same => differs ?_, ?_⟩
      · exact congrArg FieldContext.workspaceId same
      · refine aad_eq_of_codePoints ?_
        rw [codePoints_aadText, codePoints_aadText, points]
    · refine ⟨⟨field, workspaceId, other⟩, fun same => differs ?_, ?_⟩
      · exact congrArg FieldContext.environment same
      · refine aad_eq_of_codePoints ?_
        rw [codePoints_aadText, codePoints_aadText, points]

/-! ### Opening what was sealed -/

section

variable {p : Primitives} {cipher cipher' : FieldCipher} {draws : Draws} {plaintext : Text}
  {context : FieldContext}

theorem splitBy_base64url (separator : Char) (is : separator = '.' ∨ separator = '~')
    (bytes : Bytes) : splitBy separator (base64url bytes) = [base64url bytes] := by
  rcases is with rfl | rfl
  · exact splitBy_plain (base64url_plain bytes).1
  · exact splitBy_plain (base64url_plain bytes).2

theorem splitBy_wrapDataKey {dataKey kek wrapIv : Bytes} :
    splitBy '.' (wrapDataKey p dataKey kek wrapIv context) =
      [wrapDataKey p dataKey kek wrapIv context] := by
  refine splitBy_plain ?_
  have tilde : unit '.' ≠ unit '~' := by decide
  simp [wrapDataKey, joinedBy, List.intercalate, base64url_plain, tilde]

theorem unwrapDataKey_wrapDataKey (ideal : Ideal p) {dataKey kek wrapIv : Bytes}
    (dataKey_length : dataKey.length = 32) (wrapIv_length : wrapIv.length = 12)
    (context' : FieldContext) :
    unwrapDataKey p (wrapDataKey p dataKey kek wrapIv context) kek context' =
      .ok (p.decipher kek wrapIv (aad context') (p.encipher kek wrapIv (aad context) dataKey)) := by
  have tilde := splitBy_base64url '~' (.inr rfl)
  have some_ {bytes : Bytes} (some_ : bytes ≠ []) : base64url bytes ≠ [] := mt base64url_eq_nil.mp some_
  have iv : wrapIv ≠ [] := by rintro rfl; cases wrapIv_length
  have contents : (p.encipher kek wrapIv (aad context) dataKey).ciphertext ≠ [] := by
    intro none_
    have sized := ideal.sized kek wrapIv (aad context) dataKey
    rw [none_, dataKey_length] at sized
    cases sized
  have tag := ideal.tagged kek wrapIv (aad context) dataKey
  rw [unwrapDataKey, wrapDataKey, splitBy_joinedBy (List.cons_ne_nil _ _)]
  simp only [List.flatMap_cons, List.flatMap_nil, tilde, List.cons_append, List.nil_append]
  rw [if_neg (by simp [some_ iv, some_ tag, some_ contents]), ofBase64url_base64url,
    ofBase64url_base64url, ofBase64url_base64url]

theorem splitBy_encrypt : splitBy '.' (encrypt p cipher draws plaintext context) =
    fieldEncryptionVersion :: (splitBy '.' cipher.keys.activeKeyId ++
      (encryptedParts p cipher draws plaintext context).drop 2) := by
  have version : splitBy '.' fieldEncryptionVersion = [fieldEncryptionVersion] :=
    splitBy_plain (by decide)
  have dot := splitBy_base64url '.' (.inl rfl)
  have some_ : encryptedParts p cipher draws plaintext context ≠ [] := List.cons_ne_nil _ _
  rw [encrypt, splitBy_joinedBy some_]
  simp only [encryptedParts, List.flatMap_cons, List.flatMap_nil, version, dot, splitBy_wrapDataKey,
    List.cons_append, List.nil_append, List.drop_succ_cons, List.drop_zero]

theorem active_length (cipher : FieldCipher) : cipher.active.length = 32 := by
  obtain ⟨before, after, is, -⟩ := List.lookup_eq_some_iff.mp cipher.found
  refine cipher.sized (cipher.keys.activeKeyId, cipher.active) ?_
  rw [is]
  exact List.mem_append_right _ List.mem_cons_self

/-- A key set with the key, named without a dot, opens a ciphertext under what was bound. -/
theorem decrypt_encrypt (ideal : Ideal p) (named : unit '.' ∉ cipher.keys.activeKeyId)
    (has : cipher'.keys.keks.lookup cipher.keys.activeKeyId = some cipher.active)
    (context' : FieldContext) :
    decrypt p cipher' (encrypt p cipher draws plaintext context) context' =
      if aad context' = aad context then .ok (ofString (decoded plaintext))
      else .error decryptFailed := by
  have derived : (dataKeyOf p draws context).length = 32 := ideal.derives _ _
  rw [decrypt, splitBy_encrypt, splitBy_plain named]
  simp only [encryptedParts, List.cons_append, List.nil_append, List.drop_succ_cons, List.drop_zero,
    ne_eq, not_true_eq_false, if_false, has]
  rw [openParts, unwrapDataKey_wrapDataKey ideal derived draws.wrapIv_length]
  simp only [ofBase64url_base64url]
  by_cases same : aad context' = aad context
  · rw [if_pos same, same, ideal.opens _ _ _ _ (active_length cipher) draws.wrapIv_length]
    let contents := p.encipher (dataKeyOf p draws context) draws.iv (aad context) (utf8 plaintext)
    have opened : p.decipher (dataKeyOf p draws context) draws.iv (aad context)
        ⟨contents.ciphertext, contents.tag⟩ = some (utf8 plaintext) :=
      ideal.opens _ draws.iv (aad context) (utf8 plaintext) derived draws.iv_length
    dsimp only [bind, Except.bind]
    rw [opened]
    exact congrArg Except.ok (ofUtf8_utf8 p.lossy plaintext)
  · rw [if_neg same, ideal.binds _ _ _ _ _ same]
    rfl

theorem keyIdOf_encrypt : ∃ first rest, splitBy '.' cipher.keys.activeKeyId = first :: rest ∧
    keyIdOf (encrypt p cipher draws plaintext context) =
      if first = [] then .error ⟨ofString "ciphertext is malformed", .ciphertextMalformed⟩
      else .ok first := by
  obtain ⟨first, rest, is⟩ :=
    List.exists_cons_of_ne_nil (splitBy_ne_nil '.' cipher.keys.activeKeyId)
  refine ⟨first, rest, is, ?_⟩
  rw [keyIdOf, splitBy_encrypt, is]
  rfl

end

/-! ### The whole field -/

/-- The ciphertext comes back, names its key and is bound to its context, with every key set that has
the key. -/
structure Bound (p : Primitives) (cipher : FieldCipher) (draws : Draws) (plaintext : Text)
    (context : FieldContext) : Prop where
  opens : ∀ cipher' : FieldCipher,
    cipher'.keys.keks.lookup cipher.keys.activeKeyId = some cipher.active →
      decrypt p cipher' (encrypt p cipher draws plaintext context) context = .ok plaintext
  named : keyIdOf (encrypt p cipher draws plaintext context) = .ok cipher.keys.activeKeyId
  binds : ∀ cipher' : FieldCipher,
    cipher'.keys.keks.lookup cipher.keys.activeKeyId = some cipher.active →
      ∀ context', context' ≠ context → ∃ error,
        decrypt p cipher' (encrypt p cipher draws plaintext context) context' = .error error

/-- The key id is a part of its own, the plaintext has no lone surrogate and the context can be read
back. -/
def Framed (keyId plaintext : Text) (context : FieldContext) : Prop :=
  keyId ≠ [] ∧ unit '.' ∉ keyId ∧ isWellFormed plaintext = true ∧ Unambiguous context

theorem named_iff {p : Primitives} {cipher : FieldCipher} {draws : Draws} {plaintext : Text}
    {context : FieldContext} :
    keyIdOf (encrypt p cipher draws plaintext context) = .ok cipher.keys.activeKeyId ↔
      cipher.keys.activeKeyId ≠ [] ∧ unit '.' ∉ cipher.keys.activeKeyId := by
  obtain ⟨first, rest, is, named⟩ :=
    @keyIdOf_encrypt p cipher draws plaintext context
  rw [named]
  constructor
  · intro same
    split at same
    · cases same
    · rename_i some_
      have whole : first = cipher.keys.activeKeyId := Except.ok.inj same
      refine ⟨whole ▸ some_, fun dot => ?_⟩
      obtain ⟨first', _, is', differs⟩ := splitBy_of_mem dot
      exact differs ((List.cons.inj (is'.symm.trans is)).1.trans whole)
  · rintro ⟨some_, plain⟩
    have whole := (List.cons.inj (is.symm.trans (splitBy_plain plain))).1
    rw [whole, if_neg some_]

/-- A cipher whose tags repeat what is bound. -/
def echo : Primitives where
  encipher _ _ aad plaintext := ⟨plaintext, 1 :: aad⟩
  decipher _ _ aad contents := if contents.tag = 1 :: aad then some contents.ciphertext else none
  hkdf _ _ := List.replicate 32 0
  lossy _ := []

theorem ideal_echo : Ideal echo where
  opens _ _ _ _ _ _ := if_pos rfl
  binds _ _ _ _ _ differs := if_neg fun same => differs (List.cons.inj same).2.symm
  tagged _ _ _ _ := List.cons_ne_nil _ _
  sized _ _ _ _ := rfl
  derives _ _ := rfl

/-- A key set of one key. -/
def keyed (id : Text) : FieldCipher where
  keys := ⟨id, [(id, List.replicate 32 7)]⟩
  active := List.replicate 32 7
  found := by simp
  sized := by simp

def drawn : Draws := ⟨[], List.replicate 12 1, List.replicate 12 2, rfl, rfl⟩

def accountNumber : FieldContext :=
  ⟨ofString "payout_destination_version.account_number", ofString "ws_1", ofString "sandbox"⟩

end InrSettle.Crypto
