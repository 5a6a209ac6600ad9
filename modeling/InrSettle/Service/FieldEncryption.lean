import InrSettle.Library.JsBytes

/-!
# Field encryption

A data key encrypts a field and a key of the key set encrypts the data key, both bound to
the field's context. The authenticated cipher and the key derivation are the runtime's.
-/

namespace InrSettle.Crypto

open Js

/-! ### The runtime's cryptography -/

/-- What AES-GCM gives back: the ciphertext and its tag. -/
structure Sealed where
  ciphertext : Bytes
  tag : Bytes
  deriving DecidableEq

structure Primitives where
  /-- `createCipheriv`, `setAAD`, `update` and `final`. -/
  encipher (key iv aad plaintext : Bytes) : Sealed
  /-- `createDecipheriv`, `setAAD`, `setAuthTag`, `update` and `final`; nothing where one throws. -/
  decipher (key iv aad : Bytes) (contents : Sealed) : Option Bytes
  hkdf (seed info : Bytes) : Bytes
  /-- What bytes that are no UTF-8 are read as. -/
  lossy : Bytes → Text

/-- What an encryption draws. -/
structure Draws where
  seed : Bytes
  iv : Bytes
  wrapIv : Bytes
  iv_length : iv.length = 12
  wrapIv_length : wrapIv.length = 12

/-! ### Errors and contexts -/

inductive FieldEncryptionCode where
  | keyMissing | keyMalformed | ciphertextMalformed | decryptFailed
  deriving DecidableEq

structure FieldEncryptionError where
  message : Text
  code : FieldEncryptionCode
  deriving DecidableEq

/-- `FIELD_ENCRYPTION_VERSION`. -/
def fieldEncryptionVersion : Text := ofString "v1"

structure FieldContext where
  field : Text
  workspaceId : Text
  environment : Text
  deriving DecidableEq

/-- The text a ciphertext is bound to. -/
def aadText (context : FieldContext) : Text :=
  fieldEncryptionVersion ++ unit '|' :: (context.field ++ unit '|' ::
    (context.workspaceId ++ unit '|' :: context.environment))

def aad (context : FieldContext) : Bytes := utf8 (aadText context)

/-! ### Key sets -/

structure KeySet where
  activeKeyId : Text
  keks : List (Text × Bytes)

/-- A key set that `createFieldCipher` has accepted. -/
structure FieldCipher where
  keys : KeySet
  active : Bytes
  found : keys.keks.lookup keys.activeKeyId = some active
  sized : ∀ kek ∈ keys.keks, kek.2.length = 32

def createFieldCipher (keys : KeySet) : Except FieldEncryptionError FieldCipher :=
  match found : keys.keks.lookup keys.activeKeyId with
  | none => .error ⟨ofString "active key " ++ keys.activeKeyId ++
      ofString " is not present in the key set", .keyMissing⟩
  | some active =>
    match sized : keys.keks.find? fun kek => decide (kek.2.length ≠ 32) with
    | some (id, kek) => .error ⟨ofString "KEK " ++ id ++ ofString " must be 32 bytes, got " ++
        ofString (toString kek.length), .keyMalformed⟩
    | none => .ok ⟨keys, active, found, fun kek mem =>
        of_not_not fun other => List.find?_eq_none.mp sized kek mem (decide_eq_true other)⟩

theorem createFieldCipher_keys (cipher : FieldCipher) :
    createFieldCipher cipher.keys = .ok cipher := by
  obtain ⟨keys, active, found, sized⟩ := cipher
  have none_ : (keys.keks.find? fun kek => decide (kek.2.length ≠ 32)) = none :=
    List.find?_eq_none.mpr fun kek mem => by simp [sized kek mem]
  unfold createFieldCipher
  split
  · rename_i missing
    cases missing.symm.trans found
  · rename_i other is
    cases is.symm.trans found
    split
    · rename_i some_
      cases none_.symm.trans some_
    · rfl

/-! ### Encryption -/

section

variable (p : Primitives)

/-- `parts.join(separator)`. -/
def joinedBy (separator : Char) (parts : List Text) : Text := [unit separator].intercalate parts

/-- `text.split(separator)`. -/
def splitBy (separator : Char) (text : Text) : List Text := text.splitOn (unit separator)

def wrapDataKey (dataKey kek wrapIv : Bytes) (context : FieldContext) : Text :=
  let wrapped := p.encipher kek wrapIv (aad context) dataKey
  joinedBy '~' [base64url wrapIv, base64url wrapped.tag, base64url wrapped.ciphertext]

/-- Nothing where the cipher throws. -/
def unwrapDataKey (encoded : Text) (kek : Bytes) (context : FieldContext) :
    Except FieldEncryptionError (Option Bytes) :=
  match splitBy '~' encoded with
  | ivPart :: tagPart :: wrappedPart :: _ =>
    if ivPart = [] ∨ tagPart = [] ∨ wrappedPart = [] then
      .error ⟨ofString "wrapped key is malformed", .ciphertextMalformed⟩
    else .ok (p.decipher kek (ofBase64url ivPart) (aad context)
      ⟨ofBase64url wrappedPart, ofBase64url tagPart⟩)
  | _ => .error ⟨ofString "wrapped key is malformed", .ciphertextMalformed⟩

def dataKeyOf (draws : Draws) (context : FieldContext) : Bytes := p.hkdf draws.seed (aad context)

/-- The parts of a ciphertext: `v1.<keyId>.<wrappedKey>.<iv>.<tag>.<ciphertext>`. -/
def encryptedParts (cipher : FieldCipher) (draws : Draws) (plaintext : Text)
    (context : FieldContext) : List Text :=
  let dataKey := dataKeyOf p draws context
  let contents := p.encipher dataKey draws.iv (aad context) (utf8 plaintext)
  [fieldEncryptionVersion, cipher.keys.activeKeyId,
    wrapDataKey p dataKey cipher.active draws.wrapIv context, base64url draws.iv,
    base64url contents.tag, base64url contents.ciphertext]

def encrypt (cipher : FieldCipher) (draws : Draws) (plaintext : Text) (context : FieldContext) :
    Text :=
  joinedBy '.' (encryptedParts p cipher draws plaintext context)

def decryptFailed : FieldEncryptionError :=
  ⟨ofString "ciphertext could not be decrypted", .decryptFailed⟩

/-- The data key is unwrapped and the field is opened with it. -/
def openParts (kek : Bytes) (wrapped ivPart tagPart ctPart : Text) (context : FieldContext) :
    Except FieldEncryptionError Text := do
  match ← unwrapDataKey p wrapped kek context with
  | none => .error decryptFailed
  | some dataKey =>
    match p.decipher dataKey (ofBase64url ivPart) (aad context)
        ⟨ofBase64url ctPart, ofBase64url tagPart⟩ with
    | none => .error decryptFailed
    | some bytes => .ok (ofUtf8 p.lossy bytes)

def decrypt (cipher : FieldCipher) (encoded : Text) (context : FieldContext) :
    Except FieldEncryptionError Text :=
  match splitBy '.' encoded with
  | [version, keyId, wrapped, ivPart, tagPart, ctPart] =>
    if version ≠ fieldEncryptionVersion then
      .error ⟨ofString "ciphertext is malformed", .ciphertextMalformed⟩
    else match cipher.keys.keks.lookup keyId with
      | none => .error ⟨ofString "key " ++ keyId ++ ofString " is not available", .keyMissing⟩
      | some kek => openParts p kek wrapped ivPart tagPart ctPart context
  | _ => .error ⟨ofString "ciphertext is malformed", .ciphertextMalformed⟩

end

/-- Which key produced a ciphertext. -/
def keyIdOf (encoded : Text) : Except FieldEncryptionError Text :=
  match splitBy '.' encoded with
  | _ :: keyId :: _ =>
    if keyId = [] then .error ⟨ofString "ciphertext is malformed", .ciphertextMalformed⟩
    else .ok keyId
  | _ => .error ⟨ofString "ciphertext is malformed", .ciphertextMalformed⟩

end InrSettle.Crypto
