import InrSettle.Service.Beneficiary

/-!
# Webhook signing secrets

The secret of an endpoint is stored encrypted, beside the one it replaced, which stays
live until its overlap expires.
-/

namespace InrSettle

/-- What a ciphertext is bound to. -/
structure FieldContext where
  field : String
  workspaceId : String
  environment : String
  deriving DecidableEq

/-- Each value is encrypted with a data key of its own draw. -/
structure FieldCipher where
  encrypt : Nat → String → FieldContext → String
  decrypt : String → FieldContext → Option String
  decrypt_encrypt : ∀ draw plaintext context,
    decrypt (encrypt draw plaintext context) context = some plaintext

def secretField (scope : TenantScope) : FieldContext :=
  ⟨"webhook_endpoint.secret", scope.workspaceId, scope.environment⟩

/-- The secret columns of a row of `webhook_endpoints`. -/
structure EndpointSecrets where
  secretCiphertext : String
  previousSecretCiphertext : Option String := none
  previousSecretExpiresAt : Option Instant := none
  deriving DecidableEq

def secretOverlapHours : Nat := 24

/-- `randomBytes` gives the bytes of a draw, as base64url. -/
def newSecret (randomBytes : Nat → String) (draw : Nat) : String := "whsec_" ++ randomBytes draw

/-- The secrets a delivery is signed with. -/
def liveSecretsFor (cipher : FieldCipher) (scope : TenantScope) (row : EndpointSecrets)
    (now : Instant) : Option (List String) := do
  let current ← cipher.decrypt row.secretCiphertext (secretField scope)
  match row.previousSecretCiphertext, row.previousSecretExpiresAt with
  | some ciphertext, some expiresAt =>
    if now < expiresAt then do
      let previous ← cipher.decrypt ciphertext (secretField scope)
      return [current, previous]
    else return [current]
  | _, _ => return [current]

/-! ### Rotation -/

/-- A rotation that has read the row: the draw of its new secret, and its time. -/
structure Rotation where
  read : EndpointSecrets
  draw : Nat
  now : Instant
  deriving DecidableEq

namespace Rotation

def previousExpiresAt (rotation : Rotation) : Instant :=
  rotation.now + secretOverlapHours * 3600000

theorem now_lt_previousExpiresAt (rotation : Rotation) :
    rotation.now < rotation.previousExpiresAt := by
  have hours : 0 < secretOverlapHours * 3600000 := by simp [secretOverlapHours]
  exact Nat.lt_add_of_pos_right hours

/-- What the update sets, whatever the row is by then. -/
def row (cipher : FieldCipher) (scope : TenantScope) (randomBytes : Nat → String)
    (rotation : Rotation) : EndpointSecrets where
  secretCiphertext :=
    cipher.encrypt rotation.draw (newSecret randomBytes rotation.draw) (secretField scope)
  previousSecretCiphertext := some rotation.read.secretCiphertext
  previousSecretExpiresAt := some rotation.previousExpiresAt

end Rotation

end InrSettle
