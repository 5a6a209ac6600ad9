import InrSettle.Domain.Artifact

/-!
# The fingerprint of a request

What is hashed of a request, so that a retry can be told from another request: its target and its
body, with strings and the names of members in one composition of their characters.
-/

namespace InrSettle.Fingerprint

open Js Js.NumberFormat

variable {N : Type} [Js.NumberFormat N]

/-- `FINGERPRINT_VERSION`. -/
def fingerprintVersion : Text := ofString "v1"

structure FingerprintInput (N : Type) where
  method : Text
  path : Text
  apiVersion : Text
  body : Value N

section Normalise

-- `text.normalize('NFC')`
variable (nfc : Text → Text)

def proto : Text := ofString "__proto__"

/-- `out[name] = value`, on an object literal. The name of the prototype's accessor changes the
prototype, or nothing; no member comes of it. -/
def assign (out : List (Text × Value N)) (name : Text) (value : Value N) :
    List (Text × Value N) :=
  if name = proto then out else defineMember out (name, value)

mutual

def normalise : Value N → Value N
  | .string value => .string (nfc value)
  | .bigint value => .bigint value
  | .array items => .array (normaliseItems items)
  | .object members => .object (normaliseMembers [] members)
  | .undefined => .undefined
  | .null => .null
  | .bool value => .bool value
  | .number value => .number value

def normaliseItems : List (Value N) → List (Value N)
  | [] => []
  | item :: rest => normalise item :: normaliseItems rest

/-- The members assigned one after another. -/
def normaliseMembers : List (Text × Value N) → List (Text × Value N) → List (Text × Value N)
  | out, [] => out
  | out, (name, value) :: rest =>
    normaliseMembers (assign out (nfc name) (normalise value)) rest

end

variable (toUpperCase : Text → Text)

def fingerprintDocument (input : FingerprintInput N) : Value N :=
  .object [(ofString "v", .string fingerprintVersion),
    (ofString "method", .string (toUpperCase input.method)), (ofString "path", .string input.path),
    (ofString "api_version", .string input.apiVersion), (ofString "body", input.body)]

def fingerprintPreimage (input : FingerprintInput N) : Except TypeError Text :=
  canonicalize (normalise nfc (fingerprintDocument toUpperCase input))

end Normalise

end InrSettle.Fingerprint
