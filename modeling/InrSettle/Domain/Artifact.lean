import InrSettle.Library.JsAlike
import InrSettle.Library.JsBigInt
import InrSettle.Library.JsRoundTrip

/-!
# Financial artifacts

The canonical serialisation, the documents of a receipt, a return notice and the
composite of both, and the hash that is taken over a document's serialisation.
-/

namespace InrSettle

open Js Js.NumberFormat

variable {N : Type} [Js.NumberFormat N]

/-! ### Canonical JSON -/

/-- What `canonicalize` throws. -/
structure TypeError where
  message : Text
  deriving DecidableEq

/-- A member as it is written. -/
def memberText (name value : Text) : Text := quote name ++ unit ':' :: value

def refusesUndefined (name : Text) : TypeError where
  message := ofString "canonical serialisation refuses undefined at \"" ++ name ++
    ofString ("\" — omit the field instead, " ++
      "so an absent field and a present-but-undefined one cannot hash alike")

/-- What the members came to, in the order they are serialised in; the first that throws does. -/
def collected : List (Text × Except TypeError Text) → Except TypeError (List Text)
  | [] => .ok []
  | (name, made) :: rest => do
    let value ← made
    let texts ← collected rest
    return memberText name value :: texts

mutual

/-- `canonicalize`. -/
def canonicalize : Value N → Except TypeError Text
  | .undefined => .error ⟨ofString "Cannot convert undefined or null to object"⟩
  | .null => .ok (ofString "null")
  | .bigint value => .ok (quote (decimal value))
  | .string value => .ok (quote value)
  | .number value =>
    if isFinite value then .ok (write value).text
    else .error ⟨ofString "canonical serialisation cannot represent a non-finite number"⟩
  | .bool value => .ok (ofString (if value then "true" else "false"))
  | .array items => do
    let texts ← canonicalizeItems items
    return unit '[' :: (joined texts ++ [unit ']'])
  | .object members =>
    match members.find? fun member => member.2.isUndefined with
    | some (name, _) => .error (refusesUndefined name)
    | none => do
      let texts ← collected
        ((canonicalizeMembers members).insertionSort fun a b => a.1 ≤ b.1)
      return unit '\x7b' :: (joined texts ++ [unit '\x7d'])

def canonicalizeItems : List (Value N) → Except TypeError (List Text)
  | [] => .ok []
  | item :: rest => do
    let text ← canonicalize item
    let texts ← canonicalizeItems rest
    return text :: texts

/-- Every member with what its value comes to. -/
def canonicalizeMembers : List (Text × Value N) → List (Text × Except TypeError Text)
  | [] => []
  | (name, value) :: rest => (name, canonicalize value) :: canonicalizeMembers rest

end

/-! ### What can be serialised -/

mutual

/-- No `undefined` in the value, and no number that is not finite. -/
def representable : Value N → Bool
  | .undefined => false
  | .null | .bool _ | .bigint _ | .string _ => true
  | .number value => isFinite value
  | .array items => representableItems items
  | .object members => representableMembers members

def representableItems : List (Value N) → Bool
  | [] => true
  | item :: rest => representable item && representableItems rest

def representableMembers : List (Text × Value N) → Bool
  | [] => true
  | (_, value) :: rest => representable value && representableMembers rest

end

/-- A bigint as its decimal string, and -0 as 0. -/
def plainLeaf : Value N → Value N
  | .bigint value => .string (decimal value)
  | .number value => .number (unsigned value)
  | value => value

/-- The value whose text the canonical serialisation is. -/
def canonical (v : Value N) : Value N := v.normal id plainLeaf

/-- A value as a program holds it: no object in it has two members with one name. -/
structure CanonicalValue (N : Type) where
  value : Value N
  distinct : value.distinct = true

/-- What is neither array nor object is the same thing, a bigint being its decimal string and -0
being 0. -/
def SameLeaf : Value N → Value N → Prop
  | .undefined, .undefined => True
  | .null, .null => True
  | .bool b, .bool c => b = c
  | .number m, .number n => unsigned m = unsigned n
  | .bigint m, .bigint n => m = n
  | .bigint m, .string t => decimal m = t
  | .string s, .bigint n => s = decimal n
  | .string s, .string t => s = t
  | _, _ => False

/-- Equal but for the order of members, at every depth, and for what `SameLeaf` takes for one
thing. -/
def SameContent (v w : Value N) : Prop := v.Alike Eq SameLeaf w

/-! ### Artifacts and their hashes -/

inductive ArtifactKind where
  | settlementReceipt | returnNotice | receiptComposite
  deriving DecidableEq

def ArtifactKind.wire : ArtifactKind → String
  | settlementReceipt => "settlement_receipt"
  | returnNotice => "return_notice"
  | receiptComposite => "receipt_composite"

structure CanonicalArtifact (N : Type) where
  kind : ArtifactKind
  document : Value N

def contentHashPrefix : Text := ofString "sha256:"

def canonicalBytes (artifact : CanonicalArtifact N) : Except TypeError Text :=
  canonicalize artifact.document

section Hashed

-- the hexadecimal SHA-256 of a text as UTF-8
variable (sha256 : Text → Text)

def contentHash (artifact : CanonicalArtifact N) : Except TypeError Text := do
  let bytes ← canonicalBytes artifact
  return contentHashPrefix ++ sha256 bytes

def verifyContentHash (artifact : CanonicalArtifact N) (expected : Text) :
    Except TypeError Bool := do
  let hash ← contentHash sha256 artifact
  return decide (hash = expected)

end Hashed

/-- A row of `financial_artifacts`. -/
structure ArtifactRow where
  id : Text
  kind : ArtifactKind
  settlementId : Text
  receiptId : Option Text
  sourceContentHash : Option Text
  canonicalBytes : Text
  contentHash : Text
  createdAt : Nat
  deriving DecidableEq

/-- Whether the stored bytes still have the stored hash; nothing where it throws. -/
def artifactVerifies (N : Type) [Js.NumberFormat N] (sha256 : Text → Text) (row : ArtifactRow) :
    Option Bool := do
  let document : Value N ← parseJson row.canonicalBytes
  (verifyContentHash sha256 ⟨row.kind, document⟩ row.contentHash).toOption

end InrSettle
