import InrSettle.Library.Chars

/-!
# Webhook signatures

The header a delivery is signed with, one signature for each live secret, and the
verifier that customers run.
-/

namespace InrSettle

open Chars

/-- `|now − t| > 300s` fails. -/
def signatureToleranceSeconds : Nat := 300

def signatureScheme : List Char := "v1".toList

def signedPayload (timestampSeconds : Nat) (rawBody : List Char) : List Char :=
  Nat.toDigits 10 timestampSeconds ++ '.' :: rawBody

structure ParsedSignatureHeader where
  timestampSeconds : Nat
  signatures : List (List Char)
  deriving DecidableEq

/-- A hexadecimal digit in either case. -/
def isHex (c : Char) : Bool :=
  c.isDigit || decide ('a' ≤ c ∧ c ≤ 'f') || decide ('A' ≤ c ∧ c ≤ 'F')

/-- A part of a header: the last time counts, and of signatures those of the scheme that are
hexadecimal; nothing for a header whose time is no number. -/
def readPart (parsed : Option Nat × List (List Char)) (part : List Char) :
    Option (Option Nat × List (List Char)) :=
  if '=' ∈ part then
    let key := Chars.trim (part.takeWhile (· ≠ '='))
    let value := Chars.trim ((part.dropWhile (· ≠ '=')).drop 1)
    if key = ['t'] then
      if value ≠ [] ∧ value.all Char.isDigit = true then
        some (some (Nat.ofDigitChars 10 value 0), parsed.2)
      else none
    else if key = signatureScheme ∧ value ≠ [] ∧ value.all isHex = true then
      some (parsed.1, parsed.2 ++ [value.map Char.toLower])
    else some parsed
  else some parsed

def parseSignatureHeader (header : List Char) : Option ParsedSignatureHeader :=
  match (header.splitOn ',').foldlM readPart (none, []) with
  | some (some timestampSeconds, signatures) =>
    if signatures = [] then none else some ⟨timestampSeconds, signatures⟩
  | _ => none

inductive WebhookSignatureVerdict where
  | ok | malformedHeader | timestampOutsideTolerance | noMatchingSignature
  deriving DecidableEq

section

-- the hexadecimal HMAC-SHA-256 of a text under a secret
variable (hmacSha256 : List Char → List Char → List Char)

def computeSignature (secret : List Char) (timestampSeconds : Nat) (rawBody : List Char) :
    List Char :=
  hmacSha256 secret (signedPayload timestampSeconds rawBody)

/-- One signature for each live secret. -/
def buildSignatureHeader (secrets : List (List Char)) (timestampSeconds : Nat)
    (rawBody : List Char) : List Char :=
  [','].intercalate (('t' :: '=' :: Nat.toDigits 10 timestampSeconds) ::
    secrets.map fun secret =>
      signatureScheme ++ '=' :: computeSignature hmacSha256 secret timestampSeconds rawBody)

def verifySignature (header rawBody : List Char) (secrets : List (List Char)) (nowSeconds : Int)
    (toleranceSeconds : Option Nat) : WebhookSignatureVerdict :=
  match parseSignatureHeader header with
  | none => .malformedHeader
  | some parsed =>
    if toleranceSeconds.getD signatureToleranceSeconds <
        (nowSeconds - parsed.timestampSeconds).natAbs then .timestampOutsideTolerance
    else if secrets.any fun secret => parsed.signatures.any fun presented =>
        decide (computeSignature hmacSha256 secret parsed.timestampSeconds rawBody = presented) then .ok
    else .noMatchingSignature

end

end InrSettle
