import InrSettle.Library.JsConvert
import InrSettle.Library.JsStored

/-!
# The authorized instruction

The instruction that is frozen at authorization, the canonical object that is stored and hashed for
it, and the instruction that is rebuilt from a stored object.
-/

namespace InrSettle.Terms

open Js Js.NumberFormat

variable {N : Type} [Js.NumberFormat N]

structure Money where
  currency : Text
  minorUnits : Int
  deriving DecidableEq

structure FeeComponent where
  code : Text
  label : Text
  amount : Money
  deriving DecidableEq

structure ExactAmount (N : Type) where
  currency : Text
  amount : Text
  scale : N

structure FxRate (N : Type) where
  pair : Text
  rateScaled : Text
  scale : N
  quotedAt : Text

structure AuthorizedTerms (N : Type) where
  quoteId : Text
  direction : Text
  recipientAmount : Money
  fundingAmount : Money
  fxRate : FxRate N
  feeComponents : List FeeComponent
  roundingResidual : ExactAmount N
  quotedAt : Text
  expiresAt : Text

structure AuthorizedInstruction (N : Type) where
  beneficiaryId : Text
  destinationId : Text
  destinationVersionId : Text
  recipientAmount : Money
  purposeCode : Text
  fundingCurrency : Text
  terms : AuthorizedTerms N

/-! ### The canonical object -/

/-- An object whose members are given by name. -/
def record (members : List (String × Value N)) : Value N :=
  .object (members.map fun member => (ofString member.1, member.2))

def moneyJson (m : Money) : Value N :=
  record [("currency", .string m.currency), ("minor_units", .string (decimal m.minorUnits))]

def feeJson (f : FeeComponent) : Value N :=
  record [("code", .string f.code), ("label", .string f.label), ("amount", moneyJson f.amount)]

def fxRateJson (rate : FxRate N) : Value N :=
  record [("pair", .string rate.pair), ("rate_scaled", .string rate.rateScaled),
    ("scale", .number rate.scale), ("quoted_at", .string rate.quotedAt)]

def residualJson (residual : ExactAmount N) : Value N :=
  record [("currency", .string residual.currency), ("amount", .string residual.amount),
    ("scale", .number residual.scale)]

/-- The fees by their codes; those of one code stay as they stand. -/
def sortedFees (fees : List FeeComponent) : List FeeComponent :=
  fees.insertionSort fun a b => a.code ≤ b.code

def termsJson (t : AuthorizedTerms N) : Value N :=
  record [("quote_id", .string t.quoteId), ("direction", .string t.direction),
    ("recipient_amount", moneyJson t.recipientAmount),
    ("funding_amount", moneyJson t.fundingAmount), ("fx_rate", fxRateJson t.fxRate),
    ("fee_components", .array ((sortedFees t.feeComponents).map feeJson)),
    ("rounding_residual", residualJson t.roundingResidual), ("quoted_at", .string t.quotedAt),
    ("expires_at", .string t.expiresAt)]

def canonicalInstructionObject (instruction : AuthorizedInstruction N) : Value N :=
  record [("v", .number (numberOfInt 1)), ("beneficiary_id", .string instruction.beneficiaryId),
    ("destination_id", .string instruction.destinationId),
    ("destination_version_id", .string instruction.destinationVersionId),
    ("recipient_amount", moneyJson instruction.recipientAmount),
    ("purpose_code", .string instruction.purposeCode),
    ("funding_currency", .string instruction.fundingCurrency),
    ("terms", termsJson instruction.terms)]

def canonicalInstruction (instruction : AuthorizedInstruction N) : Text :=
  (canonicalInstructionObject instruction).stringify

/-- `authorizedTermsHash`; `sha256` is the hexadecimal digest of a text as UTF-8. -/
def authorizedTermsHash (sha256 : Text → String) (instruction : AuthorizedInstruction N) : String :=
  sha256 (canonicalInstruction instruction)

/-! ### Rebuilding -/

/-- `String(value[name])`; nothing where it throws. -/
def textAt (name : String) (value : Value N) : Option Text :=
  (memberOf name value).bind stringOf

/-- `Number(value[name])`; nothing where it throws. -/
def numberAt (name : String) (value : Value N) : Option N :=
  (memberOf name value).bind numberOf

def readMoney (value : Value N) : Option Money := do
  let currency ← textAt "currency" value
  let minorUnits ← bigIntOf (← textAt "minor_units" value)
  return ⟨currency, minorUnits⟩

def readFee (value : Value N) : Option FeeComponent := do
  let code ← textAt "code" value
  let label ← textAt "label" value
  let amount ← readMoney (← memberOf "amount" value)
  return ⟨code, label, amount⟩

def readFees : List (Value N) → Option (List FeeComponent)
  | [] => some []
  | raw :: rest => do
    let fee ← readFee raw
    let fees ← readFees rest
    return fee :: fees

def readFxRate (value : Value N) : Option (FxRate N) := do
  let pair ← textAt "pair" value
  let rateScaled ← textAt "rate_scaled" value
  let scale ← numberAt "scale" value
  let quotedAt ← textAt "quoted_at" value
  return ⟨pair, rateScaled, scale, quotedAt⟩

def readResidual (value : Value N) : Option (ExactAmount N) := do
  let currency ← textAt "currency" value
  let amount ← textAt "amount" value
  let scale ← numberAt "scale" value
  return ⟨currency, amount, scale⟩

def readTerms (value : Value N) : Option (AuthorizedTerms N) := do
  let quoteId ← textAt "quote_id" value
  let direction ← textAt "direction" value
  let recipientAmount ← readMoney (← memberOf "recipient_amount" value)
  let fundingAmount ← readMoney (← memberOf "funding_amount" value)
  let fxRate ← readFxRate (← memberOf "fx_rate" value)
  let feeComponents ← readFees (← itemsOf (← memberOf "fee_components" value))
  let roundingResidual ← readResidual (← memberOf "rounding_residual" value)
  let quotedAt ← textAt "quoted_at" value
  let expiresAt ← textAt "expires_at" value
  return ⟨quoteId, direction, recipientAmount, fundingAmount, fxRate, feeComponents,
    roundingResidual, quotedAt, expiresAt⟩

/-- `instructionFromCanonicalObject`: what throws is nothing. -/
def instructionFromCanonicalObject (stored : Value N) : Option (AuthorizedInstruction N) := do
  let beneficiaryId ← textAt "beneficiary_id" stored
  let destinationId ← textAt "destination_id" stored
  let destinationVersionId ← textAt "destination_version_id" stored
  let recipientAmount ← readMoney (← memberOf "recipient_amount" stored)
  let purposeCode ← textAt "purpose_code" stored
  let fundingCurrency ← textAt "funding_currency" stored
  let terms ← readTerms (← memberOf "terms" stored)
  return ⟨beneficiaryId, destinationId, destinationVersionId, recipientAmount, purposeCode,
    fundingCurrency, terms⟩

end InrSettle.Terms
