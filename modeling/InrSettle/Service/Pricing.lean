import InrSettle.Domain.Fx

/-!
# Priced quotes

What a quote is priced at, the columns it is stored in and what is read back.
-/

namespace InrSettle

/-! ### The column of a rate -/

/-- `numeric(28,10) CHECK (fx_rate_scaled > 0)`, in units of its last decimal. -/
structure RateColumn where
  units : Nat
  positive : 0 < units
  fits : units < 10 ^ 28
  deriving DecidableEq

namespace RateColumn

/-- What the column holds of a decimal text, if it takes it. -/
def ofText (text : String) : Option RateColumn := do
  let value ← Decimal.read text.toList
  let units := (Rounding.halfUp fxRateScale value).toNat
  if checked : 0 < units ∧ units < 10 ^ 28 then some ⟨units, checked.1, checked.2⟩ else none

/-- The text the driver gives of it. -/
def text (column : RateColumn) : String := String.ofList (Decimal.fixed fxRateScale column.units)

end RateColumn

/-- `formatScaled`. -/
def formatScaled (scaled : Int) : String := scaledText 10 scaled

/-- `BigInt(text.replace('.', '').replace(/^(-?)0+(?=\d)/, '$1'))`. -/
def rescale (text : String) : Option Int :=
  match text.toList.erase '.' with
  | '-' :: digits => bigInt (String.ofList ('-' :: Decimal.stripZeros digits))
  | digits => bigInt (String.ofList (Decimal.stripZeros digits))

/-! ### Priced quotes -/

inductive QuoteDirection where
  | recipientFirst | sourceFirst
  deriving DecidableEq, Repr

structure PricedFee where
  code : String
  label : String
  amount : Amount
  deriving DecidableEq

structure PricedQuote where
  direction : QuoteDirection
  recipientAmount : Amount
  fundingAmount : Amount
  feeComponents : List PricedFee
  roundingResidual : ExactAmount
  fxRate : FxRate
  expiresAt : Instant
  estimatedDelivery : String
  pricingVersion : String
  deriving DecidableEq

/-- A fee as `fee_components` holds it. -/
structure FeeJson where
  code : String
  label : String
  currency : CurrencyCode
  minorUnits : String
  deriving DecidableEq

/-- The priced columns of `quotes`. -/
structure PriceColumns where
  direction : QuoteDirection
  recipientAmountMinor : Int
  recipientAmountCurrency : String
  fundingAmountMinor : Int
  fundingAmountCurrency : String
  fxRateScaled : RateColumn
  fxPair : String
  fxQuotedAt : Instant
  fxSource : String
  feeComponents : List FeeJson
  roundingResidual : ExactAmount
  estimatedDelivery : String
  pricingVersion : String
  expiresAt : Instant
  deriving DecidableEq

/-- `feeJson`. -/
def feeJson (fee : PricedFee) : FeeJson :=
  ⟨fee.code, fee.label, fee.amount.currency, toString fee.amount.minorUnits⟩

/-- What `createQuote` inserts, where the columns take it. -/
def priceColumns (priced : PricedQuote) : Option PriceColumns := do
  let fxRateScaled ← RateColumn.ofText (formatScaled priced.fxRate.rateScaled)
  if 0 ≤ priced.recipientAmount.minorUnits ∧ priced.recipientAmount.currency = .inr ∧
      0 ≤ priced.fundingAmount.minorUnits then
    some {
      direction := priced.direction
      recipientAmountMinor := priced.recipientAmount.minorUnits
      recipientAmountCurrency := priced.recipientAmount.currency.wire
      fundingAmountMinor := priced.fundingAmount.minorUnits
      fundingAmountCurrency := priced.fundingAmount.currency.wire
      fxRateScaled
      fxPair := priced.fxRate.pair
      fxQuotedAt := priced.fxRate.quotedAt
      fxSource := priced.fxRate.source
      feeComponents := priced.feeComponents.map feeJson
      roundingResidual := priced.roundingResidual
      estimatedDelivery := priced.estimatedDelivery
      pricingVersion := priced.pricingVersion
      expiresAt := priced.expiresAt }
  else none

/-- `money(currency, minorUnits)` of a text for the currency. -/
def moneyOf (currency : String) (minorUnits : Int) : Except MoneyError Amount :=
  match currencyCode? currency with
  | some code => .ok ⟨code, minorUnits⟩
  | none => .error ⟨"unknown currency " ++ currency, .unknownCurrency⟩

/-- What `BigInt` throws of a text that is no integer. -/
def notAnInteger (text : String) : MoneyError := ⟨"Cannot convert " ++ text, .notAnInteger⟩

def feeOf (fee : FeeJson) : Except MoneyError PricedFee :=
  match bigInt fee.minorUnits with
  | some minorUnits => .ok ⟨fee.code, fee.label, ⟨fee.currency, minorUnits⟩⟩
  | none => .error (notAnInteger fee.minorUnits)

/-- `toQuote`, of the priced columns. -/
def toQuote (row : PriceColumns) : Except MoneyError PricedQuote := do
  let recipientAmount ← moneyOf row.recipientAmountCurrency row.recipientAmountMinor
  let fundingAmount ← moneyOf row.fundingAmountCurrency row.fundingAmountMinor
  let rateScaled ← match rescale row.fxRateScaled.text with
    | some scaled => .ok scaled
    | none => .error (notAnInteger row.fxRateScaled.text)
  let fxRate ← fxRate row.fxPair rateScaled row.fxQuotedAt row.fxSource
  let feeComponents ← row.feeComponents.mapM feeOf
  return {
    direction := row.direction
    recipientAmount, fundingAmount, feeComponents
    roundingResidual := row.roundingResidual
    fxRate
    expiresAt := row.expiresAt
    estimatedDelivery := row.estimatedDelivery
    pricingVersion := row.pricingVersion }

end InrSettle
