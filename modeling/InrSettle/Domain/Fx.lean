import InrSettle.Domain.Money
import InrSettle.Library.Rounding
import InrSettle.Store.Rows

/-!
# FX arithmetic

A rate scaled by ten decimals, its texts, and the two conversions with the
residual each discloses.
-/

namespace InrSettle

inductive MoneyErrorCode where
  | currencyMismatch | notAnInteger | unknownCurrency | negative
  deriving DecidableEq, Repr

structure MoneyError where
  message : String
  code : MoneyErrorCode
  deriving DecidableEq, Repr

@[simp] theorem ok_bind {α β : Type} (a : α) (f : α → Except MoneyError β) :
    (Except.ok a >>= f) = f a := rfl

@[simp] theorem error_bind {α β : Type} (refused : MoneyError) (f : α → Except MoneyError β) :
    (Except.error refused >>= f) = .error refused := rfl

/-- `FX_RATE_SCALE`. -/
def fxRateScale : Nat := 10

/-- INR per one unit of the left-hand currency, times ten to the scale. -/
structure FxRate where
  pair : String
  rateScaled : Int
  quotedAt : Instant
  source : String
  positive : 0 < rateScaled
  deriving DecidableEq

def fxRate (pair : String) (rateScaled : Int) (quotedAt : Instant) (source : String) :
    Except MoneyError FxRate :=
  if positive : 0 < rateScaled then .ok ⟨pair, rateScaled, quotedAt, source, positive⟩
  else .error ⟨"an FX rate must be positive", .negative⟩

theorem fxRate_eq (rate : FxRate) :
    fxRate rate.pair rate.rateScaled rate.quotedAt rate.source = .ok rate := by
  rw [fxRate, dif_pos rate.positive]

/-! ### Texts of a rate -/

/-- The two groups of `^(\d+)(?:\.(\d{1,10}))?$`. -/
def rateParts (text : List Char) : Option (List Char × List Char) :=
  match text.span (· ≠ '.') with
  | (whole, []) => if whole ≠ [] ∧ whole.all Char.isDigit then some (whole, []) else none
  | (whole, _ :: fraction) =>
    if (whole ≠ [] ∧ whole.all Char.isDigit) ∧ (fraction ≠ [] ∧ fraction.all Char.isDigit) ∧
        fraction.length ≤ fxRateScale then
      some (whole, fraction)
    else none

/-- `padEnd(width, '0')`. -/
def padEnd (width : Nat) (text : List Char) : List Char :=
  text ++ List.replicate (width - text.length) '0'

def fxRateFromDecimalString (pair decimal : String) (quotedAt : Instant) (source : String) :
    Except MoneyError FxRate :=
  match rateParts (trim decimal) with
  | none => .error ⟨"'" ++ decimal ++ "' is not a rate at scale " ++ toString fxRateScale,
      .notAnInteger⟩
  | some (whole, fraction) =>
    fxRate pair (Nat.ofDigitChars 10 (whole ++ padEnd fxRateScale fraction) 0) quotedAt source

/-- An integer with its last `scale` digits after the point. -/
def scaledText (scale : Nat) (units : Int) : String :=
  let digits := Decimal.padStart (scale + 1) (toString units).toList
  String.ofList ((Decimal.split scale digits).1 ++ '.' :: (Decimal.split scale digits).2)

def formatFxRate (rate : FxRate) : String := scaledText fxRateScale rate.rateScaled

theorem scaledText_natCast (scale n : Nat) :
    scaledText scale n = String.ofList (Decimal.fixed scale n) := by
  have digits : (toString (n : Int)).toList = Nat.toDigits 10 n := Nat.toList_repr
  rw [scaledText, digits, Decimal.fixed]

/-! ### Whole division -/

/-- `ceilDiv`; bigint division truncates. -/
def ceilDiv (a b : Int) : Except MoneyError Int :=
  if b ≤ 0 then .error ⟨"division by a non-positive denominator", .notAnInteger⟩
  else .ok (if 0 ≤ a then (a + b - 1).tdiv b else -((-a).tdiv b))

def floorDiv (a b : Int) : Except MoneyError Int :=
  if b ≤ 0 then .error ⟨"division by a non-positive denominator", .notAnInteger⟩
  else if 0 ≤ a then .ok (a.tdiv b) else (ceilDiv (-a) b).map fun n => -n

section Division

variable {a b : Int} (positive : 0 < b)

include positive

theorem floorDiv_eq (nonneg : 0 ≤ a) : floorDiv a b = .ok ⌊(a : ℚ) / b⌋ := by
  have floor : ⌊(a : ℚ) / b⌋ = a / b := by
    obtain ⟨d, rfl⟩ := Int.eq_ofNat_of_zero_le positive.le
    exact_mod_cast Rat.floor_intCast_div_natCast a d
  rw [floorDiv, if_neg (by omega), if_pos nonneg, floor, Int.tdiv_eq_ediv_of_nonneg nonneg]

theorem ceilDiv_eq (nonneg : 0 ≤ a) : ceilDiv a b = .ok ⌈(a : ℚ) / b⌉ := by
  have ceil : ⌈(a : ℚ) / b⌉ = (a + b - 1) / b := by
    rw [Int.ceil_eq_iff]
    have positive' : (0 : ℚ) < b := by exact_mod_cast positive
    have below : (a + b - 1) / b * b ≤ a + b - 1 := Int.ediv_mul_le _ positive.ne'
    have above : a + b - 1 < ((a + b - 1) / b + 1) * b := Int.lt_ediv_add_one_mul_self _ positive
    generalize (a + b - 1) / b = q at below above
    constructor
    · rw [lt_div_iff₀ positive']
      have : (q - 1) * b < a := by nlinarith
      exact_mod_cast this
    · rw [div_le_iff₀ positive']
      have : a ≤ q * b := by nlinarith
      exact_mod_cast this
  rw [ceilDiv, if_neg (by omega), if_pos nonneg, ceil,
    Int.tdiv_eq_ediv_of_nonneg (by omega)]

end Division

/-! ### Residuals -/

/-- `remainderAsExactAmount`: the remainder in minor units, in major units at twelve decimals. -/
def remainderAsExactAmount (currency : CurrencyCode)
    (remainderNum remainderDen minorUnitsPerMajor : Int) : Except MoneyError ExactAmount := do
  let scaled := remainderNum * 10 ^ exactAmountScale
  let den := remainderDen * minorUnitsPerMajor
  let units ← floorDiv (2 * scaled + den) (2 * den)
  return ⟨currency, scaledText exactAmountScale units⟩

/-- `ZERO_RESIDUAL`. -/
def zeroResidual (currency : CurrencyCode) : ExactAmount :=
  ⟨currency, "0." ++ String.ofList (List.replicate exactAmountScale '0')⟩

/-- The residual both conversions disclose of what rounding left. -/
def residualOf (currency : CurrencyCode) (remainderNum remainderDen : Int) :
    Except MoneyError ExactAmount :=
  if remainderNum = 0 then .ok (zeroResidual currency)
  else remainderAsExactAmount currency remainderNum remainderDen (10 ^ scaleOf currency)

/-- The residual is the remainder rounded half up. -/
theorem residualOf_eq (currency : CurrencyCode) {num den : Int} (nonneg : 0 ≤ num)
    (positive : 0 < den) :
    residualOf currency num den = .ok ⟨currency, scaledText exactAmountScale
      (Rounding.halfUp exactAmountScale ((num : ℚ) / den / 10 ^ scaleOf currency))⟩ := by
  unfold residualOf
  split
  · rename_i zero
    subst zero
    rw [Int.cast_zero, zero_div, zero_div, Rounding.halfUp_zero]
    rfl
  · have scaledDen : 0 < den * 10 ^ scaleOf currency := by positivity
    have scaledNum : 0 ≤ 2 * (num * 10 ^ exactAmountScale) + den * 10 ^ scaleOf currency := by
      positivity
    have same : ((2 * (num * 10 ^ exactAmountScale) + den * 10 ^ scaleOf currency : Int) : ℚ) /
        ((2 * (den * 10 ^ scaleOf currency) : Int) : ℚ) =
        (num : ℚ) / den / 10 ^ scaleOf currency * 10 ^ exactAmountScale + 1 / 2 := by
      have nonzero : (den : ℚ) ≠ 0 := by exact_mod_cast positive.ne'
      push_cast
      field_simp
    simp only [remainderAsExactAmount]
    rw [floorDiv_eq (by omega) scaledNum, same]
    rfl

/-! ### Conversions -/

/-- What stands before the first slash. -/
def pairLeft (pair : String) : String := String.ofList (pair.toList.takeWhile (· ≠ '/'))

def fundingCurrencyOf (rate : FxRate) : Except MoneyError CurrencyCode :=
  match currencyCode? (pairLeft rate.pair) with
  | some code => .ok code
  | none => .error ⟨"unknown currency in pair " ++ rate.pair, .unknownCurrency⟩

/-- `pair.endsWith('/INR')`. -/
def isInrRight (rate : FxRate) : Bool := "/INR".toList.isSuffixOf rate.pair.toList

def assertInrRight (rate : FxRate) : Except MoneyError Unit :=
  if isInrRight rate then .ok ()
  else .error ⟨rate.pair ++ " is not an INR pair; V1 settles into INR only", .currencyMismatch⟩

structure RecipientFirstConversion where
  recipientAmount : Amount
  fundingAmount : Amount
  roundingResidual : ExactAmount
  rate : FxRate
  deriving DecidableEq

def fundingForRecipient (recipientAmount : Amount) (rate : FxRate) :
    Except MoneyError RecipientFirstConversion := do
  assertInrRight rate
  if recipientAmount.currency ≠ .inr then
    throw ⟨"the recipient amount must be INR", .currencyMismatch⟩
  if recipientAmount.minorUnits < 0 then
    throw ⟨"the recipient amount must not be negative", .negative⟩
  let fundingCurrency ← fundingCurrencyOf rate
  let numerator := recipientAmount.minorUnits * 10 ^ scaleOf fundingCurrency * 10 ^ fxRateScale
  let denominator := rate.rateScaled * 10 ^ scaleOf .inr
  let chargedMinor ← ceilDiv numerator denominator
  let residual ← residualOf fundingCurrency (chargedMinor * denominator - numerator) denominator
  return ⟨recipientAmount, ⟨fundingCurrency, chargedMinor⟩, residual, rate⟩

structure SourceFirstConversion where
  fundingAmount : Amount
  recipientAmount : Amount
  roundingResidual : ExactAmount
  rate : FxRate
  deriving DecidableEq

def recipientForFunding (fundingAmount : Amount) (rate : FxRate) :
    Except MoneyError SourceFirstConversion := do
  assertInrRight rate
  let left ← fundingCurrencyOf rate
  if fundingAmount.currency ≠ left then
    throw ⟨"funding currency " ++ fundingAmount.currency.wire ++ " does not match the pair " ++
      rate.pair, .currencyMismatch⟩
  if fundingAmount.minorUnits < 0 then
    throw ⟨"the funding amount must not be negative", .negative⟩
  let numerator := fundingAmount.minorUnits * rate.rateScaled * 10 ^ scaleOf .inr
  let denominator := 10 ^ scaleOf fundingAmount.currency * 10 ^ fxRateScale
  let recipientMinor ← floorDiv numerator denominator
  let residual ← residualOf .inr (numerator - recipientMinor * denominator) denominator
  return ⟨fundingAmount, ⟨.inr, recipientMinor⟩, residual, rate⟩

end InrSettle
