import InrSettle.Service.Pricing

/-!
# Stored rates

A rate is the one its text names, in the rate book and in the column, and a
stored quote is read back at the price it was offered at.
-/

namespace InrSettle

/-! ### The text of a rate -/

theorem isSpace_of_mem_fixed {scale n : Nat} : ∀ c ∈ Decimal.fixed scale n, isSpace c = false := by
  intro c mem
  obtain ⟨whole, fraction⟩ := Decimal.isDigit_of_mem_fixed scale n
  rcases List.mem_append.mp mem with digit | rest
  · exact isSpace_of_isDigit (whole c digit)
  · rcases List.mem_cons.mp rest with rfl | digit
    · rfl
    · exact isSpace_of_isDigit (fraction c digit)

theorem rateParts_fixed (n : Nat) : rateParts (Decimal.fixed fxRateScale n) =
    some (Decimal.split fxRateScale (Decimal.padStart (fxRateScale + 1) (Nat.toDigits 10 n))) := by
  obtain ⟨whole, fraction⟩ := Decimal.isDigit_of_mem_fixed fxRateScale n
  have length := Decimal.length_fixed_fraction fxRateScale n
  have some_ := Decimal.fixed_whole_ne_nil fxRateScale n
  have fractionSome : (Decimal.split fxRateScale
      (Decimal.padStart (fxRateScale + 1) (Nat.toDigits 10 n))).2 ≠ [] := by
    intro none
    rw [none] at length
    exact absurd length (by decide)
  rw [rateParts, Decimal.fixed, Decimal.span_point whole]
  simp only
  rw [if_pos ⟨⟨some_, List.all_eq_true.mpr whole⟩,
    ⟨fractionSome, List.all_eq_true.mpr fraction⟩, length.le⟩]

theorem FxRate.units (rate : FxRate) : ∃ n : Nat, rate.rateScaled = n ∧ 0 < n := by
  obtain ⟨n, is⟩ := Int.eq_ofNat_of_zero_le rate.positive.le
  have positive := rate.positive
  rw [is] at positive
  exact ⟨n, is, by exact_mod_cast positive⟩

theorem fxRateFromDecimalString_formatFxRate (rate : FxRate) :
    fxRateFromDecimalString rate.pair (formatFxRate rate) rate.quotedAt rate.source = .ok rate := by
  obtain ⟨n, is, -⟩ := rate.units
  have text : (formatFxRate rate).toList = Decimal.fixed fxRateScale n := by
    rw [formatFxRate, is, scaledText_natCast, String.toList_ofList]
  have padded : padEnd fxRateScale (Decimal.split fxRateScale
      (Decimal.padStart (fxRateScale + 1) (Nat.toDigits 10 n))).2 = (Decimal.split fxRateScale
      (Decimal.padStart (fxRateScale + 1) (Nat.toDigits 10 n))).2 := by
    rw [padEnd, Decimal.length_fixed_fraction, Nat.sub_self, List.replicate_zero, List.append_nil]
  rw [fxRateFromDecimalString, trim_eq (by rw [text]; exact isSpace_of_mem_fixed), text,
    rateParts_fixed]
  simp only
  rw [padded, Decimal.split_append, Decimal.ofDigitChars_padStart, ← is]
  exact fxRate_eq rate

/-! ### The column -/

theorem rescale_fixed (n : Nat) :
    rescale (String.ofList (Decimal.fixed fxRateScale n)) = some (n : Int) := by
  have reads := Decimal.readDigits_fixed fxRateScale n
  have stripped : bigInt (String.ofList (Decimal.stripZeros
      ((Decimal.fixed fxRateScale n).erase '.'))) = some (n : Int) :=
    bigInt_digits (by rw [String.toList_ofList, Decimal.readDigits_stripZeros, reads])
  rw [rescale, String.toList_ofList]
  split
  · rename_i digits is
    simp [is, Decimal.readDigits] at reads
  · exact stripped

theorem rateColumn_formatScaled {n : Nat} (positive : 0 < n) :
    RateColumn.ofText (formatScaled n) =
      if fits : n < 10 ^ 28 then some ⟨n, positive, fits⟩ else none := by
  have reads : Decimal.read (formatScaled n).toList = some (((n : Int) : ℚ) / 10 ^ fxRateScale) := by
    rw [formatScaled, scaledText_natCast, String.toList_ofList, Decimal.read_fixed _ _ (by decide)]
    rfl
  rw [RateColumn.ofText, reads]
  simp only [Option.bind_eq_bind, Option.bind_some, Rounding.halfUp_div, Int.toNat_natCast]
  by_cases fits : n < 10 ^ 28
  · rw [dif_pos fits, dif_pos ⟨positive, fits⟩]
  · rw [dif_neg fits, dif_neg fun both => fits both.2]

/-! ### A stored quote -/

theorem feeOf_feeJson (fee : PricedFee) : feeOf (feeJson fee) = .ok fee := by
  rw [feeOf, feeJson, bigInt_toString]

theorem feesOf_feeJson (fees : List PricedFee) : (fees.map feeJson).mapM feeOf = .ok fees := by
  induction fees with
  | nil => rfl
  | cons fee rest ih =>
    rw [List.map_cons, List.mapM_cons, feeOf_feeJson, ok_bind, ih]
    rfl

theorem moneyOf_wire (amount : Amount) :
    moneyOf amount.currency.wire amount.minorUnits = .ok amount := by
  rw [moneyOf, currencyCode_wire]

/-- The quotes the columns take. -/
theorem priceColumns_isSome {priced : PricedQuote} : (priceColumns priced).isSome ↔
    (0 ≤ priced.recipientAmount.minorUnits ∧ priced.recipientAmount.currency = .inr ∧
      0 ≤ priced.fundingAmount.minorUnits) ∧ priced.fxRate.rateScaled < 10 ^ 28 := by
  obtain ⟨n, is, positive⟩ := priced.fxRate.units
  have range : (n : Int) < 10 ^ 28 ↔ n < 10 ^ 28 := by norm_cast
  rw [priceColumns, is, rateColumn_formatScaled positive, range]
  by_cases fits : n < 10 ^ 28
  · rw [dif_pos fits, iff_true_intro fits, and_true, Option.bind_eq_bind, Option.bind_some]
    split
    · rename_i checks
      exact iff_of_true rfl checks
    · rename_i checks
      exact iff_of_false Bool.false_ne_true checks
  · rw [dif_neg fits]
    exact iff_of_false Bool.false_ne_true fun both => fits both.2

/-- What is stored of a quote is read back as the quote. -/
theorem toQuote_priceColumns {priced : PricedQuote} {row : PriceColumns}
    (is : priceColumns priced = some row) : toQuote row = .ok priced := by
  obtain ⟨n, scaled, positive⟩ := priced.fxRate.units
  rw [priceColumns, scaled, rateColumn_formatScaled positive] at is
  by_cases fits : n < 10 ^ 28
  case neg =>
    rw [dif_neg fits] at is
    cases is
  rw [dif_pos fits, Option.bind_eq_bind, Option.bind_some] at is
  split at is
  case isFalse => cases is
  cases is
  simp only [toQuote, moneyOf_wire, ok_bind, RateColumn.text, rescale_fixed, ← scaled, fxRate_eq,
    feesOf_feeJson]
  rfl

end InrSettle
