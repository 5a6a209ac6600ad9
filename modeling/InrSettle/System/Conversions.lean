import InrSettle.Domain.Fx

/-!
# Conversions

The two conversions against the exact ones. They are adjoint, so neither makes
money out of rounding, and what each discloses is what its rounding left.
-/

namespace InrSettle

/-! ### The exact conversions -/

/-- What an amount is in major units. -/
def Amount.major (a : Amount) : ℚ := a.minorUnits / 10 ^ scaleOf a.currency

/-- INR per one unit of the funding currency. -/
def FxRate.value (rate : FxRate) : ℚ := rate.rateScaled / 10 ^ fxRateScale

/-- The pair funds INR settlements out of a currency. -/
def FxRate.Settles (rate : FxRate) (c : CurrencyCode) : Prop :=
  isInrRight rate = true ∧ fundingCurrencyOf rate = .ok c

/-- At the rate, the funding is worth at least the recipient amount. -/
def FxRate.Covers (rate : FxRate) (funding recipient : Amount) : Prop :=
  recipient.major ≤ funding.major * rate.value

/-- Minor units of the funding currency for one paisa. -/
def FxRate.ratio (rate : FxRate) (c : CurrencyCode) : ℚ :=
  10 ^ scaleOf c / (rate.value * 10 ^ scaleOf .inr)

section Exact

variable (rate : FxRate) (c : CurrencyCode)

theorem FxRate.value_pos : 0 < rate.value := by
  have positive : (0 : ℚ) < rate.rateScaled := by exact_mod_cast rate.positive
  unfold FxRate.value
  positivity

theorem FxRate.ratio_pos : 0 < rate.ratio c := by
  have := rate.value_pos
  unfold FxRate.ratio
  positivity

theorem FxRate.covers_iff (F R : Int) :
    rate.Covers ⟨c, F⟩ ⟨.inr, R⟩ ↔ (R : ℚ) * rate.ratio c ≤ F := by
  have value := rate.value_pos
  have perMinor : 0 < rate.value / 10 ^ scaleOf c := by positivity
  have up : (R : ℚ) * rate.ratio c = R / 10 ^ scaleOf .inr / (rate.value / 10 ^ scaleOf c) := by
    unfold FxRate.ratio
    field_simp
  have back : (F : ℚ) / 10 ^ scaleOf c * rate.value = F * (rate.value / 10 ^ scaleOf c) := by ring
  rw [up, div_le_iff₀ perMinor, ← back]
  rfl

end Exact

/-! ### The conversions of the code -/

/-- The residual disclosed of what rounding left, in minor units. -/
def disclosed (c : CurrencyCode) (left : ℚ) : ExactAmount :=
  ⟨c, scaledText exactAmountScale (Rounding.halfUp exactAmountScale (left / 10 ^ scaleOf c))⟩

section Rounded

variable {num den : Int} {x : ℚ} (positive : 0 < den) (nonneg : 0 ≤ num)
  (is : (num : ℚ) / den = x)

include positive nonneg is

theorem ceil_disclosed (c : CurrencyCode) :
    ceilDiv num den = .ok ⌈x⌉ ∧
      residualOf c (⌈x⌉ * den - num) den = .ok (disclosed c (⌈x⌉ - x)) := by
  have nonzero : (den : ℚ) ≠ 0 := by exact_mod_cast positive.ne'
  have covers := Int.le_ceil x
  rw [← is, div_le_iff₀ (by exact_mod_cast positive), is] at covers
  have left : 0 ≤ ⌈x⌉ * den - num := sub_nonneg.mpr (by exact_mod_cast covers)
  have remainder : ((⌈x⌉ * den - num : Int) : ℚ) / den = ⌈x⌉ - x := by
    rw [Int.cast_sub, sub_div, is, Int.cast_mul, mul_div_cancel_right₀ _ nonzero]
  exact ⟨is ▸ ceilDiv_eq positive nonneg, by rw [residualOf_eq c left positive, remainder]; rfl⟩

theorem floor_disclosed (c : CurrencyCode) :
    floorDiv num den = .ok ⌊x⌋ ∧
      residualOf c (num - ⌊x⌋ * den) den = .ok (disclosed c (x - ⌊x⌋)) := by
  have nonzero : (den : ℚ) ≠ 0 := by exact_mod_cast positive.ne'
  have covered := Int.floor_le x
  rw [← is, le_div_iff₀ (by exact_mod_cast positive), is] at covered
  have left : 0 ≤ num - ⌊x⌋ * den := sub_nonneg.mpr (by exact_mod_cast covered)
  have remainder : ((num - ⌊x⌋ * den : Int) : ℚ) / den = x - ⌊x⌋ := by
    rw [Int.cast_sub, sub_div, is, Int.cast_mul, mul_div_cancel_right₀ _ nonzero]
  exact ⟨is ▸ floorDiv_eq positive nonneg, by rw [residualOf_eq c left positive, remainder]; rfl⟩

end Rounded

section Code

variable {rate : FxRate} {c : CurrencyCode}

theorem fundingForRecipient_eq (settles : rate.Settles c) {R : Int} (nonneg : 0 ≤ R) :
    fundingForRecipient ⟨.inr, R⟩ rate = .ok ⟨⟨.inr, R⟩, ⟨c, ⌈(R : ℚ) * rate.ratio c⌉⟩,
      disclosed c (⌈(R : ℚ) * rate.ratio c⌉ - R * rate.ratio c), rate⟩ := by
  have positive : 0 < rate.rateScaled * 10 ^ scaleOf .inr := mul_pos rate.positive (by positivity)
  have exact_ : ((R * 10 ^ scaleOf c * 10 ^ fxRateScale : Int) : ℚ) /
      ((rate.rateScaled * 10 ^ scaleOf .inr : Int) : ℚ) = R * rate.ratio c := by
    have nonzero : (rate.rateScaled : ℚ) ≠ 0 := by exact_mod_cast rate.positive.ne'
    unfold FxRate.ratio FxRate.value
    push_cast
    field_simp
  obtain ⟨charged, left⟩ := ceil_disclosed positive (by positivity) exact_ c
  unfold fundingForRecipient
  rw [assertInrRight, if_pos settles.1, settles.2]
  simp only [charged, left, ok_bind, not_lt.mpr nonneg, if_false, ne_eq, not_true_eq_false]
  rfl

theorem recipientForFunding_eq (settles : rate.Settles c) {F : Int} (nonneg : 0 ≤ F) :
    recipientForFunding ⟨c, F⟩ rate = .ok ⟨⟨c, F⟩, ⟨.inr, ⌊(F : ℚ) / rate.ratio c⌋⟩,
      disclosed .inr (F / rate.ratio c - ⌊(F : ℚ) / rate.ratio c⌋), rate⟩ := by
  have positive : (0 : Int) < 10 ^ scaleOf c * 10 ^ fxRateScale := by positivity
  have exact_ : ((F * rate.rateScaled * 10 ^ scaleOf .inr : Int) : ℚ) /
      ((10 ^ scaleOf c * 10 ^ fxRateScale : Int) : ℚ) = F / rate.ratio c := by
    have nonzero : (rate.rateScaled : ℚ) ≠ 0 := by exact_mod_cast rate.positive.ne'
    unfold FxRate.ratio FxRate.value
    push_cast
    field_simp
  have num : 0 ≤ F * rate.rateScaled * 10 ^ scaleOf .inr :=
    mul_nonneg (mul_nonneg nonneg rate.positive.le) (by positivity)
  obtain ⟨received, left⟩ := floor_disclosed positive num exact_ .inr
  unfold recipientForFunding
  rw [assertInrRight, if_pos settles.1, settles.2]
  simp only [received, left, ok_bind, not_lt.mpr nonneg, if_false, ne_eq, not_true_eq_false]
  rfl

/-- A pair of a currency and INR. -/
theorem settles_of_pair (is : rate.pair = c.wire ++ "/INR") : rate.Settles c := by
  constructor
  · rw [isInrRight, is]
    cases c <;> rfl
  · rw [fundingCurrencyOf, is]
    cases c <;> rfl

/-- Only a nonnegative INR amount is converted, at a rate that settles into INR. -/
theorem settles_of_fundingForRecipient {recipient : Amount} {done : RecipientFirstConversion}
    (is : fundingForRecipient recipient rate = .ok done) :
    (∃ c, rate.Settles c) ∧ recipient.currency = .inr ∧ 0 ≤ recipient.minorUnits := by
  unfold fundingForRecipient assertInrRight at is
  by_cases right : isInrRight rate = true
  case neg => simp [right] at is
  by_cases inr : recipient.currency = .inr
  case neg => simp [right, inr, throw, throwThe, MonadExceptOf.throw] at is
  by_cases nonneg : recipient.minorUnits < 0
  case pos =>
    simp [right, inr, nonneg, throw, throwThe, MonadExceptOf.throw] at is
  cases left : fundingCurrencyOf rate with
  | error refused => simp [right, inr, nonneg, left] at is
  | ok c => exact ⟨⟨c, right, left⟩, inr, not_lt.mp nonneg⟩

/-- Only a nonnegative amount of the pair's currency is converted back. -/
theorem settles_of_recipientForFunding {funding : Amount} {done : SourceFirstConversion}
    (is : recipientForFunding funding rate = .ok done) :
    rate.Settles funding.currency ∧ 0 ≤ funding.minorUnits := by
  unfold recipientForFunding assertInrRight at is
  by_cases right : isInrRight rate = true
  case neg => simp [right] at is
  cases left : fundingCurrencyOf rate with
  | error refused => simp [right, left] at is
  | ok c =>
    by_cases same : funding.currency = c
    case neg => simp [right, left, same, throw, throwThe, MonadExceptOf.throw] at is
    by_cases nonneg : funding.minorUnits < 0
    case pos =>
      simp [right, left, same, nonneg, throw, throwThe, MonadExceptOf.throw] at is
    exact ⟨⟨right, same ▸ left⟩, not_lt.mp nonneg⟩

end Code

/-! ### Adjunction -/

/-- The minor units charged for a recipient amount in paise. -/
def chargedFor (rate : FxRate) (R : Int) : Except MoneyError Int :=
  return (← fundingForRecipient ⟨.inr, R⟩ rate).fundingAmount.minorUnits

/-- The paise a funding amount in minor units comes to. -/
def receivedFor (rate : FxRate) (c : CurrencyCode) (F : Int) : Except MoneyError Int :=
  return (← recipientForFunding ⟨c, F⟩ rate).recipientAmount.minorUnits

section Adjoint

variable {rate : FxRate} {c : CurrencyCode}

theorem chargedFor_eq (settles : rate.Settles c) {R : Int} (nonneg : 0 ≤ R) :
    chargedFor rate R = .ok ⌈(R : ℚ) * rate.ratio c⌉ := by
  rw [chargedFor, fundingForRecipient_eq settles nonneg]
  rfl

theorem receivedFor_eq (settles : rate.Settles c) {F : Int} (nonneg : 0 ≤ F) :
    receivedFor rate c F = .ok ⌊(F : ℚ) / rate.ratio c⌋ := by
  rw [receivedFor, recipientForFunding_eq settles nonneg]
  rfl

theorem charged_nonneg {R : Int} (nonneg : 0 ≤ R) : 0 ≤ ⌈(R : ℚ) * rate.ratio c⌉ := by
  have := rate.ratio_pos c
  have amount : (0 : ℚ) ≤ R := by exact_mod_cast nonneg
  exact Int.ceil_nonneg (by positivity)

theorem received_nonneg {F : Int} (nonneg : 0 ≤ F) : 0 ≤ ⌊(F : ℚ) / rate.ratio c⌋ := by
  have := rate.ratio_pos c
  have amount : (0 : ℚ) ≤ F := by exact_mod_cast nonneg
  exact Int.floor_nonneg.mpr (by positivity)

/-- What the two conversions are to each other, over every two amounts that are not negative. -/
structure Adjoint (rate : FxRate) (c : CurrencyCode) : Prop where
  /-- What is charged is the least amount that covers the recipient amount. -/
  least : ∀ R, 0 ≤ R → ∃ F, chargedFor rate R = .ok F ∧
    IsLeast {F' : Int | rate.Covers ⟨c, F'⟩ ⟨.inr, R⟩} F
  /-- What is received is the greatest amount the funding covers. -/
  greatest : ∀ F, 0 ≤ F → ∃ R, receivedFor rate c F = .ok R ∧
    IsGreatest {R' : Int | rate.Covers ⟨c, F⟩ ⟨.inr, R'⟩} R
  galois : ∀ R F, 0 ≤ R → 0 ≤ F → ∃ F' R', chargedFor rate R = .ok F' ∧
    receivedFor rate c F = .ok R' ∧ (F' ≤ F ↔ R ≤ R')
  charged_mono : ∀ R₁ R₂, 0 ≤ R₁ → R₁ ≤ R₂ → ∃ F₁ F₂, chargedFor rate R₁ = .ok F₁ ∧
    chargedFor rate R₂ = .ok F₂ ∧ F₁ ≤ F₂
  received_mono : ∀ F₁ F₂, 0 ≤ F₁ → F₁ ≤ F₂ → ∃ R₁ R₂, receivedFor rate c F₁ = .ok R₁ ∧
    receivedFor rate c F₂ = .ok R₂ ∧ R₁ ≤ R₂
  /-- The amount charged comes to no less, and nothing more is charged for what it comes to. -/
  there_and_back : ∀ R, 0 ≤ R → ∃ F R', chargedFor rate R = .ok F ∧
    receivedFor rate c F = .ok R' ∧ R ≤ R' ∧ chargedFor rate R' = .ok F
  /-- The amount received costs no more, and what it costs comes to nothing more. -/
  back_and_there : ∀ F, 0 ≤ F → ∃ R F', receivedFor rate c F = .ok R ∧
    chargedFor rate R = .ok F' ∧ F' ≤ F ∧ receivedFor rate c F' = .ok R

/-- At every rate, the conversions are adjoint for the pair's currency, and convert nothing
else. -/
theorem conversions_adjoint (rate : FxRate) :
    (∀ c, rate.pair = c.wire ++ "/INR" → rate.Settles c) ∧
      (∀ c, rate.Settles c → Adjoint rate c) ∧
      (∀ recipient done, fundingForRecipient recipient rate = .ok done →
        (∃ c, rate.Settles c) ∧ recipient.currency = .inr ∧ 0 ≤ recipient.minorUnits) ∧
      ∀ funding done, recipientForFunding funding rate = .ok done →
        rate.Settles funding.currency ∧ 0 ≤ funding.minorUnits := by
  refine ⟨fun _ => settles_of_pair, fun c settles => ?_, fun _ _ => settles_of_fundingForRecipient,
    fun _ _ => settles_of_recipientForFunding⟩
  have gc := Rounding.scaled_gc (rate.ratio_pos c)
  have charged : ∀ {R : Int}, 0 ≤ R → chargedFor rate R = .ok _ := chargedFor_eq settles
  have received : ∀ {F : Int}, 0 ≤ F → receivedFor rate c F = .ok _ := receivedFor_eq settles
  exact {
    least := fun R nonneg => by
      refine ⟨_, charged nonneg, ?_⟩
      simp only [FxRate.covers_iff]
      exact Rounding.isLeast_ceil _
    greatest := fun F nonneg => by
      refine ⟨_, received nonneg, ?_⟩
      simp only [FxRate.covers_iff, ← le_div_iff₀ (rate.ratio_pos c)]
      exact Rounding.isGreatest_floor _
    galois := fun R F recipient funding => ⟨_, _, charged recipient, received funding, gc R F⟩
    charged_mono := fun R₁ R₂ nonneg le =>
      ⟨_, _, charged nonneg, charged (nonneg.trans le), gc.monotone_l le⟩
    received_mono := fun F₁ F₂ nonneg le =>
      ⟨_, _, received nonneg, received (nonneg.trans le), gc.monotone_u le⟩
    there_and_back := fun R nonneg => by
      refine ⟨_, _, charged nonneg, received (charged_nonneg nonneg), gc.le_u_l R, ?_⟩
      rw [charged (received_nonneg (charged_nonneg nonneg))]
      exact congrArg _ (gc.l_u_l_eq_l R)
    back_and_there := fun F nonneg => by
      refine ⟨_, _, received nonneg, charged (received_nonneg nonneg), gc.l_u_le F, ?_⟩
      rw [received (charged_nonneg (received_nonneg nonneg))]
      exact congrArg _ (gc.u_l_u_eq_u F) }

end Adjoint

/-! ### What is disclosed -/

/-- A residual names an amount of at least zero and below one minor unit, and names zero exactly
when the conversion is whole. -/
def Discloses (residual : ExactAmount) (exact_ : ℚ) : Prop :=
  ∃ amount, Decimal.read residual.amount.toList = some amount ∧ 0 ≤ amount ∧
    amount < 1 / 10 ^ scaleOf residual.currency ∧ (amount = 0 ↔ ∃ whole : Int, exact_ = whole)

/-- Twelve decimals of the major unit tell what is left, in minor units, from nothing and from a
whole one. -/
def Tellable (c : CurrencyCode) (left : ℚ) : Prop :=
  left = 0 ∨ 1 / 2 ≤ left / 10 ^ scaleOf c * 10 ^ exactAmountScale ∧
    left / 10 ^ scaleOf c * 10 ^ exactAmountScale <
      10 ^ exactAmountScale / 10 ^ scaleOf c - 1 / 2

section Residual

variable {c : CurrencyCode} {left : ℚ}

/-- What a disclosed residual reads as. -/
theorem read_disclosed (nonneg : 0 ≤ left) :
    Decimal.read (disclosed c left).amount.toList =
      some ((Rounding.halfUp exactAmountScale (left / 10 ^ scaleOf c) : ℚ) /
        10 ^ exactAmountScale) := by
  have units : 0 ≤ Rounding.halfUp exactAmountScale (left / 10 ^ scaleOf c) :=
    Rounding.halfUp_nonneg (by positivity)
  obtain ⟨n, is⟩ := Int.eq_ofNat_of_zero_le units
  rw [disclosed, is, scaledText_natCast, String.toList_ofList, Decimal.read_fixed _ _ (by decide),
    Int.cast_natCast]

/-- A residual is disclosed rightly exactly when it can be told. -/
theorem discloses_iff (nonneg : 0 ≤ left) {exact_ : ℚ}
    (whole : left = 0 ↔ ∃ n : Int, exact_ = n) :
    Discloses (disclosed c left) exact_ ↔ Tellable c left := by
  have major : 0 ≤ left / 10 ^ scaleOf c := by positivity
  have zero : Rounding.halfUp exactAmountScale (left / 10 ^ scaleOf c) = 0 ↔
      left / 10 ^ scaleOf c * 10 ^ exactAmountScale < 1 / 2 := Rounding.halfUp_eq_zero major
  have unit : (10 : ℚ) ^ exactAmountScale / 10 ^ scaleOf c =
      ((10 ^ (exactAmountScale - scaleOf c) : Int) : ℚ) := by
    push_cast
    rw [eq_comm, pow_sub₀ _ (by norm_num) (by cases c <;> decide), div_eq_mul_inv]
  have below : (Rounding.halfUp exactAmountScale (left / 10 ^ scaleOf c) : ℚ) /
      10 ^ exactAmountScale < 1 / 10 ^ scaleOf c ↔
      left / 10 ^ scaleOf c * 10 ^ exactAmountScale <
        10 ^ exactAmountScale / 10 ^ scaleOf c - 1 / 2 := by
    rw [div_lt_iff₀ (by positivity), one_div_mul_eq_div, unit, ← Rounding.halfUp_lt]
    exact Int.cast_lt
  have units : (Rounding.halfUp exactAmountScale (left / 10 ^ scaleOf c) : ℚ) /
      10 ^ exactAmountScale = 0 ↔ left / 10 ^ scaleOf c * 10 ^ exactAmountScale < 1 / 2 := by
    rw [div_eq_zero_iff, or_iff_left (by positivity), Int.cast_eq_zero, zero]
  have nonneg' : (0 : ℚ) ≤ Rounding.halfUp exactAmountScale (left / 10 ^ scaleOf c) /
      10 ^ exactAmountScale := by
    have : (0 : ℚ) ≤ Rounding.halfUp exactAmountScale (left / 10 ^ scaleOf c) := by
      exact_mod_cast Rounding.halfUp_nonneg major
    positivity
  unfold Discloses Tellable
  rw [read_disclosed nonneg]
  simp only [Option.some.injEq, exists_eq_left', nonneg', true_and, disclosed, below, units, ← whole]
  by_cases none : left = 0
  · have room : (1 : ℚ) / 2 < 10 ^ exactAmountScale / 10 ^ scaleOf c := by
      cases c <;> norm_num [exactAmountScale, scaleOf]
    simpa [none] using room
  · simp only [none, iff_false, not_lt, false_or]
    exact and_comm

end Residual

/-- The exact conversion of a recipient amount, in minor units of the funding currency. -/
def exactFunding (rate : FxRate) (c : CurrencyCode) (recipient : Amount) : ℚ :=
  recipient.major / rate.value * 10 ^ scaleOf c

/-- The exact conversion of a funding amount, in paise. -/
def exactRecipient (rate : FxRate) (funding : Amount) : ℚ :=
  funding.major * rate.value * 10 ^ scaleOf .inr

/-- Of every conversion, the residual is disclosed rightly exactly when what the rounding left can
be told at twelve decimals. -/
theorem residual_disclosed_iff (rate : FxRate) :
    (∀ recipient done, fundingForRecipient recipient rate = .ok done →
      (Discloses done.roundingResidual
          (exactFunding rate done.fundingAmount.currency recipient) ↔
        Tellable done.fundingAmount.currency
          (⌈exactFunding rate done.fundingAmount.currency recipient⌉ -
            exactFunding rate done.fundingAmount.currency recipient))) ∧
      ∀ funding done, recipientForFunding funding rate = .ok done →
        (Discloses done.roundingResidual (exactRecipient rate funding) ↔
          Tellable .inr (exactRecipient rate funding - ⌊exactRecipient rate funding⌋)) := by
  constructor
  · rintro ⟨currency, R⟩ done is
    obtain ⟨⟨c, settles⟩, rfl, nonneg⟩ := settles_of_fundingForRecipient is
    rw [fundingForRecipient_eq settles nonneg] at is
    cases is
    have exact_ : exactFunding rate c ⟨.inr, R⟩ = R * rate.ratio c := by
      have := rate.value_pos
      unfold exactFunding Amount.major FxRate.ratio
      field_simp
    rw [exact_]
    exact discloses_iff (sub_nonneg.mpr (Int.le_ceil _)) Rounding.ceil_eq_self
  · rintro ⟨c, F⟩ done is
    obtain ⟨settles, nonneg⟩ := settles_of_recipientForFunding is
    rw [recipientForFunding_eq settles nonneg] at is
    cases is
    have exact_ : exactRecipient rate ⟨c, F⟩ = F / rate.ratio c := by
      have := rate.value_pos
      unfold exactRecipient Amount.major FxRate.ratio
      field_simp
    rw [exact_]
    exact discloses_iff (sub_nonneg.mpr (Int.floor_le _)) Rounding.floor_eq_self

/-- A rate of ten decimals. -/
def tenDecimals : FxRate := ⟨"USDT/INR", 831234567891, 0, "sandbox", by decide⟩

/-- A whole minor unit is disclosed of one conversion, and nothing of another that is not whole. -/
theorem residual_misread :
    ((fundingForRecipient ⟨.inr, 100325⟩ tenDecimals).map (·.roundingResidual.amount) =
        .ok "0.000001000000" ∧
      (fundingForRecipient ⟨.inr, 11630967⟩ tenDecimals).map (·.roundingResidual.amount) =
        .ok "0.000000000000") ∧
    ¬ ∀ rate recipient done, fundingForRecipient recipient rate = .ok done →
      Discloses done.roundingResidual
        (exactFunding rate done.fundingAmount.currency recipient) := by
  have told : (fundingForRecipient ⟨.inr, 100325⟩ tenDecimals).map
      (·.roundingResidual) = .ok ⟨.usdt, "0.000001000000"⟩ := by decide +kernel
  refine ⟨by decide +kernel, fun all => ?_⟩
  cases is : fundingForRecipient ⟨.inr, 100325⟩ tenDecimals with
  | error refused => simp [is, Except.map] at told
  | ok done =>
    obtain ⟨amount, reads, -, below, -⟩ := all _ _ _ is
    simp only [is, Except.map, Except.ok.injEq] at told
    rw [told] at reads below
    have unit : Decimal.read "0.000001000000".toList = some (1 / 1000000) := by decide +kernel
    rw [unit, Option.some.injEq] at reads
    subst reads
    norm_num [scaleOf] at below

end InrSettle
