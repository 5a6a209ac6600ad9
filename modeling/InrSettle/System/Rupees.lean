import InrSettle.Domain.BatchCsv
import InrSettle.Domain.Money

/-!
# Rupee amounts in batch files

Displayed amounts are read back, and an amount that is read is the one that was written.
-/

namespace InrSettle.BatchCsv

/-! ### The parts of an amount -/

/-- Digits, with a point and one or two more or without. -/
structure Rupees where
  whole : List Char
  fraction : List Char
  wholeSome : whole ≠ []
  digits : ∀ c ∈ whole ++ fraction, c.isDigit = true
  short : fraction.length ≤ 2

namespace Rupees

def text (rupees : Rupees) : List Char :=
  rupees.whole ++ if rupees.fraction = [] then [] else '.' :: rupees.fraction

theorem wholeAndRest_text (rupees : Rupees) :
    wholeAndRest rupees.text =
      (rupees.whole, if rupees.fraction = [] then [] else '.' :: rupees.fraction) := by
  have whole : ∀ c ∈ rupees.whole, c.isDigit = true := fun c mem =>
    rupees.digits c (List.mem_append_left _ mem)
  rw [wholeAndRest, List.span_eq_takeWhile_dropWhile, text, List.takeWhile_append_of_pos whole,
    List.dropWhile_append_of_pos whole]
  split
  · simp
  · simp [show Char.isDigit '.' = false from by decide]

theorem isRupees_text (rupees : Rupees) : isRupees rupees.text = true := by
  have digits : ∀ c ∈ rupees.fraction, c.isDigit = true := fun c mem =>
    rupees.digits c (List.mem_append_right _ mem)
  have short := rupees.short
  simp only [isRupees, wholeAndRest_text]
  split
  · simp [rupees.wholeSome]
  · rename_i some_
    have fraction : isFraction ('.' :: rupees.fraction) = true :=
      decide_eq_true ⟨some_, List.all_eq_true.mpr digits⟩
    exact decide_eq_true ⟨rupees.wholeSome, .inr ⟨fraction, Nat.succ_le_succ short⟩⟩

theorem rest_drop (rupees : Rupees) :
    (if rupees.fraction = [] then [] else '.' :: rupees.fraction).drop 1 = rupees.fraction := by
  split
  · rename_i none
    exact none.symm
  · rfl

/-- The amount in paise is a hundred times the number that the digits write at their scale. -/
theorem paise_text (rupees : Rupees) :
    paise rupees.text * 10 ^ rupees.fraction.length =
      Nat.ofDigitChars 10 (rupees.whole ++ rupees.fraction) 0 * 100 := by
  have scale : 10 ^ (2 - rupees.fraction.length) * 10 ^ rupees.fraction.length = 100 := by
    rw [← pow_add, Nat.sub_add_cancel rupees.short]
    rfl
  have shift := Nat.ofDigitChars_append (b := 10) (l := rupees.whole) (m := rupees.fraction) 0
  rw [Nat.ofDigitChars_eq_ofDigitChars_zero (l := rupees.fraction)] at shift
  have padded := Nat.ofDigitChars_append (b := 10) (l := rupees.fraction)
    (m := List.replicate (2 - rupees.fraction.length) '0') 0
  rw [Nat.ofDigitChars_replicate_zero] at padded
  simp only [paise, wholeAndRest_text, rest_drop, padEnd, shift, padded]
  rw [add_mul, mul_right_comm (10 ^ _), scale]
  ring

theorem text_ne_nil (rupees : Rupees) : rupees.text ≠ [] := by
  simp [text, rupees.wholeSome]

/-- The decimal value of the text, in paise. -/
theorem read_text (rupees : Rupees) :
    Decimal.read rupees.text = some ((paise rupees.text : Rat) / 100) := by
  have whole : ∀ c ∈ rupees.whole, c.isDigit = true := fun c mem =>
    rupees.digits c (List.mem_append_left _ mem)
  have value : (paise rupees.text : Rat) / 100 =
      (Nat.ofDigitChars 10 (rupees.whole ++ rupees.fraction) 0 : Rat) /
        10 ^ rupees.fraction.length := by
    rw [div_eq_div_iff (by norm_num) (pow_ne_zero _ (by norm_num))]
    exact_mod_cast rupees.paise_text
  rw [value]
  by_cases none : rupees.fraction = []
  · have noPoint : ∀ c ∈ rupees.whole, (decide (c ≠ '.')) = true := fun c mem =>
      decide_eq_true fun is => absurd (whole c mem) (by rw [is]; decide)
    have cut : rupees.whole.span (· ≠ '.') = (rupees.whole, []) := by
      rw [List.span_eq_takeWhile_dropWhile, List.takeWhile_eq_self_iff.mpr noPoint,
        List.dropWhile_eq_nil_iff.mpr noPoint]
    rw [text, if_pos none, List.append_nil, Decimal.read, cut, none]
    simp [Decimal.readDigits_of_digits rupees.wholeSome whole]
  · rw [text, if_neg none, Decimal.read_point rupees.wholeSome none rupees.digits]

end Rupees

/-- What is accepted is such a text. -/
theorem exists_rupees {text : List Char} (is : isRupees text = true) :
    ∃ rupees : Rupees, rupees.text = text := by
  have cut : (wholeAndRest text).1 ++ (wholeAndRest text).2 = text := by
    rw [wholeAndRest, List.span_eq_takeWhile_dropWhile, List.takeWhile_append_dropWhile]
  have digits : ∀ c ∈ (wholeAndRest text).1, c.isDigit = true := fun c mem => by
    rw [wholeAndRest, List.span_eq_takeWhile_dropWhile] at mem
    exact List.mem_takeWhile_imp mem
  simp only [isRupees, decide_eq_true_eq] at is
  obtain ⟨some_, none | ⟨fraction, short⟩⟩ := is
  · refine ⟨⟨(wholeAndRest text).1, [], some_, by simpa using digits, by simp⟩, ?_⟩
    rw [none] at cut
    exact cut
  · generalize (wholeAndRest text).2 = rest at *
    unfold isFraction at fraction
    split at fraction
    · rename_i more
      simp only [decide_eq_true_eq] at fraction
      have each : ∀ c ∈ (wholeAndRest text).1 ++ more, c.isDigit = true := fun c mem =>
        (List.mem_append.mp mem).elim (digits c) (List.all_eq_true.mp fraction.2 c)
      refine ⟨⟨(wholeAndRest text).1, more, some_, each, Nat.le_of_succ_le_succ short⟩, ?_⟩
      rw [Rupees.text, if_neg fraction.1, cut]
    · cases fraction

/-! ### Reading -/

theorem parseRupees_of_cleaned {input : List Char} {rupees : Rupees}
    (is : cleaned input = rupees.text) (positive : 0 < paise rupees.text) :
    parseRupees input = .ok (paise rupees.text) := by
  simp only [parseRupees, is, if_neg rupees.text_ne_nil, rupees.isRupees_text, not_true_eq_false,
    if_false, if_neg positive.ne']

/-- What an accepted input is when it is cleaned. -/
theorem cleaned_of_accepted {input : List Char} {n : Nat} (accepted : parseRupees input = .ok n) :
    ∃ rupees : Rupees, cleaned input = rupees.text ∧ n = paise rupees.text ∧ 0 < n := by
  by_cases is : isRupees (cleaned input) = true
  · obtain ⟨rupees, text⟩ := exists_rupees is
    rw [← text] at is
    simp only [parseRupees, ← text, if_neg rupees.text_ne_nil, is, not_true_eq_false,
      if_false] at accepted
    split at accepted
    · cases accepted
    · rename_i some_
      cases accepted
      exact ⟨rupees, text.symm, rfl, Nat.pos_of_ne_zero some_⟩
  · simp only [parseRupees, if_pos is] at accepted
    split at accepted <;> [skip; split at accepted <;> [skip; split at accepted]] <;> cases accepted

/-- The digits and the point of an input. -/
def amountChars (input : List Char) : List Char := input.filter fun c => c.isDigit || c == '.'

theorem amountChars_withoutSymbol (text : List Char) :
    amountChars (withoutSymbol text) = amountChars text := by
  cases text with
  | nil => rfl
  | cons c rest =>
    by_cases symbol : c = '₹'
    · rw [withoutSymbol, if_pos symbol, symbol]
      rfl
    · rw [withoutSymbol, if_neg symbol]

theorem amountChars_cleaned (input : List Char) : amountChars (cleaned input) = amountChars input := by
  have noSpace : ∀ c, Chars.isSpace c = true → (c.isDigit || c == '.') = false := by
    intro c space
    by_contra kept
    rw [Bool.not_eq_false, Bool.or_eq_true, beq_iff_eq] at kept
    rcases kept with digit | rfl
    · rw [Chars.isSpace_digit digit] at space
      cases space
    · exact absurd space (by decide)
  have commas : ∀ text : List Char, amountChars (text.filter (· ≠ ',')) = amountChars text := by
    intro text
    rw [amountChars, List.filter_filter]
    refine List.filter_congr fun c _ => ?_
    by_cases comma : c = ','
    · subst comma
      rfl
    · simp [comma]
  calc amountChars (cleaned input)
      = amountChars ((withoutSymbol (Chars.trim input)).filter (· ≠ ',')) :=
        Chars.filter_trim _ noSpace
    _ = amountChars (Chars.trim input) := by rw [commas, amountChars_withoutSymbol]
    _ = amountChars input := Chars.filter_trim _ noSpace

theorem amountChars_text (rupees : Rupees) : amountChars rupees.text = rupees.text := by
  refine List.filter_eq_self.mpr fun c mem => ?_
  rw [Bool.or_eq_true, beq_iff_eq]
  rw [Rupees.text, List.mem_append] at mem
  rcases mem with mem | mem
  · exact .inl (rupees.digits c (List.mem_append_left _ mem))
  · split at mem
    · cases mem
    · rcases List.mem_cons.mp mem with point | mem
      · exact .inr point
      · exact .inl (rupees.digits c (List.mem_append_right _ mem))

/-- Nothing stands in a text but what is cleaned away and the rest. -/
theorem mem_of_mem_input {input : List Char} {c : Char} (mem : c ∈ input) :
    c ∈ cleaned input ∨ c = ',' ∨ c = '₹' ∨ Chars.isSpace c = true := by
  rcases Chars.mem_or_isSpace_of_mem mem with mem | space
  · have symbol : c ∈ withoutSymbol (Chars.trim input) ∨ c = '₹' := by
      cases is : Chars.trim input with
      | nil => simp [is] at mem
      | cons d rest =>
        rw [is] at mem
        by_cases symbol : d = '₹'
        · rw [withoutSymbol, if_pos symbol]
          exact (List.mem_cons.mp mem).elim (fun is => .inr (is.trans symbol)) .inl
        · rw [withoutSymbol, if_neg symbol]
          exact .inl mem
    rcases symbol with mem | symbol
    · by_cases comma : c = ','
      · exact .inr (.inl comma)
      · have kept : c ∈ (withoutSymbol (Chars.trim input)).filter (· ≠ ',') :=
          List.mem_filter.mpr ⟨mem, decide_eq_true comma⟩
        exact (Chars.mem_or_isSpace_of_mem kept).imp id fun space => .inr (.inr space)
    · exact .inr (.inr (.inl symbol))
  · exact .inr (.inr (.inr space))

/-! ### What is displayed -/

/-- The digits of an amount in rupees. -/
def rupeesOf (m : Nat) : Rupees where
  whole := (Decimal.split 2 (Decimal.padStart 3 (Nat.toDigits 10 m))).1
  fraction := (Decimal.split 2 (Decimal.padStart 3 (Nat.toDigits 10 m))).2
  wholeSome := Decimal.fixed_whole_ne_nil 2 m
  digits c mem := (List.mem_append.mp mem).elim ((Decimal.isDigit_of_mem_fixed 2 m).1 c)
    ((Decimal.isDigit_of_mem_fixed 2 m).2 c)
  short := (Decimal.length_fixed_fraction 2 m).le

theorem fraction_rupeesOf (m : Nat) : (rupeesOf m).fraction.length = 2 :=
  Decimal.length_fixed_fraction 2 m

theorem paise_rupeesOf (m : Nat) : paise (rupeesOf m).text = m := by
  have scaled := (rupeesOf m).paise_text
  rw [fraction_rupeesOf] at scaled
  have digits : (rupeesOf m).whole ++ (rupeesOf m).fraction =
      Decimal.padStart 3 (Nat.toDigits 10 m) := Decimal.split_append ..
  rw [digits, Decimal.ofDigitChars_padStart] at scaled
  omega

theorem text_rupeesOf (m : Nat) :
    (rupeesOf m).text = (rupeesOf m).whole ++ '.' :: (rupeesOf m).fraction := by
  have some_ : (rupeesOf m).fraction ≠ [] := fun none => by
    have two := fraction_rupeesOf m
    rw [none] at two
    cases two
  rw [Rupees.text, if_neg some_]

theorem ungrouped_groupWhole (format : NumberFormat) {whole : List Char}
    (digits : ∀ c ∈ whole, c.isDigit = true) :
    Decimal.ungrouped (groupWhole format whole) = whole := by
  unfold groupWhole
  split
  · have first : Decimal.ungrouped (Decimal.grouped 2 (whole.take (whole.length - 3))) = _ :=
      Decimal.ungrouped_grouped fun c mem => digits c (List.mem_of_mem_take mem)
    have last := Decimal.ungrouped_of_digits fun c mem =>
      digits c (List.mem_of_mem_drop (i := whole.length - 3) mem)
    rw [Decimal.ungrouped_append, first, ← List.singleton_append, Decimal.ungrouped_append, last]
    exact List.take_append_drop _ _
  · exact Decimal.ungrouped_grouped digits

/-- The text of an amount in rupees, under its parts. -/
theorem formatMoney_inr (m : Nat) (format : NumberFormat) :
    (formatMoney ⟨.inr, m⟩ format).toList =
      '₹' :: (groupWhole format (rupeesOf m).whole ++ '.' :: (rupeesOf m).fraction) := by
  have some_ : (rupeesOf m).fraction ≠ [] := fun none => by
    have two := fraction_rupeesOf m
    rw [none] at two
    cases two
  have notNegative : ¬ (m : Int) < 0 := by omega
  simp only [formatMoney, String.toList_ofList, if_neg notNegative, if_true, List.nil_append,
    List.append_nil, List.singleton_append, Int.natAbs_natCast, scaleOf]
  exact congrArg _ (congrArg _ (if_neg some_))

theorem cleaned_formatMoney (m : Nat) (format : NumberFormat) :
    cleaned (formatMoney ⟨.inr, m⟩ format).toList = (rupeesOf m).text := by
  have digits : ∀ c ∈ (rupeesOf m).whole, c.isDigit = true := fun c mem =>
    (rupeesOf m).digits c (List.mem_append_left _ mem)
  have fraction : ∀ c ∈ (rupeesOf m).fraction, c.isDigit = true := fun c mem =>
    (rupeesOf m).digits c (List.mem_append_right _ mem)
  have noSpace : ∀ c ∈ (rupeesOf m).text, Chars.isSpace c = false := by
    rw [text_rupeesOf]
    intro c mem
    rcases List.mem_append.mp mem with mem | mem
    · exact Chars.isSpace_digit (digits c mem)
    · rcases List.mem_cons.mp mem with rfl | mem
      · decide
      · exact Chars.isSpace_digit (fraction c mem)
  have commas : (groupWhole format (rupeesOf m).whole ++ '.' :: (rupeesOf m).fraction).filter
      (· ≠ ',') = (rupeesOf m).text := by
    have point : Decimal.ungrouped ('.' :: (rupeesOf m).fraction) = '.' :: (rupeesOf m).fraction :=
      congrArg ('.' :: ·) (Decimal.ungrouped_of_digits fraction)
    calc _ = Decimal.ungrouped (groupWhole format (rupeesOf m).whole) ++
          Decimal.ungrouped ('.' :: (rupeesOf m).fraction) := List.filter_append ..
      _ = _ := by rw [ungrouped_groupWhole format digits, point, text_rupeesOf]
  have whole : ∀ c ∈ '₹' :: (groupWhole format (rupeesOf m).whole ++ '.' :: (rupeesOf m).fraction),
      Chars.isSpace c = false := by
    intro c mem
    rcases List.mem_cons.mp mem with rfl | mem
    · decide
    · by_cases comma : c = ','
      · rw [comma]
        decide
      · refine noSpace c ?_
        rw [← commas]
        exact List.mem_filter.mpr ⟨mem, decide_eq_true comma⟩
  rw [cleaned, formatMoney_inr, Chars.trim_eq_self whole, withoutSymbol, if_pos rfl, commas,
    Chars.trim_eq_self noSpace]

/-- A displayed amount is read as itself, and an accepted text consists of digits, a point and what
is cleaned away; its amount is the value of the digits and the point. -/
theorem parseRupees_exact :
    (∀ (m : Nat) (format : NumberFormat), 0 < m →
      parseRupees (formatMoney ⟨.inr, m⟩ format).toList = .ok m) ∧
    ∀ (input : List Char) (n : Nat), parseRupees input = .ok n →
      0 < n ∧ Decimal.read (amountChars input) = some ((n : Rat) / 100) ∧
        ∀ c ∈ input, c.isDigit = true ∨ c = '.' ∨ c = ',' ∨ c = '₹' ∨ Chars.isSpace c = true := by
  refine ⟨fun m format positive => ?_, fun input n accepted => ?_⟩
  · have read := parseRupees_of_cleaned (cleaned_formatMoney m format)
    rw [paise_rupeesOf] at read
    exact read positive
  · obtain ⟨rupees, text, rfl, positive⟩ := cleaned_of_accepted accepted
    refine ⟨positive, ?_, fun c mem => ?_⟩
    · rw [← amountChars_cleaned, text, amountChars_text, rupees.read_text]
    · rcases mem_of_mem_input mem with mem | other
      · rw [text, ← amountChars_text] at mem
        have kept := (List.mem_filter.mp mem).2
        rw [Bool.or_eq_true, beq_iff_eq] at kept
        exact kept.imp id .inl
      · exact .inr (.inr other)

end InrSettle.BatchCsv
