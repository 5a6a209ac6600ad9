import InrSettle.System.BatchCounts
import InrSettle.System.BatchRows

/-!
# Batches from rows

A grid that is written out is read back, but for the mark at the beginning of a file. Rows that come
over the API are written as a file, which is imported: each row is read back as what it was, whatever
its texts are.
-/

namespace InrSettle.BatchCsv

open Csv

/-! ### Written grids -/

theorem isSpace_mark : Chars.isSpace '\uFEFF' = true := by decide

/-- What is read of a written grid: a mark at its very beginning is taken for the file's. -/
def unmarked (style : Style) : List Row → List Row
  | ((c :: cell) :: cells) :: rows =>
    if c = '\uFEFF' ∧ style.quotes (c :: cell) = false then (cell :: cells) :: rows
    else ((c :: cell) :: cells) :: rows
  | grid => grid

/-- A cell is followed by nothing, a comma or an end of line. -/
theorem text_cons (style : Style) (cells : Row) (rows : List Row) :
    ∃ tail : List Char, tail.head? ≠ some '\uFEFF' ∧
      ∀ cell, style.text ((cell :: cells) :: rows) = style.cellText cell ++ tail := by
  have row : ∃ tail : List Char, (tail = [] ∨ tail.head? = some ',') ∧
      ∀ cell, style.rowText (cell :: cells) = style.cellText cell ++ tail := by
    cases cells with
    | nil => exact ⟨[], .inl rfl, fun cell => (List.append_nil _).symm⟩
    | cons next rest => exact ⟨',' :: style.rowText (next :: rest), .inr rfl, fun cell => rfl⟩
  have ends : ∃ tail : List Char, tail.head? ≠ some '\uFEFF' ∧
      ∀ first, style.text (first :: rows) = style.rowText first ++ tail := by
    cases rows with
    | nil =>
      refine ⟨if style.closed then style.lineEnd else [], ?_, fun first => rfl⟩
      unfold Style.lineEnd
      split <;> [split; skip] <;> simp
    | cons second rows =>
      refine ⟨style.lineEnd ++ style.text (second :: rows), ?_, fun first => rfl⟩
      unfold Style.lineEnd
      split <;> simp
  obtain ⟨more, comma, rowText⟩ := row
  obtain ⟨tail, notMark, text⟩ := ends
  refine ⟨more ++ tail, ?_, fun cell => by rw [text, rowText, List.append_assoc]⟩
  rcases comma with rfl | comma
  · exact notMark
  · simp [List.head?_append, comma]

theorem withoutMark_of_head {text : List Char} (other : text.head? ≠ some '\uFEFF') :
    withoutMark text = text := by
  cases text with
  | nil => rfl
  | cons c rest => exact if_neg fun mark => other (congrArg some mark)

theorem withoutMark_text (style : Style) {grid : List Row} (rows : ∀ row ∈ grid, row ≠ []) :
    withoutMark (style.text grid) = style.text (unmarked style grid) := by
  rcases grid with _ | ⟨_ | ⟨cell, cells⟩, rest⟩
  · rfl
  · exact absurd rfl (rows [] List.mem_cons_self)
  obtain ⟨tail, notMark, text⟩ := text_cons style cells rest
  cases cell with
  | nil =>
    rw [unmarked, text]
    · refine withoutMark_of_head ?_
      unfold Style.cellText
      split
      · simp
      · exact notMark
    · simp
  | cons c cell =>
    rw [unmarked]
    cases quotes : style.quotes (c :: cell) with
    | true =>
      rw [if_neg (by simp), text]
      exact withoutMark_of_head (by simp [Style.cellText, quotes])
    | false =>
      by_cases mark : c = '\uFEFF'
      · have plain : style.quotes cell = false := by
          simp_all [Style.quotes, needsQuotes]
        have written : style.cellText (c :: cell) = c :: cell := by simp [Style.cellText, quotes]
        have without : style.cellText cell = cell := by simp [Style.cellText, plain]
        rw [if_pos ⟨mark, rfl⟩, text, text, written, without]
        exact if_pos mark
      · rw [if_neg fun both => mark both.1, text]
        exact withoutMark_of_head (by simp [Style.cellText, quotes, mark])

theorem trim_mark (cell : Cell) : Chars.trim ('\uFEFF' :: cell) = Chars.trim cell := by
  simp [Chars.trim, isSpace_mark]

/-- No row of what is read is blank. -/
theorem unmarked_rows (style : Style) {grid : List Row}
    (rows : ∀ row ∈ grid, row ≠ [] ∧ ¬ Blank row) :
    ∀ row ∈ unmarked style grid, row ≠ [] ∧ ¬ Blank row := by
  unfold unmarked
  split
  · rename_i c cell cells rest
    split
    · rename_i mark
      obtain ⟨rfl, _⟩ := mark
      rintro row (_ | ⟨_, mem⟩)
      · have first := (rows _ List.mem_cons_self).2
        refine ⟨by simp, ?_⟩
        cases cells with
        | nil => simpa only [Blank, trim_mark] using first
        | cons next more => exact id
      · exact rows row (List.mem_cons_of_mem _ mem)
    · exact rows
  · exact rows

/-- A grid without blank rows is read back from any way of writing it, but for a mark that the
text begins with. -/
theorem parseCsvGrid_text (style : Style) (grid : List Row)
    (rows : ∀ row ∈ grid, row ≠ [] ∧ ¬ Blank row) :
    parseCsvGrid (style.text grid) = unmarked style grid := by
  have kept := unmarked_rows style rows
  have shows : ∀ row ∈ unmarked style grid, row ≠ [] ∧ row ≠ [[]] := fun row mem =>
    ⟨(kept row mem).1, fun empty => (kept row mem).2 (by rw [empty]; decide)⟩
  rw [parseCsvGrid, withoutMark_text style fun row mem => (rows row mem).1, style.records_text shows]
  exact List.filter_eq_self.mpr fun row mem => decide_eq_true (kept row mem).2

theorem parseCsvGrid_text_quotes :
    parseCsvGrid (Style.text ⟨false, true, false⟩ [["a,b".toList, "\"\n".toList], [" ".toList, []]]) =
      [["a,b".toList, "\"\n".toList], [" ".toList, []]] :=
  (parseCsvGrid_text ⟨false, true, false⟩ [["a,b".toList, "\"\n".toList], [" ".toList, []]]
    (by decide)).trans (by decide)

/-- A first cell that begins with the mark loses it. -/
theorem first_mark_lost :
    ¬ ∀ (style : Style) (grid : List Row), (∀ row ∈ grid, row ≠ [] ∧ ¬ Blank row) →
      parseCsvGrid (style.text grid) = grid :=
  fun all => absurd (all ⟨false, false, false⟩ [["\uFEFFa".toList]] (by decide)) (by decide)

/-! ### The file -/

structure ApiBatchRow where
  beneficiaryId : List Char
  amountMinor : Int
  purposeCode : List Char
  externalReference : Option (List Char) := none
  deriving DecidableEq

/-- `String(n)` of a bigint. -/
def bigintText (n : Int) : List Char :=
  (if n < 0 then ['-'] else []) ++ Nat.toDigits 10 n.natAbs

/-- Minor units as a decimal text. -/
def minorText (amountMinor : Int) : List Char :=
  bigintText (amountMinor.tdiv 100) ++
    '.' :: Decimal.padStart 2 (bigintText (amountMinor.tmod 100))

def escape (value : List Char) : List Char :=
  if needsQuotes value then '"' :: (doubled value ++ ['"']) else value

def joinedBy (separator : Char) (texts : List (List Char)) : List Char :=
  [separator].intercalate texts

def ApiBatchRow.csvLine (row : ApiBatchRow) : List Char :=
  joinedBy ',' [escape row.beneficiaryId, minorText row.amountMinor, escape row.purposeCode,
    escape (row.externalReference.getD [])]

/-- The file that `createBatchFromRows` imports. -/
def rowsCsv (rows : List ApiBatchRow) : List Char :=
  joinedBy '\n' ("beneficiary_id,amount_inr,purpose_code,external_reference".toList ::
    rows.map (·.csvLine))

/-! ### Amounts -/

/-- What is said of an amount that is not positive. -/
def refusal (amountMinor : Int) : Refused :=
  if amountMinor = 0 then
    ⟨"the amount is zero", "enter an amount greater than zero, or delete the row"⟩
  else if amountMinor ≤ -100 then
    ⟨quoted (minorText amountMinor) ++ " is negative",
      "enter a positive amount; a batch pays money out, " ++ "and a refund is a separate settlement"⟩
  else
    ⟨quoted (minorText amountMinor) ++ " is not a rupee amount",
      "use digits only, with an optional two decimal places, for example 12000 or 12000.50"⟩

def amountOf (amountMinor : Int) : Except Refused Nat :=
  if 0 < amountMinor then .ok amountMinor.toNat else .error (refusal amountMinor)

theorem mem_bigintText {n : Int} {c : Char} (mem : c ∈ bigintText n) :
    c = '-' ∨ c.isDigit = true := by
  rcases List.mem_append.mp mem with sign | digit
  · split at sign
    · exact .inl (List.mem_singleton.mp sign)
    · cases sign
  · exact .inr (Chars.digits_isDigit _ c digit)

theorem mem_minorText {amountMinor : Int} {c : Char} (mem : c ∈ minorText amountMinor) :
    c = '-' ∨ c = '.' ∨ c.isDigit = true := by
  rcases List.mem_append.mp mem with whole | rest
  · exact (mem_bigintText whole).imp_right .inr
  · rcases List.mem_cons.mp rest with point | fraction
    · exact .inr (.inl point)
    · rcases List.mem_append.mp fraction with zero | digits
      · rw [List.eq_of_mem_replicate zero]
        exact .inr (.inr rfl)
      · exact (mem_bigintText digits).imp_right .inr

theorem trim_minorText (amountMinor : Int) :
    Chars.trim (minorText amountMinor) = minorText amountMinor := by
  apply Chars.trim_eq_self
  intro c mem
  rcases mem_minorText mem with rfl | rfl | digit
  · decide
  · decide
  · exact Chars.isSpace_digit digit

/-- Nothing of the text is cleaned away. -/
theorem cleaned_minorText (amountMinor : Int) :
    cleaned (minorText amountMinor) = minorText amountMinor := by
  have plain : ∀ c ∈ minorText amountMinor, c ≠ '₹' ∧ c ≠ ',' := by
    intro c mem
    rcases mem_minorText mem with rfl | rfl | digit
    · decide
    · decide
    · constructor
      · rintro rfl
        cases digit
      · rintro rfl
        cases digit
  have symbol : withoutSymbol (minorText amountMinor) = minorText amountMinor := by
    cases is : minorText amountMinor with
    | nil => rfl
    | cons c rest => exact if_neg (plain c (is ▸ List.mem_cons_self)).1
  have commas : (minorText amountMinor).filter (· ≠ ',') = minorText amountMinor :=
    List.filter_eq_self.mpr fun c mem => decide_eq_true (plain c mem).2
  rw [cleaned, trim_minorText, symbol, commas, trim_minorText]

/-- The digits after the point. -/
def minorFraction (m : Nat) : List Char := Decimal.padStart 2 (Nat.toDigits 10 (m % 100))

theorem minorFraction_short (m : Nat) : (minorFraction m).length ≤ 2 := by
  have two : (Nat.toDigits 10 (m % 100)).length ≤ 2 :=
    (Nat.length_toDigits_le_iff (by decide) (by decide)).mpr (Nat.mod_lt _ (by decide))
  rw [minorFraction, Decimal.padStart, List.length_append, List.length_replicate]
  omega

theorem minorDigits_isDigit (m : Nat) :
    ∀ c ∈ Nat.toDigits 10 (m / 100) ++ minorFraction m, c.isDigit = true := by
  intro c mem
  rcases List.mem_append.mp mem with whole | fraction
  · exact Chars.digits_isDigit _ c whole
  · exact Decimal.isDigit_of_mem_padStart c fraction

/-- The digits of an amount that is not negative. -/
def minorRupees (m : Nat) : Rupees where
  whole := Nat.toDigits 10 (m / 100)
  fraction := minorFraction m
  wholeSome := List.ne_nil_of_length_pos Nat.length_toDigits_pos
  digits := minorDigits_isDigit m
  short := minorFraction_short m

theorem minorRupees_length (m : Nat) : (minorRupees m).fraction.length = 2 :=
  le_antisymm (minorRupees m).short (Decimal.le_length_padStart _ _)

theorem minorText_natCast (m : Nat) : minorText m = (minorRupees m).text := by
  have some_ : (minorRupees m).fraction ≠ [] := by
    intro none_
    have two := minorRupees_length m
    rw [none_] at two
    cases two
  have text : ∀ n : Nat, bigintText n = Nat.toDigits 10 n := by
    intro n
    rw [bigintText, if_neg (Int.not_lt.mpr (Int.natCast_nonneg n)), List.nil_append,
      Int.natAbs_natCast]
  rw [Rupees.text, if_neg some_, minorText]
  have whole : (m : Int).tdiv 100 = ((m / 100 : Nat) : Int) := rfl
  have rest : (m : Int).tmod 100 = ((m % 100 : Nat) : Int) := rfl
  rw [whole, rest, text, text]
  rfl

theorem paise_minorRupees (m : Nat) : paise (minorRupees m).text = m := by
  have scaled := (minorRupees m).paise_text
  have digits := Nat.ofDigitChars_append (b := 10) (l := (minorRupees m).whole)
    (m := (minorRupees m).fraction) 0
  rw [Nat.ofDigitChars_eq_ofDigitChars_zero (l := (minorRupees m).fraction),
    minorRupees_length] at digits
  rw [digits, minorRupees_length] at scaled
  have whole : Nat.ofDigitChars 10 (minorRupees m).whole 0 = m / 100 :=
    Nat.ofDigitChars_toDigits (by decide) (by decide)
  have fraction : Nat.ofDigitChars 10 (minorRupees m).fraction 0 = m % 100 :=
    Decimal.ofDigitChars_padStart 2 (m % 100)
  rw [whole, fraction] at scaled
  omega

/-- The texts that read as rupees have no sign. -/
theorem isRupees_sign {text : List Char} (sign : '-' ∈ text) : isRupees text = false := by
  by_contra is
  obtain ⟨rupees, rfl⟩ := exists_rupees (Bool.not_eq_false _ ▸ is)
  rw [← amountChars_text] at sign
  have kept := (List.mem_filter.mp sign).2
  cases kept

/-- A paisa amount below nothing has a sign, at the front from a rupee on. -/
theorem minorText_negative {k : Nat} (positive : 0 < k) : ∃ rest : List Char,
    '-' ∈ minorText (-k) ∧ (100 ≤ k → (minorText (-k)).head? = some '-') ∧
      (k < 100 → minorText (-k) = '0' :: '.' :: rest ∧ '-' ∈ rest) := by
  have whole : (-(k : Int)).tdiv 100 = -((k / 100 : Nat) : Int) := by
    rw [Int.neg_tdiv]
    rfl
  have fraction : (-(k : Int)).tmod 100 = -((k % 100 : Nat) : Int) := by
    rw [Int.neg_tmod]
    rfl
  have signed : ∀ n : Nat, 0 < n → bigintText (-(n : Int)) = '-' :: Nat.toDigits 10 n := by
    intro n some_
    rw [bigintText, if_pos (by omega), Int.natAbs_neg, Int.natAbs_natCast]
    rfl
  rw [minorText, whole, fraction]
  by_cases large : 100 ≤ k
  · rw [signed (k / 100) (Nat.div_pos large (by decide))]
    exact ⟨[], List.mem_cons_self, fun _ => rfl, fun small => absurd large (Nat.not_le.mpr small)⟩
  · have none_ : k / 100 = 0 := Nat.div_eq_of_lt (Nat.not_le.mp large)
    have all : k % 100 = k := Nat.mod_eq_of_lt (Nat.not_le.mp large)
    rw [none_, all, signed k positive]
    refine ⟨Decimal.padStart 2 ('-' :: Nat.toDigits 10 k), ?_, fun most => (large most).elim, ?_⟩
    · exact List.mem_append_right _ (List.mem_cons_of_mem _
        (List.mem_append_right _ List.mem_cons_self))
    · intro _
      exact ⟨rfl, List.mem_append_right _ List.mem_cons_self⟩

theorem isFraction_sign {rest : List Char} (sign : '-' ∈ rest) : isFraction ('.' :: rest) = false := by
  by_contra is
  have all := (of_decide_eq_true (Bool.not_eq_false _ ▸ is)).2
  have digit := List.all_eq_true.mp all '-' sign
  cases digit

/-- An amount is read exactly if it is positive. -/
theorem parseRupees_minorText (amountMinor : Int) :
    parseRupees (minorText amountMinor) = amountOf amountMinor := by
  rcases lt_trichotomy 0 amountMinor with positive | rfl | negative
  · obtain ⟨m, rfl⟩ := Int.eq_ofNat_of_zero_le positive.le
    have text : cleaned (minorText m) = (minorRupees m).text :=
      (cleaned_minorText m).trans (minorText_natCast m)
    have read := parseRupees_of_cleaned text
    rw [paise_minorRupees] at read
    rw [read (Int.natCast_pos.mp positive), amountOf, if_pos positive]
    rfl
  · decide +kernel
  · obtain ⟨k, isNeg⟩ := Int.eq_ofNat_of_zero_le (Int.neg_nonneg.mpr negative.le)
    obtain rfl : amountMinor = -(k : Int) := by omega
    have positive : 0 < k := by omega
    obtain ⟨rest, sign, large, small⟩ := minorText_negative positive
    have nonempty : minorText (-k) ≠ [] := List.ne_nil_of_mem sign
    have notRupees : ¬isRupees (minorText (-k)) = true := by
      rw [isRupees_sign sign]
      decide
    rw [amountOf, if_neg (by omega), refusal, if_neg (by omega), parseRupees]
    simp only [cleaned_minorText, if_neg nonempty, if_pos notRupees, trim_minorText]
    by_cases most : 100 ≤ k
    · have below : -(k : Int) ≤ -100 := by omega
      rw [if_pos (large most), if_pos below]
    · have above : ¬-(k : Int) ≤ -100 := by omega
      obtain ⟨text, later⟩ := small (Nat.not_le.mp most)
      have fine : ¬isTooFine ('0' :: '.' :: rest) = true := by
        have cut : wholeAndRest ('0' :: '.' :: rest) = (['0'], '.' :: rest) := rfl
        rw [isTooFine, cut]
        simp [isFraction_sign later]
      have head : ¬('0' :: '.' :: rest).head? = some '-' := by
        rw [List.head?_cons, Option.some.injEq]
        decide
      rw [text, if_neg head, if_neg fine, if_neg above]

/-! ### The grid of the file -/

/-- The file's style: quotes where they are needed, and no end of the last line. -/
def apiStyle : Style := ⟨false, false, false⟩

def apiHeader : List (List Char) := BatchCsvColumn.all.map (·.name)

def ApiBatchRow.cells (row : ApiBatchRow) : Row :=
  [row.beneficiaryId, minorText row.amountMinor, row.purposeCode, row.externalReference.getD []]

theorem joinedBy_rows (rows : List Row) :
    apiStyle.text rows = joinedBy '\n' (rows.map apiStyle.rowText) := by
  induction rows with
  | nil => rfl
  | cons row rest ih =>
    cases rest with
    | nil => simp [Style.text, apiStyle, joinedBy]
    | cons next rest =>
      rw [Style.text, ih]
      simp [joinedBy, Style.lineEnd, apiStyle, List.intercalate_cons_cons]

theorem minorText_plain (amountMinor : Int) : needsQuotes (minorText amountMinor) = false := by
  by_contra needs
  obtain ⟨c, mem, special⟩ := List.any_eq_true.mp (Bool.not_eq_false _ ▸ needs)
  have is : c ∈ ['"', ',', '\r', '\n'] := of_decide_eq_true special
  rcases mem_minorText mem with rfl | rfl | digit
  · exact absurd is (by decide)
  · exact absurd is (by decide)
  · simp only [List.mem_cons, List.not_mem_nil, or_false] at is
    rcases is with rfl | rfl | rfl | rfl <;> cases digit

theorem rowText_cells (row : ApiBatchRow) : apiStyle.rowText row.cells = row.csvLine := by
  have text : ∀ value, escape value = apiStyle.cellText value := fun _ => rfl
  have amount : apiStyle.cellText (minorText row.amountMinor) = minorText row.amountMinor := by
    simp [Style.cellText, Style.quotes, apiStyle, minorText_plain]
  simp only [ApiBatchRow.csvLine, text, ApiBatchRow.cells, Style.rowText, amount, joinedBy,
    List.intercalate_cons_cons, List.intercalate_singleton, List.append_assoc,
    List.singleton_append]

/-- The file is the grid of the rows, under the header. -/
theorem rowsCsv_text (rows : List ApiBatchRow) :
    rowsCsv rows = apiStyle.text (apiHeader :: rows.map (·.cells)) := by
  have header : "beneficiary_id,amount_inr,purpose_code,external_reference".toList =
      apiStyle.rowText apiHeader := by
    decide +kernel
  rw [joinedBy_rows, List.map_cons, List.map_map, rowsCsv, header]
  congr 2
  exact List.map_congr_left fun row _ => (rowText_cells row).symm

theorem parseCsvGrid_rowsCsv (rows : List ApiBatchRow) :
    parseCsvGrid (rowsCsv rows) = apiHeader :: rows.map (·.cells) := by
  have lines : ∀ row ∈ apiHeader :: rows.map (·.cells), row ≠ [] ∧ ¬Blank row := by
    intro row mem
    rcases List.mem_cons.mp mem with rfl | inside
    · decide
    · obtain ⟨apiRow, -, rfl⟩ := List.mem_map.mp inside
      exact ⟨List.cons_ne_nil _ _, id⟩
  rw [rowsCsv_text, parseCsvGrid_text apiStyle _ lines]
  rfl

/-! ### Verdicts -/

def ApiBatchRow.raw (row : ApiBatchRow) : Raw := [
  (BatchCsvColumn.beneficiaryId.name, Chars.trim row.beneficiaryId),
  (BatchCsvColumn.amountInr.name, minorText row.amountMinor),
  (BatchCsvColumn.purposeCode.name, Chars.trim row.purposeCode),
  (BatchCsvColumn.externalReference.name, Chars.trim (row.externalReference.getD []))]

/-- The errors of a row, of its own values. -/
def ApiBatchRow.errors (options : CsvValidationOptions) (row : ApiBatchRow) : List RowError :=
  beneficiaryErrors (Chars.trim row.beneficiaryId) ++ amountErrors (amountOf row.amountMinor) ++
    purposeErrors options (Chars.trim row.purposeCode)

/-- The verdict on a row, of its own values. -/
def ApiBatchRow.verdict (options : CsvValidationOptions) (line : Nat) (row : ApiBatchRow) :
    RowResult :=
  if row.errors options ≠ [] then .rejected line row.raw (row.errors options)
  else .accepted {
    line := line
    raw := row.raw
    beneficiaryId := Chars.trim row.beneficiaryId
    amountMinor := row.amountMinor.toNat
    purposeCode := Chars.trim row.purposeCode
    externalReference :=
      if Chars.trim (row.externalReference.getD []) ≠ []
      then some (Chars.trim (row.externalReference.getD [])) else none }

theorem rawOf_cells (row : ApiBatchRow) : rawOf apiHeader row.cells = row.raw := by
  have columns : (apiHeader.zipIdx.filter fun column =>
      column.1 ≠ [] ∧ column.1 ≠ "__proto__".toList) = apiHeader.zipIdx := by
    decide
  calc rawOf apiHeader row.cells
      = apiHeader.zipIdx.map fun column => (column.1, Chars.trim (row.cells.getD column.2 [])) :=
        congrArg (List.map _) columns
    _ = row.raw := by
        rw [ApiBatchRow.raw, ← trim_minorText]
        rfl

theorem field_raw (row : ApiBatchRow) :
    field row.raw .beneficiaryId = Chars.trim row.beneficiaryId ∧
      field row.raw .amountInr = minorText row.amountMinor ∧
      field row.raw .purposeCode = Chars.trim row.purposeCode ∧
      field row.raw .externalReference = Chars.trim (row.externalReference.getD []) := by
  refine ⟨?_, ?_, ?_, ?_⟩ <;> rfl

theorem verdict_cells (options : CsvValidationOptions) (line : Nat) (row : ApiBatchRow) :
    verdict options apiHeader line row.cells = row.verdict options line := by
  obtain ⟨beneficiary, amount, purpose, reference⟩ := field_raw row
  have errors : rowErrors options row.raw = row.errors options := by
    rw [rowErrors, beneficiary, amount, purpose, parseRupees_minorText]
    rfl
  simp only [verdict, rawOf_cells, ApiBatchRow.verdict, errors]
  split
  · rfl
  · rename_i none_
    rw [parsedRow, beneficiary, amount, purpose, reference, parseRupees_minorText]
    have positive : 0 < row.amountMinor := by
      by_contra other
      have all := not_not.mp none_
      rw [ApiBatchRow.errors, amountOf, if_neg other] at all
      simp [amountErrors] at all
    rw [amountOf, if_pos positive]
    rfl

/-- A row is accepted exactly if its own values are in order. -/
theorem ApiBatchRow.errors_eq_nil {options : CsvValidationOptions} {row : ApiBatchRow} :
    row.errors options = [] ↔ isBeneficiaryId (Chars.trim row.beneficiaryId) = true ∧
      0 < row.amountMinor ∧ Chars.trim row.purposeCode ≠ [] ∧
      Chars.trim row.purposeCode ∈ options.purposeCodes := by
  have amount : amountErrors (amountOf row.amountMinor) = [] ↔ 0 < row.amountMinor := by
    rw [amountErrors_eq_nil, amountOf]
    split <;> simp_all
  rw [errors, List.append_eq_nil_iff, List.append_eq_nil_iff, beneficiaryErrors_eq_nil, amount,
    purposeErrors_eq_nil, and_assoc]

/-- Each row that comes over the API is read back from the file as what it was: its verdict is that
of its own values, and its amount is the one that was sent. -/
theorem parse_rowsCsv {toLowerCase : List Char → List Char}
    (lower : ∀ column : BatchCsvColumn, toLowerCase column.name = column.name)
    (options : CsvValidationOptions) {rows : List ApiBatchRow} (some_ : rows ≠ [])
    (few : rows.length ≤ options.limit) :
    parseBatchCsv toLowerCase (rowsCsv rows) options =
      .ok (rows.mapIdx fun i row => row.verdict options (i + 2)) := by
  have trimmed : ∀ column : BatchCsvColumn, Chars.trim column.name = column.name := by
    intro column
    cases column <;> decide
  have header : headerOf toLowerCase apiHeader = apiHeader := by
    rw [headerOf, apiHeader, List.map_map]
    apply List.map_congr_left
    intro column _
    rw [Function.comp_apply, trimmed, lower]
  have noErrors : headerErrors apiHeader = [] := by decide +kernel
  apply parseBatchCsv_ok_iff.mpr
  refine ⟨apiHeader, rows.map (·.cells), parseCsvGrid_rowsCsv rows, ?_, ?_⟩
  · rw [header]
    refine fileErrors_eq_nil.mpr ⟨noErrors, ?_, ?_⟩
    · rw [ne_eq, List.map_eq_nil_iff]
      exact some_
    · rw [List.length_map]
      exact few
  · rw [header, verdicts]
    apply List.ext_getElem?
    intro i
    simp only [List.getElem?_mapIdx, List.getElem?_map, Option.map_map, Function.comp_def,
      verdict_cells]

end InrSettle.BatchCsv

namespace InrSettle.Batch

open Run
open BatchCsv (ApiBatchRow rowsCsv parse_rowsCsv)

variable {F : Type} [DecidableEq F] {digest : AuthorizedInstruction → String}
  {sha256 : List Char → F} {toLowerCase : List Char → List Char}

/-! ### The batch of the rows -/

/-- What `createBatchFromRows` imports. -/
def fromRows (name : List Char) (rows : List ApiBatchRow) (actor : PrincipalRef)
    (purposeCodes : List (List Char)) : ImportInput where
  name := name
  csv := rowsCsv rows
  actor := actor
  purposeCodes := purposeCodes

theorem rawOf_verdict (options : BatchCsv.CsvValidationOptions) (line : Nat) (row : ApiBatchRow) :
    rawOf (row.verdict options line) = row.raw := by
  rw [ApiBatchRow.verdict]
  split <;> rfl

variable (digest) in
theorem import_started {w : BatchWorld F} {input : ImportInput} {batchId : Nat}
    {parsed : List BatchCsv.RowResult}
    (starts : (importBatchCsv sha256 toLowerCase input w).1 = .started batchId)
    (read : BatchCsv.parseBatchCsv toLowerCase input.csv ⟨input.purposeCodes, input.maxRows⟩ =
      .ok parsed) :
    (step digest sha256 toLowerCase w (.importBatchCsv input)).tasks[w.tasks.length]? =
        some (.importing batchId input.actor parsed) ∧
      (step digest sha256 toLowerCase w (.importBatchCsv input)).batches[batchId]? =
        some (container sha256 input parsed) := by
  rcases importBatchCsv_cases input w with ⟨-, none_⟩ | ⟨parsed', again, -, -, is⟩
  · exact (none_ batchId starts).elim
  · cases again.symm.trans read
    rw [is] at starts
    cases starts
    rw [step, is]
    exact ⟨List.getElem?_concat_length, List.getElem?_concat_length⟩

/-- An import that has started is through when it has taken one turn more than there are verdicts,
and each row of the batch records its verdict. -/
theorem import_whole {w : BatchWorld F} (imported : Imported sha256 toLowerCase w)
    {input : ImportInput} {batchId : Nat} {parsed : List BatchCsv.RowResult}
    (starts : (importBatchCsv sha256 toLowerCase input w).1 = .started batchId)
    (read : BatchCsv.parseBatchCsv toLowerCase input.csv ⟨input.purposeCodes, input.maxRows⟩ =
      .ok parsed)
    (storable : ∀ result ∈ parsed, Storable (rawOf result)) {more : List BatchOp}
    (turns : parsed.length < turnsOf w.tasks.length more) : ∃ batch,
      (run (step digest sha256 toLowerCase) w (.importBatchCsv input :: more)).batches[batchId]? =
        some batch ∧ batch.status ≠ .validating ∧
      List.Forall₂ (Records (run (step digest sha256 toLowerCase) w
          (.importBatchCsv input :: more)).settlements) parsed
        ((run (step digest sha256 toLowerCase) w (.importBatchCsv input :: more)).rowsOf
          batchId) := by
  obtain ⟨found, isBatch⟩ := import_started digest starts read
  have next : Imported sha256 toLowerCase (step digest sha256 toLowerCase w
      (.importBatchCsv input)) := imported.step _
  rw [run_cons]
  obtain ⟨batch, through, past⟩ := import_through next found storable turns
  have kept : Kept (run (step digest sha256 toLowerCase) (step digest sha256 toLowerCase w
      (.importBatchCsv input)) more) :=
    run_invariant (fun _ op kept => kept.step op) next.kept more
  obtain ⟨batch', through', file, -⟩ := onward_run next.kept more batchId _ isBatch
  cases through.symm.trans through'
  have isParsed : batch.parsed = parsed := congrArg FileColumns.parsed file
  have records := (kept.batches batchId batch through).recorded
  rw [(kept.batches batchId batch through).whole past, List.take_length, isParsed] at records
  exact ⟨batch, through, past, records⟩

/-- A purpose with a quote and a comma, and an amount of five paise. -/
def sampleRows : List ApiBatchRow := [
  { beneficiaryId := "ben_1".toList, amountMinor := 1200, purposeCode := "P\",1".toList },
  { beneficiaryId := "ben_2".toList, amountMinor := 5, purposeCode := "Q\n".toList,
    externalReference := some "a,b\r\nc".toList }]

def sampleFromRows : ImportInput :=
  fromRows "October".toList sampleRows ⟨.user, "usr_1"⟩ ["P\",1".toList, "Q".toList]

end InrSettle.Batch
