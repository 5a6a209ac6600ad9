import InrSettle.System.BatchRows

/-!
# Lines of batch files

The line number of a verdict and the record it is about, and what the other verdicts of
a file make of a record that is replaced.
-/

namespace InrSettle.BatchCsv

open Csv

/-! ### Increasing positions -/

/-- Increasing positions count up from the first one if none between two of them is left out. -/
theorem counts_up_iff {positions : List Nat} (increasing : positions.Pairwise (· < ·)) :
    (∀ (j p : Nat), positions[j]? = some p → ∃ h, positions[0]? = some h ∧ p = h + j) ↔
      ∀ a b c, a < b → b < c → a ∈ positions → c ∈ positions → b ∈ positions := by
  refine ⟨fun counts a b c ab bc memA memC => ?_, fun between j => ?_⟩
  · obtain ⟨i, isA⟩ := List.mem_iff_getElem?.mp memA
    obtain ⟨k, isC⟩ := List.mem_iff_getElem?.mp memC
    obtain ⟨h, first, atA⟩ := counts i a isA
    obtain ⟨h', first', atC⟩ := counts k c isC
    obtain rfl : h = h' := by simpa [first] using first'
    have inside : b - h < positions.length := by
      have below := (List.getElem?_eq_some_iff.mp isC).1
      omega
    obtain ⟨h', first', atB⟩ := counts (b - h) _ (List.getElem?_eq_getElem inside)
    obtain rfl : h = h' := by simpa [first] using first'
    have isB : positions[b - h] = b := by omega
    exact isB ▸ List.getElem_mem inside
  · induction j with
    | zero => exact fun p is => ⟨p, is, rfl⟩
    | succ j ih =>
      intro p is
      obtain ⟨below, rfl⟩ := List.getElem?_eq_some_iff.mp is
      have here : positions[j]? = some positions[j] := List.getElem?_eq_getElem (by omega)
      obtain ⟨h, first, atJ⟩ := ih _ here
      refine ⟨h, first, ?_⟩
      have later : positions[j] < positions[j + 1] :=
        List.pairwise_iff_getElem.mp increasing _ _ _ _ (Nat.lt_succ_self j)
      by_contra other
      have mem := between positions[j] (positions[j] + 1) positions[j + 1] (by omega) (by omega)
        (List.getElem_mem _) (List.getElem_mem _)
      obtain ⟨m, inside, isM⟩ := List.mem_iff_getElem.mp mem
      have order := fun i k (i' : i < positions.length) (k' : k < positions.length) =>
        List.pairwise_iff_getElem.mp increasing i k i' k'
      rcases Nat.lt_trichotomy m j with lt | rfl | gt
      · have := order m j inside (by omega) lt
        omega
      · omega
      · rcases Nat.lt_or_eq_of_le (show j + 1 ≤ m from gt) with lt | rfl
        · have := order (j + 1) m below inside lt
          omega
        · omega

/-! ### Line numbers -/

/-- The records of a file that are not blank, by their places among all records. -/
def shownAt (all : List Row) : List Nat :=
  (List.range all.length).filter fun i => ¬ Blank (all.getD i [])

theorem filter_eq_map_shownAt (all : List Row) :
    all.filter (fun row => ¬ Blank row) = (shownAt all).map fun i => all.getD i [] := by
  have each : all = (List.range all.length).map fun i => all.getD i [] := by
    refine List.ext_getElem (by simp) fun i below _ => ?_
    simp [List.getD_eq_getElem?_getD, List.getElem?_eq_getElem below]
  conv_lhs => rw [each]
  rw [List.filter_map]
  rfl

theorem shownAt_increasing (all : List Row) : (shownAt all).Pairwise (· < ·) :=
  List.Pairwise.filter _ List.pairwise_lt_range

theorem mem_shownAt {all : List Row} {i : Nat} :
    i ∈ shownAt all ↔ i < all.length ∧ ¬ Blank (all.getD i []) := by
  simp [shownAt]

/-- All records of a file, blank ones too. -/
def recordsOf (text : List Char) : List Row := records (withoutMark text)

/-- The line of each verdict is the place of its record, the header's being the first. -/
def LinesShown (toLowerCase : List Char → List Char) (text : List Char)
    (options : CsvValidationOptions) : Prop :=
  ∀ rows, parseBatchCsv toLowerCase text options = .ok rows →
    ∀ (j : Nat) (result : RowResult), rows[j]? = some result →
      ∃ header place, (shownAt (recordsOf text))[0]? = some header ∧
        (shownAt (recordsOf text))[j + 1]? = some place ∧ result.line + header = place + 1

/-- No blank record stands between two others. -/
def NoGap (all : List Row) : Prop :=
  ∀ a b c : Nat, a < b → b < c → c < all.length → ¬ Blank (all.getD a []) →
    ¬ Blank (all.getD c []) → ¬ Blank (all.getD b [])

theorem noGap_iff (all : List Row) :
    NoGap all ↔
      ∀ a b c, a < b → b < c → a ∈ shownAt all → c ∈ shownAt all → b ∈ shownAt all := by
  simp only [mem_shownAt]
  refine ⟨fun noGap a b c ab bc memA memC => ⟨bc.trans memC.1, ?_⟩, fun between => ?_⟩
  · exact noGap a b c ab bc memC.1 memA.2 memC.2
  · intro a b c ab bc inside notA notC
    exact (between a b c ab bc ⟨(ab.trans bc).trans inside, notA⟩ ⟨inside, notC⟩).2

theorem line_of_verdict (options : CsvValidationOptions) (header : List (List Char)) (line : Nat)
    (cells : Row) : (verdict options header line cells).line = line := by
  unfold verdict
  dsimp only
  split <;> rfl

/-- The lines are those of the file if and only if no blank record is among the rows. -/
theorem linesShown_iff (toLowerCase : List Char → List Char) (text : List Char)
    (options : CsvValidationOptions) :
    LinesShown toLowerCase text options ↔
      ∀ first body, parseCsvGrid text = first :: body →
        fileErrors options (headerOf toLowerCase first) body = [] → NoGap (recordsOf text) := by
  have grid : parseCsvGrid text = (shownAt (recordsOf text)).map fun i =>
      (recordsOf text).getD i [] := filter_eq_map_shownAt _
  refine ⟨fun shown first body is none => ?_, fun noGap rows parsed j result at_ => ?_⟩
  · refine (noGap_iff _).mpr ((counts_up_iff (shownAt_increasing _)).mp fun j p isP => ?_)
    have parsed := parseBatchCsv_ok_iff.mpr ⟨first, body, is, none, rfl⟩
    cases j with
    | zero => exact ⟨p, isP, rfl⟩
    | succ j =>
      have inside : j < body.length := by
        have below := (List.getElem?_eq_some_iff.mp isP).1
        have length := congrArg List.length (grid.symm.trans is)
        simp only [List.length_map, List.length_cons] at length
        omega
      have here : (verdicts options (headerOf toLowerCase first) body)[j]? =
          some (verdict options (headerOf toLowerCase first) (j + 2) body[j]) := by
        rw [verdicts, List.getElem?_mapIdx, List.getElem?_eq_getElem inside, Option.map_some]
      obtain ⟨header, place, isHeader, isPlace, line⟩ := shown _ parsed j _ here
      rw [line_of_verdict] at line
      obtain rfl : p = place := by simpa [isP] using isPlace
      exact ⟨header, isHeader, by omega⟩
  · obtain ⟨first, body, is, none, rfl⟩ := parseBatchCsv_ok_iff.mp parsed
    have counts := (counts_up_iff (shownAt_increasing _)).mpr
      ((noGap_iff _).mp (noGap first body is none))
    obtain ⟨cells, isCells, rfl⟩ : ∃ cells, body[j]? = some cells ∧
        verdict options (headerOf toLowerCase first) (j + 2) cells = result := by
      rw [verdicts, List.getElem?_mapIdx] at at_
      exact Option.map_eq_some_iff.mp at_
    have inside : j + 1 < (shownAt (recordsOf text)).length := by
      have below := (List.getElem?_eq_some_iff.mp isCells).1
      have length := congrArg List.length (grid.symm.trans is)
      simp only [List.length_map, List.length_cons] at length
      omega
    have isPlace := List.getElem?_eq_getElem inside
    obtain ⟨header, isHeader, place⟩ := counts (j + 1) _ isPlace
    exact ⟨header, _, isHeader, isPlace, by rw [line_of_verdict, place]; omega⟩

/-- The verdict on the third line says the second. -/
theorem blank_line_not_counted :
    ¬ ∀ (toLowerCase : List Char → List Char) (text : List Char) (options : CsvValidationOptions),
      LinesShown toLowerCase text options := by
  intro all
  have shown := all (·.map Char.toLower) "beneficiary_id,purpose_code,amount_inr\n\nben_1,P,12".toList
    ⟨["P".toList], none⟩
    [.accepted ⟨2, [("beneficiary_id".toList, "ben_1".toList), ("purpose_code".toList, "P".toList),
      ("amount_inr".toList, "12".toList)], "ben_1".toList, 1200, "P".toList, none⟩]
    (by decide +kernel) 0 _ rfl
  obtain ⟨header, place, isHeader, isPlace, line⟩ := shown
  have positions : shownAt (recordsOf
      "beneficiary_id,purpose_code,amount_inr\n\nben_1,P,12".toList) = [0, 2] := by decide +kernel
  rw [positions] at isHeader isPlace
  cases isHeader
  cases isPlace
  cases line

/-! ### One record replaced -/

/-- A record below the header of a file, by what stands before and after it. -/
structure Place where
  before : List Char
  record : List Char
  after : List Char
  /-- The record begins a line. -/
  begins : EndsLine before
  unquoted : (readFrom {} (withoutMark before)).quoted = false
  follows : Follows record after
  shown : ¬ Blank (recordOf record)
  below : parseCsvGrid before ≠ []

namespace Place

/-- The file with another text in the record's place. -/
def file (place : Place) (record : List Char) : List Char := place.before ++ (record ++ place.after)

/-- How many records there are between the header and the record. -/
def index (place : Place) : Nat := (parseCsvGrid place.before).length - 1

end Place

/-- The verdicts but the one on a record are the same, or the file is refused in the same way. -/
inductive OthersKept (k : Nat) :
    Except (List RowError) (List RowResult) → Except (List RowError) (List RowResult) → Prop where
  | verdicts {rows rows' : List RowResult} : rows.length = rows'.length →
      (∀ j, j ≠ k → rows[j]? = rows'[j]?) → OthersKept k (.ok rows) (.ok rows')
  | refused (errors : List RowError) : OthersKept k (.error errors) (.error errors)

theorem rows_of_othersKept {k : Nat} {rows : List RowResult}
    {parsed parsed' : Except (List RowError) (List RowResult)} (kept : OthersKept k parsed parsed')
    (is : parsed = .ok rows) : ∃ rows', parsed' = .ok rows' ∧ rows.length = rows'.length := by
  cases kept with
  | verdicts length _ =>
    cases is
    exact ⟨_, rfl, length⟩
  | refused => cases is

theorem withoutMark_append {before after : List Char} (some_ : before ≠ []) :
    withoutMark (before ++ after) = withoutMark before ++ after := by
  cases before with
  | nil => exact absurd rfl some_
  | cons c rest =>
    rw [List.cons_append, withoutMark, withoutMark]
    split <;> rfl

theorem endsLine_withoutMark {text : List Char} (ends : EndsLine text) :
    EndsLine (withoutMark text) := by
  cases text with
  | nil => exact ends
  | cons c rest =>
    rw [withoutMark]
    split
    · rename_i mark
      subst mark
      cases rest with
      | nil => simp [EndsLine] at ends
      | cons d rest => simpa only [EndsLine, List.getLast?_cons_cons] using ends
    · exact ends

/-- The grid of the file is that of what stands before, the record and what stands after it. -/
theorem grid_of_file (place : Place) {record : List Char} (follows : Follows record place.after)
    (shown : ¬ Blank (recordOf record)) :
    parseCsvGrid (place.file record) =
      parseCsvGrid place.before ++ recordOf record ::
        (records (restOf place.after)).filter fun row => ¬ Blank row := by
  have some_ : place.before ≠ [] := fun none => by
    have begins := place.begins
    simp [none, EndsLine] at begins
  have notEmpty : recordOf record ≠ [[]] := fun is => shown (by rw [is]; decide)
  have next : (record ++ place.after).head? ≠ some '\n' := by
    cases record with
    | nil => exact absurd rfl notEmpty
    | cons c rest =>
      intro is
      obtain rfl : c = '\n' := by simpa using is
      have whole := follows.whole
      rw [read_newline rfl] at whole
      have first : Reading.endRow {} = Reading.after [[[]]] {} := rfl
      rw [first, readFrom_after] at whole
      cases whole
  have split := records_append (endsLine_withoutMark place.begins) place.unquoted next
  have rest : records (record ++ place.after) =
      recordOf record :: records (restOf place.after) :=
    ended_follows follows fun _ => notEmpty
  have kept : decide (¬ Blank (recordOf record)) = true := decide_eq_true shown
  rw [parseCsvGrid, Place.file, withoutMark_append some_, split, rest, List.filter_append,
    List.filter_cons, if_pos kept]
  rfl

theorem fileErrors_length {options : CsvValidationOptions} {header : List (List Char)}
    {body body' : List Row} (length : body.length = body'.length) :
    fileErrors options header body = fileErrors options header body' := by
  have empty : body = [] ↔ body' = [] := by
    rw [← List.length_eq_zero_iff, length, List.length_eq_zero_iff]
  simp only [fileErrors, length, empty]

/-- Two files that differ in one record have the same verdicts on all others. -/
theorem othersKept_of_grids (toLowerCase : List Char → List Char) (options : CsvValidationOptions)
    {text text' : List Char} {first : Row} {above below : List Row} {row row' : Row}
    (grid : parseCsvGrid text = first :: (above ++ row :: below))
    (grid' : parseCsvGrid text' = first :: (above ++ row' :: below)) :
    OthersKept above.length (parseBatchCsv toLowerCase text options)
      (parseBatchCsv toLowerCase text' options) := by
  have length : (above ++ row :: below).length = (above ++ row' :: below).length := by simp
  have errors : fileErrors options (headerOf toLowerCase first) (above ++ row :: below) = _ :=
    fileErrors_length length
  simp only [parseBatchCsv, grid, grid', ← errors]
  split
  · exact .refused _
  · refine .verdicts (by simp [verdicts]) fun j other => ?_
    rw [verdicts, verdicts, List.getElem?_mapIdx, List.getElem?_mapIdx]
    congr 1
    rcases Nat.lt_or_gt_of_ne other with lt | gt
    · rw [List.getElem?_append_left lt, List.getElem?_append_left lt]
    · obtain ⟨n, rfl⟩ := Nat.exists_eq_add_of_lt gt
      rw [List.getElem?_append_right (by omega), List.getElem?_append_right (by omega),
        show above.length + n + 1 - above.length = n + 1 by omega]
      rfl

/-- A file with a header and two rows, at its first row. -/
def sample : Place where
  before := "beneficiary_id,amount_inr,purpose_code\n".toList
  record := ['a']
  after := ['\n', 'b']
  begins := .inr (by decide)
  unquoted := by decide +kernel
  follows := ⟨by decide, .inr ⟨by decide, .inr (by decide)⟩⟩
  shown := by decide
  below := by decide +kernel

theorem sample_rows (toLowerCase : List Char → List Char)
    (lower : ∀ column : BatchCsvColumn, toLowerCase column.name = column.name) :
    ∃ rows, parseBatchCsv toLowerCase (sample.file sample.record) ⟨[], none⟩ = .ok rows ∧
      rows.length = 2 := by
  have grid : parseCsvGrid (sample.file sample.record) =
      [BatchCsvColumn.beneficiaryId.name, BatchCsvColumn.amountInr.name,
        BatchCsvColumn.purposeCode.name] :: [[['a']], [['b']]] := by decide +kernel
  have header : headerOf toLowerCase [BatchCsvColumn.beneficiaryId.name,
      BatchCsvColumn.amountInr.name, BatchCsvColumn.purposeCode.name] =
      [BatchCsvColumn.beneficiaryId.name, BatchCsvColumn.amountInr.name,
        BatchCsvColumn.purposeCode.name] := by
    have trimmed : ∀ column : BatchCsvColumn, Chars.trim column.name = column.name := fun column => by
      cases column <;> decide
    simp only [headerOf, List.map_cons, List.map_nil, trimmed, lower]
  exact ⟨_, parseBatchCsv_ok_iff.mpr ⟨_, _, grid, by rw [header]; decide +kernel, rfl⟩, rfl⟩

/-- An open quote takes the next line in, and a blank line is dropped. -/
theorem sample_grid {text : List Char} (line : OneLine text)
    (bad : (readFrom {} text).quoted = true ∨ Blank (recordOf text)) :
    (parseCsvGrid (sample.file text)).length ≤ 2 := by
  have noGrid := grid_of_oneLine {} line
  cases text with
  | nil => decide +kernel
  | cons c rest =>
    have next : (c :: rest ++ sample.after).head? ≠ some '\n' := fun is =>
      (line c List.mem_cons_self).2 (by simpa using is)
    have split := records_append sample.begins (by decide +kernel) next
    have header : records sample.before = [[BatchCsvColumn.beneficiaryId.name,
        BatchCsvColumn.amountInr.name, BatchCsvColumn.purposeCode.name]] := by decide +kernel
    have others : ((records (c :: rest ++ sample.after)).filter fun row => ¬ Blank row).length ≤ 1 := by
      cases quoted : (readFrom {} (c :: rest)).quoted with
      | true =>
        have apart : Apart (c :: rest) sample.after :=
          ⟨fun both => absurd both.2 (by decide), fun both =>
            (line _ (List.mem_of_getLast? both.1)).1 rfl⟩
        have read := readFrom_append {} (c :: rest) sample.after apart
        rw [read_insideQuotes quoted (by decide)] at read
        refine (List.length_filter_le _ _).trans ?_
        rw [records, read, Reading.ended]
        split <;> simp [Reading.endRow, Reading.endField, noGrid]
      | false =>
        have blank := bad.resolve_left (by simp [quoted])
        have follows : Follows (c :: rest) sample.after := ⟨noGrid, .inr ⟨quoted, .inr rfl⟩⟩
        have read : records (c :: rest ++ sample.after) =
            recordOf (c :: rest) :: records (restOf sample.after) :=
          ended_follows follows fun none => by cases none
        have last : records (restOf sample.after) = [[['b']]] := by decide
        rw [read, last, List.filter_cons, if_neg (by simpa using blank)]
        exact List.length_filter_le _ _
    have unmarked : withoutMark sample.before = sample.before := by decide +kernel
    rw [parseCsvGrid, Place.file, withoutMark_append (by decide +kernel), unmarked, split, header, List.filter_append, List.length_append]
    exact Nat.add_le_add (List.length_filter_le _ _) others

/-- A text of one line leaves the verdicts on all other records as they were, in whichever file it
replaces a record, if and only if it closes its quotes and is not blank. -/
theorem othersKept_iff (toLowerCase : List Char → List Char)
    (lower : ∀ column : BatchCsvColumn, toLowerCase column.name = column.name)
    {text : List Char} (line : OneLine text) :
    (∀ (options : CsvValidationOptions) (place : Place),
      OthersKept place.index (parseBatchCsv toLowerCase (place.file place.record) options)
        (parseBatchCsv toLowerCase (place.file text) options)) ↔
      (readFrom {} text).quoted = false ∧ ¬ Blank (recordOf text) := by
  refine ⟨fun kept => ?_, fun ⟨closed, shown⟩ options place => ?_⟩
  · by_contra bad
    have few := sample_grid line (by
      rw [← Bool.not_eq_false]
      exact (not_and_or.mp bad).imp id not_not.mp)
    obtain ⟨rows, parsed, two⟩ := sample_rows toLowerCase lower
    obtain ⟨rows', parsed', same⟩ := rows_of_othersKept (kept ⟨[], none⟩ sample) parsed
    obtain ⟨first, body, grid, _, rfl⟩ := parseBatchCsv_ok_iff.mp parsed'
    rw [grid, List.length_cons] at few
    rw [two, verdicts, List.length_mapIdx] at same
    omega
  · have follows : Follows text place.after :=
      ⟨grid_of_oneLine {} line, place.follows.ends.imp id fun ends => ⟨closed, ends.2⟩⟩
    have grid := grid_of_file place place.follows place.shown
    have grid' := grid_of_file place follows shown
    obtain ⟨first, above, before⟩ := List.exists_cons_of_ne_nil place.below
    have index : place.index = above.length := by
      rw [Place.index, before, List.length_cons, Nat.add_sub_cancel]
    rw [before] at grid grid'
    rw [index]
    exact othersKept_of_grids toLowerCase options grid grid'

/-- A text without quotes and commas. -/
theorem othersKept_iff_word :
    (∀ (options : CsvValidationOptions) (place : Place),
      OthersKept place.index
        (parseBatchCsv (·.map Char.toLower) (place.file place.record) options)
        (parseBatchCsv (·.map Char.toLower) (place.file "x".toList) options)) ↔
      (readFrom {} "x".toList).quoted = false ∧ ¬ Blank (recordOf "x".toList) :=
  othersKept_iff (·.map Char.toLower) (fun column => by cases column <;> decide)
    (fun c mem => by
      obtain rfl : c = 'x' := by simpa using mem
      decide)

/-- A quote that is not closed takes the next record in. -/
theorem open_quote_merges :
    ¬ ∀ (toLowerCase : List Char → List Char) (text : List Char) (options : CsvValidationOptions)
      (place : Place), OneLine text →
        OthersKept place.index (parseBatchCsv toLowerCase (place.file place.record) options)
          (parseBatchCsv toLowerCase (place.file text) options) := by
  intro all
  have kept := all (·.map Char.toLower) ['"'] ⟨[], none⟩ sample (by simp [OneLine])
  have merged : (parseBatchCsv (·.map Char.toLower) (sample.file ['"'])
      ⟨[], none⟩).toOption.map List.length = some 1 := by decide +kernel
  obtain ⟨rows, parsed, two⟩ : ∃ rows, parseBatchCsv (·.map Char.toLower)
      (sample.file sample.record) ⟨[], none⟩ = .ok rows ∧ rows.length = 2 :=
    sample_rows _ fun column => by cases column <;> decide
  obtain ⟨rows', parsed', same⟩ := rows_of_othersKept kept parsed
  rw [parsed', Except.toOption, Option.map_some, Option.some.injEq] at merged
  omega

end InrSettle.BatchCsv
