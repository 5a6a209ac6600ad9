import InrSettle.Domain.BatchCsv

/-!
# Rows of batch files

Which cells of a row are bound to a column, what a row has to have to be accepted, and
the files whose accepted rows lose none of their cells.
-/

namespace InrSettle.BatchCsv

open Csv

/-! ### Headers -/

/-- A name that stands in a header has one place there. -/
def Unique (header : List (List Char)) : Prop :=
  ∀ i name, header[i]? = some name → name ≠ [] → header.idxOf name = i

theorem unique_of_duplicates {header : List (List Char)} (none : duplicates header = []) :
    Unique header := by
  intro i name stands some_
  by_contra other
  have mem : (name, i) ∈ header.zipIdx := List.mem_zipIdx_iff_getElem?.mpr stands
  have twice : name ∈ duplicates header :=
    List.mem_eraseDups.mpr (List.mem_map.mpr
      ⟨(name, i), List.mem_filter.mpr ⟨mem, decide_eq_true ⟨some_, other⟩⟩, rfl⟩)
  rw [none] at twice
  cases twice

theorem header_of_no_errors {header : List (List Char)} (none : headerErrors header = []) :
    Unique header ∧ ∀ column ∈ requiredColumns, column.name ∈ header := by
  obtain ⟨missing, duplicate⟩ := List.append_eq_nil_iff.mp none
  refine ⟨unique_of_duplicates (List.map_eq_nil_iff.mp duplicate), fun column mem => ?_⟩
  have kept := List.filter_eq_nil_iff.mp (List.map_eq_nil_iff.mp missing) column mem
  simpa using kept

/-! ### What a row is read as -/

theorem lookup_zipIdx {header : List (List Char)} {name : List Char} {k i : Nat}
    {keeps : List Char → Bool} {value : Nat → List Char} (first : header.idxOf name = i)
    (stands : header[i]? = some name) (kept : keeps name = true) :
    (((header.zipIdx k).filter fun column => keeps column.1).map
      fun column => (column.1, value column.2)).lookup name = some (value (k + i)) := by
  induction header generalizing k i with
  | nil => cases stands
  | cons head header ih =>
    by_cases same : head = name
    · subst same
      rw [List.idxOf_cons_self] at first
      simp [List.zipIdx_cons, kept, ← first]
    · rw [List.idxOf_cons_ne _ same] at first
      subst first
      have tail := ih (k := k + 1) rfl stands
      have other : (name == head) = false := beq_false_of_ne (Ne.symm same)
      rw [List.zipIdx_cons, List.filter_cons]
      split
      · rw [List.map_cons, List.lookup_cons, other, tail, Nat.add_right_comm]
        rfl
      · rw [tail, Nat.add_right_comm]
        rfl

/-- A named column has its cell in what is read. -/
theorem lookup_rawOf {header : List (List Char)} (unique : Unique header) {name : List Char} {i : Nat}
    (stands : header[i]? = some name) (some_ : name ≠ []) (own : name ≠ "__proto__".toList)
    (cells : Row) : (rawOf header cells).lookup name = some (Chars.trim (cells.getD i [])) := by
  have found := @lookup_zipIdx header name 0 i
    (fun name => decide (name ≠ [] ∧ name ≠ "__proto__".toList))
    (fun i => Chars.trim (cells.getD i []))
    (unique i name stands some_) stands (decide_eq_true ⟨some_, own⟩)
  rwa [Nat.zero_add] at found

theorem lookup_rawOf_proto (header : List (List Char)) (cells : Row) :
    (rawOf header cells).lookup "__proto__".toList = none := by
  refine List.lookup_eq_none_iff.mpr fun column mem => ?_
  obtain ⟨⟨name, i⟩, kept, rfl⟩ := List.mem_map.mp mem
  have own := (of_decide_eq_true (List.mem_filter.mp kept).2).2
  exact bne_iff_ne.mpr (Ne.symm own)

/-- What a row has under a column. -/
def cellUnder (header : List (List Char)) (cells : Row) (column : BatchCsvColumn) : List Char :=
  Chars.trim (cells.getD (header.idxOf column.name) [])

theorem field_rawOf {header : List (List Char)} (unique : Unique header) {column : BatchCsvColumn}
    (mem : column.name ∈ header) (cells : Row) :
    field (rawOf header cells) column = cellUnder header cells column := by
  have stands : header[header.idxOf column.name]? = some column.name := by
    rw [List.getElem?_eq_getElem (List.idxOf_lt_length_of_mem mem), List.getElem_idxOf]
  rw [field, lookup_rawOf unique stands (by cases column <;> decide) (by cases column <;> decide)]
  rfl

/-! ### Accepted rows -/

/-- The cells that a row must have are what they must be. -/
def RequiredHold (options : CsvValidationOptions) (header : List (List Char)) (cells : Row) : Prop :=
  isBeneficiaryId (cellUnder header cells .beneficiaryId) = true ∧
    (∃ n, parseRupees (cellUnder header cells .amountInr) = .ok n) ∧
    cellUnder header cells .purposeCode ≠ [] ∧
    cellUnder header cells .purposeCode ∈ options.purposeCodes

theorem beneficiaryErrors_eq_nil {id : List Char} :
    beneficiaryErrors id = [] ↔ isBeneficiaryId id = true := by
  unfold beneficiaryErrors
  split
  · rename_i none
    subst none
    exact iff_of_false (by simp) (by decide)
  · split <;> simp_all

theorem amountErrors_eq_nil {amount : Except Refused Nat} :
    amountErrors amount = [] ↔ ∃ n, amount = .ok n := by
  cases amount <;> simp [amountErrors]

theorem purposeErrors_eq_nil {options : CsvValidationOptions} {code : List Char} :
    purposeErrors options code = [] ↔ code ≠ [] ∧ code ∈ options.purposeCodes := by
  unfold purposeErrors
  split
  · simp_all
  · split <;> simp_all

theorem verdict_accepted_iff {options : CsvValidationOptions} {header : List (List Char)}
    (unique : Unique header) (required : ∀ column ∈ requiredColumns, column.name ∈ header)
    (line : Nat) (cells : Row) :
    (∃ row, verdict options header line cells = .accepted row) ↔ RequiredHold options header cells := by
  have fields := fun column mem => field_rawOf unique (required column mem) cells
  have beneficiary := fields .beneficiaryId (by decide)
  have amount := fields .amountInr (by decide)
  have purpose := fields .purposeCode (by decide)
  have errors : rowErrors options (rawOf header cells) = [] ↔ RequiredHold options header cells := by
    rw [rowErrors, List.append_eq_nil_iff, List.append_eq_nil_iff, beneficiaryErrors_eq_nil,
      amountErrors_eq_nil, purposeErrors_eq_nil, beneficiary, amount, purpose, and_assoc]
    rfl
  rw [← errors]
  by_cases none : rowErrors options (rawOf header cells) = [] <;> simp [verdict, none]

theorem raw_of_accepted {options : CsvValidationOptions} {header : List (List Char)} {line : Nat}
    {cells : Row} {row : ParsedRow} (accepted : verdict options header line cells = .accepted row) :
    row.raw = rawOf header cells := by
  unfold verdict at accepted
  dsimp only at accepted
  split at accepted
  · cases accepted
  · cases accepted
    rfl

/-! ### No cell is lost -/

/-- The row has no more cells than there are columns, and what it has is bound to one. -/
def KeepsCells (header : List (List Char)) (row : ParsedRow) (cells : Row) : Prop :=
  cells.length ≤ header.length ∧
    ∀ (c : Nat) (cell : Cell), cells[c]? = some cell → cell ≠ [] →
      ∃ name, header[c]? = some name ∧ name ≠ [] ∧ row.raw.lookup name = some (Chars.trim cell)

/-- The row has no more cells than there are columns, and none where a column has no name of its
own. -/
def Fits (header : List (List Char)) (cells : Row) : Prop :=
  cells.length ≤ header.length ∧
    ∀ (c : Nat) (cell : Cell), cells[c]? = some cell → cell ≠ [] →
      ∃ name, header[c]? = some name ∧ name ≠ [] ∧ name ≠ "__proto__".toList

theorem keepsCells_iff {header : List (List Char)} (unique : Unique header) {row : ParsedRow}
    {cells : Row} (raw : row.raw = rawOf header cells) : KeepsCells header row cells ↔ Fits header cells := by
  refine and_congr_right fun _ => forall_congr' fun c => forall_congr' fun cell =>
    imp_congr_right fun stands => imp_congr_right fun _ => exists_congr fun name =>
    and_congr_right fun column => and_congr_right fun some_ => ?_
  have value : cells.getD c [] = cell := by rw [List.getD_eq_getElem?_getD, stands]; rfl
  rw [raw]
  refine ⟨fun found => ?_, fun own => ?_⟩
  · rintro rfl
    rw [lookup_rawOf_proto] at found
    cases found
  · rw [lookup_rawOf unique column some_ own, value]

theorem fileErrors_eq_nil {options : CsvValidationOptions} {header : List (List Char)}
    {body : List Row} :
    fileErrors options header body = [] ↔
      headerErrors header = [] ∧ body ≠ [] ∧ body.length ≤ options.limit := by
  unfold fileErrors
  split
  · simp_all
  · split
    · simp_all
    · split
      · rename_i many
        exact iff_of_false (by simp) fun all => absurd all.2.2 (Nat.not_le.mpr many)
      · simp_all

/-- A file that is not refused has a header and a verdict on each row below it. -/
theorem parseBatchCsv_ok_iff {toLowerCase : List Char → List Char} {text : List Char}
    {options : CsvValidationOptions} {rows : List RowResult} :
    parseBatchCsv toLowerCase text options = .ok rows ↔
      ∃ first body, parseCsvGrid text = first :: body ∧
        fileErrors options (headerOf toLowerCase first) body = [] ∧
        rows = verdicts options (headerOf toLowerCase first) body := by
  unfold parseBatchCsv
  split
  · simp_all
  · rename_i first body grid
    by_cases none : fileErrors options (headerOf toLowerCase first) body = []
    · simp only [none, ne_eq, not_true_eq_false, if_false, grid, List.cons.injEq]
      refine ⟨fun is => ?_, ?_⟩
      · cases is
        exact ⟨first, body, ⟨rfl, rfl⟩, none, rfl⟩
      · rintro ⟨_, _, ⟨rfl, rfl⟩, _, rfl⟩
        rfl
    · simp only [ne_eq, none, not_false_eq_true, if_true, grid, List.cons.injEq]
      constructor
      · intro is
        cases is
      · rintro ⟨_, _, ⟨rfl, rfl⟩, is, _⟩
        exact absurd is none

/-- Every accepted row of the file has all its cells in what was read. -/
def LosesNothing (toLowerCase : List Char → List Char) (text : List Char)
    (options : CsvValidationOptions) : Prop :=
  ∀ (rows : List RowResult) (first : Row) (body : List Row),
    parseBatchCsv toLowerCase text options = .ok rows → parseCsvGrid text = first :: body →
    ∀ (i : Nat) (row : ParsedRow) (cells : Row), rows[i]? = some (.accepted row) →
      body[i]? = some cells → KeepsCells (headerOf toLowerCase first) row cells

/-- A file loses nothing where each row that does not fit has something else that is refused. -/
theorem losesNothing_iff (toLowerCase : List Char → List Char) (text : List Char)
    (options : CsvValidationOptions) :
    LosesNothing toLowerCase text options ↔
      ∀ first body, parseCsvGrid text = first :: body →
        headerErrors (headerOf toLowerCase first) = [] → body.length ≤ options.limit →
        ∀ cells ∈ body, Fits (headerOf toLowerCase first) cells ∨
          ¬ RequiredHold options (headerOf toLowerCase first) cells := by
  refine ⟨fun keeps first body grid noErrors few cells mem => ?_, fun fits => ?_⟩
  · obtain ⟨unique, required⟩ := header_of_no_errors noErrors
    by_cases hold : RequiredHold options (headerOf toLowerCase first) cells
    · obtain ⟨i, at_⟩ := List.mem_iff_getElem?.mp mem
      obtain ⟨row, accepted⟩ := (verdict_accepted_iff unique required (i + 2) cells).mpr hold
      have none : fileErrors options (headerOf toLowerCase first) body = [] :=
        fileErrors_eq_nil.mpr ⟨noErrors, List.ne_nil_of_mem mem, few⟩
      have parsed : parseBatchCsv toLowerCase text options =
          .ok (verdicts options (headerOf toLowerCase first) body) :=
        parseBatchCsv_ok_iff.mpr ⟨first, body, grid, none, rfl⟩
      have here : (verdicts options (headerOf toLowerCase first) body)[i]? =
          some (.accepted row) := by
        rw [verdicts, List.getElem?_mapIdx, at_, Option.map_some, accepted]
      have kept := keeps _ first body parsed grid i row cells here at_
      exact .inl ((keepsCells_iff unique (raw_of_accepted accepted)).mp kept)
    · exact .inr hold
  · intro rows first body parsed grid i row cells here at_
    obtain ⟨first', body', grid', none, rfl⟩ := parseBatchCsv_ok_iff.mp parsed
    obtain ⟨rfl, rfl⟩ := List.cons.inj (grid.symm.trans grid')
    obtain ⟨noErrors, _, few⟩ := fileErrors_eq_nil.mp none
    obtain ⟨unique, required⟩ := header_of_no_errors noErrors
    rw [verdicts, List.getElem?_mapIdx, at_, Option.map_some, Option.some.injEq] at here
    have hold := (verdict_accepted_iff unique required (i + 2) cells).mp ⟨row, here⟩
    have kept := (fits first body grid noErrors few cells (List.mem_of_getElem? at_)).resolve_right
      (not_not.mpr hold)
    exact (keepsCells_iff unique (raw_of_accepted here)).mpr kept

/-- Twelve thousand rupees without quotes, in the last column. -/
theorem thousands_lost :
    ¬ ∀ (toLowerCase : List Char → List Char) (text : List Char) (options : CsvValidationOptions),
      LosesNothing toLowerCase text options := by
  intro all
  have keeps := all (·.map Char.toLower)
    "beneficiary_id,purpose_code,amount_inr\nben_1,P,12,000".toList ⟨["P".toList], none⟩
    [.accepted ⟨2, [("beneficiary_id".toList, "ben_1".toList), ("purpose_code".toList, "P".toList),
      ("amount_inr".toList, "12".toList)], "ben_1".toList, 1200, "P".toList, none⟩]
    ["beneficiary_id".toList, "purpose_code".toList, "amount_inr".toList]
    [["ben_1".toList, "P".toList, "12".toList, "000".toList]] (by decide +kernel) (by decide +kernel)
    0 _ _ rfl rfl
  exact absurd keeps.1 (by decide)

end InrSettle.BatchCsv
