import InrSettle.Library.Chars

/-!
# Comma-separated values

A reader of records whose cells may be quoted, the texts of a grid of cells, and what
the reader makes of a text that is put together of others.
-/

namespace Csv

abbrev Cell := List Char

abbrev Row := List Cell

/-- What has been read: whole records, cells of the next one, and the beginning of the next cell. -/
structure Reading where
  grid : List Row := []
  row : Row := []
  field : Cell := []
  quoted : Bool := false
  deriving DecidableEq

namespace Reading

def push (s : Reading) (c : Char) : Reading := { s with field := s.field ++ [c] }

def endField (s : Reading) : Reading := { s with row := s.row ++ [s.field], field := [] }

def endRow (s : Reading) : Reading :=
  { s.endField with grid := s.grid ++ [s.row ++ [s.field]], row := [] }

end Reading

/-- The loop over the characters. -/
def readFrom : Reading → List Char → Reading
  | s, [] => s
  | s, c :: rest =>
    if s.quoted then
      if c = '"' then
        match rest with
        | [] => { s with quoted := false }
        | d :: more =>
          if d = '"' then readFrom (s.push '"') more
          else readFrom { s with quoted := false } (d :: more)
      else readFrom (s.push c) rest
    else if c = '"' ∧ s.field = [] then readFrom { s with quoted := true } rest
    else if c = ',' then readFrom s.endField rest
    else if c = '\r' then
      match rest with
      | [] => s.endRow
      | d :: more => if d = '\n' then readFrom s.endRow more else readFrom s.endRow (d :: more)
    else if c = '\n' then readFrom s.endRow rest
    else readFrom (s.push c) rest

/-- The records that were read; the last one need not be ended. -/
def Reading.ended (s : Reading) : List Row :=
  if s.field ≠ [] ∨ s.row ≠ [] then s.endRow.grid else s.grid

def records (text : List Char) : List Row := (readFrom {} text).ended

/-! ### The texts of a grid -/

def needsQuotes (cell : Cell) : Bool := cell.any fun c => decide (c ∈ ['"', ',', '\r', '\n'])

def doubled (cell : Cell) : List Char :=
  cell.flatMap fun c => if c = '"' then ['"', '"'] else [c]

/-- How a grid is written: with quotes around every cell or where they are needed, lines that end
with one character or two, and an end of the last line or none. -/
structure Style where
  quoteAll : Bool
  crlf : Bool
  closed : Bool
  deriving DecidableEq

namespace Style

def quotes (style : Style) (cell : Cell) : Bool := style.quoteAll || needsQuotes cell

def cellText (style : Style) (cell : Cell) : List Char :=
  if style.quotes cell then '"' :: (doubled cell ++ ['"']) else cell

def lineEnd (style : Style) : List Char := if style.crlf then ['\r', '\n'] else ['\n']

def rowText (style : Style) : Row → List Char
  | [] => []
  | [cell] => style.cellText cell
  | cell :: next :: rest => style.cellText cell ++ ',' :: style.rowText (next :: rest)

def text (style : Style) : List Row → List Char
  | [] => []
  | [row] => style.rowText row ++ if style.closed then style.lineEnd else []
  | row :: next :: rest => style.rowText row ++ (style.lineEnd ++ style.text (next :: rest))

end Style

/-! ### Steps of the loop -/

section Steps

variable {s : Reading} {c : Char} {rest : List Char}

/-- What one turn of the loop does with a character. -/
theorem readFrom_cons (s : Reading) (c : Char) (rest : List Char) :
    readFrom s (c :: rest) =
      if s.quoted then
        if c = '"' then
          match rest with
          | [] => { s with quoted := false }
          | d :: more =>
            if d = '"' then readFrom (s.push '"') more
            else readFrom { s with quoted := false } (d :: more)
        else readFrom (s.push c) rest
      else if c = '"' ∧ s.field = [] then readFrom { s with quoted := true } rest
      else if c = ',' then readFrom s.endField rest
      else if c = '\r' then
        match rest with
        | [] => s.endRow
        | d :: more => if d = '\n' then readFrom s.endRow more else readFrom s.endRow (d :: more)
      else if c = '\n' then readFrom s.endRow rest
      else readFrom (s.push c) rest := by
  conv_lhs => unfold readFrom

theorem read_quotedChar (quoted : s.quoted = true) (plain : c ≠ '"') :
    readFrom s (c :: rest) = readFrom (s.push c) rest := by
  rw [readFrom_cons]
  simp only [if_pos quoted, if_neg plain]

theorem read_doubled (quoted : s.quoted = true) :
    readFrom s ('"' :: '"' :: rest) = readFrom (s.push '"') rest := by
  rw [readFrom_cons]
  simp only [if_pos quoted, if_true]

theorem read_close (quoted : s.quoted = true) (next : rest.head? ≠ some '"') :
    readFrom s ('"' :: rest) = readFrom { s with quoted := false } rest := by
  cases rest with
  | nil => simp [readFrom, quoted]
  | cons d more =>
    have other : d ≠ '"' := fun same => next (congrArg some same)
    rw [readFrom_cons]
    simp only [if_pos quoted, if_true, if_neg other]

theorem read_open (unquoted : s.quoted = false) (fresh : s.field = []) :
    readFrom s ('"' :: rest) = readFrom { s with quoted := true } rest := by
  rw [readFrom_cons]
  simp [unquoted, fresh]

theorem read_comma (unquoted : s.quoted = false) :
    readFrom s (',' :: rest) = readFrom s.endField rest := by
  rw [readFrom_cons]
  simp [unquoted]

theorem read_newline (unquoted : s.quoted = false) :
    readFrom s ('\n' :: rest) = readFrom s.endRow rest := by
  rw [readFrom_cons]
  simp [unquoted]

theorem read_crlf (unquoted : s.quoted = false) :
    readFrom s ('\r' :: '\n' :: rest) = readFrom s.endRow rest := by
  rw [readFrom_cons]
  simp [unquoted]

theorem read_return (unquoted : s.quoted = false) (next : rest.head? ≠ some '\n') :
    readFrom s ('\r' :: rest) = readFrom s.endRow rest := by
  cases rest with
  | nil => simp [readFrom, unquoted]
  | cons d more =>
    have other : d ≠ '\n' := fun same => next (congrArg some same)
    rw [readFrom_cons]
    simp [unquoted, other]

/-- A character that is data outside quotes. -/
theorem read_char (unquoted : s.quoted = false) (plain : c ≠ ',' ∧ c ≠ '\r' ∧ c ≠ '\n')
    (noQuote : c ≠ '"' ∨ s.field ≠ []) :
    readFrom s (c :: rest) = readFrom (s.push c) rest := by
  have opens : ¬ (c = '"' ∧ s.field = []) := fun ⟨is, fresh⟩ => noQuote.elim (· is) (· fresh)
  rw [readFrom_cons]
  simp only [unquoted, Bool.false_eq_true, if_false, if_neg opens, if_neg plain.1,
    if_neg plain.2.1, if_neg plain.2.2]

end Steps

/-! ### Texts one after another -/

/-- No two characters that are read together stand on both sides of the cut. -/
def Apart (before after : List Char) : Prop :=
  ¬ (before.getLast? = some '"' ∧ after.head? = some '"') ∧
    ¬ (before.getLast? = some '\r' ∧ after.head? = some '\n')

theorem Apart.tail {c : Char} {rest after : List Char} (apart : Apart (c :: rest) after) :
    Apart rest after := by
  cases rest with
  | nil => simp [Apart]
  | cons d more => simpa only [Apart, List.getLast?_cons_cons] using apart

/-- The loop over a text goes on from where the loop over its beginning stopped. -/
theorem readFrom_append (s : Reading) (before after : List Char) (apart : Apart before after) :
    readFrom s (before ++ after) = readFrom (readFrom s before) after := by
  fun_induction readFrom s before with
  | case1 => rfl
  | case2 s quoted => exact read_close quoted fun next => apart.1 ⟨rfl, next⟩
  | case3 s quoted more ih => exact (read_doubled quoted).trans (ih apart.tail.tail)
  | case4 s quoted d more other ih =>
    exact (read_close quoted (by simpa using other)).trans (ih apart.tail)
  | case5 s c rest quoted plain ih => exact (read_quotedChar quoted plain).trans (ih apart.tail)
  | case6 s c rest unquoted opens ih =>
    obtain ⟨rfl, fresh⟩ := opens
    exact (read_open (Bool.eq_false_iff.mpr unquoted) fresh).trans (ih apart.tail)
  | case7 s rest unquoted _ ih => exact (read_comma (Bool.eq_false_iff.mpr unquoted)).trans (ih apart.tail)
  | case8 s unquoted => exact read_return (Bool.eq_false_iff.mpr unquoted) fun next => apart.2 ⟨rfl, next⟩
  | case9 s unquoted more _ _ ih =>
    exact (read_crlf (Bool.eq_false_iff.mpr unquoted)).trans (ih apart.tail.tail)
  | case10 s unquoted d more other _ _ ih =>
    exact (read_return (Bool.eq_false_iff.mpr unquoted) (by simpa using other)).trans (ih apart.tail)
  | case11 s rest unquoted _ _ _ ih =>
    exact (read_newline (Bool.eq_false_iff.mpr unquoted)).trans (ih apart.tail)
  | case12 s c rest unquoted opens comma cr lf ih =>
    have noQuote : c ≠ '"' ∨ s.field ≠ [] := not_and_or.mp opens
    exact (read_char (Bool.eq_false_iff.mpr unquoted) ⟨comma, cr, lf⟩ noQuote).trans (ih apart.tail)

/-- The same reading after the records of another one. -/
def Reading.after (first : List Row) (s : Reading) : Reading := { s with grid := first ++ s.grid }

theorem after_endRow (first : List Row) (s : Reading) :
    (s.after first).endRow = s.endRow.after first := by
  simp [Reading.after, Reading.endRow, Reading.endField]

/-- Records that are there already are kept, and nothing else depends on them. -/
theorem readFrom_after (first : List Row) (s : Reading) (text : List Char) :
    readFrom (s.after first) text = (readFrom s text).after first := by
  fun_induction readFrom s text with
  | case1 => rfl
  | case2 s quoted => exact read_close (s := s.after first) quoted (by simp)
  | case3 s quoted more ih => exact (read_doubled (s := s.after first) quoted).trans ih
  | case4 s quoted d more other ih =>
    exact (read_close (s := s.after first) quoted (by simpa using other)).trans ih
  | case5 s c rest quoted plain ih =>
    exact (read_quotedChar (s := s.after first) quoted plain).trans ih
  | case6 s c rest unquoted opens ih =>
    obtain ⟨rfl, fresh⟩ := opens
    exact (read_open (s := s.after first) (Bool.eq_false_iff.mpr unquoted) fresh).trans ih
  | case7 s rest unquoted _ ih =>
    exact (read_comma (s := s.after first) (Bool.eq_false_iff.mpr unquoted)).trans ih
  | case8 s unquoted =>
    rw [read_return (s := s.after first) (Bool.eq_false_iff.mpr unquoted) (by simp), after_endRow]
    rfl
  | case9 s unquoted more _ _ ih =>
    rw [read_crlf (s := s.after first) (Bool.eq_false_iff.mpr unquoted), after_endRow, ih]
  | case10 s unquoted d more other _ _ ih =>
    rw [read_return (s := s.after first) (Bool.eq_false_iff.mpr unquoted) (by simpa using other),
      after_endRow, ih]
  | case11 s rest unquoted _ _ _ ih =>
    rw [read_newline (s := s.after first) (Bool.eq_false_iff.mpr unquoted), after_endRow, ih]
  | case12 s c rest unquoted opens comma cr lf ih =>
    have noQuote : c ≠ '"' ∨ s.field ≠ [] := not_and_or.mp opens
    exact (read_char (s := s.after first) (Bool.eq_false_iff.mpr unquoted) ⟨comma, cr, lf⟩
      noQuote).trans ih

theorem ended_after (first : List Row) (s : Reading) : (s.after first).ended = first ++ s.ended := by
  rw [Reading.ended, Reading.ended, after_endRow, apply_ite (first ++ ·)]
  rfl

/-! ### One record -/

/-- What a text of one record is read as. -/
def recordOf (text : List Char) : Row := (readFrom {} text).row ++ [(readFrom {} text).field]

/-- Nothing in the text ends a line. -/
def OneLine (text : List Char) : Prop := ∀ c ∈ text, c ≠ '\r' ∧ c ≠ '\n'

theorem grid_of_oneLine (s : Reading) {text : List Char} (line : OneLine text) :
    (readFrom s text).grid = s.grid := by
  fun_induction readFrom s text with
  | case1 => rfl
  | case2 => rfl
  | case3 s quoted more ih => exact ih fun c mem => line c (by simp [mem])
  | case4 s quoted d more other ih => exact ih fun c mem => line c (List.mem_cons_of_mem _ mem)
  | case5 s c rest quoted plain ih => exact ih fun c mem => line c (List.mem_cons_of_mem _ mem)
  | case6 s c rest unquoted opens ih => exact ih fun c mem => line c (List.mem_cons_of_mem _ mem)
  | case7 s rest unquoted _ ih => exact ih fun c mem => line c (List.mem_cons_of_mem _ mem)
  | case8 => exact absurd rfl (line _ List.mem_cons_self).1
  | case9 => exact absurd rfl (line _ List.mem_cons_self).1
  | case10 => exact absurd rfl (line _ List.mem_cons_self).1
  | case11 => exact absurd rfl (line _ List.mem_cons_self).2
  | case12 s c rest unquoted opens comma cr lf ih =>
    exact ih fun c mem => line c (List.mem_cons_of_mem _ mem)

/-- Inside quotes everything but a quote is data. -/
theorem read_insideQuotes {s : Reading} (quoted : s.quoted = true) {text : List Char}
    (noQuote : '"' ∉ text) : readFrom s text = { s with field := s.field ++ text } := by
  induction text generalizing s with
  | nil => simp [readFrom]
  | cons c rest ih =>
    have plain : c ≠ '"' := fun is => noQuote (by simp [is])
    have read := ih (s := s.push c) quoted fun mem => noQuote (List.mem_cons_of_mem _ mem)
    simpa [Reading.push] using (read_quotedChar quoted plain).trans read

def EndsLine (text : List Char) : Prop := text.getLast? = some '\r' ∨ text.getLast? = some '\n'

/-- Where a line ends outside quotes, a record has ended and nothing of the next one is read. -/
theorem fresh_of_endsLine (s : Reading) {text : List Char} (ends : EndsLine text)
    (unquoted : (readFrom s text).quoted = false) :
    (readFrom s text).field = [] ∧ (readFrom s text).row = [] ∧ (readFrom s text).grid ≠ [] := by
  have row : ∀ s : Reading, s.endRow.field = [] ∧ s.endRow.row = [] ∧ s.endRow.grid ≠ [] := fun s =>
    ⟨rfl, rfl, by simp [Reading.endRow]⟩
  obtain ⟨before, c, rfl, newline⟩ : ∃ before c, text = before ++ [c] ∧ (c = '\r' ∨ c = '\n') := by
    rcases ends with last | last
    all_goals
      obtain ⟨before, is⟩ := List.getLast?_eq_some_iff.mp last
      exact ⟨before, _, is, by simp⟩
  by_cases apart : Apart before [c]
  · rw [readFrom_append s before [c] apart] at unquoted ⊢
    generalize readFrom s before = s at *
    cases quoted : s.quoted with
    | true =>
      rw [read_quotedChar quoted (by rcases newline with rfl | rfl <;> decide)] at unquoted
      exact absurd (quoted.symm.trans unquoted) (by decide)
    | false =>
      rcases newline with rfl | rfl
      · rw [read_return quoted (by simp)]
        exact row s
      · rw [read_newline quoted]
        exact row s
  · -- the two characters of one end of line
    have pair : before.getLast? = some '\r' ∧ c = '\n' := by
      rcases newline with rfl | rfl <;> simp_all [Apart]
    obtain ⟨last, rfl⟩ := pair
    obtain ⟨before, rfl⟩ := List.getLast?_eq_some_iff.mp last
    rw [List.append_assoc, List.singleton_append] at unquoted ⊢
    rw [readFrom_append s before _ (by simp [Apart])] at unquoted ⊢
    generalize readFrom s before = s at *
    cases quoted : s.quoted with
    | true =>
      rw [read_quotedChar quoted (by decide),
        read_quotedChar (s := s.push '\r') quoted (by decide)] at unquoted
      exact absurd (quoted.symm.trans unquoted) (by decide)
    | false =>
      rw [read_crlf quoted]
      exact row s

/-- What follows the end of line that a text begins with. -/
def restOf : List Char → List Char
  | [] => []
  | '\r' :: '\n' :: rest => rest
  | _ :: rest => rest

/-- A text that begins with an end of line ends the record before it. -/
theorem read_restOf {s : Reading} (unquoted : s.quoted = false) {text : List Char}
    (newline : text.head? = some '\r' ∨ text.head? = some '\n') :
    readFrom s text = readFrom s.endRow (restOf text) := by
  unfold restOf
  split
  · simp at newline
  · exact read_crlf unquoted
  · rename_i c rest notBoth
    rcases newline with is | is
    · obtain rfl : c = '\r' := by simpa using is
      refine read_return unquoted fun next => ?_
      cases rest with
      | nil => cases next
      | cons d more =>
        obtain rfl : d = '\n' := by simpa using next
        exact notBoth more rfl rfl
    · obtain rfl : c = '\n' := by simpa using is
      exact read_newline unquoted

/-- A record is followed by nothing or by an end of line that is outside quotes. -/
structure Follows (record after : List Char) : Prop where
  whole : (readFrom {} record).grid = []
  ends : after = [] ∨
    (readFrom {} record).quoted = false ∧ (after.head? = some '\r' ∨ after.head? = some '\n')

/-- A record is read whatever follows it, and what follows is read whatever it is. -/
theorem ended_follows {record after : List Char} (follows : Follows record after)
    (some_ : after = [] → recordOf record ≠ [[]]) :
    (readFrom {} (record ++ after)).ended =
      recordOf record :: (readFrom {} (restOf after)).ended := by
  have endRow : (readFrom {} record).endRow.grid = [recordOf record] := by
    simp [Reading.endRow, recordOf, follows.whole]
  rcases follows.ends with rfl | ⟨unquoted, newline⟩
  · have shows : (readFrom {} record).field ≠ [] ∨ (readFrom {} record).row ≠ [] := by
      by_contra none
      obtain ⟨field, row⟩ := not_or.mp none
      exact some_ rfl (by simp [recordOf, not_not.mp field, not_not.mp row])
    rw [List.append_nil, Reading.ended, if_pos shows, endRow]
    rfl
  · have apart : Apart record after := by
      refine ⟨fun both => ?_, fun both => ?_⟩
      · rw [both.2] at newline
        simp at newline
      · exact (fresh_of_endsLine {} (.inl both.1) unquoted).2.2 follows.whole
    have fresh : (readFrom {} record).endRow = Reading.after [recordOf record] {} := by
      have quoted : (readFrom {} record).endRow.quoted = false := unquoted
      calc (readFrom {} record).endRow
          = ⟨(readFrom {} record).endRow.grid, [], [], (readFrom {} record).endRow.quoted⟩ := rfl
        _ = _ := by rw [endRow, quoted]; rfl
    rw [readFrom_append {} record after apart, read_restOf unquoted newline, fresh, readFrom_after,
      ended_after]
    rfl

/-- What stands after the end of a line is read by itself. -/
theorem records_append {before after : List Char} (ends : EndsLine before)
    (unquoted : (readFrom {} before).quoted = false) (next : after.head? ≠ some '\n') :
    records (before ++ after) = records before ++ records after := by
  obtain ⟨field, row, _⟩ := fresh_of_endsLine {} ends unquoted
  have apart : Apart before after := by
    refine ⟨fun both => ?_, fun both => next both.2⟩
    rcases ends with last | last <;> simp [last] at both
  have fresh : readFrom {} before = Reading.after (records before) {} := by
    have grid : records before = (readFrom {} before).grid := by
      simp [records, Reading.ended, field, row]
    calc readFrom {} before
        = ⟨(readFrom {} before).grid, (readFrom {} before).row, (readFrom {} before).field,
            (readFrom {} before).quoted⟩ := rfl
      _ = _ := by rw [field, row, unquoted, grid]; simp [Reading.after]
  rw [records, readFrom_append {} before after apart, fresh, readFrom_after, ended_after]
  rfl

/-! ### Reading what was written -/

theorem read_doubledCell {s : Reading} (quoted : s.quoted = true) (cell : Cell) (rest : List Char) :
    readFrom s (doubled cell ++ rest) = readFrom { s with field := s.field ++ cell } rest := by
  induction cell generalizing s with
  | nil => simp [doubled]
  | cons c cell ih =>
    have pushed := ih (s := s.push c) quoted
    by_cases quote : c = '"'
    · subst quote
      have step : readFrom s ('"' :: '"' :: (doubled cell ++ rest)) = _ := read_doubled quoted
      simpa [doubled, Reading.push] using step.trans pushed
    · have step : readFrom s (c :: (doubled cell ++ rest)) = _ := read_quotedChar quoted quote
      simpa [doubled, quote, Reading.push] using step.trans pushed

theorem read_plain {s : Reading} (unquoted : s.quoted = false) {cell : Cell}
    (plain : needsQuotes cell = false) (rest : List Char) :
    readFrom s (cell ++ rest) = readFrom { s with field := s.field ++ cell } rest := by
  induction cell generalizing s with
  | nil => simp
  | cons c cell ih =>
    rw [needsQuotes, List.any_cons, Bool.or_eq_false_iff] at plain
    obtain ⟨here, plain⟩ := plain
    obtain ⟨quote, comma, cr, lf⟩ : c ≠ '"' ∧ c ≠ ',' ∧ c ≠ '\r' ∧ c ≠ '\n' := by simpa using here
    have step : readFrom s (c :: (cell ++ rest)) = _ :=
      read_char unquoted ⟨comma, cr, lf⟩ (.inl quote)
    simpa [Reading.push] using step.trans (ih (s := s.push c) unquoted plain)

namespace Style

variable {style : Style} {s : Reading}

theorem read_cellText (unquoted : s.quoted = false) (fresh : s.field = []) (cell : Cell)
    {rest : List Char} (next : rest.head? ≠ some '"') :
    readFrom s (style.cellText cell ++ rest) = readFrom { s with field := cell } rest := by
  by_cases quotes : style.quotes cell = true
  · have opened : readFrom s ('"' :: (doubled cell ++ '"' :: rest)) = _ := read_open unquoted fresh
    have read := read_doubledCell (s := { s with quoted := true }) rfl cell ('"' :: rest)
    have closed := read_close (s := { s with quoted := true, field := s.field ++ cell }) rfl next
    have all := opened.trans (read.trans closed)
    rw [fresh, List.nil_append, ← unquoted] at all
    simpa [cellText, quotes] using all
  · have plain : needsQuotes cell = false := by simp_all [Style.quotes]
    simpa [cellText, quotes, fresh] using read_plain unquoted plain rest

/-- All cells of a row but the last are complete when its text is read. -/
theorem read_rowText (unquoted : s.quoted = false) (fresh : s.field = []) {row : Row}
    (some_ : row ≠ []) {rest : List Char} (next : rest.head? ≠ some '"') :
    readFrom s (style.rowText row ++ rest) =
      readFrom { s with row := s.row ++ row.dropLast, field := row.getLast some_ } rest := by
  induction row generalizing s with
  | nil => exact absurd rfl some_
  | cons cell row ih =>
    cases row with
    | nil => simpa [rowText] using read_cellText unquoted fresh cell next
    | cons second row =>
      have comma : readFrom { s with field := cell }
          (',' :: (style.rowText (second :: row) ++ rest)) = _ := read_comma unquoted
      have first : readFrom s (style.cellText cell ++
          ',' :: (style.rowText (second :: row) ++ rest)) = _ :=
        read_cellText unquoted fresh cell (by simp)
      have others := ih (s := Reading.endField { s with field := cell }) unquoted rfl (by simp)
      simpa [rowText, Reading.endField] using first.trans (comma.trans others)

theorem read_lineEnd (unquoted : s.quoted = false) (rest : List Char) :
    readFrom s (style.lineEnd ++ rest) = readFrom s.endRow rest := by
  unfold lineEnd
  split
  · exact read_crlf unquoted
  · exact read_newline unquoted

theorem endRow_whole (grid : List Row) {row : Row} (some_ : row ≠ []) :
    Reading.endRow { grid := grid, row := row.dropLast, field := row.getLast some_ } =
      { grid := grid ++ [row] } := by
  simp [Reading.endRow, Reading.endField, List.dropLast_append_getLast some_]

/-- Each row that has a cell, and more than one that is empty, is read back. -/
theorem ended_text {grid : List Row} (rows : ∀ row ∈ grid, row ≠ [] ∧ row ≠ [[]])
    (first : List Row) : (readFrom { grid := first } (style.text grid)).ended = first ++ grid := by
  induction grid generalizing first with
  | nil => simp [text, readFrom, Reading.ended]
  | cons row grid ih =>
    obtain ⟨some_, notEmpty⟩ := rows row List.mem_cons_self
    have read := fun (rest : List Char) (next : rest.head? ≠ some '"') =>
      style.read_rowText (s := { grid := first }) rfl rfl some_ next
    simp only [List.nil_append] at read
    cases grid with
    | nil =>
      cases closed : style.closed with
      | true =>
        have ends := (read style.lineEnd (by unfold lineEnd; split <;> simp)).trans
          (List.append_nil style.lineEnd ▸ read_lineEnd rfl [])
        simp [text, closed, ends, endRow_whole, readFrom, Reading.ended]
      | false =>
        have ends := read [] (by simp)
        rw [List.append_nil] at ends
        have shows : row.getLast some_ ≠ [] ∨ row.dropLast ≠ [] := by
          by_contra none
          obtain ⟨empty, single⟩ := not_or.mp none
          refine notEmpty ?_
          rw [← List.dropLast_append_getLast some_, not_not.mp single, not_not.mp empty]
          rfl
        simp only [text, closed, Bool.false_eq_true, if_false, List.append_nil, ends, readFrom,
          Reading.ended, if_pos shows, endRow_whole]
    | cons second grid =>
      have ends := (read (style.lineEnd ++ style.text (second :: grid))
        (by unfold lineEnd; split <;> simp)).trans (read_lineEnd rfl _)
      rw [text, ends, endRow_whole, ih (fun row mem => rows row (List.mem_cons_of_mem _ mem)),
        List.append_assoc]
      rfl

theorem records_text {grid : List Row} (rows : ∀ row ∈ grid, row ≠ [] ∧ row ≠ [[]]) :
    records (style.text grid) = grid := ended_text rows []

end Style

end Csv
