import InrSettle.Service.Lists

/-!
# Reading a list to its end

The cursor names a row, the row is read back to the millisecond, and the next page is of rows
created before it. So what is read is the whole list exactly if no page ends between two rows
created in one millisecond.
-/

namespace InrSettle

open Paging

/-! ### One page -/

section Pages

variable {ρ : Type} {table : ListedTable ρ} {shows : ρ → Bool}

/-- The rows a page is taken from, by the cursor it is asked with. -/
inductive LeftAfter (table : ListedTable ρ) (shows : ρ → Bool) :
    Option String → List ρ → Prop where
  | start : LeftAfter table shows none (table.rows.filter shows)
  | row {anchor : ρ} (known : anchor ∈ table.rows) :
      LeftAfter table shows (some (table.id anchor))
        (below table.createdAt floorMillis anchor (table.rows.filter shows))

theorem find_id {anchor : ρ} (known : anchor ∈ table.rows) :
    table.rows.find? (fun row => decide (table.id row = table.id anchor)) = some anchor := by
  cases found : table.rows.find? fun row => decide (table.id row = table.id anchor) with
  | none =>
    have missed := List.find?_eq_none.mp found anchor known
    simp at missed
  | some row =>
    have same : table.id row = table.id anchor := of_decide_eq_true (List.find?_some found :)
    rw [Table.eq_of_key table.distinct (List.mem_of_find?_eq_some found) known same]

theorem listPage_eq {order : Arrangement table.createdAt} {limit : PageLimit}
    {startingAfter : Option String} {rows : List ρ}
    (left : LeftAfter table shows startingAfter rows) :
    listPage table shows order limit startingAfter =
      .ok (listEnvelope ((order.arrange rows).take (limit.value + 1)) limit.value table.id) := by
  cases left with
  | start => rfl
  | row known =>
    simp only [listPage, find_id known]
    rfl

theorem floorMillis_le (micros : Nat) : floorMillis micros ≤ micros := Nat.div_mul_le_self _ _

theorem below_left {startingAfter : Option String} {rows : List ρ} {anchor : ρ}
    (left : LeftAfter table shows startingAfter rows) (mem : anchor ∈ rows) :
    below table.createdAt floorMillis anchor rows =
      below table.createdAt floorMillis anchor (table.rows.filter shows) := by
  cases left with
  | start => rfl
  | @row previous known =>
    have before : table.createdAt anchor < floorMillis (table.createdAt previous) :=
      of_decide_eq_true (List.mem_filter.mp mem).2
    rw [below, below, List.filter_filter]
    refine List.filter_congr fun row _ => ?_
    have passes (is : table.createdAt row < floorMillis (table.createdAt anchor)) :
        table.createdAt row < floorMillis (table.createdAt previous) :=
      (is.trans_le (floorMillis_le _)).trans before
    by_cases is : table.createdAt row < floorMillis (table.createdAt anchor)
    · simp [is, passes is]
    · simp [is]

theorem LeftAfter.mem {startingAfter : Option String} {rows : List ρ} {row : ρ}
    (left : LeftAfter table shows startingAfter rows) (mem : row ∈ rows) : row ∈ table.rows := by
  cases left with
  | start => exact List.mem_of_mem_filter mem
  | row known => exact List.mem_of_mem_filter (List.mem_of_mem_filter mem)

/-- Following the cursors reads page by page what is below each page's last row. -/
theorem followPages_eq {orders : Nat → Arrangement table.createdAt} {limit : PageLimit}
    {fuel query : Nat} {startingAfter : Option String} {rows : List ρ}
    (left : LeftAfter table shows startingAfter rows) :
    followPages (fun query => listPage table shows (orders query) limit) fuel query startingAfter =
      collect floorMillis limit.value orders fuel query rows := by
  induction fuel generalizing query startingAfter rows with
  | zero => rfl
  | succ fuel ih =>
    have perm := (orders query).perm rows
    simp only [followPages, listPage_eq left, collect]
    generalize (orders query).arrange rows = page at *
    have positive := limit.positive
    by_cases short : page.length ≤ limit.value
    · have whole : page.take (limit.value + 1) = page := List.take_of_length_le (by omega)
      simp [listEnvelope, whole, short, Nat.not_lt.mpr short]
    · have more : limit.value < (page.take (limit.value + 1)).length := by
        rw [List.length_take]
        omega
      have data : (page.take (limit.value + 1)).take limit.value = page.take limit.value := by
        rw [List.take_take, Nat.min_eq_left (Nat.le_succ _)]
      rw [if_neg short]
      simp only [listEnvelope, more, decide_true, if_true, data]
      cases last : (page.take limit.value).getLast? with
      | none =>
        have none_left := List.getLast?_eq_none_iff.mp last
        have length := congrArg List.length none_left
        simp only [List.length_take, List.length_nil] at length
        omega
      | some anchor =>
        have mem : anchor ∈ rows :=
          perm.mem_iff.mp (List.mem_of_mem_take (List.mem_of_getLast? last))
        simp only [Option.map_some]
        rw [ih (.row (left.mem mem)), below_left left mem]

/-- What is read is the whole list exactly if no page ends within a millisecond. -/
theorem listPage_readsAll (orders : Nat → Arrangement table.createdAt) (limit : PageLimit) :
    ReadsAll (fun query => listPage table shows (orders query) limit) table.createdAt
        (table.rows.filter shows) ↔
      Aligned floorMillis limit.value (keysDown table.createdAt (table.rows.filter shows)) := by
  obtain ⟨read, reads, sorted, -, -, complete⟩ := collect_spec limit.positive floorMillis_le
    orders (i := 0) (Nat.lt_succ_self (table.rows.filter shows).length)
  rw [← complete, ReadsAll, followPages_eq .start, reads]
  constructor
  · rintro ⟨read', same, perm, -⟩
    obtain rfl := Option.some.inj same
    exact perm
  · exact fun perm => ⟨read, rfl, perm, sorted⟩

theorem readsAll_of_eq {orders : Nat → Arrangement table.createdAt} {limit : PageLimit}
    {list : Nat → Option String → Except ApiError (ListEnvelope ρ)}
    (pages : ∀ query startingAfter,
      list query startingAfter = listPage table shows (orders query) limit startingAfter) :
    ReadsAll list table.createdAt (table.rows.filter shows) ↔
      Aligned floorMillis limit.value (keysDown table.createdAt (table.rows.filter shows)) := by
  have same : list = fun query => listPage table shows (orders query) limit :=
    funext fun query => funext fun startingAfter => pages query startingAfter
  rw [same]
  exact listPage_readsAll orders limit

end Pages

/-! ### The three lists -/

theorem parseLimit_value (limit : PageLimit) :
    parseLimit (some (some limit.value)) = .ok limit := by
  obtain ⟨value, positive, bounded⟩ := limit
  have fits : (1 : Int) ≤ value ∧ (value : Int) ≤ listMaxLimit := by omega
  simp [parseLimit, fits]

section Lists

variable {limit : PageLimit}

theorem settlementPages_readAll {rows : List ListedSettlement} (distinct : (rows.map (·.id)).Nodup)
    (joins : SettlementJoins) (orders : Nat → Arrangement ListedSettlement.createdAt)
    {status : Option String} (filters : SettlementFilters)
    (accepted : parseStatus status = .ok filters.status) :
    ReadsAll (fun query => listSettlementsHandler rows distinct joins (orders query)
        (some (some limit.value)) status filters) (·.createdAt)
        (rows.filter (filters.shows joins)) ↔
      Aligned floorMillis limit.value
        (keysDown (·.createdAt) (rows.filter (filters.shows joins))) := by
  refine @readsAll_of_eq _ (settlementTable rows distinct) (filters.shows joins) orders limit _
    fun query startingAfter => ?_
  simp only [listSettlementsHandler, parseLimit_value, accepted]
  rfl

theorem eventPages_readAll {rows : List ListedEvent} (distinct : (rows.map (·.id)).Nodup)
    (orders : Nat → Arrangement ListedEvent.createdAt) {type : Option String}
    (accepted : parseEventType type = .ok type) :
    ReadsAll (fun query => listEventsHandler rows distinct (orders query)
        (some (some limit.value)) type) (·.createdAt) (rows.filter (showsEvent type)) ↔
      Aligned floorMillis limit.value
        (keysDown (·.createdAt) (rows.filter (showsEvent type))) := by
  refine @readsAll_of_eq _ (eventTable rows distinct) (showsEvent type) orders limit _
    fun query startingAfter => ?_
  simp only [listEventsHandler, parseLimit_value, accepted]
  rfl

theorem beneficiaryPages_readAll {rows : List ListedBeneficiary}
    (distinct : (rows.map (·.id)).Nodup)
    (orders : Nat → Arrangement ListedBeneficiary.createdAt) :
    ReadsAll (fun query => listBeneficiariesHandler rows distinct (orders query)
        (some (some limit.value))) (·.createdAt) rows ↔
      Aligned floorMillis limit.value (keysDown (·.createdAt) rows) := by
  have all : rows.filter (fun _ => true) = rows := List.filter_true rows
  have pages := @readsAll_of_eq _ (beneficiaryTable rows distinct) (fun _ => true) orders limit
    (fun query => listBeneficiariesHandler rows distinct (orders query)
      (some (some limit.value))) fun query startingAfter => by
        simp only [listBeneficiariesHandler, parseLimit_value]
        rfl
  simp only [beneficiaryTable, all] at pages
  exact pages

end Lists

end InrSettle
