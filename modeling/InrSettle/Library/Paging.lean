import Mathlib

/-!
# Pages of a sorted table

A page is the first rows of a table in descending order of a key, and the next one is read
from the rows whose key is below a cut of the last row's. Reading on to the end returns
every row exactly if no page ends among rows its cut does not tell apart.
-/

namespace Paging

universe u
variable {ρ : Type u}

/-- `ORDER BY key DESC`: rows of the same key come in any order. -/
structure Arrangement (key : ρ → Nat) where
  arrange : List ρ → List ρ
  perm : ∀ rows, (arrange rows).Perm rows
  sorted : ∀ rows, (arrange rows).Pairwise fun a b => key b ≤ key a

variable {key : ρ → Nat}

/-- Rows of the same key in the order of the table. -/
def stable (key : ρ → Nat) : Arrangement key where
  arrange rows := rows.mergeSort fun a b => decide (key b ≤ key a)
  perm rows := List.mergeSort_perm rows _
  sorted rows := by
    have down : (rows.mergeSort fun a b => decide (key b ≤ key a)).Pairwise
        fun a b => decide (key b ≤ key a) = true :=
      List.pairwise_mergeSort (fun a b c first second => by
        simp only [decide_eq_true_eq] at first second ⊢
        exact second.trans first) (fun a b => by simpa using Nat.le_total (key b) (key a)) rows
    exact down.imp fun le => by simpa using le

/-- The keys of a table in the order of the list. -/
def keysDown (key : ρ → Nat) (rows : List ρ) : List Nat :=
  (rows.map key).mergeSort fun a b => decide (b ≤ a)

/-- The rows the page after a row is read from. -/
def below (key : ρ → Nat) (cut : Nat → Nat) (anchor : ρ) (rows : List ρ) : List ρ :=
  rows.filter fun row => decide (key row < cut (key anchor))

/-- The rows read page by page, each in an arrangement of its own, until a page is the last. -/
def collect (cut : Nat → Nat) (limit : Nat) (arrangements : Nat → Arrangement key) :
    Nat → Nat → List ρ → Option (List ρ)
  | 0, _, _ => none
  | fuel + 1, i, rows =>
    let page := (arrangements i).arrange rows
    if page.length ≤ limit then some page
    else match (page.take limit).getLast? with
      | none => some []
      | some anchor => (collect cut limit arrangements fuel (i + 1) (below key cut anchor rows)).map
          (page.take limit ++ ·)

/-- No page ends at a row whose cut keeps the next one out. -/
def Aligned (cut : Nat → Nat) (limit : Nat) (keys : List Nat) : Prop :=
  ∀ page last next, keys[limit * page + (limit - 1)]? = some last →
    keys[limit * page + limit]? = some next → next < cut last

/-! ### The order -/

theorem keysDown_eq {rows page : List ρ} (perm : page.Perm rows)
    (sorted : page.Pairwise fun a b => key b ≤ key a) : page.map key = keysDown key rows := by
  have down : (keysDown key rows).Pairwise fun a b => decide (b ≤ a) = true :=
    List.pairwise_mergeSort (fun a b c first second => by
      simp only [decide_eq_true_eq] at first second ⊢
      exact second.trans first) (fun a b => by simpa using Nat.le_total b a) _
  have antisymm (a b : Nat) (first : decide (b ≤ a) = true) (second : decide (a ≤ b) = true) :
      a = b := by
    simp only [decide_eq_true_eq] at first second
    exact Nat.le_antisymm second first
  refine List.Perm.eq_of_pairwise (fun a b _ _ => antisymm a b) ?_ down ?_
  · exact List.pairwise_map.mpr (sorted.imp fun le => by simpa using le)
  · exact (perm.map key).trans (List.mergeSort_perm _ _).symm

theorem aligned_of_short {cut : Nat → Nat} {limit : Nat} {keys : List Nat}
    (short : keys.length ≤ limit) : Aligned cut limit keys := by
  intro page last next _ there
  have lt := (List.getElem?_eq_some_iff.mp there).1
  have le : limit ≤ limit * page + limit := Nat.le_add_left _ _
  omega

theorem aligned_drop {cut : Nat → Nat} {limit : Nat} {keys : List Nat} :
    Aligned cut limit keys ↔
      (∀ last next, keys[limit - 1]? = some last → keys[limit]? = some next → next < cut last) ∧
        Aligned cut limit (keys.drop limit) := by
  constructor
  · intro aligned
    refine ⟨fun last next here there => aligned 0 last next (by simpa using here)
      (by simpa using there), fun page last next here there => ?_⟩
    rw [List.getElem?_drop] at here there
    refine aligned (page + 1) last next ?_ ?_
    · rw [← here, Nat.mul_succ]
      congr 1
      omega
    · rw [← there, Nat.mul_succ]
      congr 1
      omega
  · rintro ⟨first, rest⟩ page last next here there
    cases page with
    | zero => exact first last next (by simpa using here) (by simpa using there)
    | succ page =>
      refine rest page last next ?_ ?_ <;> rw [List.getElem?_drop]
      · rw [← here, Nat.mul_succ]
        congr 1
        omega
      · rw [← there, Nat.mul_succ]
        congr 1
        omega

/-! ### Reading on -/

section Collect

variable {cut : Nat → Nat} {limit : Nat}

/-- A page that is not the last one: its last row, and what is read after it. -/
theorem page_split (positive : 0 < limit) (lowers : ∀ k, cut k ≤ k) {rows page : List ρ}
    (perm : page.Perm rows) (sorted : page.Pairwise fun a b => key b ≤ key a)
    (more : limit < page.length) :
    ∃ anchor, page[limit - 1]? = some anchor ∧ (page.take limit).getLast? = some anchor ∧
      (∀ row ∈ page.take limit, key anchor ≤ key row) ∧
      (below key cut anchor rows).Perm (below key cut anchor (page.drop limit)) := by
  have inside : limit - 1 < page.length := by omega
  obtain ⟨anchor, there⟩ : ∃ anchor, page[limit - 1]? = some anchor :=
    ⟨_, List.getElem?_eq_getElem inside⟩
  have least : ∀ row ∈ page.take limit, key anchor ≤ key row := by
    intro row mem
    obtain ⟨j, lt, rfl⟩ := List.mem_iff_getElem.mp mem
    obtain ⟨-, rfl⟩ := List.getElem?_eq_some_iff.mp there
    rw [List.length_take] at lt
    rw [List.getElem_take]
    rcases Nat.lt_or_ge j (limit - 1) with before | last
    · exact List.pairwise_iff_getElem.mp sorted j (limit - 1) (by omega) inside before
    · have same : j = limit - 1 := by omega
      subst same
      exact le_rfl
  refine ⟨anchor, there, ?_, least, ?_⟩
  · rw [List.getLast?_eq_getElem?, List.length_take, Nat.min_eq_left more.le,
      List.getElem?_take_of_lt (by omega), there]
  · have first : below key cut anchor (page.take limit) = [] := by
      refine List.filter_eq_nil_iff.mpr fun row mem => ?_
      rw [decide_eq_true_eq, Nat.not_lt]
      exact (lowers _).trans (least row mem)
    have whole : below key cut anchor page = below key cut anchor (page.drop limit) := by
      have split := List.filter_append (page.take limit) (page.drop limit)
        (p := fun row => decide (key row < cut (key anchor)))
      rw [List.take_append_drop] at split
      rw [below] at first
      rw [below, split, first, List.nil_append, below]
    rw [← whole]
    exact (perm.filter _).symm

/-- All of the later rows are read after the page's last one, if its cut lets the next one in. -/
theorem below_drop {page : List ρ} {anchor next : ρ}
    (sorted : page.Pairwise fun a b => key b ≤ key a) (there : page[limit]? = some next)
    (lets : key next < cut (key anchor)) :
    below key cut anchor (page.drop limit) = page.drop limit := by
  refine List.filter_eq_self.mpr fun row mem => decide_eq_true ?_
  obtain ⟨j, found⟩ := List.mem_iff_getElem?.mp mem
  rw [List.getElem?_drop] at found
  obtain ⟨lt, rfl⟩ := List.getElem?_eq_some_iff.mp found
  obtain ⟨lt', rfl⟩ := List.getElem?_eq_some_iff.mp there
  refine lt_of_le_of_lt ?_ lets
  rcases Nat.eq_zero_or_pos j with rfl | pos
  · exact le_rfl
  · exact List.pairwise_iff_getElem.mp sorted limit (limit + j) lt' lt (by omega)

/-- What is read is in order, and is all of the rows exactly if no page ends among rows its cut does
not tell apart. -/
theorem collect_spec (positive : 0 < limit) (lowers : ∀ k, cut k ≤ k)
    (arrangements : Nat → Arrangement key) {fuel i : Nat} {rows : List ρ}
    (enough : rows.length < fuel) :
    ∃ read, collect cut limit arrangements fuel i rows = some read ∧
      (read.Pairwise fun a b => key b ≤ key a) ∧ (∀ row ∈ read, row ∈ rows) ∧
      read.length ≤ rows.length ∧ (read.Perm rows ↔ Aligned cut limit (keysDown key rows)) := by
  induction fuel generalizing i rows with
  | zero => exact (Nat.not_lt_zero _ enough).elim
  | succ fuel ih =>
    have perm := (arrangements i).perm rows
    have sorted := (arrangements i).sorted rows
    have keys := keysDown_eq perm sorted
    rw [collect]
    generalize (arrangements i).arrange rows = page at *
    by_cases short : page.length ≤ limit
    · rw [if_pos short]
      refine ⟨page, rfl, sorted, fun row mem => perm.mem_iff.mp mem, perm.length_eq.le, ?_⟩
      refine iff_of_true perm (aligned_of_short ?_)
      rw [← keys, List.length_map]
      exact short
    · rw [if_neg short]
      have more := Nat.lt_of_not_le short
      obtain ⟨anchor, last, ends, least, rest⟩ := page_split positive lowers perm sorted more
      have fewer : (below key cut anchor rows).length < fuel := by
        have le := List.length_filter_le (fun row => decide (key row < cut (key anchor)))
          (page.drop limit)
        have whole := perm.length_eq
        rw [rest.length_eq, below]
        rw [List.length_drop] at le
        omega
      obtain ⟨read, reads, inOrder, known, bounded, complete⟩ := @ih (i + 1) _ fewer
      obtain ⟨next, there⟩ : ∃ next, page[limit]? = some next := ⟨_, List.getElem?_eq_getElem more⟩
      have known' : ∀ row ∈ read, row ∈ rows ∧ key row < cut (key anchor) := fun row mem => by
        simpa [below] using known row mem
      simp only [ends, reads, Option.map_some, Option.some.injEq]
      refine ⟨_, rfl, ?_, fun row mem => ?_, ?_, ?_⟩
      · refine List.pairwise_append.mpr ⟨sorted.sublist (List.take_sublist _ _), inOrder, ?_⟩
        intro row mem row' mem'
        exact ((known' row' mem').2.le.trans (lowers _)).trans (least row mem)
      · rcases List.mem_append.mp mem with first | later
        · exact perm.mem_iff.mp (List.mem_of_mem_take first)
        · exact (known' row later).1
      · have le := List.length_filter_le (fun row => decide (key row < cut (key anchor)))
          (page.drop limit)
        have whole := perm.length_eq
        have rest_length := rest.length_eq
        rw [below, below] at rest_length
        rw [List.length_drop] at le
        rw [List.length_append, List.length_take]
        rw [below] at bounded
        omega
      · have split : (page.take limit ++ read).Perm rows ↔ read.Perm (page.drop limit) := by
          have whole : (page.take limit ++ read).Perm (page.take limit ++ page.drop limit) ↔
              read.Perm (page.drop limit) := List.perm_append_left_iff _
          rw [List.take_append_drop] at whole
          exact ⟨fun all => whole.mp (all.trans perm.symm), fun all => (whole.mpr all).trans perm⟩
        have boundary : (∀ a b, (keysDown key rows)[limit - 1]? = some a →
            (keysDown key rows)[limit]? = some b → b < cut a) ↔ key next < cut (key anchor) := by
          simp [← keys, last, there]
        rw [split, aligned_drop, boundary, ← keys, ← List.map_drop]
        have rest_all (lets : key next < cut (key anchor)) :
            (page.drop limit).Perm (below key cut anchor rows) :=
          (rest.trans (.of_eq (below_drop sorted there lets))).symm
        have rest_keys (lets : key next < cut (key anchor)) :=
          keysDown_eq (rest_all lets) (sorted.sublist (List.drop_sublist _ _))
        constructor
        · intro all
          have mem : next ∈ page.drop limit := List.mem_iff_getElem?.mpr ⟨0, by
            rw [List.getElem?_drop]
            exact there⟩
          have lets := (known' next (all.mem_iff.mpr mem)).2
          exact ⟨lets, rest_keys lets ▸ complete.mp (all.trans (rest_all lets))⟩
        · rintro ⟨lets, aligned⟩
          exact (complete.mpr (rest_keys lets ▸ aligned)).trans (rest_all lets).symm

end Collect

end Paging
