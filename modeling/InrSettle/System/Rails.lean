import InrSettle.Domain.Rail

/-!
# The rail of a payout

A rail is chosen exactly if an entry is usable, and the preferred one is. Its seconds are looked up
once more by its name, among all that is declared: the first entry of the rail need not be a
usable one.
-/

namespace InrSettle

open Preference

variable {Seconds : Type}

/-- The entry is open, pays the kind and admits the amount. -/
def RailCapability.Usable (kind : PaidKind) (amountMinor : Int) (r : RailCapability Seconds) :
    Prop :=
  r.pays kind = true ∧ r.admits amountMinor = true ∧ r.isOpen = true

section

variable {rails : List (RailCapability Seconds)} {kind : PaidKind} {amountMinor : Int}

/-! ### The three filters -/

/-- The first of the three filters that leaves nothing, by the reason it is refused with. -/
def FirstEmptied (rails : List (RailCapability Seconds)) (kind : PaidKind) (amountMinor : Int) :
    RailRefusal → Prop
  | .noRailForDestination => ∀ r ∈ rails, r.pays kind = false
  | .noRailForAmount => (∃ r ∈ rails, r.pays kind = true) ∧
    ∀ r ∈ rails, r.pays kind = true → r.admits amountMinor = false
  | .allRailsClosed => (∃ r ∈ rails, r.pays kind = true ∧ r.admits amountMinor = true) ∧
    ∀ r ∈ rails, r.pays kind = true → r.admits amountMinor = true → r.isOpen = false

theorem not_usable_of_emptied {reason : RailRefusal}
    (emptied : FirstEmptied rails kind amountMinor reason) :
    ∀ r ∈ rails, ¬ r.Usable kind amountMinor := by
  rintro r mem ⟨pays, admits, isOpen⟩
  cases reason with
  | noRailForDestination => simp [emptied r mem] at pays
  | noRailForAmount => simp [emptied.2 r mem pays] at admits
  | allRailsClosed => simp [emptied.2 r mem pays admits] at isOpen

theorem emptied_unique {a b : RailRefusal} (first : FirstEmptied rails kind amountMinor a)
    (second : FirstEmptied rails kind amountMinor b) : a = b := by
  have destination : FirstEmptied rails kind amountMinor .noRailForDestination →
      ¬ ∃ r ∈ rails, r.pays kind = true := fun emptied ⟨r, mem, pays⟩ => by
    simp [emptied r mem] at pays
  have amount : FirstEmptied rails kind amountMinor .noRailForAmount →
      ¬ ∃ r ∈ rails, r.pays kind = true ∧ r.admits amountMinor = true :=
    fun emptied ⟨r, mem, pays, admits⟩ => by simp [emptied.2 r mem pays] at admits
  have weaken : (∃ r ∈ rails, r.pays kind = true ∧ r.admits amountMinor = true) →
      ∃ r ∈ rails, r.pays kind = true := fun ⟨r, mem, pays, _⟩ => ⟨r, mem, pays⟩
  cases a <;> cases b
  case noRailForDestination.noRailForDestination | noRailForAmount.noRailForAmount |
    allRailsClosed.allRailsClosed => rfl
  case noRailForDestination.noRailForAmount => exact (destination first second.1).elim
  case noRailForDestination.allRailsClosed => exact (destination first (weaken second.1)).elim
  case noRailForAmount.noRailForDestination => exact (destination second first.1).elim
  case noRailForAmount.allRailsClosed => exact (amount first second.1).elim
  case allRailsClosed.noRailForDestination => exact (destination second (weaken first.1)).elim
  case allRailsClosed.noRailForAmount => exact (amount second first.1).elim

/-- The rail of a usable entry, with none of higher preference usable. -/
def IsPreferred (rails : List (RailCapability Seconds)) (kind : PaidKind) (amountMinor : Int)
    (rail : PayoutRail) : Prop :=
  (∃ r ∈ rails, r.Usable kind amountMinor ∧ r.rail = rail) ∧
    ∀ other ∈ rails, other.Usable kind amountMinor →
      railPreference.idxOf rail ≤ railPreference.idxOf other.rail

theorem idxOf_railPreference_injective {a b : PayoutRail}
    (same : railPreference.idxOf a = railPreference.idxOf b) : a = b := by
  revert same
  cases a <;> cases b <;> decide

theorem preferred_unique {a b : PayoutRail} (first : IsPreferred rails kind amountMinor a)
    (second : IsPreferred rails kind amountMinor b) : a = b := by
  obtain ⟨⟨r, mem, carries, rfl⟩, best⟩ := first
  obtain ⟨⟨r', mem', carries', rfl⟩, best'⟩ := second
  exact idxOf_railPreference_injective (Nat.le_antisymm (best r' mem' carries') (best' r mem carries))

theorem exists_mem_filter {α : Type} {p : α → Bool} {l : List α}
    (some_ : ¬ (l.filter p).length = 0) : ∃ a ∈ l, p a = true := by
  obtain ⟨a, mem⟩ := List.exists_mem_of_length_pos (Nat.pos_of_ne_zero some_)
  exact ⟨a, List.mem_filter.mp mem⟩

theorem forall_of_filter_empty {α : Type} {p : α → Bool} {l : List α}
    (empty : (l.filter p).length = 0) : ∀ a ∈ l, p a = false := by
  rw [List.length_eq_zero_iff, List.filter_eq_nil_iff] at empty
  exact fun a mem => Bool.eq_false_iff.mpr (empty a mem)

/-- A selection names the first filter that leaves nothing, or the preferred rail. -/
theorem selectRail_cases :
    (∃ reason considered, selectRail rails kind amountMinor = .refused reason considered ∧
      FirstEmptied rails kind amountMinor reason) ∨
    ∃ rail why, selectRail rails kind amountMinor = .chosen rail why ∧
      IsPreferred rails kind amountMinor rail := by
  unfold selectRail
  dsimp only
  split
  · rename_i empty
    exact .inl ⟨_, _, rfl, forall_of_filter_empty empty⟩
  rename_i paying
  split
  · rename_i empty
    refine .inl ⟨_, _, rfl, exists_mem_filter paying, fun r mem pays => ?_⟩
    exact forall_of_filter_empty empty r (List.mem_filter.mpr ⟨mem, pays⟩)
  rename_i admitting
  split
  · rename_i none_
    obtain ⟨carrier, mem, admits⟩ := exists_mem_filter admitting
    obtain ⟨declared, pays⟩ := List.mem_filter.mp mem
    refine .inl ⟨_, _, rfl, ⟨carrier, declared, pays, admits⟩, fun r mem pays admits => ?_⟩
    rw [firstPreferred_eq_none_iff, List.filter_eq_nil_iff] at none_
    exact Bool.eq_false_iff.mpr
      (none_ r (List.mem_filter.mpr ⟨List.mem_filter.mpr ⟨mem, pays⟩, admits⟩))
  · rename_i r found
    have usable : ∀ other, other ∈ ((rails.filter (·.pays kind)).filter
        (·.admits amountMinor)).filter (·.isOpen) ↔
          other ∈ rails ∧ other.Usable kind amountMinor := fun other => by
      simp only [List.mem_filter, RailCapability.Usable, and_assoc]
    obtain ⟨mem, carries⟩ := (usable r).mp (firstPreferred_mem found)
    exact .inr ⟨r.rail, _, rfl, ⟨r, mem, carries, rfl⟩, fun other mem carries =>
      idxOf_le_of_firstPreferred found other ((usable other).mpr ⟨mem, carries⟩)⟩

/-! ### The choice -/

/-- What is promised of a choice. -/
structure ChosenWell (rails : List (RailCapability Seconds)) (kind : PaidKind)
    (amountMinor : Int) : Prop where
  succeeds : (∃ rail slaSeconds,
      chooseRail rails kind amountMinor = some (.chosen rail slaSeconds)) ↔
    ∃ r ∈ rails, r.Usable kind amountMinor
  /-- The rail and its seconds are those of one usable entry. -/
  sound : ∀ rail slaSeconds, chooseRail rails kind amountMinor = some (.chosen rail slaSeconds) →
    ∃ r ∈ rails, r.Usable kind amountMinor ∧ r.rail = rail ∧
      r.terminalStatusSlaSeconds = slaSeconds
  /-- No rail of higher preference has a usable entry. -/
  preferred : ∀ rail slaSeconds,
    chooseRail rails kind amountMinor = some (.chosen rail slaSeconds) →
    ∀ other ∈ rails, other.Usable kind amountMinor →
      railPreference.idxOf rail ≤ railPreference.idxOf other.rail
  refuses : ∀ reason, (∃ considered,
      chooseRail rails kind amountMinor = some (.refused reason considered)) ↔
    FirstEmptied rails kind amountMinor reason

/-- The first entry declared for the preferred rail has the seconds of a usable one. -/
def FirstIsAsUsable (rails : List (RailCapability Seconds)) (kind : PaidKind)
    (amountMinor : Int) : Prop :=
  ∀ rail first, IsPreferred rails kind amountMinor rail →
    rails.find? (fun r => decide (r.rail = rail)) = some first →
    ∃ r ∈ rails, r.Usable kind amountMinor ∧ r.rail = rail ∧
      r.terminalStatusSlaSeconds = first.terminalStatusSlaSeconds

/-- A choice names the first filter that leaves nothing, or the preferred rail with the seconds of
the first entry of its name. -/
theorem chooseRail_cases :
    (∃ reason considered, chooseRail rails kind amountMinor = some (.refused reason considered) ∧
      FirstEmptied rails kind amountMinor reason) ∨
    ∃ rail first, chooseRail rails kind amountMinor =
        some (.chosen rail first.terminalStatusSlaSeconds) ∧
      IsPreferred rails kind amountMinor rail ∧
      rails.find? (fun r => decide (r.rail = rail)) = some first := by
  rcases @selectRail_cases Seconds rails kind amountMinor with
    ⟨reason, considered, is, emptied⟩ | ⟨rail, why, is, preferred⟩
  · exact .inl ⟨reason, considered, by rw [chooseRail, is], emptied⟩
  · have ⟨r, mem, _, named⟩ := preferred.1
    have declared : (rails.find? fun r => decide (r.rail = rail)).isSome = true :=
      List.find?_isSome.mpr ⟨r, mem, decide_eq_true named⟩
    obtain ⟨first, found⟩ := Option.isSome_iff_exists.mp declared
    refine .inr ⟨rail, first, ?_, preferred, found⟩
    simp only [chooseRail, is, found, Option.map_some]

end

/-- The choice keeps its promise exactly if the first entry of the preferred rail has the seconds of
a usable one. -/
theorem chosenWell_iff (rails : List (RailCapability Seconds)) (kind : PaidKind)
    (amountMinor : Int) :
    ChosenWell rails kind amountMinor ↔ FirstIsAsUsable rails kind amountMinor := by
  rcases @chooseRail_cases Seconds rails kind amountMinor with
    ⟨reason, considered, is, emptied⟩ | ⟨rail, first, is, preferred, found⟩
  · have unusable := not_usable_of_emptied emptied
    refine ⟨fun _ rail first ⟨⟨r, mem, carries, _⟩, _⟩ => (unusable r mem carries).elim,
      fun _ => ⟨⟨?_, ?_⟩, ?_, ?_, fun other => ⟨?_, fun also => ?_⟩⟩⟩
    · rintro ⟨rail, slaSeconds, chosen⟩
      cases is.symm.trans chosen
    · rintro ⟨r, mem, carries⟩
      exact (unusable r mem carries).elim
    · intro rail slaSeconds chosen
      cases is.symm.trans chosen
    · intro rail slaSeconds chosen
      cases is.symm.trans chosen
    · rintro ⟨considered', refused⟩
      cases is.symm.trans refused
      exact emptied
    · exact ⟨considered, emptied_unique also emptied ▸ is⟩
  · have ⟨⟨r, mem, carries, _⟩, best⟩ := preferred
    refine ⟨fun well rail' first' preferred' found' => ?_, fun same => ⟨⟨fun _ => ⟨r, mem, carries⟩,
      fun _ => ⟨rail, _, is⟩⟩, ?_, ?_, fun reason => ⟨?_, fun emptied => ?_⟩⟩⟩
    · cases preferred_unique preferred' preferred
      cases found.symm.trans found'
      exact well.sound rail _ is
    · intro rail' slaSeconds chosen
      cases is.symm.trans chosen
      exact same rail first preferred found
    · intro rail' slaSeconds chosen
      cases is.symm.trans chosen
      exact best
    · rintro ⟨considered, refused⟩
      cases is.symm.trans refused
    · exact (not_usable_of_emptied emptied r mem carries).elim

/-- NEFT up to an amount with one time-out, and from that amount on with another. -/
def twoBands : List (RailCapability Nat) := [
  { rail := .neft, minMinor := none, maxMinor := some 20000, destinationKinds := [.bankAccount]
    isOpen := true, terminalStatusSlaSeconds := 3600 },
  { rail := .neft, minMinor := some 20001, maxMinor := none, destinationKinds := [.bankAccount]
    isOpen := true, terminalStatusSlaSeconds := 86400 }]

/-- A payout of the second band is given the time-out of the first. -/
theorem not_always_chosenWell : ¬ ∀ (rails : List (RailCapability Nat)) (kind : PaidKind)
    (amountMinor : Int), ChosenWell rails kind amountMinor := by
  intro always
  have chosen : chooseRail twoBands .bankAccount 50000 = some (.chosen .neft 3600) := by decide
  obtain ⟨r, mem, ⟨-, admits, -⟩, -, seconds⟩ :=
    (always twoBands .bankAccount 50000).sound .neft 3600 chosen
  rcases List.mem_pair.mp mem with rfl | rfl
  · exact absurd admits (by decide)
  · exact absurd seconds (by decide)

end InrSettle
