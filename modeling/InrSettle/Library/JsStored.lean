import InrSettle.Library.JsAlike
import InrSettle.Library.JsRoundTrip

/-!
# Values that were written as JSON and stored

What is left of a value when it is written as JSON, and what a store gives back that
keeps the members of objects in an order of its own.
-/

namespace Js

open NumberFormat

namespace Value

variable {N : Type}

mutual

/-- No object has two members. -/
def single : Value N → Bool
  | array items => singleItems items
  | object members => decide (members.length ≤ 1) && singleMembers members
  | undefined | null | bool _ | number _ | bigint _ | string _ => true

def singleItems : List (Value N) → Bool
  | [] => true
  | item :: rest => single item && singleItems rest

def singleMembers : List (Text × Value N) → Bool
  | [] => true
  | (_, value) :: rest => single value && singleMembers rest

end

/-! ### Likeness -/

mutual

theorem alike_refl : ∀ v : Value N, Alike Eq Eq v v
  | undefined | null | bool _ | number _ | bigint _ | string _ => rfl
  | array items => ⟨items, rfl, alikeItems_refl items⟩
  | object members => ⟨members, rfl, alikeMembers_refl members⟩

theorem alikeItems_refl : ∀ items : List (Value N), AlikeItems Eq Eq items items
  | [] => rfl
  | item :: rest => ⟨item, rest, rfl, alike_refl item, alikeItems_refl rest⟩

theorem alikeMembers_refl : ∀ members : List (Text × Value N), AlikeMembers Eq Eq members members
  | [] => rfl
  | (name, value) :: rest => ⟨name, value, rest, .refl _, rfl, alike_refl value, alikeMembers_refl rest⟩

end

mutual

/-- A value without two members in an object is like itself only. -/
theorem eq_of_alike : ∀ v w : Value N, v.single = true → Alike Eq Eq v w → w = v
  | undefined, _, _, alike | null, _, _, alike | bool _, _, _, alike | number _, _, _, alike
  | bigint _, _, _, alike | string _, _, _, alike => alike.symm
  | array items, w, one, alike => by
    obtain ⟨items', rfl, alike⟩ := alike
    rw [eqItems_of_alike items items' one alike]
  | object members, w, one, alike => by
    obtain ⟨members', rfl, alike⟩ := alike
    simp only [single, Bool.and_eq_true, decide_eq_true_eq] at one
    rw [eqMembers_of_alike members members' one.1 one.2 alike]

theorem eqItems_of_alike : ∀ items items' : List (Value N), singleItems items = true →
    AlikeItems Eq Eq items items' → items' = items
  | [], _, _, alike => alike
  | item :: rest, _, one, alike => by
    obtain ⟨item', rest', rfl, alike, others⟩ := alike
    simp only [singleItems, Bool.and_eq_true] at one
    rw [eq_of_alike item item' one.1 alike, eqItems_of_alike rest rest' one.2 others]

theorem eqMembers_of_alike : ∀ members members' : List (Text × Value N), members.length ≤ 1 →
    singleMembers members = true → AlikeMembers Eq Eq members members' → members' = members
  | [], _, _, _, alike => alike
  | [(name, value)], members', _, one, alike => by
    obtain ⟨name', value', rest', perm, rfl, alike, none_⟩ := alike
    simp only [singleMembers, Bool.and_true] at one
    obtain rfl : rest' = [] := none_
    rw [List.perm_singleton.mp perm, eq_of_alike value value' one alike]
  | _ :: _ :: _, _, few, _, _ => absurd few (by simp)

end

theorem isUndefined_iff {v : Value N} : v.isUndefined = true ↔ v = undefined := by
  cases v <;> simp [isUndefined]

theorem distinct_of_mem_items {items : List (Value N)}
    (distinct : (array items).distinct = true) {item : Value N} (mem : item ∈ items) :
    item.distinct = true := by
  induction items with
  | nil => cases mem
  | cons first rest ih =>
    simp only [Value.distinct, distinctItems, Bool.and_eq_true] at distinct
    rcases List.mem_cons.mp mem with rfl | mem
    · exact distinct.1
    · exact ih distinct.2 mem

theorem distinct_of_mem_members {members : List (Text × Value N)}
    (distinct : (object members).distinct = true) {member : Text × Value N}
    (mem : member ∈ members) : member.2.distinct = true := by
  have each : distinctMembers members = true := (Bool.and_eq_true_iff.mp distinct).2
  clear distinct
  induction members with
  | nil => cases mem
  | cons first rest ih =>
    simp only [distinctMembers, Bool.and_eq_true] at each
    rcases List.mem_cons.mp mem with rfl | mem
    · exact each.1
    · exact ih mem each.2

mutual

theorem distinct_of_single : ∀ v : Value N, v.single = true → v.distinct = true
  | undefined, _ | null, _ | bool _, _ | number _, _ | bigint _, _ | string _, _ => rfl
  | array items, one => distinctItems_of_single items one
  | object members, one => by
    simp only [single, Bool.and_eq_true, decide_eq_true_eq] at one
    have nodup : (members.map (·.1)).Nodup := by
      cases members with
      | nil => exact List.nodup_nil
      | cons member rest =>
        cases rest with
        | nil => exact List.nodup_singleton _
        | cons _ _ => simp at one
    rw [Value.distinct, decide_eq_true nodup, distinctMembers_of_single members one.2]
    rfl

theorem distinctItems_of_single : ∀ items : List (Value N), singleItems items = true →
    distinctItems items = true
  | [], _ => rfl
  | item :: rest, one => by
    simp only [singleItems, Bool.and_eq_true] at one
    rw [distinctItems, distinct_of_single item one.1, distinctItems_of_single rest one.2]
    rfl

theorem distinctMembers_of_single : ∀ members : List (Text × Value N),
    singleMembers members = true → distinctMembers members = true
  | [], _ => rfl
  | (_, value) :: rest, one => by
    simp only [singleMembers, Bool.and_eq_true] at one
    rw [distinctMembers, distinct_of_single value one.1, distinctMembers_of_single rest one.2]
    rfl

end

/-! ### Members by name -/

theorem lookup_perm {members members' : List (Text × Value N)} (perm : members.Perm members')
    (distinct : (members.map (·.1)).Nodup) (name : Text) :
    members.lookup name = members'.lookup name := by
  induction perm with
  | nil => rfl
  | cons member _ ih =>
    have rest := ih (List.nodup_cons.mp distinct).2
    obtain ⟨other, value⟩ := member
    rw [List.lookup_cons, List.lookup_cons, rest]
  | swap first second rest =>
    obtain ⟨one, value⟩ := first
    obtain ⟨other, value'⟩ := second
    have differ : other ≠ one := fun is => by simp [is] at distinct
    simp only [List.lookup_cons]
    cases isOne : name == one <;> cases isOther : name == other <;> try rfl
    exact absurd ((eq_of_beq isOther).symm.trans (eq_of_beq isOne)) differ
  | trans first _ ih ih' =>
    exact (ih distinct).trans (ih' ((first.map (·.1)).nodup_iff.mp distinct))

theorem names_alike {members members' : List (Text × Value N)}
    (alike : AlikeMembers Eq Eq members members') :
    (members.map (·.1)).Perm (members'.map (·.1)) := by
  induction members generalizing members' with
  | nil =>
    cases (alike : members' = [])
    exact .refl _
  | cons member rest ih =>
    obtain ⟨name', value', rest', perm, rfl, _, others⟩ := alike
    have found : (members'.map (·.1)).Perm (member.1 :: rest'.map (·.1)) := perm.map (·.1)
    exact ((ih others).cons _).trans found.symm

/-- Like objects have like values by one name. -/
theorem lookup_alike {members members' : List (Text × Value N)}
    (alike : AlikeMembers Eq Eq members members') (distinct : (members.map (·.1)).Nodup)
    (name : Text) : Option.Rel (Alike Eq Eq) (members.lookup name) (members'.lookup name) := by
  induction members generalizing members' with
  | nil =>
    cases (alike : members' = [])
    exact .none
  | cons member rest ih =>
    have names := names_alike alike
    obtain ⟨name', value', rest', perm, rfl, same, others⟩ := alike
    rw [lookup_perm perm (names.nodup_iff.mp distinct) name, List.lookup_cons, List.lookup_cons]
    cases is : name == member.1 with
    | true => exact .some same
    | false => exact ih others (List.nodup_cons.mp distinct).2

section Written

variable [NumberFormat N]

/-! ### Writing -/

mutual

/-- What `JSON.parse(JSON.stringify(value))` is, for a value without bigints. -/
def written : Value N → Value N
  | undefined => undefined
  | bigint _ => null
  | null => null
  | bool value => bool value
  | number value => if isFinite value then number (unsigned value) else null
  | string value => string value
  | array items => array (writtenItems items)
  | object members => object (writtenMembers members)

def writtenItems : List (Value N) → List (Value N)
  | [] => []
  | item :: rest => (if item.isUndefined then null else item.written) :: writtenItems rest

def writtenMembers : List (Text × Value N) → List (Text × Value N)
  | [] => []
  | (name, value) :: rest =>
    if value.isUndefined then writtenMembers rest else (name, value.written) :: writtenMembers rest

end

/-- `JSON.stringify(value)`, for a value that is not `undefined` and has no bigints. -/
def stringify (v : Value N) : Text := v.written.text

/-- What a store may give back for a value: its JSON with the members in any order. -/
def Kept (v w : Value N) : Prop := Alike Eq Eq v.written w

/-- A value that is given back as it is. -/
def Settled (v : Value N) : Prop := v.Plain ∧ v.single = true

/-! ### What is written -/

mutual

theorem written_of_plain : ∀ v : Value N, v.Plain → v.written = v
  | undefined, plain | bigint _, plain => plain.elim
  | null, _ | bool _, _ | string _, _ => rfl
  | number value, plain => by rw [written, if_pos plain.1, plain.2]
  | array items, plain => congrArg array (writtenItems_of_plain items plain)
  | object members, plain => congrArg object (writtenMembers_of_plain members plain)

theorem writtenItems_of_plain : ∀ items : List (Value N), PlainItems items →
    writtenItems items = items
  | [], _ => rfl
  | item :: rest, plain => by
    have some_ : item.isUndefined = false :=
      Bool.eq_false_iff.mpr fun is => (isUndefined_iff.mp is ▸ plain.1 : (undefined : Value N).Plain).elim
    rw [writtenItems, some_, written_of_plain item plain.1, writtenItems_of_plain rest plain.2]
    rfl

theorem writtenMembers_of_plain : ∀ members : List (Text × Value N), PlainMembers members →
    writtenMembers members = members
  | [], _ => rfl
  | (name, value) :: rest, plain => by
    have some_ : value.isUndefined = false :=
      Bool.eq_false_iff.mpr fun is => (isUndefined_iff.mp is ▸ plain.1 : (undefined : Value N).Plain).elim
    rw [writtenMembers, some_, written_of_plain value plain.1, writtenMembers_of_plain rest plain.2]
    rfl

end

mutual

theorem plain_written : ∀ v : Value N, v.isUndefined = false → v.written.Plain
  | null, _ | bool _, _ | string _, _ | bigint _, _ => trivial
  | number value, _ => by
    rw [written]
    split
    · rename_i finite
      exact ⟨(isFinite_unsigned value).trans finite, unsigned_unsigned value⟩
    · trivial
  | array items, _ => plain_writtenItems items
  | object members, _ => plain_writtenMembers members

theorem plain_writtenItems : ∀ items : List (Value N), PlainItems (writtenItems items)
  | [] => trivial
  | item :: rest => by
    rw [writtenItems]
    refine ⟨?_, plain_writtenItems rest⟩
    split
    · trivial
    · exact plain_written item (Bool.eq_false_iff.mpr ‹_›)

theorem plain_writtenMembers : ∀ members : List (Text × Value N),
    PlainMembers (writtenMembers members)
  | [] => trivial
  | (name, value) :: rest => by
    rw [writtenMembers]
    split
    · exact plain_writtenMembers rest
    · exact ⟨plain_written value (Bool.eq_false_iff.mpr ‹_›), plain_writtenMembers rest⟩

end

theorem names_writtenMembers (members : List (Text × Value N)) :
    ((writtenMembers members).map (·.1)).Sublist (members.map (·.1)) := by
  induction members with
  | nil => exact .slnil
  | cons member rest ih =>
    rw [writtenMembers]
    split
    · exact ih.cons _
    · exact ih.cons_cons _

mutual

theorem distinct_written : ∀ v : Value N, v.distinct = true → v.written.distinct = true
  | undefined, _ | null, _ | bool _, _ | string _, _ | bigint _, _ => rfl
  | number value, _ => by
    rw [written]
    split <;> rfl
  | array items, distinct => distinct_writtenItems items distinct
  | object members, distinct => by
    simp only [Value.distinct, Bool.and_eq_true, decide_eq_true_eq] at distinct
    simp only [written, Value.distinct, Bool.and_eq_true, decide_eq_true_eq]
    exact ⟨(names_writtenMembers members).nodup distinct.1,
      distinct_writtenMembers members distinct.2⟩

theorem distinct_writtenItems : ∀ items : List (Value N), distinctItems items = true →
    distinctItems (writtenItems items) = true
  | [], _ => rfl
  | item :: rest, distinct => by
    simp only [distinctItems, Bool.and_eq_true] at distinct
    rw [writtenItems, distinctItems, distinct_writtenItems rest distinct.2, Bool.and_true]
    split
    · rfl
    · exact distinct_written item distinct.1

theorem distinct_writtenMembers : ∀ members : List (Text × Value N),
    distinctMembers members = true → distinctMembers (writtenMembers members) = true
  | [], _ => rfl
  | (name, value) :: rest, distinct => by
    simp only [distinctMembers, Bool.and_eq_true] at distinct
    rw [writtenMembers]
    split
    · exact distinct_writtenMembers rest distinct.2
    · rw [distinctMembers, distinct_written value distinct.1, distinct_writtenMembers rest distinct.2]
      rfl

end

/-- What is written is read. -/
theorem parseJson_stringify {v : Value N} (some_ : v.isUndefined = false)
    (distinct : v.distinct = true) : parseJson v.stringify = some v.written :=
  parseJson_text (plain_written v some_) (distinct_written v distinct)

/-! ### Members the other way round -/

section Flipped

omit [NumberFormat N]

mutual

/-- The members of every object the other way round. -/
def flipped : Value N → Value N
  | array items => array (flippedItems items)
  | object members => object (flippedMembers members).reverse
  | undefined => undefined
  | null => null
  | bool value => bool value
  | number value => number value
  | bigint value => bigint value
  | string value => string value

def flippedItems : List (Value N) → List (Value N)
  | [] => []
  | item :: rest => flipped item :: flippedItems rest

def flippedMembers : List (Text × Value N) → List (Text × Value N)
  | [] => []
  | (name, value) :: rest => (name, flipped value) :: flippedMembers rest

end

theorem alikeMembers_perm {members left right : List (Text × Value N)}
    (alike : AlikeMembers Eq Eq members left) (perm : right.Perm left) :
    AlikeMembers Eq Eq members right := by
  cases members with
  | nil =>
    cases (alike : left = [])
    exact perm.eq_nil
  | cons member rest =>
    obtain ⟨name, value, others, there, same⟩ := alike
    exact ⟨name, value, others, perm.trans there, same⟩

mutual

theorem alike_flipped : ∀ v : Value N, Alike Eq Eq v v.flipped
  | undefined | null | bool _ | number _ | bigint _ | string _ => rfl
  | array items => ⟨_, rfl, alikeItems_flipped items⟩
  | object members => ⟨_, rfl,
      alikeMembers_perm (alikeMembers_flipped members) (List.reverse_perm _)⟩

theorem alikeItems_flipped : ∀ items : List (Value N), AlikeItems Eq Eq items (flippedItems items)
  | [] => rfl
  | item :: rest => ⟨_, _, rfl, alike_flipped item, alikeItems_flipped rest⟩

theorem alikeMembers_flipped : ∀ members : List (Text × Value N),
    AlikeMembers Eq Eq members (flippedMembers members)
  | [] => rfl
  | (name, value) :: rest => ⟨name, value.flipped, flippedMembers rest, .refl _, rfl,
      alike_flipped value, alikeMembers_flipped rest⟩

end

theorem names_flippedMembers (members : List (Text × Value N)) :
    (flippedMembers members).map (·.1) = members.map (·.1) := by
  induction members with
  | nil => rfl
  | cons member rest ih => rw [flippedMembers, List.map_cons, List.map_cons, ih]

end Flipped

/-- A list without repetition that is its own reverse has one element at most. -/
theorem length_le_one_of_reverse {A : Type} {l : List A} (same : l.reverse = l) (nodup : l.Nodup) :
    l.length ≤ 1 := by
  by_contra more
  have ends : l[0]? = l[l.length - 1]? := by
    conv_lhs => rw [← same]
    rw [List.getElem?_reverse (by omega)]
    rfl
  have first := (List.getElem?_inj (Nat.lt_of_not_le fun none_ => more (by omega)) nodup).mp ends
  omega

/-- The value that is written of this one, with the members the other way round. -/
def turned (v : Value N) : Value N := v.written.flipped

theorem kept_turned (v : Value N) : Kept v v.turned := alike_flipped v.written

/-- An object that stays as it is when it is turned has one member at most. -/
theorem few_of_turned {members : List (Text × Value N)} (distinct : (members.map (·.1)).Nodup)
    (same : (flippedMembers (writtenMembers members)).reverse = members) : members.length ≤ 1 := by
  have names : ((writtenMembers members).map (·.1)).reverse = members.map (·.1) := by
    rw [← names_flippedMembers, ← List.map_reverse, same]
  have whole : (writtenMembers members).map (·.1) = members.map (·.1) :=
    (names_writtenMembers members).eq_of_length (by rw [← names, List.length_reverse])
  have few := length_le_one_of_reverse (whole ▸ names) distinct
  rwa [List.length_map] at few

mutual

theorem settled_of_turned : ∀ v : Value N, v.distinct = true → v.turned = v →
    v = undefined ∨ v.Settled
  | undefined, _, _ => .inl rfl
  | null, _, _ | bool _, _, _ | string _, _, _ => .inr ⟨trivial, rfl⟩
  | bigint _, _, same => nomatch same
  | number value, _, same => by
    rw [turned, written] at same
    split at same
    · rename_i finite
      exact .inr ⟨⟨finite, Value.number.inj same⟩, rfl⟩
    · cases same
  | array items, distinct, same =>
    .inr (settledItems_of_turned items distinct (Value.array.inj same))
  | object members, distinct, same => by
    simp only [Value.distinct, Bool.and_eq_true, decide_eq_true_eq] at distinct
    have same := Value.object.inj same
    have few := few_of_turned distinct.1 same
    obtain ⟨plain, one⟩ := settledMembers_of_turned members distinct.2 few same
    exact .inr ⟨plain, by rw [single, one, decide_eq_true few]; rfl⟩

theorem settledItems_of_turned : ∀ items : List (Value N), distinctItems items = true →
    flippedItems (writtenItems items) = items → PlainItems items ∧ singleItems items = true
  | [], _, _ => ⟨trivial, rfl⟩
  | item :: rest, distinct, same => by
    simp only [distinctItems, Bool.and_eq_true] at distinct
    rw [writtenItems, flippedItems, List.cons.injEq] at same
    obtain ⟨plain, one⟩ := settledItems_of_turned rest distinct.2 same.2
    cases is : item.isUndefined with
    | true =>
      rw [isUndefined_iff.mp is] at same
      cases same.1
    | false =>
      rw [is] at same
      rcases settled_of_turned item distinct.1 same.1 with rfl | settled
      · cases is
      · exact ⟨⟨settled.1, plain⟩, by rw [singleItems, settled.2, one]; rfl⟩

theorem settledMembers_of_turned : ∀ members : List (Text × Value N),
    distinctMembers members = true → members.length ≤ 1 →
    (flippedMembers (writtenMembers members)).reverse = members →
      PlainMembers members ∧ singleMembers members = true
  | [], _, _, _ => ⟨trivial, rfl⟩
  | [(name, value)], distinct, _, same => by
    simp only [distinctMembers, Bool.and_true] at distinct
    cases is : value.isUndefined with
    | true =>
      rw [writtenMembers, is] at same
      cases same
    | false =>
      rw [writtenMembers, is] at same
      have same : value.written.flipped = value := by
        simpa [flippedMembers, writtenMembers] using same
      rcases settled_of_turned value distinct same with rfl | settled
      · cases is
      · exact ⟨⟨settled.1, trivial⟩, by rw [singleMembers, settled.2]; rfl⟩
  | _ :: _ :: _, _, few, _ => absurd few (by simp)

end

/-- A settled value is given back as it is. -/
theorem eq_of_kept {v w : Value N} (settled : v.Settled) (kept : Kept v w) : w = v := by
  have is := eq_of_alike v.written w (by rw [written_of_plain v settled.1]; exact settled.2) kept
  rw [is, written_of_plain v settled.1]

end Written

end Value

end Js
