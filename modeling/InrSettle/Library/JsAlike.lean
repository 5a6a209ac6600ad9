import InrSettle.Library.JsValue
import Mathlib

/-!
# Values that differ in the order of members

Two values may be compared up to the order of the members of objects, their names up to
one relation and what is neither array nor object up to another. Where both relations
are equality after a renaming, sorting the members decides it.
-/

namespace Js

namespace Value

variable {N : Type}

/-- Neither an array nor an object. -/
def isLeaf : Value N → Bool
  | array _ | object _ => false
  | undefined | null | bool _ | number _ | bigint _ | string _ => true

mutual

/-- Equal up to the order of members, at every depth, with `names` between the names of members and
`leaf` between what is no array or object. -/
def Alike (names : Text → Text → Prop) (leaf : Value N → Value N → Prop) :
    Value N → Value N → Prop
  | array items, w => ∃ items', w = array items' ∧ AlikeItems names leaf items items'
  | object members, w => ∃ members', w = object members' ∧
      AlikeMembers names leaf members members'
  | undefined, w => leaf undefined w
  | null, w => leaf null w
  | bool value, w => leaf (bool value) w
  | number value, w => leaf (number value) w
  | bigint value, w => leaf (bigint value) w
  | string value, w => leaf (string value) w

def AlikeItems (names : Text → Text → Prop) (leaf : Value N → Value N → Prop) :
    List (Value N) → List (Value N) → Prop
  | [], items' => items' = []
  | item :: rest, items' => ∃ item' rest', items' = item' :: rest' ∧ Alike names leaf item item' ∧
      AlikeItems names leaf rest rest'

def AlikeMembers (names : Text → Text → Prop) (leaf : Value N → Value N → Prop) :
    List (Text × Value N) → List (Text × Value N) → Prop
  | [], members' => members' = []
  | (name, value) :: rest, members' => ∃ name' value' rest',
      members'.Perm ((name', value') :: rest') ∧ names name name' ∧
        Alike names leaf value value' ∧ AlikeMembers names leaf rest rest'

end

/-! ### Sorting the members -/

def sortMembers (members : List (Text × Value N)) : List (Text × Value N) :=
  members.insertionSort fun a b => a.1 ≤ b.1

theorem perm_sortMembers (members : List (Text × Value N)) :
    (sortMembers members).Perm members := List.perm_insertionSort _ _

/-- The order members of different names are given in does not matter. -/
theorem sortMembers_eq_iff {members members' : List (Text × Value N)}
    (distinct : (members.map (·.1)).Nodup) :
    sortMembers members = sortMembers members' ↔ members.Perm members' := by
  constructor
  · intro same
    exact (perm_sortMembers members).symm.trans (same ▸ perm_sortMembers members')
  · intro perm
    have sorted : ∀ l : List (Text × Value N), (sortMembers l).Pairwise fun a b => a.1 ≤ b.1 :=
      fun l => List.pairwise_insertionSort (fun a b : Text × Value N => a.1 ≤ b.1) l
    have perms : (sortMembers members).Perm (sortMembers members') :=
      (perm_sortMembers members).trans (perm.trans (perm_sortMembers members').symm)
    refine perms.eq_of_pairwise (fun a b mem mem' less more => ?_) (sorted _) (sorted _)
    have mem : a ∈ members := (perm_sortMembers members).mem_iff.mp mem
    have mem' : b ∈ members := perm.mem_iff.mpr ((perm_sortMembers members').mem_iff.mp mem')
    exact List.inj_on_of_nodup_map distinct mem mem' (le_antisymm less more)

theorem sortMembers_sortMembers (members : List (Text × Value N)) :
    sortMembers (sortMembers members) = sortMembers members :=
  (List.pairwise_insertionSort (fun a b : Text × Value N => a.1 ≤ b.1) members).insertionSort_eq

/-! ### A normal form -/

section Normal

variable (rename : Text → Text) (norm : Value N → Value N)

mutual

/-- The value with its members renamed and sorted, and `norm` of what is no array or object. -/
def normal : Value N → Value N
  | array items => array (normalItems items)
  | object members => object (sortMembers (normalMembers members))
  | undefined => norm undefined
  | null => norm null
  | bool value => norm (bool value)
  | number value => norm (number value)
  | bigint value => norm (bigint value)
  | string value => norm (string value)

def normalItems : List (Value N) → List (Value N)
  | [] => []
  | item :: rest => normal item :: normalItems rest

def normalMembers : List (Text × Value N) → List (Text × Value N)
  | [] => []
  | (name, value) :: rest => (rename name, normal value) :: normalMembers rest

end

mutual

/-- No two members of an object have one name after the renaming, at every depth. -/
def distinctBy : Value N → Bool
  | array items => distinctByItems items
  | object members =>
    decide (members.map fun member => rename member.1).Nodup && distinctByMembers members
  | undefined | null | bool _ | number _ | bigint _ | string _ => true

def distinctByItems : List (Value N) → Bool
  | [] => true
  | item :: rest => distinctBy item && distinctByItems rest

def distinctByMembers : List (Text × Value N) → Bool
  | [] => true
  | (_, value) :: rest => distinctBy value && distinctByMembers rest

end

variable {rename norm}

theorem normal_of_isLeaf {v : Value N} (leaf : v.isLeaf = true) : v.normal rename norm = norm v := by
  cases v <;> first | rfl | cases leaf

mutual

theorem distinctBy_id : ∀ v : Value N, v.distinctBy id = v.distinct
  | undefined | null | bool _ | number _ | bigint _ | string _ => rfl
  | array items => distinctByItems_id items
  | object members => by
    rw [distinctBy, distinct, distinctByMembers_id members]
    rfl

theorem distinctByItems_id : ∀ items : List (Value N), distinctByItems id items = distinctItems items
  | [] => rfl
  | item :: rest => by
    rw [distinctByItems, distinctItems, distinctBy_id item, distinctByItems_id rest]

theorem distinctByMembers_id : ∀ members : List (Text × Value N),
    distinctByMembers id members = distinctMembers members
  | [] => rfl
  | (_, value) :: rest => by
    rw [distinctByMembers, distinctMembers, distinctBy_id value, distinctByMembers_id rest]

end

theorem leaf_normal
    (leaves : ∀ v : Value N, v.isLeaf = true → (norm v).isLeaf = true ∧ norm (norm v) = norm v)
    {v : Value N} (isLeaf : v.isLeaf = true) :
    (v.normal rename norm).normal rename norm = v.normal rename norm := by
  rw [normal_of_isLeaf isLeaf, normal_of_isLeaf (leaves v isLeaf).1, (leaves v isLeaf).2]

theorem normalMembers_eq (members : List (Text × Value N)) : normalMembers rename norm members =
    members.map fun member => (rename member.1, member.2.normal rename norm) := by
  induction members with
  | nil => rfl
  | cons member members ih => rw [normalMembers, ih, List.map_cons]

theorem names_normalMembers (members : List (Text × Value N)) :
    (normalMembers rename norm members).map (·.1) =
      members.map fun member => rename member.1 := by
  rw [normalMembers_eq, List.map_map]
  rfl

/-- A member to be matched is found among the others. -/
theorem perm_cons_normalMembers {member : Text × Value N} {rest : List (Text × Value N)}
    {members : List (Text × Value N)}
    (perm : (member :: rest).Perm (normalMembers rename norm members)) :
    ∃ name value others, members.Perm ((name, value) :: others) ∧
      member = (rename name, value.normal rename norm) ∧
      rest.Perm (normalMembers rename norm others) := by
  have mem : member ∈ normalMembers rename norm members :=
    perm.mem_iff.mp List.mem_cons_self
  rw [normalMembers_eq] at mem
  obtain ⟨⟨name, value⟩, inMembers, rfl⟩ := List.mem_map.mp mem
  obtain ⟨before, after, rfl⟩ := List.append_of_mem inMembers
  have found : (before ++ (name, value) :: after).Perm ((name, value) :: (before ++ after)) :=
    List.perm_middle
  refine ⟨name, value, before ++ after, found, rfl, ?_⟩
  rw [normalMembers_eq] at perm ⊢
  exact List.Perm.cons_inv (perm.trans (found.map _))

mutual

/-- The normal form is its own. -/
theorem normal_normal (renames : ∀ s, rename (rename s) = rename s)
    (leaves : ∀ v : Value N, v.isLeaf = true → (norm v).isLeaf = true ∧ norm (norm v) = norm v) :
    ∀ v : Value N, (v.normal rename norm).normal rename norm = v.normal rename norm
  | array items => congrArg array (normalItems_normalItems renames leaves items)
  | object members => by
    have fixed := normalMembers_normalMembers renames leaves members
    rw [normal, normal, normalMembers_eq (sortMembers _)]
    have same : (sortMembers (normalMembers rename norm members)).map
        (fun member => (rename member.1, member.2.normal rename norm)) =
          sortMembers (normalMembers rename norm members) := by
      refine (List.map_congr_left fun member mem => ?_).trans (List.map_id _)
      exact fixed member ((perm_sortMembers _).mem_iff.mp mem)
    rw [same, sortMembers_sortMembers]
  | undefined => leaf_normal leaves rfl
  | null => leaf_normal leaves rfl
  | bool _ => leaf_normal leaves rfl
  | number _ => leaf_normal leaves rfl
  | bigint _ => leaf_normal leaves rfl
  | string _ => leaf_normal leaves rfl

theorem normalItems_normalItems (renames : ∀ s, rename (rename s) = rename s)
    (leaves : ∀ v : Value N, v.isLeaf = true → (norm v).isLeaf = true ∧ norm (norm v) = norm v) :
    ∀ items : List (Value N), normalItems rename norm (normalItems rename norm items) =
      normalItems rename norm items
  | [] => rfl
  | item :: rest => by
    rw [normalItems, normalItems, normal_normal renames leaves item,
      normalItems_normalItems renames leaves rest]

theorem normalMembers_normalMembers (renames : ∀ s, rename (rename s) = rename s)
    (leaves : ∀ v : Value N, v.isLeaf = true → (norm v).isLeaf = true ∧ norm (norm v) = norm v) :
    ∀ members : List (Text × Value N), ∀ member ∈ normalMembers rename norm members,
      (rename member.1, member.2.normal rename norm) = member
  | [] => by simp [normalMembers]
  | (name, value) :: rest => by
    refine List.forall_mem_cons.mpr ⟨?_, normalMembers_normalMembers renames leaves rest⟩
    rw [renames, normal_normal renames leaves value]

end

variable {names : Text → Text → Prop} {leaf : Value N → Value N → Prop}

/-- The relations are equality after the renaming, and after `norm`, which makes no array and no
object. -/
structure Decides (names : Text → Text → Prop) (leaf : Value N → Value N → Prop)
    (rename : Text → Text) (norm : Value N → Value N) : Prop where
  onNames : ∀ s t, names s t ↔ rename s = rename t
  onLeaves : ∀ v w : Value N, v.isLeaf = true → (leaf v w ↔ w.isLeaf = true ∧ norm v = norm w)
  isLeaf : ∀ v : Value N, v.isLeaf = true → (norm v).isLeaf = true

section Decides

variable (decides : Decides names leaf rename norm)

include decides

theorem normal_isLeaf (v : Value N) : (v.normal rename norm).isLeaf = v.isLeaf := by
  cases leaf : v.isLeaf with
  | true => rw [normal_of_isLeaf leaf, decides.isLeaf v leaf]
  | false => cases v <;> first | rfl | cases leaf

theorem alike_iff_of_isLeaf {v w : Value N} (isLeaf : v.isLeaf = true) :
    Alike names leaf v w ↔ v.normal rename norm = w.normal rename norm := by
  have same : Alike names leaf v w ↔ leaf v w := by
    cases v <;> first | rfl | cases isLeaf
  rw [same, decides.onLeaves v w isLeaf, normal_of_isLeaf isLeaf]
  constructor
  · rintro ⟨isLeaf', is⟩
    rw [is, normal_of_isLeaf isLeaf']
  · intro is
    have isLeaf' : w.isLeaf = true := by
      rw [← normal_isLeaf decides w, ← is, decides.isLeaf v isLeaf]
    exact ⟨isLeaf', is.trans (normal_of_isLeaf isLeaf')⟩

theorem normal_eq_array {items : List (Value N)} {w : Value N}
    (is : w.normal rename norm = array items) :
    ∃ items', w = array items' ∧ normalItems rename norm items' = items := by
  have notLeaf := normal_isLeaf decides w
  rw [is] at notLeaf
  cases w with
  | array items' => exact ⟨items', rfl, Value.array.inj is⟩
  | object members => cases is
  | _ => cases notLeaf

theorem normal_eq_object {members : List (Text × Value N)} {w : Value N}
    (is : w.normal rename norm = object members) :
    ∃ members', w = object members' ∧
      sortMembers (normalMembers rename norm members') = members := by
  have notLeaf := normal_isLeaf decides w
  rw [is] at notLeaf
  cases w with
  | object members' => exact ⟨members', rfl, Value.object.inj is⟩
  | array items => cases is
  | _ => cases notLeaf

end Decides

mutual

/-- The normal form decides whether values are alike. -/
theorem alike_iff (decides : Decides names leaf rename norm) : ∀ v w : Value N,
    v.distinctBy rename = true → (Alike names leaf v w ↔ v.normal rename norm = w.normal rename norm)
  | array items, w, distinct => by
    constructor
    · rintro ⟨items', rfl, alike⟩
      exact congrArg array ((alikeItems_iff decides items items' distinct).mp alike)
    · intro is
      obtain ⟨items', rfl, same⟩ := normal_eq_array decides is.symm
      exact ⟨items', rfl, (alikeItems_iff decides items items' distinct).mpr same.symm⟩
  | object members, w, distinct => by
    simp only [distinctBy, Bool.and_eq_true, decide_eq_true_eq] at distinct
    have nodup : ((normalMembers rename norm members).map (·.1)).Nodup := by
      rw [names_normalMembers]
      exact distinct.1
    constructor
    · rintro ⟨members', rfl, alike⟩
      refine congrArg object ((sortMembers_eq_iff nodup).mpr ?_)
      exact (alikeMembers_iff decides members members' distinct.2).mp alike
    · intro is
      obtain ⟨members', rfl, same⟩ := normal_eq_object decides is.symm
      refine ⟨members', rfl, (alikeMembers_iff decides members members' distinct.2).mpr ?_⟩
      exact (sortMembers_eq_iff nodup).mp same.symm
  | undefined, _, _ => alike_iff_of_isLeaf decides rfl
  | null, _, _ => alike_iff_of_isLeaf decides rfl
  | bool _, _, _ => alike_iff_of_isLeaf decides rfl
  | number _, _, _ => alike_iff_of_isLeaf decides rfl
  | bigint _, _, _ => alike_iff_of_isLeaf decides rfl
  | string _, _, _ => alike_iff_of_isLeaf decides rfl

theorem alikeItems_iff (decides : Decides names leaf rename norm) :
    ∀ items items' : List (Value N), distinctByItems rename items = true →
    (AlikeItems names leaf items items' ↔
      normalItems rename norm items = normalItems rename norm items')
  | [], items', _ => by
    rw [AlikeItems, normalItems]
    cases items' <;> simp [normalItems]
  | item :: rest, items', distinct => by
    simp only [distinctByItems, Bool.and_eq_true] at distinct
    rw [AlikeItems, normalItems]
    constructor
    · rintro ⟨item', rest', rfl, first, more⟩
      rw [normalItems, (alike_iff decides item item' distinct.1).mp first,
        (alikeItems_iff decides rest rest' distinct.2).mp more]
    · intro same
      cases items' with
      | nil => cases same
      | cons item' rest' =>
        rw [normalItems] at same
        obtain ⟨first, more⟩ := List.cons.inj same
        exact ⟨item', rest', rfl, (alike_iff decides item item' distinct.1).mpr first,
          (alikeItems_iff decides rest rest' distinct.2).mpr more⟩

theorem alikeMembers_iff (decides : Decides names leaf rename norm) :
    ∀ members members' : List (Text × Value N), distinctByMembers rename members = true → (AlikeMembers names leaf members members' ↔
      (normalMembers rename norm members).Perm (normalMembers rename norm members'))
  | [], members', _ => by
    rw [AlikeMembers, normalMembers]
    constructor
    · rintro rfl
      exact .nil
    · intro perm
      rw [normalMembers_eq] at perm
      exact List.length_eq_zero_iff.mp (by simpa using perm.length_eq.symm)
  | (name, value) :: rest, members', distinct => by
    simp only [distinctByMembers, Bool.and_eq_true] at distinct
    rw [AlikeMembers, normalMembers]
    constructor
    · rintro ⟨name', value', rest', found, names, alike, more⟩
      rw [(decides.onNames name name').mp names, (alike_iff decides value value' distinct.1).mp alike]
      refine (((alikeMembers_iff decides rest rest' distinct.2).mp more).cons _).trans ?_
      rw [normalMembers_eq, normalMembers_eq]
      exact (found.map fun member => (rename member.1, member.2.normal rename norm)).symm
    · intro perm
      obtain ⟨name', value', rest', found, is, more⟩ := perm_cons_normalMembers perm
      obtain ⟨names, alike⟩ := Prod.mk.inj is
      exact ⟨name', value', rest', found, (decides.onNames name name').mpr names,
        (alike_iff decides value value' distinct.1).mpr alike,
        (alikeMembers_iff decides rest rest' distinct.2).mpr more⟩

end

end Normal

end Value

end Js
