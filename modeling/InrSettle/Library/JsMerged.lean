import InrSettle.Library.JsReader

/-!
# The objects that are read

The value a text is read as has no two members of one name in an object, the last having replaced
those before it.
-/

namespace Js

open NumberFormat

variable {N : Type}

theorem nodup_defineMember {members : List (Text × Value N)} (member : Text × Value N)
    (nodup : (members.map (·.1)).Nodup) : ((defineMember members member).map (·.1)).Nodup := by
  unfold defineMember
  split
  · have names : (members.map fun old => if old.1 = member.1 then member else old).map (·.1) =
        members.map (·.1) := by
      rw [List.map_map]
      apply List.map_congr_left
      intro old _
      by_cases same : old.1 = member.1
      · simp [same]
      · simp [same]
    rw [names]
    exact nodup
  · rename_i fresh
    rw [List.map_append]
    exact nodup.append (List.nodup_singleton _) (List.disjoint_singleton.mpr fresh)

theorem mem_defineMember {members : List (Text × Value N)} {member m : Text × Value N}
    (mem : m ∈ defineMember members member) : m ∈ members ∨ m = member := by
  unfold defineMember at mem
  split at mem
  · obtain ⟨old, there, is⟩ := List.mem_map.mp mem
    split at is
    · exact .inr is.symm
    · exact .inl (is ▸ there)
  · rcases List.mem_append.mp mem with there | added
    · exact .inl there
    · exact .inr (List.mem_singleton.mp added)

theorem distinctMembers_of_forall : ∀ members : List (Text × Value N),
    (∀ member ∈ members, member.2.distinct = true) → Value.distinctMembers members = true
  | [], _ => rfl
  | (name, value) :: rest, each => by
    rw [Value.distinctMembers, Bool.and_eq_true]
    refine ⟨each _ List.mem_cons_self, distinctMembers_of_forall rest ?_⟩
    intro member mem
    exact each _ (List.mem_cons_of_mem _ mem)

theorem distinct_foldl_defineMember : ∀ members start : List (Text × Value N),
    (start.map (·.1)).Nodup → (∀ member ∈ start, member.2.distinct = true) →
      (∀ member ∈ members, member.2.distinct = true) →
        (Value.object (members.foldl defineMember start)).distinct = true
  | [], start, nodup, each, _ =>
    Bool.and_eq_true_iff.mpr ⟨decide_eq_true nodup, distinctMembers_of_forall start each⟩
  | member :: rest, start, nodup, each, others => by
    rw [List.foldl_cons]
    apply distinct_foldl_defineMember rest _ (nodup_defineMember member nodup)
    · intro m mem
      rcases mem_defineMember mem with there | rfl
      · exact each m there
      · exact others m List.mem_cons_self
    · intro m mem
      exact others m (List.mem_cons_of_mem _ mem)

mutual

/-- Merging leaves no two members of one name. -/
theorem distinct_merged : ∀ v : Value N, v.merged.distinct = true
  | .undefined | .null | .bool _ | .number _ | .bigint _ | .string _ => by
    rw [Value.merged]
    rfl
  | .array items => by
    rw [Value.merged]
    exact distinctItems_merged items
  | .object members => by
    rw [Value.merged, assemble]
    exact distinct_foldl_defineMember (mergedMembers members) [] List.nodup_nil (by simp)
      (distinctMembers_merged members)

theorem distinctItems_merged : ∀ items : List (Value N),
    Value.distinctItems (mergedItems items) = true
  | [] => rfl
  | item :: rest => by
    rw [mergedItems]
    exact Bool.and_eq_true_iff.mpr ⟨distinct_merged item, distinctItems_merged rest⟩

theorem distinctMembers_merged : ∀ members : List (Text × Value N),
    ∀ member ∈ mergedMembers members, member.2.distinct = true
  | [] => by
    intro member mem
    cases mem
  | (name, value) :: rest => by
    intro member mem
    rcases List.mem_cons.mp mem with rfl | mem
    · exact distinct_merged value
    · exact distinctMembers_merged rest member mem

end

theorem distinct_of_parseJson [NumberFormat N] {text : Text} {v : Value N} (read : parseJson text = some v) :
    v.distinct = true := by
  obtain ⟨written, -, rfl⟩ := parseJson_eq_some.mp read
  exact distinct_merged written

end Js
