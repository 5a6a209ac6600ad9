import InrSettle.Domain.Artifact

/-!
# What the canonical serialisation tells

A value is serialised as the JSON text of a normal form of it: bigints as decimal
strings, -0 as 0 and the members of objects sorted. The text tells the normal form.
-/

namespace InrSettle

open Js Js.NumberFormat

section Serialised

variable {N : Type} [Js.NumberFormat N]

/-! ### Every member of a list -/

theorem plainItems_iff {items : List (Value N)} :
    Value.PlainItems items ↔ ∀ item ∈ items, item.Plain := by
  induction items with
  | nil => simp [Value.PlainItems]
  | cons item rest ih => simp [Value.PlainItems, ih]

theorem plainMembers_iff {members : List (Text × Value N)} :
    Value.PlainMembers members ↔ ∀ member ∈ members, member.2.Plain := by
  induction members with
  | nil => simp [Value.PlainMembers]
  | cons member rest ih => simp [Value.PlainMembers, ih]

omit [Js.NumberFormat N] in
theorem distinctMembers_iff {members : List (Text × Value N)} :
    Value.distinctMembers members = true ↔ ∀ member ∈ members, member.2.distinct = true := by
  induction members with
  | nil => simp [Value.distinctMembers]
  | cons member rest ih => simp [Value.distinctMembers, ih]

theorem representableMembers_iff {members : List (Text × Value N)} :
    representableMembers members = true ↔ ∀ member ∈ members, representable member.2 = true := by
  induction members with
  | nil => simp [representableMembers]
  | cons member rest ih => simp [representableMembers, ih]

theorem isUndefined_of_representable {v : Value N} (ok : representable v = true) :
    v.isUndefined = false := by
  cases v <;> first | rfl | cases ok

/-! ### The pieces of a text -/

theorem joined_items (items : List (Value N)) :
    joined (items.map Value.text) ++ [unit ']'] = Value.itemsText items := by
  cases items with
  | nil => rfl
  | cons item rest =>
    induction rest generalizing item with
    | nil => simp [joined, Value.itemsText, Value.moreItems]
    | cons next rest ih =>
      have following : Value.moreItems (next :: rest) = unit ',' :: Value.itemsText (next :: rest) := rfl
      rw [Value.itemsText, following, ← ih next]
      simp [joined]

theorem joined_members (members : List (Text × Value N)) :
    joined (members.map fun member => memberText member.1 member.2.text) ++ [unit '\x7d'] =
      Value.membersText members := by
  cases members with
  | nil => rfl
  | cons member rest =>
    induction rest generalizing member with
    | nil => simp [joined, memberText, Value.membersText, Value.moreMembers]
    | cons next rest ih =>
      have following : Value.moreMembers (next :: rest) = unit ',' :: Value.membersText (next :: rest) := rfl
      rw [Value.membersText, following, ← ih next]
      simp [joined, memberText]

theorem collected_ok (members : List (Text × Value N)) :
    collected (members.map fun member => (member.1, Except.ok member.2.text)) =
      .ok (members.map fun member => memberText member.1 member.2.text) := by
  induction members with
  | nil => rfl
  | cons member rest ih =>
    rw [List.map_cons, collected, ih]
    rfl

theorem isOk_of_collected {made : List (Text × Except TypeError Text)} {texts : List Text}
    (ok : collected made = .ok texts) : ∀ member ∈ made, ∃ text, member.2 = .ok text := by
  induction made generalizing texts with
  | nil => simp
  | cons member rest ih =>
    obtain ⟨name, value⟩ := member
    rw [collected] at ok
    cases value with
    | error refused => cases ok
    | ok text =>
      cases more : collected rest with
      | error refused => rw [more] at ok; cases ok
      | ok others => exact List.forall_mem_cons.mpr ⟨⟨text, rfl⟩, ih more⟩

/-! ### The text of a value -/

mutual

/-- What can be serialised is serialised as the text of its normal form. -/
theorem canonicalize_text : ∀ v : Value N, representable v = true →
    canonicalize v = .ok (canonical v).text
  | .undefined, ok => by cases ok
  | .null, _ => rfl
  | .bool value, _ => rfl
  | .bigint value, _ => rfl
  | .string value, _ => rfl
  | .number value, ok => by
    have finite : isFinite value = true := ok
    rw [canonicalize, if_pos finite, canonical, Value.normal, plainLeaf, Value.text,
      if_pos ((isFinite_unsigned value).trans finite), write_unsigned]
  | .array items, ok => by
    have texts := canonicalizeItems_text items ok
    rw [canonicalize, texts, canonical, Value.normal, Value.text, ← joined_items]
    rfl
  | .object members, ok => by
    have all := representableMembers_iff.mp (show representableMembers members = true from ok)
    have none : (members.find? fun member => member.2.isUndefined) = none :=
      List.find?_eq_none.mpr fun member mem => by simp [isUndefined_of_representable (all member mem)]
    have sorted : (canonicalizeMembers members).insertionSort (fun a b => a.1 ≤ b.1) =
        (Value.sortMembers (Value.normalMembers id plainLeaf members)).map fun member =>
          (member.1, .ok member.2.text) := by
      rw [canonicalizeMembers_text members ok, Value.sortMembers]
      exact (List.map_insertionSort (fun a b : Text × Value N => a.1 ≤ b.1)
        (fun a b : Text × Except TypeError Text => a.1 ≤ b.1) _ _
        fun _ _ _ _ => Iff.rfl).symm
    rw [canonicalize, none]
    simp only
    rw [sorted, collected_ok, canonical, Value.normal, Value.text, ← joined_members]
    rfl

theorem canonicalizeItems_text : ∀ items : List (Value N), representableItems items = true →
    canonicalizeItems items = .ok ((Value.normalItems id plainLeaf items).map Value.text)
  | [], _ => rfl
  | item :: rest, ok => by
    simp only [representableItems, Bool.and_eq_true] at ok
    rw [canonicalizeItems, canonicalize_text item ok.1, canonicalizeItems_text rest ok.2]
    rfl

theorem canonicalizeMembers_text : ∀ members : List (Text × Value N),
    representableMembers members = true → canonicalizeMembers members =
      (Value.normalMembers id plainLeaf members).map fun member => (member.1, .ok member.2.text)
  | [], _ => rfl
  | (name, value) :: rest, ok => by
    simp only [representableMembers, Bool.and_eq_true] at ok
    rw [canonicalizeMembers, canonicalize_text value ok.1, canonicalizeMembers_text rest ok.2]
    rfl

end

mutual

/-- What is serialised can be. -/
theorem representable_of_canonicalize : ∀ (v : Value N) {text : Text},
    canonicalize v = .ok text → representable v = true
  | .undefined, _, ok => by cases ok
  | .null, _, _ => rfl
  | .bool _, _, _ => rfl
  | .bigint _, _, _ => rfl
  | .string _, _, _ => rfl
  | .number value, _, ok => by
    rw [canonicalize] at ok
    split at ok
    · assumption
    · cases ok
  | .array items, _, ok => by
    rw [canonicalize] at ok
    cases made : canonicalizeItems items with
    | error refused => rw [made] at ok; cases ok
    | ok texts => exact representableItems_of_canonicalize items made
  | .object members, _, ok => by
    rw [canonicalize] at ok
    split at ok
    · cases ok
    · cases made : collected ((canonicalizeMembers members).insertionSort fun a b => a.1 ≤ b.1) with
      | error refused => rw [made] at ok; cases ok
      | ok texts =>
        refine representableMembers_of_canonicalize members fun member mem => ?_
        refine isOk_of_collected made member ?_
        exact (List.perm_insertionSort _ _).mem_iff.mpr mem

theorem representableItems_of_canonicalize : ∀ (items : List (Value N)) {texts : List Text},
    canonicalizeItems items = .ok texts → representableItems items = true
  | [], _, _ => rfl
  | item :: rest, _, ok => by
    rw [canonicalizeItems] at ok
    cases first : canonicalize item with
    | error refused => rw [first] at ok; cases ok
    | ok text =>
      cases others : canonicalizeItems rest with
      | error refused => rw [first, others] at ok; cases ok
      | ok texts =>
        rw [representableItems, representable_of_canonicalize item first,
          representableItems_of_canonicalize rest others]
        rfl

theorem representableMembers_of_canonicalize : ∀ (members : List (Text × Value N)),
    (∀ member ∈ canonicalizeMembers members, ∃ text, member.2 = .ok text) →
    representableMembers members = true
  | [], _ => rfl
  | (name, value) :: rest, all => by
    obtain ⟨⟨text, first⟩, others⟩ := List.forall_mem_cons.mp all
    rw [representableMembers, representable_of_canonicalize value first,
      representableMembers_of_canonicalize rest others]
    rfl

end

theorem canonicalize_iff {v : Value N} {text : Text} :
    canonicalize v = .ok text ↔ representable v = true ∧ text = (canonical v).text := by
  constructor
  · intro ok
    have able := representable_of_canonicalize v ok
    exact ⟨able, Except.ok.inj (ok.symm.trans (canonicalize_text v able))⟩
  · rintro ⟨able, rfl⟩
    exact canonicalize_text v able

/-! ### The normal form -/

mutual

theorem plain_normal : ∀ v : Value N, representable v = true →
    (v.normal id plainLeaf).Plain
  | .undefined, ok => by cases ok
  | .null, _ => trivial
  | .bool _, _ => trivial
  | .bigint _, _ => trivial
  | .string _, _ => trivial
  | .number value, ok => ⟨(isFinite_unsigned value).trans ok, unsigned_unsigned value⟩
  | .array items, ok => plainItems_normal items ok
  | .object members, ok => by
    refine plainMembers_iff.mpr fun member mem => ?_
    exact plainMembers_iff.mp (plainMembers_normal members ok) member
      ((Value.perm_sortMembers _).mem_iff.mp mem)

theorem plainItems_normal : ∀ items : List (Value N), representableItems items = true →
    Value.PlainItems (Value.normalItems id plainLeaf items)
  | [], _ => trivial
  | item :: rest, ok => by
    simp only [representableItems, Bool.and_eq_true] at ok
    exact ⟨plain_normal item ok.1, plainItems_normal rest ok.2⟩

theorem plainMembers_normal : ∀ members : List (Text × Value N),
    representableMembers members = true →
    Value.PlainMembers (Value.normalMembers id plainLeaf members)
  | [], _ => trivial
  | (name, value) :: rest, ok => by
    simp only [representableMembers, Bool.and_eq_true] at ok
    exact ⟨plain_normal value ok.1, plainMembers_normal rest ok.2⟩

end

mutual

theorem distinct_normal : ∀ v : Value N, v.distinct = true →
    (v.normal id plainLeaf).distinct = true
  | .undefined, _ => rfl
  | .null, _ => rfl
  | .bool _, _ => rfl
  | .bigint _, _ => rfl
  | .string _, _ => rfl
  | .number _, _ => rfl
  | .array items, distinct => distinctItems_normal items distinct
  | .object members, distinct => by
    simp only [Value.distinct, Bool.and_eq_true, decide_eq_true_eq] at distinct
    simp only [Value.normal, Value.distinct, Bool.and_eq_true, decide_eq_true_eq]
    refine ⟨?_, distinctMembers_iff.mpr fun member mem => ?_⟩
    · rw [((Value.perm_sortMembers _).map (·.1)).nodup_iff, Value.names_normalMembers]
      exact distinct.1
    · exact distinctMembers_iff.mp (distinctMembers_normal members distinct.2) member
        ((Value.perm_sortMembers _).mem_iff.mp mem)

theorem distinctItems_normal : ∀ items : List (Value N), Value.distinctItems items = true →
    Value.distinctItems (Value.normalItems id plainLeaf items) = true
  | [], _ => rfl
  | item :: rest, distinct => by
    simp only [Value.distinctItems, Bool.and_eq_true] at distinct
    simp only [Value.normalItems, Value.distinctItems, Bool.and_eq_true]
    exact ⟨distinct_normal item distinct.1, distinctItems_normal rest distinct.2⟩

theorem distinctMembers_normal : ∀ members : List (Text × Value N),
    Value.distinctMembers members = true →
    Value.distinctMembers (Value.normalMembers id plainLeaf members) = true
  | [], _ => rfl
  | (name, value) :: rest, distinct => by
    simp only [Value.distinctMembers, Bool.and_eq_true] at distinct
    simp only [Value.normalMembers, Value.distinctMembers, Bool.and_eq_true]
    exact ⟨distinct_normal value distinct.1, distinctMembers_normal rest distinct.2⟩

end

/-! ### Equal texts -/

theorem decides_sameLeaf : Value.Decides (N := N) Eq SameLeaf id plainLeaf where
  onNames _ _ := Iff.rfl
  onLeaves v w leaf := by
    cases v <;> cases w <;>
      simp [SameLeaf, plainLeaf, Value.isLeaf, decimal_injective.eq_iff] at leaf ⊢
  isLeaf v leaf := by
    cases v <;> first | rfl | cases leaf


theorem sameContent_iff (v w : Value N) (distinct : v.distinct = true) :
    SameContent v w ↔ canonical v = canonical w :=
  Value.alike_iff decides_sameLeaf v w ((Value.distinctBy_id v).trans distinct)

mutual

theorem representable_normal : ∀ v : Value N,
    representable (v.normal id plainLeaf) = representable v
  | .undefined | .null | .bool _ | .bigint _ | .string _ => rfl
  | .number value => isFinite_unsigned value
  | .array items => representableItems_normal items
  | .object members => by
    refine Bool.eq_iff_iff.mpr (Iff.trans ?_ (Bool.eq_iff_iff.mp
      (representableMembers_normal members)))
    rw [Value.normal, representable, representableMembers_iff, representableMembers_iff]
    exact forall_congr' fun member => imp_congr_left (Value.perm_sortMembers _).mem_iff

theorem representableItems_normal : ∀ items : List (Value N),
    representableItems (Value.normalItems id plainLeaf items) = representableItems items
  | [] => rfl
  | item :: rest => by
    rw [Value.normalItems, representableItems, representableItems, representable_normal item,
      representableItems_normal rest]

theorem representableMembers_normal : ∀ members : List (Text × Value N),
    representableMembers (Value.normalMembers id plainLeaf members) = representableMembers members
  | [] => rfl
  | (_, value) :: rest => by
    rw [Value.normalMembers, representableMembers, representableMembers,
      representable_normal value, representableMembers_normal rest]

end

/-- Values with one content are serialised alike. -/
theorem canonicalize_of_sameContent {v w : Value N} {text : Text} (distinct : v.distinct = true)
    (same : SameContent v w) (ok : canonicalize v = .ok text) : canonicalize w = .ok text := by
  have one := (sameContent_iff v w distinct).mp same
  obtain ⟨able, rfl⟩ := canonicalize_iff.mp ok
  refine canonicalize_iff.mpr ⟨?_, by rw [one]⟩
  rw [← representable_normal w, ← canonical, ← one, canonical, representable_normal]
  exact able

theorem sameContent_of_canonicalize {v w : Value N} {text : Text} (distinct : v.distinct = true)
    (distinct' : w.distinct = true) (ok : canonicalize v = .ok text)
    (ok' : canonicalize w = .ok text) : SameContent v w := by
  obtain ⟨able, rfl⟩ := canonicalize_iff.mp ok
  obtain ⟨able', same⟩ := canonicalize_iff.mp ok'
  refine (sameContent_iff v w distinct).mpr ?_
  exact Value.text_injective (plain_normal v able) (plain_normal w able')
    (distinct_normal v distinct) (distinct_normal w distinct') same

/-! ### Reading back -/

/-- What is read back is the normal form. -/
theorem parseJson_canonicalize {v : Value N} {text : Text} (distinct : v.distinct = true)
    (ok : canonicalize v = .ok text) : parseJson text = some (canonical v) := by
  obtain ⟨able, rfl⟩ := canonicalize_iff.mp ok
  exact parseJson_text (plain_normal v able) (distinct_normal v distinct)

theorem canonical_canonical (v : Value N) : canonical (canonical v) = canonical v :=
  Value.normal_normal (fun _ => rfl)
    (fun v leaf => by
      cases v <;> first
        | exact ⟨rfl, rfl⟩
        | exact ⟨rfl, congrArg Value.number (unsigned_unsigned _)⟩
        | cases leaf) v

theorem canonicalize_canonical {v : Value N} {text : Text} (ok : canonicalize v = .ok text) :
    canonicalize (canonical v) = .ok text := by
  obtain ⟨able, rfl⟩ := canonicalize_iff.mp ok
  refine canonicalize_iff.mpr ⟨(representable_normal v).trans able, ?_⟩
  rw [canonical_canonical]

theorem contentHash_iff {sha256 : Text → Text} {artifact : CanonicalArtifact N} {hash : Text} :
    contentHash sha256 artifact = .ok hash ↔
      ∃ text, canonicalize artifact.document = .ok text ∧
        hash = contentHashPrefix ++ sha256 text := by
  rw [contentHash, canonicalBytes]
  cases canonicalize artifact.document with
  | error refused => simp [bind, Except.bind]
  | ok text => simp [bind, Except.bind, pure, Except.pure, eq_comm]

/-- A row verifies where its bytes are read as a value with the content its hash was taken of. -/
theorem artifactVerifies_of_sameContent {sha256 : Text → Text} {row : ArtifactRow}
    {v w : Value N} (distinct : v.distinct = true)
    (hashed : contentHash sha256 ⟨row.kind, v⟩ = .ok row.contentHash)
    (stored : parseJson row.canonicalBytes = some w) (same : SameContent v w) :
    artifactVerifies N sha256 row = some true := by
  obtain ⟨text, ok, is⟩ := contentHash_iff.mp hashed
  have again : contentHash sha256 ⟨row.kind, w⟩ = .ok row.contentHash :=
    contentHash_iff.mpr ⟨text, canonicalize_of_sameContent distinct same ok, is⟩
  simp [artifactVerifies, stored, verifyContentHash, again, bind, Except.bind, pure, Except.pure,
    Except.toOption]

/-- Two values are serialised as one text exactly where they have one content; the text is read back
as a value that is serialised as it; and an artifact verifies against the hash of its document in
whatever order its members are stored. -/
theorem serialised_content (sha256 : Text → Text) (v w : CanonicalValue N) :
    ((∃ text, canonicalize v.value = .ok text ∧ canonicalize w.value = .ok text) ↔
      representable v.value = true ∧ SameContent v.value w.value) ∧
    (∀ text, canonicalize v.value = .ok text →
      ∃ back : Value N, parseJson text = some back ∧ canonicalize back = .ok text) ∧
    ∀ row : ArtifactRow, contentHash sha256 ⟨row.kind, v.value⟩ = .ok row.contentHash →
      parseJson row.canonicalBytes = some w.value → SameContent v.value w.value →
      artifactVerifies N sha256 row = some true := by
  refine ⟨⟨?_, ?_⟩, fun text ok => ?_, fun row hashed stored same => ?_⟩
  · rintro ⟨text, ok, ok'⟩
    exact ⟨representable_of_canonicalize _ ok,
      sameContent_of_canonicalize v.distinct w.distinct ok ok'⟩
  · rintro ⟨able, same⟩
    have ok := canonicalize_text v.value able
    exact ⟨_, ok, canonicalize_of_sameContent v.distinct same ok⟩
  · exact ⟨_, parseJson_canonicalize v.distinct ok, canonicalize_canonical ok⟩
  · exact artifactVerifies_of_sameContent v.distinct hashed stored same

end Serialised

end InrSettle
