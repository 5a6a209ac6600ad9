import InrSettle.Domain.Fingerprint
import InrSettle.Domain.StrictJson
import InrSettle.System.Artifacts

/-!
# What a fingerprint tells of a body

The preimages of two bodies are equal exactly if the bodies are, up to the order of members and the
composition of strings, and no member is lost, where no member is named like the prototype, no two
names in an object have one composed form, and no number is too large to be one.
-/

namespace InrSettle.Fingerprint

open Js Js.NumberFormat Js.Value

variable {N : Type}

section Normalised

variable (nfc : Text → Text)

/-! ### Every member in its place -/

mutual

/-- The value with each member under the composed form of its name, and each string composed. -/
def renamed : Value N → Value N
  | .string value => .string (nfc value)
  | .bigint value => .bigint value
  | .array items => .array (renamedItems items)
  | .object members => .object (renamedMembers members)
  | .undefined => .undefined
  | .null => .null
  | .bool value => .bool value
  | .number value => .number value

def renamedItems : List (Value N) → List (Value N)
  | [] => []
  | item :: rest => renamed item :: renamedItems rest

def renamedMembers : List (Text × Value N) → List (Text × Value N)
  | [] => []
  | (name, value) :: rest => (nfc name, renamed value) :: renamedMembers rest

end

/-- The names have forms of their own, none the name of the prototype. -/
def Separate (members : List (Text × Value N)) : Prop :=
  (members.map fun member => nfc member.1).Nodup ∧ proto ∉ members.map fun member => nfc member.1

mutual

/-- Every object in the value has separate names. -/
def Named : Value N → Prop
  | .array items => NamedItems items
  | .object members => Separate nfc members ∧ NamedMembers members
  | .undefined | .null | .bool _ | .number _ | .bigint _ | .string _ => True

def NamedItems : List (Value N) → Prop
  | [] => True
  | item :: rest => Named item ∧ NamedItems rest

def NamedMembers : List (Text × Value N) → Prop
  | [] => True
  | (_, value) :: rest => Named value ∧ NamedMembers rest

end

variable {nfc}

theorem names_renamedMembers (members : List (Text × Value N)) :
    (renamedMembers nfc members).map (·.1) = members.map fun member => nfc member.1 := by
  induction members with
  | nil => rfl
  | cons member rest ih => rw [renamedMembers, List.map_cons, List.map_cons, ih]

theorem length_renamedMembers (members : List (Text × Value N)) :
    (renamedMembers nfc members).length = members.length := by
  induction members with
  | nil => rfl
  | cons member rest ih => rw [renamedMembers, List.length_cons, List.length_cons, ih]

theorem assign_fresh {out : List (Text × Value N)} {name : Text} (value : Value N)
    (plain : name ≠ proto) (fresh : name ∉ out.map (·.1)) :
    assign out name value = out ++ [(name, value)] := by
  rw [assign, if_neg plain, defineMember, if_neg fresh]

theorem length_assign_le (out : List (Text × Value N)) (name : Text) (value : Value N) :
    (assign out name value).length ≤ out.length + 1 := by
  unfold assign defineMember
  split
  · omega
  · split
    · rw [List.length_map]
      omega
    · rw [List.length_append]
      rfl

/-- An assignment that adds a member is one of a new name. -/
theorem fresh_of_length {out : List (Text × Value N)} {name : Text} {value : Value N}
    (more : out.length < (assign out name value).length) :
    name ≠ proto ∧ name ∉ out.map (·.1) := by
  unfold assign defineMember at more
  split at more
  · exact (lt_irrefl _ more).elim
  · rename_i plain
    split at more
    · rw [List.length_map] at more
      exact (lt_irrefl _ more).elim
    · rename_i fresh
      exact ⟨plain, fresh⟩

theorem length_normaliseMembers_le (members out : List (Text × Value N)) :
    (normaliseMembers nfc out members).length ≤ out.length + members.length := by
  induction members generalizing out with
  | nil => exact le_refl _
  | cons member rest ih =>
    have step := length_assign_le out (nfc member.1) (normalise nfc member.2)
    have others := ih (assign out (nfc member.1) (normalise nfc member.2))
    rw [normaliseMembers, List.length_cons]
    omega

/-- Where nothing is lost, the names are separate. -/
theorem separate_of_length {members out : List (Text × Value N)} (distinct : (out.map (·.1)).Nodup)
    (whole : (normaliseMembers nfc out members).length = out.length + members.length) :
    ((out.map (·.1)) ++ members.map fun member => nfc member.1).Nodup ∧
      proto ∉ members.map fun member => nfc member.1 := by
  induction members generalizing out with
  | nil =>
    rw [List.map_nil, List.append_nil]
    exact ⟨distinct, List.not_mem_nil⟩
  | cons member rest ih =>
    rw [normaliseMembers, List.length_cons] at whole
    have step := length_assign_le out (nfc member.1) (normalise nfc member.2)
    have others : (normaliseMembers nfc (assign out (nfc member.1) (normalise nfc member.2))
        rest).length ≤ _ := length_normaliseMembers_le _ _
    have more : out.length < (assign out (nfc member.1) (normalise nfc member.2)).length := by
      omega
    obtain ⟨plain, fresh⟩ := fresh_of_length more
    rw [assign_fresh _ plain fresh] at whole
    have names : ((out ++ [(nfc member.1, normalise nfc member.2)]).map (·.1)).Nodup := by
      rw [List.map_append]
      exact distinct.append (List.nodup_singleton _)
        (List.disjoint_singleton.mpr fresh)
    obtain ⟨nodup, none⟩ := ih names (by rw [whole, List.length_append]; simp; omega)
    rw [List.map_append, List.append_assoc] at nodup
    refine ⟨nodup, ?_⟩
    rw [List.map_cons, List.mem_cons, not_or]
    exact ⟨plain.symm, none⟩

theorem normaliseMembers_separate {members out : List (Text × Value N)}
    (distinct : ((out.map (·.1)) ++ members.map fun member => nfc member.1).Nodup)
    (none : proto ∉ members.map fun member => nfc member.1) :
    normaliseMembers nfc out members =
      out ++ members.map fun member => (nfc member.1, normalise nfc member.2) := by
  induction members generalizing out with
  | nil => rw [normaliseMembers, List.map_nil, List.append_nil]
  | cons member rest ih =>
    rw [List.map_cons, List.mem_cons, not_or] at none
    have fresh : nfc member.1 ∉ out.map (·.1) := fun mem =>
      (List.nodup_append.mp distinct).2.2 _ mem _ List.mem_cons_self rfl
    rw [normaliseMembers, assign_fresh _ (Ne.symm none.1) fresh, ih ?_ none.2, List.map_cons,
      List.append_assoc]
    · rfl
    · rw [List.map_append, List.append_assoc]
      exact distinct

theorem separate_of_whole {members : List (Text × Value N)}
    (whole : (normaliseMembers nfc [] members).length = members.length) : Separate nfc members := by
  have distinct : (([] : List (Text × Value N)).map (·.1)).Nodup := List.nodup_nil
  exact separate_of_length distinct (whole.trans (Nat.zero_add _).symm)

/-- Names are separate exactly where the members assigned are all there. -/
theorem separate_iff {members : List (Text × Value N)} :
    Separate nfc members ↔ normaliseMembers nfc [] members =
      members.map fun member => (nfc member.1, normalise nfc member.2) := by
  constructor
  · intro separate
    exact normaliseMembers_separate separate.1 separate.2
  · intro whole
    have length := congrArg List.length whole
    rw [List.length_map] at length
    exact separate_of_whole length

mutual

/-- Normalising renames the members exactly where the names are separate. -/
theorem normalise_eq_renamed : ∀ v : Value N, normalise nfc v = renamed nfc v ↔ Named nfc v
  | .undefined | .null | .bool _ | .number _ | .bigint _ | .string _ => by
    simp [normalise, renamed, Named]
  | .array items => by
    rw [normalise, renamed, Named, Value.array.injEq]
    exact normaliseItems_eq_renamed items
  | .object members => by
    rw [normalise, renamed, Named, Value.object.injEq]
    constructor
    · intro same
      have length := congrArg List.length same
      rw [length_renamedMembers] at length
      have separate := separate_of_whole length
      rw [separate_iff.mp separate] at same
      exact ⟨separate, (normaliseMembers_eq_renamed members).mp same⟩
    · rintro ⟨separate, each⟩
      rw [separate_iff.mp separate]
      exact (normaliseMembers_eq_renamed members).mpr each

theorem normaliseItems_eq_renamed : ∀ items : List (Value N),
    normaliseItems nfc items = renamedItems nfc items ↔ NamedItems nfc items
  | [] => by simp [normaliseItems, renamedItems, NamedItems]
  | item :: rest => by
    rw [normaliseItems, renamedItems, NamedItems, List.cons.injEq, normalise_eq_renamed item,
      normaliseItems_eq_renamed rest]

theorem normaliseMembers_eq_renamed : ∀ members : List (Text × Value N),
    (members.map fun member => (nfc member.1, normalise nfc member.2)) = renamedMembers nfc members ↔
      NamedMembers nfc members
  | [] => by simp [renamedMembers, NamedMembers]
  | (name, value) :: rest => by
    rw [List.map_cons, renamedMembers, NamedMembers, List.cons.injEq, Prod.mk.injEq,
      normalise_eq_renamed value, normaliseMembers_eq_renamed rest]
    simp

end

mutual

theorem distinctBy_of_named : ∀ v : Value N, Named nfc v → v.distinctBy nfc = true
  | .undefined, _ | .null, _ | .bool _, _ | .number _, _ | .bigint _, _ | .string _, _ => rfl
  | .array items, named => distinctByItems_of_named items named
  | .object members, named =>
    Bool.and_eq_true_iff.mpr ⟨decide_eq_true named.1.1, distinctByMembers_of_named members named.2⟩

theorem distinctByItems_of_named : ∀ items : List (Value N), NamedItems nfc items →
    distinctByItems nfc items = true
  | [], _ => rfl
  | item :: rest, named =>
    Bool.and_eq_true_iff.mpr
      ⟨distinctBy_of_named item named.1, distinctByItems_of_named rest named.2⟩

theorem distinctByMembers_of_named : ∀ members : List (Text × Value N), NamedMembers nfc members →
    distinctByMembers nfc members = true
  | [], _ => rfl
  | (_, value) :: rest, named =>
    Bool.and_eq_true_iff.mpr
      ⟨distinctBy_of_named value named.1, distinctByMembers_of_named rest named.2⟩

end

mutual

theorem distinct_renamed : ∀ v : Value N, Named nfc v → (renamed nfc v).distinct = true
  | .undefined, _ | .null, _ | .bool _, _ | .number _, _ | .bigint _, _ | .string _, _ => rfl
  | .array items, named => distinctItems_renamed items named
  | .object members, named => by
    refine Bool.and_eq_true_iff.mpr
      ⟨decide_eq_true ?_, distinctMembers_renamed members named.2⟩
    rw [names_renamedMembers]
    exact named.1.1

theorem distinctItems_renamed : ∀ items : List (Value N), NamedItems nfc items →
    distinctItems (renamedItems nfc items) = true
  | [], _ => rfl
  | item :: rest, named =>
    Bool.and_eq_true_iff.mpr ⟨distinct_renamed item named.1, distinctItems_renamed rest named.2⟩

theorem distinctMembers_renamed : ∀ members : List (Text × Value N), NamedMembers nfc members →
    distinctMembers (renamedMembers nfc members) = true
  | [], _ => rfl
  | (_, value) :: rest, named =>
    Bool.and_eq_true_iff.mpr
      ⟨distinct_renamed value named.1, distinctMembers_renamed rest named.2⟩

end

end Normalised

/-! ### Bodies that are the same -/

variable [Js.NumberFormat N]

section Same

variable {nfc : Text → Text}

mutual

/-- What a JSON text is read as. -/
def IsJson : Value N → Prop
  | .undefined | .bigint _ => False
  | .null | .bool _ | .number _ | .string _ => True
  | .array items => AreJson items
  | .object members => MembersAreJson members

def AreJson : List (Value N) → Prop
  | [] => True
  | item :: rest => IsJson item ∧ AreJson rest

def MembersAreJson : List (Text × Value N) → Prop
  | [] => True
  | (_, value) :: rest => IsJson value ∧ MembersAreJson rest

end

mutual

theorem isJson_of_valueAt {text rest : Text} {v : Value N} (at_ : ValueAt text v rest) :
    IsJson v := by
  cases at_ with
  | null => trivial
  | bool => trivial
  | number => trivial
  | string => trivial
  | emptyArray => trivial
  | array items => exact areJson_of_itemsAt items
  | emptyObject => trivial
  | object members => exact membersAreJson_of_membersAt members

theorem areJson_of_itemsAt {text rest : Text} {items : List (Value N)}
    (at_ : ItemsAt text items rest) : AreJson items := by
  cases at_ with
  | last _ item _ => exact ⟨isJson_of_valueAt item, trivial⟩
  | more _ item _ others => exact ⟨isJson_of_valueAt item, areJson_of_itemsAt others⟩

theorem membersAreJson_of_membersAt {text rest : Text} {members : List (Text × Value N)}
    (at_ : MembersAt text members rest) : MembersAreJson members := by
  cases at_ with
  | last _ _ _ _ value _ => exact ⟨isJson_of_valueAt value, trivial⟩
  | more _ _ _ _ value _ others =>
    exact ⟨isJson_of_valueAt value, membersAreJson_of_membersAt others⟩

end

/-- A body that a request was read as. -/
def Parsed (body : Value N) : Prop := ∃ text, parseStrictJson text = .ok body

theorem Parsed.isJson {body : Value N} (parsed : Parsed body) : IsJson body := by
  obtain ⟨text, read⟩ := parsed
  obtain ⟨document, -⟩ := parseStrictJson_eq_ok.mp read
  cases document with
  | text _ value _ => exact isJson_of_valueAt value

variable (nfc) in
/-- One thing up to the composition of its characters; 0 and -0 are one number. -/
def SameLeafBody : Value N → Value N → Prop
  | .undefined, .undefined => True
  | .null, .null => True
  | .bool b, .bool c => b = c
  | .number m, .number n => unsigned m = unsigned n
  | .bigint m, .bigint n => m = n
  | .string s, .string t => nfc s = nfc t
  | _, _ => False

variable (nfc) in
/-- Equal up to the order of members and the composition of strings and names, at every depth. -/
def SameBody (body body' : Value N) : Prop :=
  body.Alike (fun s t => nfc s = nfc t) (SameLeafBody nfc) body'

variable (nfc) in
/-- The composed string, and 0 for -0. -/
def bodyLeaf : Value N → Value N
  | .string value => .string (nfc value)
  | .number value => .number (unsigned value)
  | v => v

theorem decides_sameBody : Decides (fun s t => nfc s = nfc t) (SameLeafBody (N := N) nfc) nfc
    (bodyLeaf nfc) where
  onNames _ _ := Iff.rfl
  onLeaves v w leaf := by
    cases v <;> cases w <;> simp_all [SameLeafBody, bodyLeaf, isLeaf]
  isLeaf v leaf := by
    cases v <;> first | rfl | cases leaf

mutual

theorem canonical_renamed : ∀ v : Value N, IsJson v →
    (renamed nfc v).normal id plainLeaf = v.normal nfc (bodyLeaf nfc)
  | .null, _ | .bool _, _ | .number _, _ | .string _, _ => rfl
  | .undefined, json | .bigint _, json => json.elim
  | .array items, json => congrArg Value.array (canonicalItems_renamed items json)
  | .object members, json =>
    congrArg (fun more => Value.object (sortMembers more)) (canonicalMembers_renamed members json)

theorem canonicalItems_renamed : ∀ items : List (Value N), AreJson items →
    normalItems id plainLeaf (renamedItems nfc items) = normalItems nfc (bodyLeaf nfc) items
  | [], _ => rfl
  | item :: rest, json => by
    rw [renamedItems, normalItems, normalItems, canonical_renamed item json.1,
      canonicalItems_renamed rest json.2]

theorem canonicalMembers_renamed : ∀ members : List (Text × Value N), MembersAreJson members →
    normalMembers id plainLeaf (renamedMembers nfc members) =
      normalMembers nfc (bodyLeaf nfc) members
  | [], _ => rfl
  | (name, value) :: rest, json => by
    rw [renamedMembers, normalMembers, normalMembers, canonical_renamed value json.1,
      canonicalMembers_renamed rest json.2]
    rfl

end

mutual

theorem representable_renamed : ∀ v : Value N, representable (renamed nfc v) = representable v
  | .undefined | .null | .bool _ | .number _ | .bigint _ | .string _ => rfl
  | .array items => representableItems_renamed items
  | .object members => representableMembers_renamed members

theorem representableItems_renamed : ∀ items : List (Value N),
    representableItems (renamedItems nfc items) = representableItems items
  | [] => rfl
  | item :: rest => by
    rw [renamedItems, representableItems, representableItems, representable_renamed item,
      representableItems_renamed rest]

theorem representableMembers_renamed : ∀ members : List (Text × Value N),
    representableMembers (renamedMembers nfc members) = representableMembers members
  | [] => rfl
  | (name, value) :: rest => by
    rw [renamedMembers, representableMembers, representableMembers, representable_renamed value,
      representableMembers_renamed rest]

end

end Same

/-! ### The preimage -/

/-- What is written in ASCII is composed as it stands. -/
def FixesAscii (nfc : Text → Text) : Prop := ∀ t : Text, (∀ u ∈ t, u.val < 128) → nfc t = t

theorem ascii_ofString {name : String} (ascii : (name.toList.all fun c => c.toNat < 128) = true) :
    ∀ u ∈ ofString name, u.val < 128 := by
  intro u mem
  obtain ⟨c, inName, ofC⟩ := List.mem_flatMap.mp mem
  have small := of_decide_eq_true (List.all_eq_true.mp ascii c inName)
  rw [unitsOf, if_pos (by omega), List.mem_singleton] at ofC
  rw [ofC, unit, Fin.val_ofNat]
  omega

section Preimage

variable {nfc : Text → Text} (toUpperCase : Text → Text)

/-- The document beside a body. -/
def target (nfc : Text → Text) (input : FingerprintInput N) : List (Text × Value N) :=
  [(ofString "v", .string fingerprintVersion),
    (ofString "method", .string (nfc (toUpperCase input.method))),
    (ofString "path", .string (nfc input.path)),
    (ofString "api_version", .string (nfc input.apiVersion))]

omit [Js.NumberFormat N] in
theorem normalise_document (ascii : FixesAscii nfc) (input : FingerprintInput N) :
    normalise nfc (fingerprintDocument toUpperCase input) =
      .object (target toUpperCase nfc input ++ [(ofString "body", normalise nfc input.body)]) := by
  have fixed : ∀ name ∈ ["v", "method", "path", "api_version", "body"],
      nfc (ofString name) = ofString name := by
    intro name mem
    apply ascii
    apply ascii_ofString
    have all : ["v", "method", "path", "api_version", "body"].all (fun name =>
        name.toList.all fun c => c.toNat < 128) = true := by decide
    exact List.all_eq_true.mp all name mem
  have version : nfc fingerprintVersion = fingerprintVersion :=
    ascii _ (ascii_ofString (by decide))
  rw [fingerprintDocument, normalise, separate_iff.mp ?_]
  · simp only [List.map_cons, List.map_nil, target, List.cons_append, List.nil_append, normalise,
      version]
    rw [fixed "v" (by simp), fixed "method" (by simp), fixed "path" (by simp),
      fixed "api_version" (by simp), fixed "body" (by simp)]
  · have forms : ([(ofString "v", Value.string fingerprintVersion),
        (ofString "method", .string (toUpperCase input.method)),
        (ofString "path", .string input.path), (ofString "api_version", .string input.apiVersion),
        (ofString "body", input.body)].map fun member => nfc member.1) =
          ["v", "method", "path", "api_version", "body"].map ofString := by
      simp only [List.map_cons, List.map_nil]
      rw [fixed "v" (by simp), fixed "method" (by simp), fixed "path" (by simp),
        fixed "api_version" (by simp), fixed "body" (by simp)]
    rw [Separate, forms]
    decide +kernel

variable {toUpperCase}

/-- A preimage comes of a body whose numbers are finite. -/
theorem representable_document {input : FingerprintInput N} {body : Value N} :
    representable (.object (target toUpperCase nfc input ++ [(ofString "body", body)])) =
      representable body := by
  simp [target, representable, representableMembers]

omit [Js.NumberFormat N] in
theorem distinct_document {input : FingerprintInput N} {body : Value N}
    (distinct : body.distinct = true) :
    (Value.object (target toUpperCase nfc input ++ [(ofString "body", body)])).distinct = true := by
  rw [Value.distinct, Bool.and_eq_true]
  constructor
  · exact decide_eq_true (by decide +kernel :
      (["v", "method", "path", "api_version", "body"].map ofString).Nodup)
  · simp [target, distinctMembers, Value.distinct, distinct]

/-- Only the bodies tell the canonical forms of two documents with one target apart. -/
theorem canonical_document {input : FingerprintInput N} {body body' : Value N} :
    canonical (.object (target toUpperCase nfc input ++ [(ofString "body", body)])) =
        canonical (.object (target toUpperCase nfc input ++ [(ofString "body", body')])) ↔
      canonical body = canonical body' := by
  have nodup : ((normalMembers id plainLeaf
      (target toUpperCase nfc input ++ [(ofString "body", body)])).map (·.1)).Nodup := by
    rw [names_normalMembers]
    exact (by decide +kernel :
      (["v", "method", "path", "api_version", "body"].map ofString).Nodup)
  rw [canonical, canonical, Value.normal, Value.normal, Value.object.injEq,
    sortMembers_eq_iff nodup]
  simp only [target, List.cons_append, List.nil_append, normalMembers, List.perm_cons,
    List.perm_singleton, List.cons.injEq, Prod.mk.injEq, and_true, true_and]
  exact Iff.rfl

/-! ### Two bodies -/

/-- Every member is kept under a name of its own, and every number is one. -/
def Clean (nfc : Text → Text) (body : Value N) : Prop :=
  Named nfc body ∧ representable body = true

/-- Both requests have preimages, which are equal exactly if the bodies are the same, and normalising
loses no member of either. -/
def Faithful (nfc toUpperCase : Text → Text) (method path apiVersion : Text)
    (body body' : Value N) : Prop :=
  (∃ text text', fingerprintPreimage nfc toUpperCase ⟨method, path, apiVersion, body⟩ = .ok text ∧
    fingerprintPreimage nfc toUpperCase ⟨method, path, apiVersion, body'⟩ = .ok text' ∧
      (text = text' ↔ SameBody nfc body body')) ∧
    normalise nfc body = renamed nfc body ∧ normalise nfc body' = renamed nfc body'

theorem preimage_iff (ascii : FixesAscii nfc) {method path apiVersion text : Text}
    {body : Value N} :
    fingerprintPreimage nfc toUpperCase ⟨method, path, apiVersion, body⟩ = .ok text ↔
      representable (normalise nfc body) = true ∧
        text = (canonical (.object (target toUpperCase nfc ⟨method, path, apiVersion, body⟩ ++
          [(ofString "body", normalise nfc body)]))).text := by
  rw [fingerprintPreimage, normalise_document toUpperCase ascii, canonicalize_iff,
    representable_document]

theorem sameBody_iff {body body' : Value N} (json : IsJson body) (json' : IsJson body')
    (named : Named nfc body) :
    SameBody nfc body body' ↔ canonical (renamed nfc body) = canonical (renamed nfc body') := by
  rw [canonical, canonical, canonical_renamed body json, canonical_renamed body' json']
  exact alike_iff decides_sameBody body body' (distinctBy_of_named body named)

/-- Fingerprints are faithful to two bodies exactly if both are clean. -/
theorem preimages_faithful_iff (ascii : FixesAscii nfc) (toUpperCase : Text → Text)
    (method path apiVersion : Text) {body body' : Value N} (parsed : Parsed body)
    (parsed' : Parsed body') :
    Faithful nfc toUpperCase method path apiVersion body body' ↔
      Clean nfc body ∧ Clean nfc body' := by
  constructor
  · rintro ⟨⟨text, text', ok, ok', -⟩, whole, whole'⟩
    have able := ((preimage_iff ascii).mp ok).1
    have able' := ((preimage_iff ascii).mp ok').1
    rw [whole, representable_renamed] at able
    rw [whole', representable_renamed] at able'
    exact ⟨⟨(normalise_eq_renamed body).mp whole, able⟩,
      (normalise_eq_renamed body').mp whole', able'⟩
  · rintro ⟨⟨named, able⟩, named', able'⟩
    have whole := (normalise_eq_renamed body).mpr named
    have whole' := (normalise_eq_renamed body').mpr named'
    refine ⟨⟨_, _, (preimage_iff ascii).mpr ⟨?_, rfl⟩, (preimage_iff ascii).mpr ⟨?_, rfl⟩, ?_⟩,
      whole, whole'⟩
    · rw [whole, representable_renamed]
      exact able
    · rw [whole', representable_renamed]
      exact able'
    · rw [whole, whole', sameBody_iff parsed.isJson parsed'.isJson named]
      refine Iff.trans ⟨fun same => ?_, fun same => congrArg Value.text same⟩ canonical_document
      have fits : ∀ v : Value N, Named nfc v → representable v = true →
          (canonical (.object (target toUpperCase nfc ⟨method, path, apiVersion, body⟩ ++
            [(ofString "body", renamed nfc v)]))).Plain ∧
          (canonical (.object (target toUpperCase nfc ⟨method, path, apiVersion, body⟩ ++
            [(ofString "body", renamed nfc v)]))).distinct = true := by
        intro v named able
        constructor
        · apply plain_normal
          rw [representable_document, representable_renamed]
          exact able
        · exact distinct_normal _ (distinct_document (distinct_renamed v named))
      obtain ⟨plain, distinct⟩ := fits body named able
      obtain ⟨plain', distinct'⟩ := fits body' named' able'
      exact Value.text_injective plain plain' distinct distinct' same

end Preimage

/-! ### Two payouts, for example -/

/-- What is written as a plain text is read as itself. -/
theorem parsed_of_plain {body : Value N} (plain : body.Plain) (distinct : body.distinct = true) :
    Parsed body := by
  have read : readText true body.text = .ok body := readText_text plain distinct
  rw [readText_eq, readDocument_eq_ok (by omega)] at read
  obtain ⟨written, document, merged, once⟩ := read
  rw [merged_of_distinct written (once rfl)] at merged
  rw [← merged]
  exact ⟨_, parseStrictJson_eq_ok.mpr ⟨document, once rfl⟩⟩

/-- A body with one member. -/
def bodyOf (name value : String) : Value Literal := .object [(ofString name, .string (ofString value))]

theorem parsed_bodyOf (name value : String) : Parsed (bodyOf name value) := by
  apply parsed_of_plain
  · exact ⟨trivial, trivial⟩
  · rw [bodyOf, Value.distinct, Bool.and_eq_true]
    exact ⟨decide_eq_true (List.nodup_singleton _), rfl⟩

theorem clean_bodyOf {name value : String} (plain : name ≠ "__proto__") :
    Clean id (bodyOf name value) := by
  refine ⟨⟨⟨List.nodup_singleton _, ?_⟩, trivial, trivial⟩, rfl⟩
  intro mem
  apply plain
  exact ofString_injective (List.mem_singleton.mp mem).symm

theorem preimages_faithful_note : Faithful id id (ofString "POST") (ofString "/v1/quotes") (ofString "1")
    (bodyOf "note" "rent") (bodyOf "memo" "rent") := by
  apply (preimages_faithful_iff (fun _ _ => rfl) id _ _ _ (parsed_bodyOf _ _) (parsed_bodyOf _ _)).mpr
  exact ⟨clean_bodyOf (by decide), clean_bodyOf (by decide)⟩

/-- The member is gone from the preimage, which is the one of the empty body. -/
theorem preimages_not_always_faithful :
    fingerprintPreimage id id ⟨ofString "POST", ofString "/v1/quotes", ofString "1",
        bodyOf "__proto__" "rent"⟩ =
      fingerprintPreimage id id ⟨ofString "POST", ofString "/v1/quotes", ofString "1",
        (.object [] : Value Literal)⟩ ∧
    ¬∀ body body' : Value Literal, Parsed body → Parsed body' →
      Faithful id id (ofString "POST") (ofString "/v1/quotes") (ofString "1") body body' := by
  have parsed : Parsed (.object [] : Value Literal) := parsed_of_plain trivial rfl
  have gone : normalise id (bodyOf "__proto__" "rent") = normalise id (.object []) := by
    rw [bodyOf, normalise, normaliseMembers, assign, if_pos (show id (ofString "__proto__") = proto
      from rfl), normaliseMembers, normalise, normaliseMembers]
  constructor
  · have ascii : FixesAscii id := fun _ _ => rfl
    rw [fingerprintPreimage, fingerprintPreimage, normalise_document (N := Literal) id ascii,
      normalise_document id ascii, gone]
    rfl
  · intro always
    have lost := (always _ _ (parsed_bodyOf "__proto__" "rent") parsed).2.1
    have separate := ((normalise_eq_renamed _).mp lost).1.2
    apply separate
    exact List.mem_singleton.mpr rfl

end InrSettle.Fingerprint
