import Mathlib

/-!
# JSON values

A parsed JSON text: the members of its objects, each value as `String` writes it, and
the texts it is made of.
-/

namespace Json

/-- A text without the character U+0000. -/
def nulFree (text : String) : Bool := decide ('\x00' ∉ text.toList)

theorem nulFree_append {s t : String} : nulFree (s ++ t) = (nulFree s && nulFree t) := by
  simp [nulFree, String.toList_append, not_or]

/-- A number as it was read: the integer it is, where a double is sure of it, and its text. -/
structure Number where
  safeInteger : Option Int
  text : String
  safe : ∀ n, safeInteger = some n → -2 ^ 53 < n ∧ n < 2 ^ 53
  plain : nulFree text = true

/-- A parsed value. The members of an object have different names. -/
inductive Value where
  | null
  | bool (value : Bool)
  | number (value : Number)
  | string (value : String)
  | array (items : List Value)
  | object (members : List (String × Value))

namespace Value

def isNull : Value → Bool
  | null => true
  | _ => false

/-- `value[name]`. -/
def field (value : Value) (name : String) : Option Value :=
  match value with
  | object members => members.lookup name
  | _ => none

/-- `value[name] ?? otherwise`. -/
def given (value : Value) (name : String) : Option Value :=
  (value.field name).filter fun found => !found.isNull

/-- `value[name]`, where it is a text. -/
def textField (value : Value) (name : String) : Option String :=
  match value.field name with
  | some (string found) => some found
  | _ => none

/-! ### Writing a value as a text -/

mutual

/-- `String(value)`, which throws for an object with a member named `toString`. -/
def asText : Value → Option String
  | null => some "null"
  | bool value => some (if value then "true" else "false")
  | number value => some value.text
  | string value => some value
  | array items => joined items
  | object members =>
    if (members.map (·.1)).contains "toString" then none else some "[object Object]"

/-- `items.join()`. -/
def joined : List Value → Option String
  | [] => some ""
  | [item] => if item.isNull then some "" else item.asText
  | item :: rest =>
    (if item.isNull then some "" else item.asText).bind fun first =>
      (joined rest).map fun more => first ++ "," ++ more

end

/-! ### The texts of a value -/

mutual

/-- No text of the value, and no name in it, holds U+0000. -/
def storable : Value → Bool
  | null | bool _ | number _ => true
  | string value => nulFree value
  | array items => storableItems items
  | object members => storableMembers members

def storableItems : List Value → Bool
  | [] => true
  | item :: rest => item.storable && storableItems rest

def storableMembers : List (String × Value) → Bool
  | [] => true
  | (name, value) :: rest => nulFree name && value.storable && storableMembers rest

end

theorem storable_of_lookup {members : List (String × Value)} {name : String} {found : Value}
    (storable : storableMembers members = true) (is : members.lookup name = some found) :
    found.storable = true := by
  induction members with
  | nil => cases is
  | cons member rest ih =>
    obtain ⟨key, value⟩ := member
    simp only [storableMembers, Bool.and_eq_true] at storable
    rw [List.lookup_cons] at is
    split at is
    · obtain rfl := Option.some.inj is
      exact storable.1.2
    · exact ih storable.2 is

theorem storable_field {value : Value} {name : String} {found : Value}
    (storable : value.storable = true) (is : value.field name = some found) :
    found.storable = true := by
  cases value with
  | object members => exact storable_of_lookup storable is
  | null => cases is
  | bool value => cases is
  | number value => cases is
  | string value => cases is
  | array items => cases is

theorem nulFree_textField {value : Value} {name found : String}
    (storable : value.storable = true) (is : value.textField name = some found) :
    nulFree found = true := by
  unfold textField at is
  split at is
  · rename_i text reads
    obtain rfl := Option.some.inj is
    exact storable_field storable reads
  · cases is

mutual

/-- The text of a value has no character the value has not. -/
theorem nulFree_asText : ∀ {value : Value} {text : String}, value.storable = true →
    value.asText = some text → nulFree text = true
  | null, _, _, is => by obtain rfl := Option.some.inj is; rfl
  | bool value, _, _, is => by
    obtain rfl := Option.some.inj is
    cases value <;> rfl
  | number value, _, _, is => by
    obtain rfl := Option.some.inj is
    exact value.plain
  | string value, _, storable, is => by
    obtain rfl := Option.some.inj is
    exact storable
  | array items, _, storable, is => nulFree_joined storable is
  | object members, _, _, is => by
    rw [asText] at is
    split at is
    · cases is
    · obtain rfl := Option.some.inj is
      rfl

theorem nulFree_joined : ∀ {items : List Value} {text : String}, storableItems items = true →
    joined items = some text → nulFree text = true
  | [], _, _, is => by obtain rfl := Option.some.inj is; rfl
  | [item], text, storable, is => by
    simp only [storableItems, Bool.and_true] at storable
    rw [joined] at is
    split at is
    · obtain rfl := Option.some.inj is
      rfl
    · exact nulFree_asText storable is
  | item :: next :: rest, text, storable, is => by
    rw [storableItems, Bool.and_eq_true] at storable
    rw [joined.eq_3 _ _ (List.cons_ne_nil _ _)] at is
    obtain ⟨first, writes, more⟩ := Option.bind_eq_some_iff.mp is
    obtain ⟨others, followed, rfl⟩ := Option.map_eq_some_iff.mp more
    have plain : nulFree first = true := by
      split at writes
      · obtain rfl := Option.some.inj writes
        rfl
      · exact nulFree_asText storable.1 writes
    rw [nulFree_append, nulFree_append, plain, nulFree_joined storable.2 followed]
    rfl

end

end Value

end Json
