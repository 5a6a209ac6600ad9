import InrSettle.Library.JsValue
import Mathlib

/-!
# Reading what is written

The reader takes a value's text for the value, and what follows it for the rest. The
induction is over the value: each item and each member is read off its own text.
-/

namespace Js

open NumberFormat

section Text

variable {N : Type} [NumberFormat N]

/-! ### Where a text begins and ends -/

/-- A text begins with no space, and nothing that closes what it stands in. -/
def Starts (text : Text) : Prop :=
  ∃ u rest, text = u :: rest ∧ isSpace u = false ∧ u ≠ unit ']' ∧ u ≠ unit '\x7d'

theorem Starts.skip {text : Text} (starts : Starts text) (rest : Text) :
    skipWhitespace (text ++ rest) = text ++ rest := by
  obtain ⟨u, more, rfl, notSpace, -⟩ := starts
  simp [skipWhitespace, notSpace]

theorem skipWhitespace_cons {u : CodeUnit} (rest : Text) (notSpace : isSpace u = false) :
    skipWhitespace (u :: rest) = u :: rest := by
  simp [skipWhitespace, notSpace]

theorem quote_starts (text : Text) : Starts (quote text) :=
  ⟨_, _, rfl, by decide, by decide, by decide⟩

theorem digit_starts : ∀ d : Digit, isSpace d.unit = false ∧ d.unit ≠ unit ']' ∧
    d.unit ≠ unit '\x7d' := by decide

theorem Numeral.head (n : Numeral) : ∃ u rest, n.text = u :: rest ∧
    (u = unit '-' ∨ ∃ d : Digit, u = d.unit) := by
  have some := n.whole_ne_nil
  obtain ⟨negative, whole, fraction, exponent, wholeOk, exponentOk⟩ := n
  obtain ⟨d, ds, rfl⟩ := List.exists_cons_of_ne_nil some
  cases negative with
  | true => exact ⟨unit '-', _, rfl, .inl rfl⟩
  | false => exact ⟨d.unit, _, rfl, .inr ⟨d, rfl⟩⟩

theorem Numeral.starts (n : Numeral) : Starts n.text := by
  obtain ⟨u, rest, is, rfl | ⟨d, rfl⟩⟩ := n.head
  · exact ⟨_, rest, is, by decide, by decide, by decide⟩
  · exact ⟨_, rest, is, digit_starts d⟩

theorem Value.text_starts (v : Value N) : Starts v.text := by
  cases v with
  | undefined | null | bigint _ => exact ⟨_, _, rfl, by decide, by decide, by decide⟩
  | bool b => cases b <;> exact ⟨_, _, rfl, by decide, by decide, by decide⟩
  | string s => exact quote_starts s
  | array items => exact ⟨_, _, by rw [Value.text], by decide, by decide, by decide⟩
  | object members => exact ⟨_, _, by rw [Value.text], by decide, by decide, by decide⟩
  | number n =>
    rw [Value.text]
    split
    · exact (write n).starts
    · exact ⟨_, _, rfl, by decide, by decide, by decide⟩

theorem Starts.length_pos {text : Text} (starts : Starts text) : 0 < text.length := by
  obtain ⟨u, rest, is, -⟩ := starts
  simp [is]

theorem ends_cons {u : CodeUnit} (rest : Text) (stops : goesOn u = false) : Ends (u :: rest) := by
  simp [Ends, stops]

theorem moreItems_ends (items : List (Value N)) (rest : Text) :
    Ends (Value.moreItems items ++ rest) := by
  cases items <;> exact ends_cons _ (by decide)

theorem moreMembers_ends (members : List (Text × Value N)) (rest : Text) :
    Ends (Value.moreMembers members ++ rest) := by
  cases members with
  | nil => exact ends_cons _ (by decide)
  | cons member members =>
    obtain ⟨name, value⟩ := member
    rw [Value.moreMembers, List.cons_append]
    exact ends_cons _ (by decide)

/-! ### Objects -/

omit [NumberFormat N] in
theorem assemble_of_nodup {members : List (Text × Value N)}
    (distinct : (members.map (·.1)).Nodup) : assemble members = .object members := by
  suffices folded : ∀ made : List (Text × Value N), ((made ++ members).map (·.1)).Nodup →
      members.foldl defineMember made = made ++ members by
    rw [assemble, folded [] distinct, List.nil_append]
  clear distinct
  induction members with
  | nil => exact fun made _ => (List.append_nil made).symm
  | cons member members ih =>
    intro made distinct
    have fresh : member.1 ∉ made.map (·.1) := by
      rw [List.map_append, List.map_cons] at distinct
      exact fun mem => (List.nodup_append'.mp distinct).2.2 mem List.mem_cons_self
    rw [List.foldl_cons, defineMember, if_neg fresh, ih, List.append_assoc]
    · rfl
    · simpa using distinct

/-! ### Reading a value -/

variable {strict : Bool} {fuel : Nat}

theorem readValue_quote (text rest : Text) :
    readValue (N := N) strict (fuel + 1) (quote text ++ rest) = .ok (.string text, rest) := by
  rw [readValue, (quote_starts text).skip, quote, List.cons_append, List.append_assoc]
  simp only [List.cons_append, List.nil_append, if_neg (show unit '"' ≠ unit '\x7b' by decide),
    if_neg (show unit '"' ≠ unit '[' by decide), if_pos, readString_escaped]
  rfl

omit [NumberFormat N] in
theorem readLiteral_append (word : String) (value : Value N) (rest : Text) :
    readLiteral word value (ofString word ++ rest) = .ok (value, rest) := by
  rw [readLiteral, if_pos (List.prefix_append ..), List.drop_left]

/-- What a numeral begins with begins nothing else. -/
theorem numeral_unit {u : CodeUnit} (first : u = unit '-' ∨ ∃ d : Digit, u = d.unit) :
    u ≠ unit '\x7b' ∧ u ≠ unit '[' ∧ u ≠ unit '"' ∧ u ≠ unit 't' ∧ u ≠ unit 'f' ∧
      u ≠ unit 'n' := by
  have digits : ∀ d : Digit, d.unit ≠ unit '\x7b' ∧ d.unit ≠ unit '[' ∧ d.unit ≠ unit '"' ∧
      d.unit ≠ unit 't' ∧ d.unit ≠ unit 'f' ∧ d.unit ≠ unit 'n' := by decide
  rcases first with rfl | ⟨d, rfl⟩
  · decide
  · exact digits d

theorem readValue_numeral (n : Numeral) {rest : Text} (ends : Ends rest) :
    readValue (N := N) strict (fuel + 1) (n.text ++ rest) =
      .ok (.number (NumberFormat.read n), rest) := by
  obtain ⟨u, more, is, first⟩ := n.head
  obtain ⟨brace, bracket, mark, true_, false_, null_⟩ := numeral_unit first
  rw [readValue, n.starts.skip, is, List.cons_append]
  simp only [if_neg brace, if_neg bracket, if_neg mark, if_neg true_, if_neg false_,
    if_neg null_]
  rw [← List.cons_append, ← is, readNumber, readNumeral_text n ends]

theorem skip_close {c : Char} (rest : Text) (notSpace : isSpace (unit c) = false) :
    skipWhitespace ([unit c] ++ rest) = unit c :: rest := by
  simp [skipWhitespace, notSpace]

theorem readValue_array {items : List (Value N)} {rest : Text}
    (reads : items ≠ [] → readItems strict fuel (Value.itemsText items ++ rest) =
      .ok (items, rest)) :
    readValue strict (fuel + 1) ((Value.array items).text ++ rest) = .ok (.array items, rest) := by
  rw [readValue, (Value.text_starts _).skip, Value.text, List.cons_append]
  simp only [if_neg (show unit '[' ≠ unit '\x7b' by decide), if_pos]
  cases items with
  | nil =>
    rw [Value.itemsText, skip_close _ (by decide)]
    rfl
  | cons item more =>
    have read := reads (by simp)
    rw [Value.itemsText, List.append_assoc] at read ⊢
    rw [item.text_starts.skip]
    obtain ⟨u, after, is, -, bracket, -⟩ := item.text_starts
    rw [is, List.cons_append] at read ⊢
    simp only [if_neg bracket, read]
    rfl

theorem readValue_object {members : List (Text × Value N)} {rest : Text}
    (distinct : (members.map (·.1)).Nodup)
    (reads : members ≠ [] → readMembers strict fuel [] (Value.membersText members ++ rest) =
      .ok (members, rest)) :
    readValue strict (fuel + 1) ((Value.object members).text ++ rest) =
      .ok (.object members, rest) := by
  rw [readValue, (Value.text_starts _).skip, Value.text, List.cons_append]
  simp only [if_pos]
  cases members with
  | nil =>
    rw [Value.membersText, skip_close _ (by decide)]
    rfl
  | cons member more =>
    obtain ⟨name, value⟩ := member
    have read := reads (by simp)
    rw [Value.membersText, List.append_assoc] at read ⊢
    rw [(quote_starts name).skip]
    obtain ⟨u, after, is, -, -, brace⟩ := quote_starts name
    rw [is, List.cons_append] at read ⊢
    simp only [if_neg brace, read]
    exact congrArg (fun v => Except.ok (v, rest)) (assemble_of_nodup distinct)

mutual

/-- A plain value is read back off its text, by a strict reader as by one that is not. -/
theorem readValue_text : ∀ (v : Value N) (fuel : Nat) (rest : Text), v.Plain →
    v.distinct = true → Ends rest → v.text.length ≤ fuel →
    readValue strict fuel (v.text ++ rest) = .ok (v, rest)
  | v, 0, rest, _, _, _, enough => by
    have some := v.text_starts.length_pos
    omega
  | .undefined, _ + 1, _, plain, _, _, _ => plain.elim
  | .bigint _, _ + 1, _, plain, _, _, _ => plain.elim
  | .null, fuel + 1, rest, _, _, _, _ => by
    rw [readValue, (Value.text_starts _).skip, Value.text]
    exact readLiteral_append "null" .null rest
  | .bool b, fuel + 1, rest, _, _, _, _ => by
    rw [readValue, (Value.text_starts _).skip, Value.text]
    cases b with
    | true => exact readLiteral_append "true" (.bool true) rest
    | false => exact readLiteral_append "false" (.bool false) rest
  | .number n, fuel + 1, rest, plain, _, ends, _ => by
    rw [Value.text, if_pos plain.1, readValue_numeral _ ends, read_write n plain.1, plain.2]
  | .string s, fuel + 1, rest, _, _, _, _ => readValue_quote s rest
  | .array items, fuel + 1, rest, plain, distinct, _, enough => by
    refine readValue_array fun some => ?_
    rw [Value.text, List.length_cons] at enough
    exact readItems_text items fuel rest some plain distinct (by omega)
  | .object members, fuel + 1, rest, plain, distinct, _, enough => by
    simp only [Value.distinct, Bool.and_eq_true, decide_eq_true_eq] at distinct
    rw [Value.text, List.length_cons] at enough
    refine readValue_object distinct.1 fun some => ?_
    exact readMembers_text members fuel [] rest some plain distinct.2 distinct.1 (by simp)
      (by omega)

theorem readItems_text : ∀ (items : List (Value N)) (fuel : Nat) (rest : Text), items ≠ [] →
    Value.PlainItems items → Value.distinctItems items = true →
    (Value.itemsText items).length ≤ fuel →
    readItems strict fuel (Value.itemsText items ++ rest) = .ok (items, rest)
  | [], _, _, nonempty, _, _, _ => (nonempty rfl).elim
  | item :: more, 0, _, _, _, _, enough => by
    have some := item.text_starts.length_pos
    rw [Value.itemsText, List.length_append] at enough
    omega
  | item :: more, fuel + 1, rest, _, plain, distinct, enough => by
    simp only [Value.distinctItems, Bool.and_eq_true] at distinct
    rw [Value.itemsText, List.length_append] at enough
    have after : 0 < (Value.moreItems more).length := by cases more <;> simp [Value.moreItems]
    have read := readValue_text item fuel (Value.moreItems more ++ rest) plain.1 distinct.1
      (moreItems_ends _ _) (by omega)
    rw [Value.itemsText, List.append_assoc, readItems, read]
    cases more with
    | nil => rfl
    | cons next more =>
      have following : Value.moreItems (next :: more) =
        unit ',' :: Value.itemsText (next :: more) := rfl
      have items := readItems_text (next :: more) fuel rest (by simp) plain.2 distinct.2
        (by rw [following, List.length_cons] at enough; omega)
      simp only [following, List.cons_append, bind, Except.bind,
        skipWhitespace_cons _ (show isSpace (unit ',') = false by decide), if_pos, items]
      rfl

theorem readMembers_text : ∀ (members : List (Text × Value N)) (fuel : Nat) (seen : List Text)
    (rest : Text), members ≠ [] → Value.PlainMembers members →
    Value.distinctMembers members = true → (members.map (·.1)).Nodup →
    (∀ name ∈ members.map (·.1), name ∉ seen) → (Value.membersText members).length ≤ fuel →
    readMembers strict fuel seen (Value.membersText members ++ rest) = .ok (members, rest)
  | [], _, _, _, nonempty, _, _, _, _, _ => (nonempty rfl).elim
  | (name, value) :: more, 0, _, _, _, _, _, _, _, enough => by
    have some := (quote_starts name).length_pos
    rw [Value.membersText, List.length_append] at enough
    omega
  | (name, value) :: more, fuel + 1, seen, rest, _, plain, distinct, nodup, fresh, enough => by
    simp only [Value.distinctMembers, Bool.and_eq_true] at distinct
    rw [Value.membersText, List.length_append, List.length_cons, List.length_append] at enough
    have before := (quote_starts name).length_pos
    have after : 0 < (Value.moreMembers more).length := by
      cases more <;> simp [Value.moreMembers]
    have unseen : ¬(strict = true ∧ name ∈ seen) := fun ⟨_, mem⟩ =>
      fresh name (by simp) mem
    have read := readValue_text value fuel (Value.moreMembers more ++ rest) plain.1 distinct.1
      (moreMembers_ends _ _) (by omega)
    rw [Value.membersText, List.append_assoc, readMembers, (quote_starts name).skip, quote]
    simp only [List.cons_append, List.append_assoc, List.nil_append, ne_eq, not_true_eq_false,
      if_false, readString_escaped, bind, Except.bind, if_neg unseen,
      skipWhitespace_cons _ (show isSpace (unit ':') = false by decide), expect, if_true, read]
    cases more with
    | nil => rfl
    | cons next more =>
      have following : Value.moreMembers (next :: more) =
        unit ',' :: Value.membersText (next :: more) := rfl
      have members := readMembers_text (next :: more) fuel (name :: seen) rest (by simp) plain.2
        distinct.2 (List.nodup_cons.mp nodup).2
        (fun other mem => by
          simp only [List.mem_cons, not_or]
          refine ⟨fun same => (List.nodup_cons.mp nodup).1 (same ▸ mem), ?_⟩
          exact fresh other (List.mem_cons_of_mem _ mem))
        (by rw [following, List.length_cons] at enough; omega)
      simp only [following, List.cons_append,
        skipWhitespace_cons _ (show isSpace (unit ',') = false by decide), if_pos, members]
      rfl

end

/-! ### Whole texts -/

/-- The value a text is, if it is one. -/
def readText (strict : Bool) (text : Text) : Except Failure (Value N) := do
  let (value, rest) ← readValue strict (text.length + 1) text
  match skipWhitespace rest with
  | [] => return value
  | u :: rest =>
    .error { message := ofString "trailing content after the JSON value", rest := u :: rest }

/-- `JSON.parse(text)`, where it does not throw. -/
def parseJson (text : Text) : Option (Value N) := (readText false text).toOption

theorem readText_text {v : Value N} (plain : v.Plain) (distinct : v.distinct = true) :
    readText strict v.text = .ok v := by
  have read : readValue strict (v.text.length + 1) (v.text ++ []) = .ok (v, []) :=
    readValue_text v _ [] plain distinct rfl (by omega)
  rw [List.append_nil] at read
  rw [readText, read]
  rfl

theorem parseJson_text {v : Value N} (plain : v.Plain) (distinct : v.distinct = true) :
    parseJson v.text = some v := by
  rw [parseJson, readText_text plain distinct]
  rfl

/-- Plain values with one text are one value. -/
theorem Value.text_injective {v w : Value N} (plain : v.Plain) (plain' : w.Plain)
    (distinct : v.distinct = true) (distinct' : w.distinct = true) (same : v.text = w.text) :
    v = w := by
  have read := parseJson_text plain distinct
  rw [same, parseJson_text plain' distinct'] at read
  exact (Option.some.inj read).symm

end Text

end Js
