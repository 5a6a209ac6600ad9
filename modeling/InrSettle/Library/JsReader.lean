import InrSettle.Library.JsGrammar

/-!
# The reader and the grammar

What is read is a value of the grammar, every value of the grammar is read, and the fuel
that a text needs is bounded by its length.
-/

namespace Js

open NumberFormat

section Reader

variable {N : Type} [NumberFormat N] {strict : Bool}

/-! ### What is read -/

/-- The value of the grammar behind one that was read. -/
def ReadsValue (strict : Bool) (text : Text) (v : Value N) (rest : Text) : Prop :=
  ∃ start written, Space text start ∧ ValueAt start written rest ∧ written.merged = v ∧
    (strict = true → written.distinct = true)

def ReadsItems (strict : Bool) (text : Text) (items : List (Value N)) (rest : Text) : Prop :=
  ∃ written, ItemsAt text written rest ∧ mergedItems written = items ∧
    (strict = true → Value.distinctItems written = true)

def ReadsMembers (strict : Bool) (seen : List Text) (text : Text) (members : List (Text × Value N))
    (rest : Text) : Prop :=
  ∃ written, MembersAt text written rest ∧ mergedMembers written = members ∧
    (strict = true → Value.distinctMembers written = true ∧ (written.map (·.1)).Nodup ∧
      ∀ name ∈ written.map (·.1), name ∉ seen)

theorem map_eq_ok {α β : Type} {f : α → β} {read : Except Failure α} {b : β} :
    read.map f = .ok b ↔ ∃ a, read = .ok a ∧ f a = b := by
  cases read <;> simp [Except.map]

theorem bind_eq_ok {α β : Type} {f : α → Except Failure β} {read : Except Failure α} {b : β} :
    read >>= f = .ok b ↔ ∃ a, read = .ok a ∧ f a = .ok b := by
  cases read <;> simp [bind, Except.bind]

omit [NumberFormat N] in
theorem readLiteral_eq_ok {word : String} {value v : Value N} {text rest : Text}
    (read : readLiteral word value text = .ok (v, rest)) : text = ofString word ++ rest ∧ v = value := by
  unfold readLiteral at read
  split at read
  · rename_i begins
    obtain ⟨after, rfl⟩ := begins
    rw [List.drop_left] at read
    cases read
    exact ⟨rfl, rfl⟩
  · cases read

theorem readNumber_eq_ok {v : Value N} {text rest : Text} (read : readNumber text = .ok (v, rest)) :
    ∃ n, NumeralAt text n rest ∧ v = .number (NumberFormat.read n) := by
  unfold readNumber at read
  split at read
  · rename_i n after is
    cases read
    exact ⟨n, numeralAt_of_read is, rfl⟩
  · cases read

theorem reads_of_at {text start rest : Text} {v : Value N} (space : Space text start)
    (at_ : ValueAt start v rest) (merged : v.merged = v) (distinct : v.distinct = true) :
    ReadsValue strict text v rest :=
  ⟨start, v, space, at_, merged, fun _ => distinct⟩

theorem readsArray {text inner rest : Text} {items : List (Value N)}
    (space : Space text (unit '[' :: inner)) (reads : ReadsItems strict inner items rest) :
    ReadsValue strict text (.array items) rest := by
  obtain ⟨written, at_, rfl, distinct⟩ := reads
  exact ⟨_, .array written, space, .array at_, by rw [Value.merged], fun is => by
    rw [Value.distinct, distinct is]⟩

theorem readsObject {text inner rest : Text} {members : List (Text × Value N)}
    (space : Space text (unit '\x7b' :: inner)) (reads : ReadsMembers strict [] inner members rest) :
    ReadsValue strict text (assemble members) rest := by
  obtain ⟨written, at_, rfl, distinct⟩ := reads
  exact ⟨_, .object written, space, .object at_, by rw [Value.merged], fun is => by
    rw [Value.distinct, (distinct is).1, decide_eq_true (distinct is).2.1, Bool.and_self]⟩

theorem ReadsItems.space {text start rest : Text} {items : List (Value N)}
    (space : Space text start) (reads : ReadsItems strict start items rest) :
    ReadsItems strict text items rest := by
  obtain ⟨written, at_, is⟩ := reads
  exact ⟨written, at_.space space, is⟩

theorem ReadsMembers.space {seen : List Text} {text start rest : Text}
    {members : List (Text × Value N)} (space : Space text start)
    (reads : ReadsMembers strict seen start members rest) :
    ReadsMembers strict seen text members rest := by
  obtain ⟨written, at_, is⟩ := reads
  exact ⟨written, at_.space space, is⟩

section Step

variable {fuel : Nat}

/-- With what less fuel reads known, what is read next is a value of the grammar. -/
theorem readValue_step
    (items : ∀ {text rest : Text} {items : List (Value N)},
      readItems strict fuel text = .ok (items, rest) → ReadsItems strict text items rest)
    (members : ∀ {seen : List Text} {text rest : Text} {members : List (Text × Value N)},
      readMembers strict fuel seen text = .ok (members, rest) →
        ReadsMembers strict seen text members rest)
    {text rest : Text} {v : Value N} (read : readValue strict (fuel + 1) text = .ok (v, rest)) :
    ReadsValue strict text v rest := by
  have space := space_skipWhitespace text
  rw [readValue] at read
  split at read
  · cases read
  rename_i u inner is
  rw [is] at space
  have innerSpace := space_skipWhitespace inner
  split at read
  · rename_i brace
    subst brace
    split at read
    · rename_i none
      rw [none] at innerSpace
      obtain ⟨made, reads, pair⟩ := map_eq_ok.mp read
      cases pair
      exact readsObject space ((members reads).space innerSpace)
    · rename_i v' more some_
      rw [some_] at innerSpace
      split at read
      · rename_i close
        subst close
        cases read
        exact reads_of_at space (.emptyObject innerSpace) (by rw [Value.merged]; rfl) rfl
      · obtain ⟨made, reads, pair⟩ := map_eq_ok.mp read
        cases pair
        exact readsObject space ((members reads).space innerSpace)
  split at read
  · rename_i bracket
    subst bracket
    split at read
    · rename_i none
      rw [none] at innerSpace
      obtain ⟨made, reads, pair⟩ := map_eq_ok.mp read
      cases pair
      exact readsArray space ((items reads).space innerSpace)
    · rename_i v' more some_
      rw [some_] at innerSpace
      split at read
      · rename_i close
        subst close
        cases read
        exact reads_of_at space (.emptyArray innerSpace) (by rw [Value.merged]; rfl) rfl
      · obtain ⟨made, reads, pair⟩ := map_eq_ok.mp read
        cases pair
        exact readsArray space ((items reads).space innerSpace)
  split at read
  · rename_i mark
    subst mark
    obtain ⟨made, reads, pair⟩ := map_eq_ok.mp read
    cases pair
    exact reads_of_at space (.string (readString_eq_ok.mp reads)) (by rw [Value.merged]) rfl
  split at read
  · obtain ⟨word, rfl⟩ := readLiteral_eq_ok read
    exact reads_of_at space (word ▸ .bool true rest) (by rw [Value.merged]) rfl
  split at read
  · obtain ⟨word, rfl⟩ := readLiteral_eq_ok read
    exact reads_of_at space (word ▸ .bool false rest) (by rw [Value.merged]) rfl
  split at read
  · obtain ⟨word, rfl⟩ := readLiteral_eq_ok read
    exact reads_of_at space (word ▸ .null rest) (by rw [Value.merged]) rfl
  · obtain ⟨n, at_, rfl⟩ := readNumber_eq_ok read
    exact reads_of_at space (.number at_) (by rw [Value.merged]) rfl

theorem readItems_step
    (value : ∀ {text rest : Text} {v : Value N},
      readValue strict fuel text = .ok (v, rest) → ReadsValue strict text v rest)
    (items : ∀ {text rest : Text} {items : List (Value N)},
      readItems strict fuel text = .ok (items, rest) → ReadsItems strict text items rest)
    {text rest : Text} {all : List (Value N)}
    (read : readItems strict (fuel + 1) text = .ok (all, rest)) : ReadsItems strict text all rest := by
  rw [readItems] at read
  obtain ⟨⟨item, after⟩, first, read⟩ := bind_eq_ok.mp read
  obtain ⟨start, written, space, at_, rfl, distinct⟩ := value first
  have following := space_skipWhitespace after
  dsimp only at read
  split at read
  · cases read
  rename_i u next is
  rw [is] at following
  split at read
  · rename_i comma
    subst comma
    obtain ⟨⟨others, last⟩, more, read⟩ := bind_eq_ok.mp read
    obtain ⟨writtens, others_at, rfl, distinctOthers⟩ := items more
    cases read
    refine ⟨written :: writtens, .more space at_ following others_at, by rw [mergedItems], ?_⟩
    exact fun is => by rw [Value.distinctItems, distinct is, distinctOthers is, Bool.and_self]
  split at read
  · rename_i bracket
    subst bracket
    cases read
    refine ⟨[written], .last space at_ following, by rw [mergedItems, mergedItems], fun is => ?_⟩
    rw [Value.distinctItems, distinct is]
    rfl
  · cases read

theorem expect_eq_ok {c : Char} {text rest : Text} (read : expect c text = .ok rest) :
    text = unit c :: rest := by
  cases text with
  | nil => cases read
  | cons u more =>
    rw [expect] at read
    split at read
    · rename_i is
      cases read
      rw [is]
    · cases read

theorem readMembers_step
    (value : ∀ {text rest : Text} {v : Value N},
      readValue strict fuel text = .ok (v, rest) → ReadsValue strict text v rest)
    (members : ∀ {seen : List Text} {text rest : Text} {members : List (Text × Value N)},
      readMembers strict fuel seen text = .ok (members, rest) →
        ReadsMembers strict seen text members rest)
    {seen : List Text} {text rest : Text} {all : List (Text × Value N)}
    (read : readMembers strict (fuel + 1) seen text = .ok (all, rest)) :
    ReadsMembers strict seen text all rest := by
  have space := space_skipWhitespace text
  rw [readMembers] at read
  split at read
  · cases read
  rename_i u quoted is
  rw [is] at space
  split at read
  · cases read
  rename_i mark
  obtain rfl := not_not.mp mark
  obtain ⟨⟨name, after⟩, string, read⟩ := bind_eq_ok.mp read
  have string := readString_eq_ok.mp string
  dsimp only at read
  split at read
  · cases read
  rename_i unseen
  obtain ⟨before, colon, read⟩ := bind_eq_ok.mp read
  have colonSpace := space_skipWhitespace after
  rw [expect_eq_ok colon] at colonSpace
  obtain ⟨⟨v, after⟩, first, read⟩ := bind_eq_ok.mp read
  obtain ⟨start, written, valueSpace, at_, rfl, distinct⟩ := value first
  have following := space_skipWhitespace after
  dsimp only at read
  split at read
  · cases read
  rename_i u next is
  rw [is] at following
  split at read
  · rename_i comma
    subst comma
    obtain ⟨⟨others, last⟩, more, read⟩ := bind_eq_ok.mp read
    obtain ⟨writtens, others_at, rfl, distinctOthers⟩ := members more
    cases read
    refine ⟨(name, written) :: writtens,
      .more space string colonSpace valueSpace at_ following others_at, by rw [mergedMembers],
      fun is => ?_⟩
    obtain ⟨each, nodup, fresh⟩ := distinctOthers is
    have notLater : name ∉ writtens.map (·.1) := fun mem => fresh name mem List.mem_cons_self
    refine ⟨by rw [Value.distinctMembers, distinct is, each, Bool.and_self],
      List.nodup_cons.mpr ⟨notLater, nodup⟩, fun other mem => ?_⟩
    rcases List.mem_cons.mp mem with rfl | mem
    · exact fun before => unseen ⟨is, before⟩
    · exact fun before => fresh other mem (List.mem_cons_of_mem _ before)
  split at read
  · rename_i brace
    subst brace
    cases read
    refine ⟨[(name, written)], .last space string colonSpace valueSpace at_ following,
      by rw [mergedMembers, mergedMembers], fun is => ?_⟩
    refine ⟨by rw [Value.distinctMembers, distinct is]; rfl, List.nodup_singleton _,
      fun other mem => ?_⟩
    obtain rfl := List.mem_singleton.mp mem
    exact fun before => unseen ⟨is, before⟩
  · cases read

end Step

/-- What is read is of the grammar, by induction on the fuel. -/
theorem reads (fuel : Nat) :
    (∀ {text rest : Text} {v : Value N}, readValue strict fuel text = .ok (v, rest) →
      ReadsValue strict text v rest) ∧
    (∀ {text rest : Text} {items : List (Value N)},
      readItems strict fuel text = .ok (items, rest) → ReadsItems strict text items rest) ∧
    ∀ {seen : List Text} {text rest : Text} {members : List (Text × Value N)},
      readMembers strict fuel seen text = .ok (members, rest) →
        ReadsMembers strict seen text members rest := by
  induction fuel with
  | zero =>
    refine ⟨fun read => ?_, fun read => ?_, fun read => ?_⟩
    · rw [readValue] at read
      cases read
    · rw [readItems] at read
      cases read
    · rw [readMembers] at read
      cases read
  | succ fuel ih =>
    obtain ⟨value, items, members⟩ := ih
    exact ⟨readValue_step items members, readItems_step value items,
      readMembers_step value members⟩

/-! ### What there is to read -/

theorem ends_of_space {text rest : Text} {u : CodeUnit} (space : Space text (u :: rest))
    (stops : goesOn u = false) : Ends text := space.ends (ends_cons rest stops)

omit [NumberFormat N] in
theorem readLiteral_ok (word : String) (value : Value N) (rest : Text) :
    readLiteral word value (ofString word ++ rest) = .ok (value, rest) := readLiteral_append word value rest

section Step

variable {fuel : Nat}

/-- What a value of the grammar is read as, with fuel for what it takes of the text. -/
def Complete (strict : Bool) (fuel : Nat) : Prop :=
  (∀ {text start rest : Text} {written : Value N}, Space text start → ValueAt start written rest →
    (strict = true → written.distinct = true) → Ends rest → start.length ≤ rest.length + fuel →
    readValue strict fuel text = .ok (written.merged, rest)) ∧
  (∀ {text rest : Text} {written : List (Value N)}, ItemsAt text written rest →
    (strict = true → Value.distinctItems written = true) → text.length ≤ rest.length + fuel →
    readItems strict fuel text = .ok (mergedItems written, rest)) ∧
  ∀ {seen : List Text} {text rest : Text} {written : List (Text × Value N)},
    MembersAt text written rest →
    (strict = true → Value.distinctMembers written = true ∧ (written.map (·.1)).Nodup ∧
      ∀ name ∈ written.map (·.1), name ∉ seen) → text.length ≤ rest.length + fuel →
    readMembers strict fuel seen text = .ok (mergedMembers written, rest)

theorem readValue_complete (less : Complete (N := N) strict fuel) {text start rest : Text}
    {written : Value N} (space : Space text start) (at_ : ValueAt start written rest)
    (distinct : strict = true → written.distinct = true) (ends : Ends rest)
    (enough : start.length ≤ rest.length + (fuel + 1)) :
    readValue strict (fuel + 1) text = .ok (written.merged, rest) := by
  obtain ⟨_, items, members⟩ := less
  rw [readValue, at_.skip space, Value.merged.eq_def]
  cases at_ with
  | null => exact readLiteral_append "null" .null rest
  | bool b =>
    cases b with
    | true => exact readLiteral_append "true" (.bool true) rest
    | false => exact readLiteral_append "false" (.bool false) rest
  | number at_ =>
    obtain ⟨u, more, rfl, first⟩ := at_.head
    obtain ⟨brace, bracket, mark, true_, false_, null_⟩ := numeral_unit first
    simp only [if_neg brace, if_neg bracket, if_neg mark, if_neg true_, if_neg false_,
      if_neg null_, readNumber, readNumeral_of_at at_ ends]
  | string at_ =>
    simp only [if_neg (show unit '"' ≠ unit '\x7b' by decide),
      if_neg (show unit '"' ≠ unit '[' by decide), if_pos, readString_eq_ok.mpr at_]
    rfl
  | emptyArray close =>
    simp only [if_neg (show unit '[' ≠ unit '\x7b' by decide), if_pos,
      close.skip_cons (show isSpace (unit ']') = false by decide)]
    rfl
  | array at_ =>
    obtain ⟨u, more, skip, bracket, trimmed⟩ := at_.skip
    have shorter := (space_skipWhitespace _).length_le.trans_eq' (congrArg List.length skip)
    have read := items trimmed distinct (by rw [List.length_cons] at enough; omega)
    simp only [if_neg (show unit '[' ≠ unit '\x7b' by decide), if_pos, skip, if_neg bracket, read]
    rfl
  | emptyObject close =>
    simp only [if_pos, close.skip_cons (show isSpace (unit '\x7d') = false by decide)]
    rfl
  | object at_ =>
    obtain ⟨more, skip, trimmed⟩ := at_.skip
    have shorter := (space_skipWhitespace _).length_le.trans_eq' (congrArg List.length skip)
    have read := members trimmed (fun is => by
      have both := distinct is
      rw [Value.distinct, Bool.and_eq_true, decide_eq_true_eq] at both
      exact ⟨both.2, both.1, fun _ _ => List.not_mem_nil⟩)
      (by rw [List.length_cons] at enough; omega)
    simp only [if_pos, skip, if_neg (show unit '"' ≠ unit '\x7d' by decide), read]
    rfl

theorem readItems_complete (less : Complete (N := N) strict fuel) {text rest : Text}
    {written : List (Value N)} (at_ : ItemsAt text written rest)
    (distinct : strict = true → Value.distinctItems written = true)
    (enough : text.length ≤ rest.length + (fuel + 1)) :
    readItems strict (fuel + 1) text = .ok (mergedItems written, rest) := by
  obtain ⟨value, items, _⟩ := less
  rw [readItems]
  cases at_ with
  | last first item close =>
    have longer := first.length_le
    have shorter := close.length_le
    rw [List.length_cons] at shorter
    have read := value first item (fun is => by simpa [Value.distinctItems] using distinct is)
      (ends_of_space close (by decide)) (by omega)
    simp only [read, bind, Except.bind, close.skip_cons (show isSpace (unit ']') = false by decide),
      if_neg (show unit ']' ≠ unit ',' by decide), if_pos]
    rfl
  | more first item comma others =>
    have longer := first.length_le
    have taken := item.length_lt
    have shorter := comma.length_le
    have after := others.length_lt
    rw [List.length_cons] at shorter
    have both := fun is => by simpa [Value.distinctItems] using distinct is
    have read := value first item (fun is => (both is).1) (ends_of_space comma (by decide)) (by omega)
    have more := items others (fun is => (both is).2) (by omega)
    simp only [read, bind, Except.bind, comma.skip_cons (show isSpace (unit ',') = false by decide),
      if_pos, more]
    rfl

theorem readMembers_complete (less : Complete (N := N) strict fuel) {seen : List Text}
    {text rest : Text} {written : List (Text × Value N)} (at_ : MembersAt text written rest)
    (distinct : strict = true → Value.distinctMembers written = true ∧
      (written.map (·.1)).Nodup ∧ ∀ name ∈ written.map (·.1), name ∉ seen)
    (enough : text.length ≤ rest.length + (fuel + 1)) :
    readMembers strict (fuel + 1) seen text = .ok (mergedMembers written, rest) := by
  obtain ⟨value, _, members⟩ := less
  rw [readMembers]
  cases at_ with
  | last first string colon before item close =>
    rename_i name value'
    have unseen : ¬ (strict = true ∧ name ∈ seen) := fun ⟨is, mem⟩ =>
      (distinct is).2.2 name List.mem_cons_self mem
    have a := first.length_le
    have b := string.length_lt
    have c := colon.length_le
    have d := before.length_le
    have e := close.length_le
    simp only [List.length_cons] at a c e
    have read := value before item (fun is => by
      simpa [Value.distinctMembers] using (distinct is).1) (ends_of_space close (by decide)) (by omega)
    simp only [first.skip_cons (show isSpace (unit '"') = false by decide), ne_eq,
      not_true_eq_false, if_false, readString_eq_ok.mpr string, bind, Except.bind, if_neg unseen,
      colon.skip_cons (show isSpace (unit ':') = false by decide), expect, if_true, read,
      close.skip_cons (show isSpace (unit '\x7d') = false by decide),
      if_neg (show unit '\x7d' ≠ unit ',' by decide)]
    rfl
  | more first string colon before item comma others =>
    rename_i name value' rest'
    have unseen : ¬ (strict = true ∧ name ∈ seen) := fun ⟨is, mem⟩ =>
      (distinct is).2.2 name List.mem_cons_self mem
    have a := first.length_le
    have b := string.length_lt
    have c := colon.length_le
    have d := before.length_le
    have e := item.length_lt
    have f := comma.length_le
    have g := others.length_lt
    simp only [List.length_cons] at a c f
    have read := value before item (fun is => by
      have each := (distinct is).1
      rw [Value.distinctMembers, Bool.and_eq_true] at each
      exact each.1) (ends_of_space comma (by decide)) (by omega)
    have more := members others (fun is => by
      obtain ⟨each, nodup, fresh⟩ := distinct is
      rw [Value.distinctMembers, Bool.and_eq_true] at each
      obtain ⟨notLater, nodup⟩ := List.nodup_cons.mp nodup
      refine ⟨each.2, nodup, fun other mem before => ?_⟩
      rcases List.mem_cons.mp before with rfl | before
      · exact notLater mem
      · exact fresh other (List.mem_cons_of_mem _ mem) before) (by omega)
    simp only [first.skip_cons (show isSpace (unit '"') = false by decide), ne_eq,
      not_true_eq_false, if_false, readString_eq_ok.mpr string, bind, Except.bind, if_neg unseen,
      colon.skip_cons (show isSpace (unit ':') = false by decide), expect, if_true, read,
      comma.skip_cons (show isSpace (unit ',') = false by decide), more]
    rfl

end Step

/-- Every value of the grammar is read, by induction on the fuel. -/
theorem complete (fuel : Nat) : Complete (N := N) strict fuel := by
  induction fuel with
  | zero =>
    refine ⟨fun _ at_ _ _ enough => ?_, fun at_ _ enough => ?_, fun at_ _ enough => ?_⟩
    all_goals
      have taken := at_.length_lt
      omega
  | succ fuel ih =>
    exact ⟨readValue_complete ih, readItems_complete ih, readMembers_complete ih⟩

/-! ### Enough fuel -/

/-- More fuel changes nothing where there are two of it for each unit of the text. -/
def Settled (strict : Bool) (fuel : Nat) : Prop :=
  (∀ text : Text, 2 * text.length + 1 ≤ fuel →
    readValue (N := N) strict (fuel + 1) text = readValue strict fuel text) ∧
  (∀ text : Text, 2 * text.length + 2 ≤ fuel →
    readItems (N := N) strict (fuel + 1) text = readItems strict fuel text) ∧
  ∀ (seen : List Text) (text : Text), 2 * text.length + 2 ≤ fuel →
    readMembers (N := N) strict (fuel + 1) seen text = readMembers strict fuel seen text

theorem length_skipWhitespace {text rest : Text} {u : CodeUnit}
    (is : skipWhitespace text = u :: rest) : rest.length < text.length := by
  have shorter := (space_skipWhitespace text).length_le
  rw [is, List.length_cons] at shorter
  omega

theorem length_of_read {fuel : Nat} {text rest : Text} {v : Value N}
    (read : readValue strict fuel text = .ok (v, rest)) : rest.length < text.length := by
  obtain ⟨start, written, space, at_, _⟩ := (reads fuel).1 read
  exact at_.length_lt.trans_le space.length_le

section Step

variable {fuel : Nat}

theorem readValue_settled (less : Settled (N := N) strict fuel) {text : Text}
    (enough : 2 * text.length + 1 ≤ fuel + 1) :
    readValue (N := N) strict (fuel + 2) text = readValue strict (fuel + 1) text := by
  obtain ⟨_, items, members⟩ := less
  rw [readValue, readValue]
  cases skip : skipWhitespace text with
  | nil => rfl
  | cons u rest =>
    have shorter := length_skipWhitespace skip
    dsimp only
    cases inner : skipWhitespace rest with
    | nil => rw [members [] [] (by simp; omega), items [] (by simp; omega)]
    | cons v more =>
      have within := (space_skipWhitespace rest).length_le
      rw [inner] at within
      dsimp only
      rw [members [] (v :: more) (by omega), items (v :: more) (by omega)]

theorem readItems_settled (less : Settled (N := N) strict fuel) {text : Text}
    (enough : 2 * text.length + 2 ≤ fuel + 1) :
    readItems (N := N) strict (fuel + 2) text = readItems strict (fuel + 1) text := by
  obtain ⟨value, items, _⟩ := less
  rw [readItems, readItems, value text (by omega)]
  cases read : readValue (N := N) strict fuel text with
  | error => rfl
  | ok made =>
    obtain ⟨item, rest⟩ := made
    have taken := length_of_read read
    simp only [bind, Except.bind]
    cases skip : skipWhitespace rest with
    | nil => rfl
    | cons u next =>
      have shorter := length_skipWhitespace skip
      dsimp only
      rw [items next (by omega)]

theorem readMembers_settled (less : Settled (N := N) strict fuel) {seen : List Text} {text : Text}
    (enough : 2 * text.length + 2 ≤ fuel + 1) :
    readMembers (N := N) strict (fuel + 2) seen text = readMembers strict (fuel + 1) seen text := by
  obtain ⟨value, _, members⟩ := less
  rw [readMembers, readMembers]
  cases skip : skipWhitespace text with
  | nil => rfl
  | cons u quoted =>
    have first := length_skipWhitespace skip
    dsimp only
    cases string : readString quoted with
    | error => rfl
    | ok made =>
      obtain ⟨name, after⟩ := made
      have second := (readString_eq_ok.mp string).length_lt
      simp only [bind, Except.bind]
      cases colon : expect ':' (skipWhitespace after) with
      | error => rfl
      | ok before =>
        have third := length_skipWhitespace (expect_eq_ok colon)
        dsimp only
        rw [value before (by omega)]
        cases read : readValue (N := N) strict fuel before with
        | error => rfl
        | ok made =>
          obtain ⟨v, rest⟩ := made
          have fourth := length_of_read read
          dsimp only
          cases following : skipWhitespace rest with
          | nil => rfl
          | cons u next =>
            have fifth := length_skipWhitespace following
            dsimp only
            rw [members (name :: seen) next (by omega)]

end Step

theorem settled (fuel : Nat) : Settled (N := N) strict fuel := by
  induction fuel with
  | zero => exact ⟨fun _ none => by omega, fun _ none => by omega, fun _ _ none => by omega⟩
  | succ fuel ih =>
    exact ⟨fun _ => readValue_settled ih, fun _ => readItems_settled ih,
      fun _ _ => readMembers_settled ih⟩

/-! ### Whole texts -/

/-- A whole text, read with this fuel. -/
def readDocument (strict : Bool) (fuel : Nat) (text : Text) : Except Failure (Value N) := do
  let (value, rest) ← readValue strict fuel text
  match skipWhitespace rest with
  | [] => return value
  | u :: rest =>
    .error { message := ofString "trailing content after the JSON value", rest := u :: rest }

theorem readDocument_eq_ok {fuel : Nat} {text : Text} (enough : text.length ≤ fuel) {v : Value N} :
    readDocument strict fuel text = .ok v ↔
      ∃ written, Document text written ∧ written.merged = v ∧
        (strict = true → written.distinct = true) := by
  constructor
  · intro read
    obtain ⟨⟨value, rest⟩, first, read⟩ := bind_eq_ok.mp read
    obtain ⟨start, written, space, at_, rfl, distinct⟩ := (reads fuel).1 first
    have after := space_skipWhitespace rest
    dsimp only at read
    split at read
    · rename_i none
      rw [none] at after
      cases read
      exact ⟨written, .text space at_ after, rfl, distinct⟩
    · cases read
  · rintro ⟨written, ⟨space, at_, after⟩, rfl, distinct⟩
    have longer := space.length_le
    have read := (complete fuel).1 space at_ distinct (after.ends rfl) (by omega)
    have end_ : skipWhitespace _ = [] := after.skip
    rw [readDocument, read]
    simp only [bind, Except.bind, end_]
    rfl

/-- The fuel that is enough for a text. -/
def fuelFor (text : Text) : Nat := 2 * text.length + 1

theorem readDocument_settled {text : Text} {fuel : Nat} (enough : fuelFor text ≤ fuel) :
    readDocument (N := N) strict fuel text = readDocument strict (fuelFor text) text := by
  induction fuel, enough using Nat.le_induction with
  | base => rfl
  | succ fuel enough ih =>
    rw [← ih, readDocument, readDocument, (settled fuel).1 text enough]

theorem readText_eq (strict : Bool) (text : Text) :
    readText (N := N) strict text = readDocument strict (text.length + 1) text := rfl

/-- `JSON.parse` takes the last of the members that have one name. -/
theorem parseJson_eq_some {text : Text} {v : Value N} :
    parseJson text = some v ↔ ∃ written, Document text written ∧ written.merged = v := by
  have read := @readDocument_eq_ok N _ false _ text (Nat.le_succ text.length) v
  rw [← readText_eq] at read
  have option : parseJson text = some v ↔ readText false text = .ok v := by
    rw [parseJson]
    cases readText (N := N) false text <;> simp [Except.toOption]
  rw [option, read]
  simp

end Reader

end Js
