import InrSettle.Library.JsRoundTrip

/-!
# The grammar of JSON texts

Each part of the grammar relates a text that begins with such a part to the rest of the
text after it. The value of an object keeps its members as they are written, two of one
name too; `merged` is the value that is made of them.
-/

namespace Js

open NumberFormat

/-! ### White space -/

inductive Space : Text → Text → Prop
  | done (rest : Text) : Space rest rest
  | unit {u : CodeUnit} {text rest : Text} :
      u = unit ' ' ∨ u = unit '\t' ∨ u = unit '\n' ∨ u = unit '\r' → Space text rest →
      Space (u :: text) rest

theorem isSpace_iff {u : CodeUnit} :
    isSpace u = true ↔ u = unit ' ' ∨ u = unit '\t' ∨ u = unit '\n' ∨ u = unit '\r' := by
  simp [isSpace, or_assoc]

theorem Space.trans {text rest after : Text} (first : Space text rest) (second : Space rest after) :
    Space text after := by
  induction first with
  | done => exact second
  | unit space _ ih => exact .unit space (ih second)

theorem space_skipWhitespace (text : Text) : Space text (skipWhitespace text) := by
  induction text with
  | nil => exact .done []
  | cons u text ih =>
    cases space : isSpace u with
    | true =>
      have skipped : skipWhitespace (u :: text) = skipWhitespace text := by
        simp [skipWhitespace, space]
      rw [skipped]
      exact .unit (isSpace_iff.mp space) ih
    | false =>
      rw [skipWhitespace_cons text space]
      exact .done _

theorem Space.skip {text rest : Text} (space : Space text rest) :
    skipWhitespace text = skipWhitespace rest := by
  induction space with
  | done => rfl
  | unit is _ ih =>
    rw [← ih]
    simp [skipWhitespace, isSpace_iff.mpr is]

/-- White space up to a unit that is none is all that is skipped. -/
theorem Space.skip_cons {text rest : Text} {u : CodeUnit} (space : Space text (u :: rest))
    (notSpace : isSpace u = false) : skipWhitespace text = u :: rest :=
  space.skip.trans (skipWhitespace_cons rest notSpace)

theorem Space.length_le {text rest : Text} (space : Space text rest) : rest.length ≤ text.length := by
  induction space with
  | done => exact Nat.le_refl _
  | unit _ _ ih => exact Nat.le_succ_of_le ih

/-- No numeral goes on where white space or what follows it begins. -/
theorem Space.ends {text rest : Text} (space : Space text rest) (ends : Ends rest) : Ends text := by
  cases space with
  | done => exact ends
  | unit is _ => rcases is with rfl | rfl | rfl | rfl <;> exact ends_cons _ (by decide)

/-! ### Strings -/

/-- A letter after a backslash, and the unit it stands for. -/
inductive Escape : CodeUnit → CodeUnit → Prop
  | mark : Escape (unit '"') (unit '"')
  | backslash : Escape (unit '\\') (unit '\\')
  | slash : Escape (unit '/') (unit '/')
  | backspace : Escape (unit 'b') 8
  | formFeed : Escape (unit 'f') 12
  | lineFeed : Escape (unit 'n') 10
  | carriageReturn : Escape (unit 'r') 13
  | tab : Escape (unit 't') 9

/-- A hexadecimal digit and its value. -/
inductive HexDigit : CodeUnit → Nat → Prop
  | digit {u : CodeUnit} {n : Nat} : n < 10 → u.val = 48 + n → HexDigit u n
  | lower {u : CodeUnit} {n : Nat} : 10 ≤ n → n < 16 → u.val = 87 + n → HexDigit u n
  | upper {u : CodeUnit} {n : Nat} : 10 ≤ n → n < 16 → u.val = 55 + n → HexDigit u n

/-- The units of a string up to the mark that closes it, and what they stand for. -/
inductive StringAt : Text → Text → Text → Prop
  | close (rest : Text) : StringAt (unit '"' :: rest) [] rest
  | plain {u : CodeUnit} {text string rest : Text} :
      32 ≤ u.val → u ≠ unit '"' → u ≠ unit '\\' → StringAt text string rest →
      StringAt (u :: text) (u :: string) rest
  | escape {letter u : CodeUnit} {text string rest : Text} :
      Escape letter u → StringAt text string rest →
      StringAt (unit '\\' :: letter :: text) (u :: string) rest
  | unicode {a b c d u : CodeUnit} {k l m n : Nat} {text string rest : Text} :
      HexDigit a k → HexDigit b l → HexDigit c m → HexDigit d n →
      u.val = k * 4096 + l * 256 + m * 16 + n → StringAt text string rest →
      StringAt (unit '\\' :: unit 'u' :: a :: b :: c :: d :: text) (u :: string) rest

theorem unitFor_eq_some {letter u : CodeUnit} : unitFor letter = some u ↔ Escape letter u := by
  refine ⟨fun is => ?_, fun escape => by cases escape <;> rfl⟩
  unfold unitFor at is
  repeat'
    split at is
    · rename_i same
      subst same
      obtain rfl := Option.some.inj is
      constructor
  cases is

theorem hexValue_eq_some {u : CodeUnit} {n : Nat} : hexValue u = some n ↔ HexDigit u n := by
  have bound := u.isLt
  refine ⟨fun is => ?_, fun digit => ?_⟩
  · unfold hexValue at is
    split at is
    · obtain rfl := Option.some.inj is
      exact .digit (by omega) (by omega)
    split at is
    · obtain rfl := Option.some.inj is
      exact .lower (by omega) (by omega) (by omega)
    split at is
    · obtain rfl := Option.some.inj is
      exact .upper (by omega) (by omega) (by omega)
    · cases is
  · unfold hexValue
    cases digit with
    | digit small is =>
      rw [if_pos (by omega)]
      exact congrArg some (by omega)
    | lower large small is =>
      rw [if_neg (by omega), if_pos (by omega)]
      exact congrArg some (by omega)
    | upper large small is =>
      rw [if_neg (by omega), if_neg (by omega), if_pos (by omega)]
      exact congrArg some (by omega)

theorem HexDigit.lt {u : CodeUnit} {n : Nat} (digit : HexDigit u n) : n < 16 := by
  cases digit <;> omega

theorem hexValues_eq_some {a b c d u : CodeUnit} :
    hexValues a b c d = some u ↔ ∃ k l m n, HexDigit a k ∧ HexDigit b l ∧ HexDigit c m ∧
      HexDigit d n ∧ u.val = k * 4096 + l * 256 + m * 16 + n := by
  have value : ∀ {k l m n : Nat}, k < 16 → l < 16 → m < 16 → n < 16 →
      (Fin.ofNat 65536 (k * 4096 + l * 256 + m * 16 + n) = u ↔
        u.val = k * 4096 + l * 256 + m * 16 + n) := by
    intro k l m n _ _ _ _
    rw [Fin.ext_iff, Fin.val_ofNat]
    omega
  simp only [hexValues, Option.bind_eq_bind, Option.bind_eq_some_iff, Option.pure_def,
    Option.some.injEq, hexValue_eq_some]
  constructor
  · rintro ⟨k, first, l, second, m, third, n, fourth, is⟩
    exact ⟨k, l, m, n, first, second, third, fourth,
      (value first.lt second.lt third.lt fourth.lt).mp is⟩
  · rintro ⟨k, l, m, n, first, second, third, fourth, is⟩
    exact ⟨k, first, l, second, m, third, n, fourth,
      (value first.lt second.lt third.lt fourth.lt).mpr is⟩

theorem Read.cons_eq_ok {u : CodeUnit} {read : Read Text} {string rest : Text} :
    read.cons u = .ok (string, rest) ↔ ∃ more, read = .ok (more, rest) ∧ string = u :: more := by
  cases read with
  | error => simp [Read.cons, Except.map]
  | ok read =>
    obtain ⟨more, after⟩ := read
    simp only [Read.cons, Except.map, Except.ok.injEq, Prod.mk.injEq]
    constructor
    · rintro ⟨rfl, rfl⟩
      exact ⟨more, ⟨rfl, rfl⟩, rfl⟩
    · rintro ⟨_, ⟨rfl, rfl⟩, rfl⟩
      exact ⟨rfl, rfl⟩

/-- A string is read as the grammar has it, and no other is read. -/
theorem readString_eq_ok {text string rest : Text} :
    readString text = .ok (string, rest) ↔ StringAt text string rest := by
  refine ⟨fun read => ?_, fun at_ => ?_⟩
  · fun_induction readString text generalizing string with
    | case1 => cases read
    | case2 rest =>
      cases read
      exact .close _
    | case3 => cases read
    | case4 a b c d more v values _ ih =>
      obtain ⟨string, is, rfl⟩ := Read.cons_eq_ok.mp read
      obtain ⟨k, l, m, n, first, second, third, fourth, value⟩ := hexValues_eq_some.mp values
      exact .unicode first second third fourth value (ih is)
    | case5 => cases read
    | case6 => cases read
    | case7 letter rest other v stands _ ih =>
      obtain ⟨string, is, rfl⟩ := Read.cons_eq_ok.mp read
      exact .escape (unitFor_eq_some.mp stands) (ih is)
    | case8 => cases read
    | case9 => cases read
    | case10 u rest mark backslash printable ih =>
      obtain ⟨string, is, rfl⟩ := Read.cons_eq_ok.mp read
      exact .plain (Nat.le_of_not_lt printable) mark backslash (ih is)
  · induction at_ with
    | close rest => exact readString_mark rest
    | plain printable mark backslash _ ih =>
      rw [readString_plain _ mark backslash (Nat.not_lt.mpr printable), ih]
      rfl
    | escape stands _ ih =>
      have other : ∀ {letter u}, Escape letter u → letter ≠ unit 'u' := fun escape => by
        cases escape <;> decide
      rw [readString_letter _ (other stands) (unitFor_eq_some.mpr stands), ih]
      rfl
    | unicode first second third fourth value _ ih =>
      rw [readString_digits _ (hexValues_eq_some.mpr
        ⟨_, _, _, _, first, second, third, fourth, value⟩), ih]
      rfl

theorem StringAt.length_lt {text string rest : Text} (at_ : StringAt text string rest) :
    rest.length < text.length := by
  induction at_ <;> simp only [List.length_cons] at * <;> omega

/-! ### Numbers -/

inductive FractionAt : Text → List Digit → Text → Prop
  | absent (rest : Text) : FractionAt rest [] rest
  | digits {ds : List Digit} (rest : Text) : ds ≠ [] →
      FractionAt (unit '.' :: (ds.map Digit.unit ++ rest)) ds rest

inductive SignAt : Text → Bool → Text → Prop
  | absent (rest : Text) : SignAt rest false rest
  | plus (rest : Text) : SignAt (unit '+' :: rest) false rest
  | minus (rest : Text) : SignAt (unit '-' :: rest) true rest

inductive ExponentAt : Text → Option (Bool × List Digit) → Text → Prop
  | absent (rest : Text) : ExponentAt rest none rest
  | digits {mark : CodeUnit} {text : Text} {negative : Bool} {ds : List Digit} {rest : Text} :
      mark = unit 'e' ∨ mark = unit 'E' → SignAt text negative (ds.map Digit.unit ++ rest) →
      ds ≠ [] → ExponentAt (mark :: text) (some (negative, ds)) rest

/-- A number and its numeral; what stands before the point has no zero to begin with but its own. -/
inductive NumeralAt : Text → Numeral → Text → Prop
  | parts {n : Numeral} {text after rest : Text} :
      FractionAt text n.fraction after → ExponentAt after n.exponent rest →
      NumeralAt (signText n.negative ++ (n.whole.map Digit.unit ++ text)) n rest

theorem digitOf_eq_some {u : CodeUnit} {d : Digit} (is : digitOf u = some d) : u = d.unit := by
  unfold digitOf at is
  split at is
  · obtain rfl := Option.some.inj is
    rw [Fin.ext_iff, Digit.unit, Fin.val_ofNat, Fin.val_ofNat]
    omega
  · cases is

/-- The digits at the beginning of a text, and what is left. -/
theorem readDigits_eq (text : Text) :
    text = (readDigits text).1.map Digit.unit ++ (readDigits text).2 := by
  induction text with
  | nil => rfl
  | cons u rest ih =>
    rw [readDigits]
    cases is : digitOf u with
    | none => rfl
    | some d =>
      rw [List.map_cons, List.cons_append, ← ih, ← digitOf_eq_some is]

theorem readMinus_eq (text : Text) : text = signText (readMinus text).1 ++ (readMinus text).2 := by
  cases text with
  | nil => rfl
  | cons u rest =>
    rw [readMinus]
    split
    · rename_i is
      rw [is]
      rfl
    · rfl

theorem fractionAt_readFraction {text : Text}
    (some_ : (readFraction text).1.all (fun ds => !ds.isEmpty) = true) :
    FractionAt text ((readFraction text).1.getD []) (readFraction text).2 := by
  cases text with
  | nil => exact .absent []
  | cons u rest =>
    rw [readFraction] at some_ ⊢
    split at some_ <;> rename_i is
    · rw [if_pos is, is]
      have split := readDigits_eq rest
      have digits : (readDigits rest).1 ≠ [] := by simpa using some_
      have at_ := FractionAt.digits (readDigits rest).2 digits
      rwa [← split] at at_
    · rw [if_neg is]
      exact .absent _

theorem signAt_readSign (text : Text) : SignAt text (readSign text).1 (readSign text).2 := by
  cases text with
  | nil => exact .absent []
  | cons u rest =>
    rw [readSign]
    split
    · rename_i is
      rw [is]
      exact .minus rest
    · split
      · rename_i is
        rw [is]
        exact .plus rest
      · exact .absent _

theorem exponentAt_readExponent {text : Text}
    (some_ : (readExponent text).1.all (fun e => !e.2.isEmpty) = true) :
    ExponentAt text (readExponent text).1 (readExponent text).2 := by
  cases text with
  | nil => exact .absent []
  | cons u rest =>
    rw [readExponent] at some_ ⊢
    split at some_ <;> rename_i is
    · rw [if_pos is]
      have sign := signAt_readSign rest
      rw [readDigits_eq (readSign rest).2] at sign
      exact .digits is sign (by simpa using some_)
    · rw [if_neg is]
      exact .absent _

theorem numeralAt_of_read {text rest : Text} {n : Numeral}
    (read : readNumeral text = some (n, rest)) : NumeralAt text n rest := by
  have minus := readMinus_eq text
  have whole := readDigits_eq (readMinus text).2
  simp only [readNumeral] at read
  split at read
  · rename_i ok
    obtain ⟨rfl, rfl⟩ := Prod.mk.inj (Option.some.inj read)
    have parts := NumeralAt.parts (n := ⟨(readMinus text).1, (readDigits (readMinus text).2).1, _, _,
      ok.1, ok.2.2⟩) (fractionAt_readFraction ok.2.1) (exponentAt_readExponent ok.2.2)
    rwa [← whole, ← minus] at parts
  · cases read

theorem ends_digit {rest : Text} (ends : Ends rest) :
    rest.head?.all (fun u => (digitOf u).isNone) = true := by
  cases rest with
  | nil => rfl
  | cons u rest =>
    simp only [Ends, goesOn, List.head?_cons, Option.all_some, Bool.not_eq_true',
      Bool.or_eq_false_iff] at ends ⊢
    simpa using ends.1.1.1

theorem readExponent_of_at {text rest : Text} {exponent : Option (Bool × List Digit)}
    (at_ : ExponentAt text exponent rest) (ends : Ends rest) :
    readExponent text = (exponent, rest) := by
  cases at_ with
  | absent => exact readExponent_append none ends
  | digits mark sign some_ =>
    rename_i mark' text negative ds
    obtain ⟨d, more, rfl⟩ := List.exists_cons_of_ne_nil some_
    have plain : ∀ d : Digit, d.unit ≠ unit '-' ∧ d.unit ≠ unit '+' := by decide
    have signed : readSign text = (negative, (d :: more).map Digit.unit ++ rest) := by
      cases sign with
      | absent =>
        rw [List.map_cons, List.cons_append, readSign, if_neg (plain d).1, if_neg (plain d).2]
      | plus => rw [readSign, if_neg (by decide), if_pos rfl]
      | minus => rw [readSign, if_pos rfl]
    rw [readExponent, if_pos mark, signed, readDigits_append _ (ends_digit ends)]

theorem exponentAt_stops {text rest : Text} {exponent : Option (Bool × List Digit)}
    (at_ : ExponentAt text exponent rest) (ends : Ends rest) :
    text.head?.all (fun u => (digitOf u).isNone && u != unit '.') = true := by
  cases at_ with
  | absent => exact exponentText_stops none ends
  | digits mark _ _ => rcases mark with rfl | rfl <;> rfl

theorem readFraction_of_at {text rest : Text} {ds : List Digit} (at_ : FractionAt text ds rest)
    (stops : rest.head?.all (fun u => (digitOf u).isNone && u != unit '.') = true) :
    readFraction text = (if ds = [] then none else some ds, rest) := by
  cases at_ with
  | absent => exact readFraction_append [] stops
  | digits rest some_ =>
    obtain ⟨d, more, rfl⟩ := List.exists_cons_of_ne_nil some_
    exact readFraction_append (d :: more) stops

theorem fractionAt_stops {text rest : Text} {ds : List Digit} (at_ : FractionAt text ds rest)
    (stops : rest.head?.all (fun u => (digitOf u).isNone && u != unit '.') = true) :
    text.head?.all (fun u => (digitOf u).isNone) = true := by
  cases at_ with
  | absent => exact fractionText_stops [] stops
  | digits => rfl

/-- A number is read to its end. -/
theorem readNumeral_of_at {text rest : Text} {n : Numeral} (at_ : NumeralAt text n rest)
    (ends : Ends rest) : readNumeral text = some (n, rest) := by
  obtain ⟨fraction, exponent⟩ := at_
  rename_i text after
  have stops := exponentAt_stops exponent ends
  have minus : (n.whole.map Digit.unit ++ text).head?.all (fun u => u ≠ unit '-') = true := by
    obtain ⟨d, ds, whole⟩ := List.exists_cons_of_ne_nil n.whole_ne_nil
    have other : ∀ d : Digit, Digit.unit d ≠ unit '-' := by decide
    simpa [whole] using other d
  simp only [readNumeral, readMinus_append n.negative minus,
    readDigits_append n.whole (fractionAt_stops fraction stops), readFraction_of_at fraction stops,
    readExponent_of_at exponent ends]
  have fractionOk : (if n.fraction = [] then none else some n.fraction).all
      (fun ds => !ds.isEmpty) = true := by
    cases n.fraction <;> rfl
  have fraction_eq : (if n.fraction = [] then none else some n.fraction).getD [] = n.fraction := by
    cases n.fraction <;> rfl
  rw [dif_pos ⟨n.wholeOk, fractionOk, n.exponentOk⟩]
  simp only [fraction_eq]

theorem NumeralAt.head {text rest : Text} {n : Numeral} (at_ : NumeralAt text n rest) :
    ∃ u more, text = u :: more ∧ (u = unit '-' ∨ ∃ d : Digit, u = d.unit) := by
  obtain ⟨_, _⟩ := at_
  obtain ⟨d, ds, whole⟩ := List.exists_cons_of_ne_nil n.whole_ne_nil
  cases negative : n.negative with
  | true => exact ⟨unit '-', _, rfl, .inl rfl⟩
  | false => exact ⟨d.unit, _, by rw [whole]; rfl, .inr ⟨d, rfl⟩⟩

theorem NumeralAt.length_lt {text rest : Text} {n : Numeral} (at_ : NumeralAt text n rest) :
    rest.length < text.length := by
  obtain ⟨fraction, exponent⟩ := at_
  have whole := List.length_pos_iff.mpr n.whole_ne_nil
  have first : ∀ {text rest : Text} {ds}, FractionAt text ds rest → rest.length ≤ text.length :=
    fun at_ => by cases at_ <;> simp; omega
  have sign : ∀ {text rest : Text} {negative}, SignAt text negative rest →
      rest.length ≤ text.length := fun at_ => by cases at_ <;> simp
  have second : ∀ {text rest : Text} {e}, ExponentAt text e rest → rest.length ≤ text.length := by
    intro text rest e at_
    cases at_ with
    | absent => exact Nat.le_refl _
    | digits _ signed _ =>
      have shorter := sign signed
      simp only [List.length_append, List.length_cons] at shorter ⊢
      omega
  have afterFraction := first fraction
  have afterExponent := second exponent
  simp only [List.length_append, List.length_map]
  omega

/-! ### Values -/

section Values

variable {N : Type}

mutual

/-- The value with one member for each name, the last one that has it. -/
def Value.merged : Value N → Value N
  | .array items => .array (mergedItems items)
  | .object members => assemble (mergedMembers members)
  | .undefined => .undefined
  | .null => .null
  | .bool b => .bool b
  | .number n => .number n
  | .bigint n => .bigint n
  | .string s => .string s

def mergedItems : List (Value N) → List (Value N)
  | [] => []
  | item :: rest => item.merged :: mergedItems rest

def mergedMembers : List (Text × Value N) → List (Text × Value N)
  | [] => []
  | (name, value) :: rest => (name, value.merged) :: mergedMembers rest

end

mutual

/-- Where no two members have one name, nothing is merged. -/
theorem merged_of_distinct : ∀ v : Value N, v.distinct = true → v.merged = v
  | .undefined, _ | .null, _ | .bool _, _ | .number _, _ | .bigint _, _ | .string _, _ => by
    rw [Value.merged]
  | .array items, distinct => by rw [Value.merged, mergedItems_of_distinct items distinct]
  | .object members, distinct => by
    simp only [Value.distinct, Bool.and_eq_true, decide_eq_true_eq] at distinct
    rw [Value.merged, mergedMembers_of_distinct members distinct.2, assemble_of_nodup distinct.1]

theorem mergedItems_of_distinct : ∀ items : List (Value N), Value.distinctItems items = true →
    mergedItems items = items
  | [], _ => rfl
  | item :: rest, distinct => by
    simp only [Value.distinctItems, Bool.and_eq_true] at distinct
    rw [mergedItems, merged_of_distinct item distinct.1, mergedItems_of_distinct rest distinct.2]

theorem mergedMembers_of_distinct : ∀ members : List (Text × Value N),
    Value.distinctMembers members = true → mergedMembers members = members
  | [], _ => rfl
  | (name, value) :: rest, distinct => by
    simp only [Value.distinctMembers, Bool.and_eq_true] at distinct
    rw [mergedMembers, merged_of_distinct value distinct.1,
      mergedMembers_of_distinct rest distinct.2]

end

variable [NumberFormat N]

mutual

/-- A value without the white space around it. -/
inductive ValueAt : Text → Value N → Text → Prop
  | null (rest : Text) : ValueAt (ofString "null" ++ rest) .null rest
  | bool (b : Bool) (rest : Text) :
      ValueAt (ofString (if b then "true" else "false") ++ rest) (.bool b) rest
  | number {text rest : Text} {n : Numeral} : NumeralAt text n rest →
      ValueAt text (.number (read n)) rest
  | string {text string rest : Text} : StringAt text string rest →
      ValueAt (unit '"' :: text) (.string string) rest
  | emptyArray {text rest : Text} : Space text (unit ']' :: rest) →
      ValueAt (unit '[' :: text) (.array []) rest
  | array {text rest : Text} {items : List (Value N)} : ItemsAt text items rest →
      ValueAt (unit '[' :: text) (.array items) rest
  | emptyObject {text rest : Text} : Space text (unit '\x7d' :: rest) →
      ValueAt (unit '\x7b' :: text) (.object []) rest
  | object {text rest : Text} {members : List (Text × Value N)} : MembersAt text members rest →
      ValueAt (unit '\x7b' :: text) (.object members) rest

/-- Items up to the bracket that closes the array. -/
inductive ItemsAt : Text → List (Value N) → Text → Prop
  | last {text start after rest : Text} {item : Value N} : Space text start →
      ValueAt start item after → Space after (unit ']' :: rest) → ItemsAt text [item] rest
  | more {text start after next rest : Text} {item : Value N} {items : List (Value N)} :
      Space text start → ValueAt start item after → Space after (unit ',' :: next) →
      ItemsAt next items rest → ItemsAt text (item :: items) rest

/-- Members up to the brace that closes the object. -/
inductive MembersAt : Text → List (Text × Value N) → Text → Prop
  | last {text quoted colon before start after rest name : Text} {value : Value N} :
      Space text (unit '"' :: quoted) → StringAt quoted name colon →
      Space colon (unit ':' :: before) → Space before start → ValueAt start value after →
      Space after (unit '\x7d' :: rest) → MembersAt text [(name, value)] rest
  | more {text quoted colon before start after next rest name : Text} {value : Value N}
      {members : List (Text × Value N)} :
      Space text (unit '"' :: quoted) → StringAt quoted name colon →
      Space colon (unit ':' :: before) → Space before start → ValueAt start value after →
      Space after (unit ',' :: next) → MembersAt next members rest →
      MembersAt text ((name, value) :: members) rest

end

/-- A whole text that is a value. -/
inductive Document : Text → Value N → Prop
  | text {text start after : Text} {value : Value N} : Space text start →
      ValueAt start value after → Space after [] → Document text value

theorem ItemsAt.space {text start rest : Text} {items : List (Value N)} (space : Space text start)
    (at_ : ItemsAt start items rest) : ItemsAt text items rest := by
  cases at_ with
  | last first item close => exact .last (space.trans first) item close
  | more first item comma others => exact .more (space.trans first) item comma others

theorem MembersAt.space {text start rest : Text} {members : List (Text × Value N)}
    (space : Space text start) (at_ : MembersAt start members rest) :
    MembersAt text members rest := by
  cases at_ with
  | last first name colon before value close =>
    exact .last (space.trans first) name colon before value close
  | more first name colon before value comma others =>
    exact .more (space.trans first) name colon before value comma others

mutual

theorem ValueAt.length_lt : ∀ {text rest : Text} {v : Value N}, ValueAt text v rest →
    rest.length < text.length
  | _, _, _, .null rest => by
    rw [List.length_append]
    exact Nat.lt_add_of_pos_left (by decide)
  | _, _, _, .bool b rest => by
    rw [List.length_append]
    exact Nat.lt_add_of_pos_left (by cases b <;> decide)
  | _, _, _, .number at_ => at_.length_lt
  | _, _, _, .string at_ => Nat.lt_succ_of_lt at_.length_lt
  | _, _, _, .emptyArray space => Nat.lt_succ_of_lt (Nat.lt_of_succ_le space.length_le)
  | _, _, _, .array at_ => Nat.lt_succ_of_lt at_.length_lt
  | _, _, _, .emptyObject space => Nat.lt_succ_of_lt (Nat.lt_of_succ_le space.length_le)
  | _, _, _, .object at_ => Nat.lt_succ_of_lt at_.length_lt

theorem ItemsAt.length_lt : ∀ {text rest : Text} {items : List (Value N)},
    ItemsAt text items rest → rest.length < text.length
  | _, _, _, .last first item close => by
    have a := first.length_le
    have b := item.length_lt
    have c := close.length_le
    rw [List.length_cons] at c
    omega
  | _, _, _, .more first item comma others => by
    have a := first.length_le
    have b := item.length_lt
    have c := comma.length_le
    have d := others.length_lt
    rw [List.length_cons] at c
    omega

theorem MembersAt.length_lt : ∀ {text rest : Text} {members : List (Text × Value N)},
    MembersAt text members rest → rest.length < text.length
  | _, _, _, .last first name colon before value close => by
    have a := first.length_le
    have b := name.length_lt
    have c := colon.length_le
    have d := before.length_le
    have e := value.length_lt
    have f := close.length_le
    simp only [List.length_cons] at a c f
    omega
  | _, _, _, .more first name colon before value comma others => by
    have a := first.length_le
    have b := name.length_lt
    have c := colon.length_le
    have d := before.length_le
    have e := value.length_lt
    have f := comma.length_le
    have g := others.length_lt
    simp only [List.length_cons] at a c f
    omega

end

theorem ValueAt.starts {text rest : Text} {v : Value N} (at_ : ValueAt text v rest) :
    Starts text := by
  cases at_ with
  | null => exact ⟨_, _, rfl, by decide⟩
  | bool b => cases b <;> exact ⟨_, _, rfl, by decide⟩
  | number at_ =>
    obtain ⟨u, more, rfl, rfl | ⟨d, rfl⟩⟩ := at_.head
    · exact ⟨_, _, rfl, by decide⟩
    · exact ⟨_, _, rfl, digit_starts d⟩
  | string | emptyArray | array | emptyObject | object => exact ⟨_, _, rfl, by decide⟩

theorem ValueAt.skip {text start rest : Text} {v : Value N} (space : Space text start)
    (at_ : ValueAt start v rest) : skipWhitespace text = start := by
  obtain ⟨u, more, rfl, notSpace, _⟩ := at_.starts
  exact space.skip_cons notSpace

/-- Items begin with a value, which is not the bracket that closes an array. -/
theorem ItemsAt.skip {text rest : Text} {items : List (Value N)} (at_ : ItemsAt text items rest) :
    ∃ u more, skipWhitespace text = u :: more ∧ u ≠ unit ']' ∧ ItemsAt (u :: more) items rest := by
  cases at_ with
  | last first item close =>
    obtain ⟨u, more, rfl, notSpace, bracket, _⟩ := item.starts
    exact ⟨u, more, first.skip_cons notSpace, bracket, .last (.done _) item close⟩
  | more first item comma others =>
    obtain ⟨u, more, rfl, notSpace, bracket, _⟩ := item.starts
    exact ⟨u, more, first.skip_cons notSpace, bracket, .more (.done _) item comma others⟩

theorem MembersAt.skip {text rest : Text} {members : List (Text × Value N)}
    (at_ : MembersAt text members rest) :
    ∃ more, skipWhitespace text = unit '"' :: more ∧ MembersAt (unit '"' :: more) members rest := by
  cases at_ with
  | last first name colon before value close =>
    exact ⟨_, first.skip_cons (by decide), .last (.done _) name colon before value close⟩
  | more first name colon before value comma others =>
    exact ⟨_, first.skip_cons (by decide), .more (.done _) name colon before value comma others⟩

end Values

end Js
