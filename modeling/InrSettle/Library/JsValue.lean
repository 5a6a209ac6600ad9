import InrSettle.Library.JsNumber

/-!
# Values and their JSON texts

What data in JavaScript are made of, `JSON.stringify`, and the reader of JSON texts,
which either takes the last of two members with one name or refuses the second.
-/

namespace Js

open NumberFormat

/-- A value; the members of an object are in the order they were made in. -/
inductive Value (N : Type) where
  | undefined
  | null
  | bool (value : Bool)
  | number (value : N)
  | bigint (value : Int)
  | string (value : Text)
  | array (items : List (Value N))
  | object (members : List (Text × Value N))

namespace Value

variable {N : Type}

def isUndefined : Value N → Bool
  | undefined => true
  | null | bool _ | number _ | bigint _ | string _ | array _ | object _ => false

mutual

/-- No object in the value has two members with one name. -/
def distinct : Value N → Bool
  | undefined | null | bool _ | number _ | bigint _ | string _ => true
  | array items => distinctItems items
  | object members => decide (members.map (·.1)).Nodup && distinctMembers members

def distinctItems : List (Value N) → Bool
  | [] => true
  | item :: rest => item.distinct && distinctItems rest

def distinctMembers : List (Text × Value N) → Bool
  | [] => true
  | (_, value) :: rest => value.distinct && distinctMembers rest

end

variable [NumberFormat N]

mutual

/-- A value that a JSON text is read as: no `undefined`, no bigint, and numbers that are finite and
not -0. -/
def Plain : Value N → Prop
  | undefined | bigint _ => False
  | null | bool _ | string _ => True
  | number value => isFinite value = true ∧ unsigned value = value
  | array items => PlainItems items
  | object members => PlainMembers members

def PlainItems : List (Value N) → Prop
  | [] => True
  | item :: rest => item.Plain ∧ PlainItems rest

def PlainMembers : List (Text × Value N) → Prop
  | [] => True
  | (_, value) :: rest => value.Plain ∧ PlainMembers rest

end

/-! ### Writing -/

mutual

/-- `JSON.stringify(value)`, for a value without bigints and without `undefined` in its objects. -/
def text : Value N → Text
  | undefined | null | bigint _ => ofString "null"
  | bool value => ofString (if value then "true" else "false")
  | number value => if isFinite value then (write value).text else ofString "null"
  | string value => quote value
  | array items => unit '[' :: itemsText items
  | object members => unit '\x7b' :: membersText members

def itemsText : List (Value N) → Text
  | [] => [unit ']']
  | item :: rest => item.text ++ moreItems rest

def moreItems : List (Value N) → Text
  | [] => [unit ']']
  | item :: rest => unit ',' :: (item.text ++ moreItems rest)

def membersText : List (Text × Value N) → Text
  | [] => [unit '\x7d']
  | (name, value) :: rest => quote name ++ unit ':' :: (value.text ++ moreMembers rest)

def moreMembers : List (Text × Value N) → Text
  | [] => [unit '\x7d']
  | (name, value) :: rest =>
    unit ',' :: (quote name ++ unit ':' :: (value.text ++ moreMembers rest))

end

end Value

/-! ### Reading -/

def isSpace (u : CodeUnit) : Bool :=
  u == unit ' ' || u == unit '\t' || u == unit '\n' || u == unit '\r'

def skipWhitespace (text : Text) : Text := text.dropWhile isSpace

/-- The unit that has to be next. -/
def expect (c : Char) : Text → Except Failure Text
  | [] => .error { message := ofString "expected " ++ quote [unit c], rest := [] }
  | u :: rest =>
    if u = unit c then .ok rest
    else .error { message := ofString "expected " ++ quote [unit c], rest := u :: rest }

/-- `true`, `false` or `null`. -/
def readLiteral {N : Type} (word : String) (value : Value N) (text : Text) : Read (Value N) :=
  if ofString word <+: text then .ok (value, text.drop (ofString word).length)
  else fail ("expected " ++ word) text

variable {N : Type} [NumberFormat N]

def readNumber (text : Text) : Read (Value N) :=
  match readNumeral text with
  | some (numeral, rest) => .ok (.number (NumberFormat.read numeral), rest)
  | none => fail "malformed number" text

def duplicateKey (name rest : Text) : Failure where
  message := ofString "duplicate key " ++ quote name ++ ofString (" — a JSON object with the " ++
    "same key twice has no single meaning, and different parsers resolve it differently")
  rest := rest
  kind := .duplicateKey

/-- `Object.defineProperty`: a member with the name keeps its place. -/
def defineMember (members : List (Text × Value N)) (member : Text × Value N) :
    List (Text × Value N) :=
  if member.1 ∈ members.map (·.1) then
    members.map fun old => if old.1 = member.1 then member else old
  else members ++ [member]

/-- The object whose members were read in this order. -/
def assemble (members : List (Text × Value N)) : Value N :=
  .object (members.foldl defineMember [])

mutual

/-- The value next in the text. A strict reader refuses an object with two members of one name; each
call has fuel for the units it takes. -/
def readValue (strict : Bool) : Nat → Text → Read (Value N)
  | 0, text => fail "unexpected end of input" text
  | fuel + 1, text =>
    match skipWhitespace text with
    | [] => fail "unexpected end of input" []
    | u :: rest =>
      if u = unit '\x7b' then
        match skipWhitespace rest with
        | [] => (readMembers strict fuel [] []).map fun read => (assemble read.1, read.2)
        | v :: more =>
          if v = unit '\x7d' then .ok (.object [], more)
          else (readMembers strict fuel [] (v :: more)).map fun read => (assemble read.1, read.2)
      else if u = unit '[' then
        match skipWhitespace rest with
        | [] => (readItems strict fuel []).map fun read => (.array read.1, read.2)
        | v :: more =>
          if v = unit ']' then .ok (.array [], more)
          else (readItems strict fuel (v :: more)).map fun read => (.array read.1, read.2)
      else if u = unit '"' then (readString rest).map fun read => (.string read.1, read.2)
      else if u = unit 't' then readLiteral "true" (.bool true) (u :: rest)
      else if u = unit 'f' then readLiteral "false" (.bool false) (u :: rest)
      else if u = unit 'n' then readLiteral "null" .null (u :: rest)
      else readNumber (u :: rest)

/-- The items of an array, from the next one on. -/
def readItems (strict : Bool) : Nat → Text → Except Failure (List (Value N) × Text)
  | 0, text => fail "unexpected end of input" text
  | fuel + 1, text => do
    let (item, rest) ← readValue strict fuel text
    match skipWhitespace rest with
    | [] => fail "expected \",\" or \"]\"" []
    | u :: rest =>
      if u = unit ',' then
        let (items, rest) ← readItems strict fuel rest
        return (item :: items, rest)
      else if u = unit ']' then return ([item], rest)
      else fail "expected \",\" or \"]\"" (u :: rest)

/-- The members of an object, from the next one on, after members with these names. -/
def readMembers (strict : Bool) :
    Nat → List Text → Text → Except Failure (List (Text × Value N) × Text)
  | 0, _, text => fail "unexpected end of input" text
  | fuel + 1, seen, text => do
    match skipWhitespace text with
    | [] => fail "expected a quoted object key" []
    | u :: rest =>
      if u ≠ unit '"' then fail "expected a quoted object key" (u :: rest)
      else
        let (name, after) ← readString rest
        if strict = true ∧ name ∈ seen then .error (duplicateKey name (u :: rest))
        else
          let rest ← expect ':' (skipWhitespace after)
          let (value, rest) ← readValue strict fuel rest
          match skipWhitespace rest with
          | [] => fail "expected \",\" or \"\x7d\"" []
          | u :: rest =>
            if u = unit ',' then
              let (members, rest) ← readMembers strict fuel (name :: seen) rest
              return ((name, value) :: members, rest)
            else if u = unit '\x7d' then return ([(name, value)], rest)
            else fail "expected \",\" or \"\x7d\"" (u :: rest)

end

end Js
