import InrSettle.Library.JsBigInt
import InrSettle.Library.JsValue

/-!
# Conversions of values

What `String`, `Number` and `BigInt` make of a value that was read, and the members of a
value.
-/

namespace Js

open NumberFormat

variable {N : Type} [NumberFormat N]

/-! ### Strings -/

/-- `n.toString()`. -/
def numberText (n : N) : Text :=
  match special n with
  | some special => special.text
  | none => (write n).text

/-- An object that was read has a member of this name, which is no function. -/
def hidesMethod (name : String) (members : List (Text × Value N)) : Bool :=
  decide (ofString name ∈ members.map (·.1))

mutual

/-- `String(value)`; nothing where it throws. -/
def stringOf : Value N → Option Text
  | .undefined => some (ofString "undefined")
  | .null => some (ofString "null")
  | .bool value => some (ofString (if value then "true" else "false"))
  | .number value => some (numberText value)
  | .bigint value => some (decimal value)
  | .string value => some value
  | .array items => (stringsOf items).map joined
  | .object members =>
    if hidesMethod "toString" members then none else some (ofString "[object Object]")

/-- The texts `items.join(',')` joins. -/
def stringsOf : List (Value N) → Option (List Text)
  | [] => some []
  | item :: rest => do
    let text ← match item with
      | .undefined | .null => some []
      | item => stringOf item
    let texts ← stringsOf rest
    return text :: texts

end

/-! ### Numbers -/

/-- Digits without the zeros in front. -/
def wholeOf (digits : List Digit) : List Digit :=
  match digits.dropWhile (· = 0) with
  | [] => [0]
  | d :: ds => d :: ds

theorem wholeOf_ok (digits : List Digit) :
    wholeOf digits = [0] ∨ (wholeOf digits).head?.any (· ≠ 0) = true := by
  rw [wholeOf]
  cases kept : digits.dropWhile (· = 0) with
  | nil => exact .inl rfl
  | cons d ds =>
    have first := List.head?_dropWhile_not (fun d : Digit => decide (d = 0)) digits
    rw [kept] at first
    exact .inr (by simpa using first)

/-- The number of a decimal literal. -/
def ofDecimal (negative : Bool) (whole fraction : List Digit) (exponent : Option (Bool × List Digit)) :
    N :=
  if ok : exponent.all (fun e => !e.2.isEmpty) = true then
    read ⟨negative, wholeOf whole, fraction, exponent, wholeOf_ok whole, ok⟩
  else ofSpecial .nan

/-- `Number(n)` of a bigint. -/
def numberOfInt (n : Int) : N :=
  ofDecimal (decide (n < 0)) (readDigits ((Nat.toDigits 10 n.natAbs).map unit)).1 [] none

/-- A decimal literal, which may begin or end with its point. -/
def numberOfDecimal (text : Text) : N :=
  let (negative, text) := readSign text
  if text = ofString "Infinity" then ofSpecial (if negative then .minusInfinity else .infinity)
  else
    let (whole, text) := readDigits text
    let (fraction, text) := readFraction text
    let (exponent, text) := readExponent text
    if text = [] ∧ whole ++ fraction.getD [] ≠ [] then
      ofDecimal negative whole (fraction.getD []) exponent
    else ofSpecial .nan

/-- `Number(text)`. -/
def numberOfText (text : Text) : N :=
  match trim text with
  | [] => numberOfInt 0
  | zero :: letter :: digits =>
    match (if zero = unit '0' then baseOf letter else none) with
    | some base => ((readNat base digits).map fun n => numberOfInt n).getD (ofSpecial .nan)
    | none => numberOfDecimal (zero :: letter :: digits)
  | text => numberOfDecimal text

/-- `Number(value)`; nothing where it throws. -/
def numberOf : Value N → Option N
  | .undefined => some (ofSpecial .nan)
  | .null => some (numberOfInt 0)
  | .bool value => some (numberOfInt (if value then 1 else 0))
  | .number value => some value
  | .bigint value => some (numberOfInt value)
  | .string value => some (numberOfText value)
  | .array items => (stringOf (.array items)).map numberOfText
  | .object members =>
    if hidesMethod "toString" members then none else some (ofSpecial .nan)

/-! ### Members -/

/-- `value[name]`, for a name that neither an array nor a prototype has; nothing where it throws. -/
def memberOf (name : String) : Value N → Option (Value N)
  | .undefined | .null => none
  | .object members => some ((members.lookup (ofString name)).getD .undefined)
  | .bool _ | .number _ | .bigint _ | .string _ | .array _ => some .undefined

/-- The items that `value.map` goes over; nothing where it throws. -/
def itemsOf : Value N → Option (List (Value N))
  | .array items => some items
  | .undefined | .null | .bool _ | .number _ | .bigint _ | .string _ | .object _ => none

end Js
