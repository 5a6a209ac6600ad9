import InrSettle.Library.JsNumber

/-!
# Dates as texts

`toISOString` of a date, given in milliseconds since 1970, and the text without its
milliseconds.
-/

namespace Js

/-- The last digits of a number, `width` of them. -/
def lastDigits (width n : Nat) : Text :=
  (List.range width).reverse.map fun place => Digit.unit (Fin.ofNat 10 (n / 10 ^ place))

/-- Year, month and day of a day since 1970, in the proleptic Gregorian calendar; the years are
counted from March. -/
def civil (days : Nat) : Nat × Nat × Nat :=
  let shifted := days + 719468
  let ofEra := shifted % 146097
  let yearOfEra := (ofEra - ofEra / 1460 + ofEra / 36524 - ofEra / 146096) / 365
  let ofYear := ofEra - (365 * yearOfEra + yearOfEra / 4 - yearOfEra / 100)
  let march := (5 * ofYear + 2) / 153
  let month := if march < 10 then march + 3 else march - 9
  (yearOfEra + 400 * (shifted / 146097) + (if month ≤ 2 then 1 else 0), month,
    ofYear - (153 * march + 2) / 5 + 1)

def yearText (year : Nat) : Text :=
  if year ≤ 9999 then lastDigits 4 year else unit '+' :: lastDigits 6 year

/-- The date and the time, to the second. -/
def secondsText (seconds : Nat) : Text :=
  let (year, month, day) := civil (seconds / 86400)
  yearText year ++ unit '-' :: lastDigits 2 month ++ unit '-' :: lastDigits 2 day ++
    unit 'T' :: lastDigits 2 (seconds % 86400 / 3600) ++ unit ':' ::
    lastDigits 2 (seconds % 3600 / 60) ++ unit ':' :: lastDigits 2 (seconds % 60)

/-- `date.toISOString()`. -/
def toISOString (milliseconds : Nat) : Text :=
  secondsText (milliseconds / 1000) ++ unit '.' :: lastDigits 3 (milliseconds % 1000) ++ [unit 'Z']

/-- `text.replace(/\.\d{3}Z$/, 'Z')`. -/
def withoutMilliseconds (text : Text) : Text :=
  match text.reverse with
  | z :: c :: b :: a :: point :: rest =>
    if z = unit 'Z' ∧ (digitOf a).isSome ∧ (digitOf b).isSome ∧ (digitOf c).isSome ∧
        point = unit '.' then rest.reverse ++ [unit 'Z']
    else text
  | _ => text

theorem withoutMilliseconds_toISOString (milliseconds : Nat) :
    withoutMilliseconds (toISOString milliseconds) =
      secondsText (milliseconds / 1000) ++ [unit 'Z'] := by
  have reversed : (toISOString milliseconds).reverse =
      unit 'Z' :: Digit.unit (Fin.ofNat 10 (milliseconds % 1000 / 10 ^ 0)) ::
        Digit.unit (Fin.ofNat 10 (milliseconds % 1000 / 10 ^ 1)) ::
        Digit.unit (Fin.ofNat 10 (milliseconds % 1000 / 10 ^ 2)) :: unit '.' ::
        (secondsText (milliseconds / 1000)).reverse := by
    simp [toISOString, lastDigits, List.range_succ]
  rw [withoutMilliseconds, reversed]
  dsimp only
  rw [if_pos, List.reverse_reverse]
  simp only [digitOf_unit, Option.isSome_some, and_self]

/-- The milliseconds are always there to be left out. -/
theorem withoutMilliseconds_ne (milliseconds : Nat) :
    withoutMilliseconds (toISOString milliseconds) ≠ toISOString milliseconds := by
  intro same
  rw [withoutMilliseconds_toISOString] at same
  have lengths := congrArg List.length same
  simp [toISOString, lastDigits] at lengths

example : toISOString 1788134400123 = ofString "2026-08-31T00:00:00.123Z" := by decide +kernel

end Js
