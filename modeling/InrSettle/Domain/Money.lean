import InrSettle.Library.Decimal
import InrSettle.Domain.Exceptions
import InrSettle.Domain.Liquidity

/-!
# Money

The closed set of currencies with their scales, integer texts, and money as every
surface displays it.
-/

namespace InrSettle

/-! ### Currencies -/

/-- The keys of `CURRENCIES`. -/
inductive CurrencyCode where
  | inr | usd | eur | gbp | aed | sgd | usdt | usdc
  deriving DecidableEq, Repr

namespace CurrencyCode

def wire : CurrencyCode → String
  | inr => "INR" | usd => "USD" | eur => "EUR" | gbp => "GBP" | aed => "AED" | sgd => "SGD"
  | usdt => "USDT" | usdc => "USDC"

def all : List CurrencyCode := [inr, usd, eur, gbp, aed, sgd, usdt, usdc]

end CurrencyCode

def scaleOf : CurrencyCode → Nat
  | .inr | .usd | .eur | .gbp | .aed | .sgd => 2
  | .usdt | .usdc => 6

/-- `isCurrencyCode`, with the code it finds. -/
def currencyCode? (text : String) : Option CurrencyCode :=
  CurrencyCode.all.find? fun code => code.wire == text

@[simp] theorem currencyCode_wire (code : CurrencyCode) : currencyCode? code.wire = some code := by
  cases code <;> decide

theorem wire_of_currencyCode {text : String} {code : CurrencyCode}
    (is : currencyCode? text = some code) : code.wire = text := by
  unfold currencyCode? at is
  simpa using List.find?_some is

theorem scaleOf_pos (code : CurrencyCode) : 0 < scaleOf code := by
  cases code <;> decide

/-- Money in one of the currencies. -/
structure Amount where
  currency : CurrencyCode
  minorUnits : Int
  deriving DecidableEq, Repr

def Amount.money (amount : Amount) : Money := ⟨amount.currency.wire, amount.minorUnits⟩

/-- An exact quantity smaller than one minor unit, as a decimal text in major units. -/
structure ExactAmount where
  currency : CurrencyCode
  amount : String
  deriving DecidableEq, Repr

/-- `EXACT_AMOUNT_SCALE`. -/
def exactAmountScale : Nat := 12

/-! ### Integer texts -/

/-- The digits of a radix other than ten. -/
def readRadix (radix : Nat) (text : List Char) : Option Nat :=
  if text = [] then none
  else text.foldlM (fun total c =>
    let digit := if c.isDigit then c.toNat - '0'.toNat
      else if 'a' ≤ c ∧ c ≤ 'f' then c.toNat - 'a'.toNat + 10
      else if 'A' ≤ c ∧ c ≤ 'F' then c.toNat - 'A'.toNat + 10
      else radix
    if digit < radix then some (total * radix + digit) else none) 0

/-- `BigInt(text)`; the source throws where it is none. -/
def bigInt (text : String) : Option Int :=
  match trim text with
  | [] => some 0
  | '0' :: 'x' :: digits | '0' :: 'X' :: digits => (readRadix 16 digits).map Int.ofNat
  | '0' :: 'o' :: digits | '0' :: 'O' :: digits => (readRadix 8 digits).map Int.ofNat
  | '0' :: 'b' :: digits | '0' :: 'B' :: digits => (readRadix 2 digits).map Int.ofNat
  | '-' :: digits => (Decimal.readDigits digits).map fun n => -Int.ofNat n
  | '+' :: digits => (Decimal.readDigits digits).map Int.ofNat
  | digits => (Decimal.readDigits digits).map Int.ofNat

theorem isSpace_of_isDigit {c : Char} (digit : c.isDigit = true) : isSpace c = false := by
  simp only [Char.isDigit, Bool.and_eq_true, decide_eq_true_eq, UInt32.le_iff_toNat_le] at digit
  have bounds : 48 ≤ c.toNat ∧ c.toNat ≤ 57 := digit
  simp only [isSpace, Bool.or_eq_false_iff, Bool.and_eq_false_iff, decide_eq_false_iff_not,
    beq_eq_false_iff_ne]
  omega

/-- A text that begins and ends with no space is trimmed to itself. -/
theorem trim_eq {text : String} (spaces : ∀ c ∈ text.toList, isSpace c = false) :
    trim text = text.toList := by
  have kept : ∀ chars : List Char, (∀ c ∈ chars, isSpace c = false) →
      chars.dropWhile isSpace = chars := by
    intro chars none
    cases chars with
    | nil => rfl
    | cons c rest => rw [List.dropWhile_cons, none c (by simp), if_neg (by simp)]
  rw [trim, kept _ spaces, kept _ (by simpa using spaces), List.reverse_reverse]

/-- A text of digits writes their number. -/
theorem bigInt_digits {text : String} {n : Nat} (reads : Decimal.readDigits text.toList = some n) :
    bigInt text = some (n : Int) := by
  have digits : text.toList ≠ [] ∧ ∀ c ∈ text.toList, c.isDigit = true := by
    unfold Decimal.readDigits at reads
    split at reads
    · rename_i both
      exact ⟨both.1, List.all_eq_true.mp both.2⟩
    · cases reads
  have trimmed := trim_eq fun c mem => isSpace_of_isDigit (digits.2 c mem)
  have digit : ∀ c, c ∈ text.toList → c.isDigit = true := digits.2
  unfold bigInt
  rw [trimmed]
  split
  · rename_i none
    exact (digits.1 none).elim
  case h_8 is => simp [is] at digit
  case h_9 is => simp [is] at digit
  case h_10 => rw [reads]; rfl
  all_goals
    rename_i is
    simp [is] at digit

theorem bigInt_neg_digits {text : String} {digits : List Char} {n : Nat}
    (is : text.toList = '-' :: digits) (reads : Decimal.readDigits digits = some n) :
    bigInt text = some (-(n : Int)) := by
  have each : ∀ c ∈ digits, c.isDigit = true := by
    unfold Decimal.readDigits at reads
    split at reads
    · rename_i both
      exact List.all_eq_true.mp both.2
    · cases reads
  have trimmed : trim text = text.toList := trim_eq fun c mem => by
    rw [is] at mem
    rcases List.mem_cons.mp mem with rfl | digit
    · rfl
    · exact isSpace_of_isDigit (each c digit)
  simp only [bigInt, trimmed, is, reads]
  rfl

/-- An integer's own text writes it. -/
theorem bigInt_toString (n : Int) : bigInt (toString n) = some n := by
  have reads : ∀ m : Nat, Decimal.readDigits (Nat.toDigits 10 m) = some m := fun m => by
    rw [Decimal.readDigits_of_digits Nat.toDigits_ne_nil fun c mem =>
      Nat.isDigit_of_mem_toDigits (by decide) (by decide) mem, Nat.ofDigitChars_ten_toDigits]
  cases n with
  | ofNat m =>
    refine bigInt_digits (n := m) ?_
    show Decimal.readDigits (Nat.repr m).toList = some m
    rw [Nat.toList_repr, reads]
  | negSucc m =>
    refine bigInt_neg_digits ?_ (reads (m + 1))
    show ("-" ++ Nat.repr (m + 1)).toList = _
    simp [Nat.toList_repr]

/-! ### Display -/

inductive NumberFormat where
  | international | indian
  deriving DecidableEq, Repr

/-- The digits before the point, grouped. -/
def groupWhole (format : NumberFormat) (whole : List Char) : List Char :=
  if format = .indian ∧ 3 < whole.length then
    let cut := whole.length - 3
    Decimal.grouped 2 (whole.take cut) ++ ',' :: whole.drop cut
  else Decimal.grouped 3 whole

/-- `formatMoney`, with the symbol. -/
def formatMoney (amount : Amount) (format : NumberFormat) : String :=
  let scale := scaleOf amount.currency
  let digits := Decimal.padStart (scale + 1) (Nat.toDigits 10 amount.minorUnits.natAbs)
  let (whole, fraction) := Decimal.split scale digits
  let body := groupWhole format whole ++ (if fraction = [] then [] else '.' :: fraction)
  let sign := if amount.minorUnits < 0 then ['-'] else []
  let before := if amount.currency = .inr then ['₹'] else []
  let after := if amount.currency = .inr then [] else ' ' :: amount.currency.wire.toList
  String.ofList (sign ++ before ++ body ++ after)

end InrSettle
