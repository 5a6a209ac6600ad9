import InrSettle.Domain.Exceptions
import InrSettle.Domain.NameMatch
import InrSettle.Library.Json
import Mathlib

/-!
# Beneficiaries and payout destinations

Payout details as they are normalised, validated and written out for the fingerprint,
and the status of a beneficiary as it follows from its destinations.
-/

namespace InrSettle

inductive AccountType where
  | savings | current
  deriving DecidableEq

def AccountType.wire : AccountType → String
  | savings => "savings" | current => "current"

/-- `PayoutDetails`. -/
inductive PayoutDetails where
  | bankAccount (accountNumber ifsc : String) (accountType : AccountType)
    (accountHolderName : String)
  | upi (vpa : String)
  deriving DecidableEq

def PayoutDetails.kind : PayoutDetails → DestinationKind
  | bankAccount .. => .bankAccount
  | upi _ => .upi

/-! ### Normal form -/

/-- What `toUpperCase` makes of a character, where it makes ASCII of it. -/
def upperChar (c : Char) : List Char :=
  if 97 ≤ c.toNat ∧ c.toNat ≤ 122 then [Char.ofNat (c.toNat - 32)]
  else match c.toNat with
    | 0xDF => ['S', 'S']
    | 0x131 => ['I']
    | 0x17F => ['S']
    | 0xFB00 => ['F', 'F']
    | 0xFB01 => ['F', 'I']
    | 0xFB02 => ['F', 'L']
    | 0xFB03 => ['F', 'F', 'I']
    | 0xFB04 => ['F', 'F', 'L']
    | 0xFB05 | 0xFB06 => ['S', 'T']
    | _ => [c]

/-- What `toLowerCase` makes of a character, where it makes ASCII of it. -/
def lowerChar (c : Char) : Char :=
  if 65 ≤ c.toNat ∧ c.toNat ≤ 90 then Char.ofNat (c.toNat + 32)
  else if c.toNat = 0x212A then 'k'
  else c

/-- `trim`, of a list of characters. -/
def trimChars (text : List Char) : List Char :=
  ((text.dropWhile isSpace).reverse.dropWhile isSpace).reverse

/-- `replace(/\s+/g, ' ')`, after a space or not. -/
def collapse : Bool → List Char → List Char
  | _, [] => []
  | afterSpace, c :: rest =>
    if isSpace c then if afterSpace then collapse true rest else ' ' :: collapse true rest
    else c :: collapse false rest

def normaliseIfsc (ifsc : String) : String :=
  String.ofList ((trimChars ifsc.toList).flatMap upperChar)

def normaliseHolder (name : String) : String :=
  String.ofList (collapse false (trimChars name.toList))

def normalisePayoutDetails : PayoutDetails → PayoutDetails
  | .bankAccount accountNumber ifsc accountType accountHolderName =>
    .bankAccount (String.ofList (trimChars accountNumber.toList)) (normaliseIfsc ifsc) accountType
      (normaliseHolder accountHolderName)
  | .upi vpa => .upi (String.ofList ((trimChars vpa.toList).map lowerChar))

/-! ### A normal form stays one -/

/-- No space at either end. -/
structure Trimmed (text : List Char) : Prop where
  head : ∀ c ∈ text.head?, isSpace c = false
  last : ∀ c ∈ text.getLast?, isSpace c = false

theorem trimChars_eq (text : List Char) :
    trimChars text = (text.dropWhile isSpace).rdropWhile isSpace := rfl

theorem trimChars_trimmed (text : List Char) : Trimmed (trimChars text) where
  head := by
    intro c first
    rw [trimChars_eq, Option.mem_def] at first
    obtain ⟨rest, is⟩ := List.rdropWhile_prefix isSpace (text.dropWhile isSpace)
    rw [List.head?_eq_some_iff] at first
    obtain ⟨more, first⟩ := first
    rw [first, List.cons_append] at is
    have kept := List.head_dropWhile_not isSpace (l := text) (by rw [← is]; exact List.cons_ne_nil _ _)
    simpa [← is] using kept
  last := by
    intro c last
    have nonempty : trimChars text ≠ [] := by
      rintro empty
      simp [empty] at last
    rw [List.getLast?_eq_some_getLast nonempty] at last
    obtain rfl := Option.some.inj last
    exact eq_false_of_ne_true (List.rdropWhile_last_not isSpace (text.dropWhile isSpace) nonempty)

theorem trimChars_of_trimmed {text : List Char} (trimmed : Trimmed text) :
    trimChars text = text := by
  have head : text.dropWhile isSpace = text := by
    cases text with
    | nil => rfl
    | cons c rest => exact List.dropWhile_cons_of_neg (by simp [trimmed.head c rfl])
  rw [trimChars_eq, head, List.rdropWhile_eq_self_iff]
  intro nonempty
  simp [trimmed.last _ (List.getLast?_eq_some_getLast nonempty)]

/-- Rewriting each character as others, none of them a space, leaves a text trimmed. -/
theorem Trimmed.flatMap {text : List Char} (trimmed : Trimmed text) {f : Char → List Char}
    (written : ∀ c, isSpace c = false → f c ≠ [] ∧ ∀ d ∈ f c, isSpace d = false) :
    Trimmed (text.flatMap f) where
  head := by
    cases text with
    | nil => simp
    | cons c rest =>
      obtain ⟨nonempty, spaceless⟩ := written c (trimmed.head c rfl)
      intro d first
      rw [List.flatMap_cons, List.head?_append_of_ne_nil _ nonempty] at first
      exact spaceless d (List.mem_of_mem_head? first)
  last := by
    rcases List.eq_nil_or_concat text with rfl | ⟨rest, c, rfl⟩
    · simp
    · obtain ⟨nonempty, spaceless⟩ := written c (trimmed.last c (by simp))
      intro d last
      rw [List.concat_eq_append, List.flatMap_append, List.flatMap_singleton,
        List.getLast?_append_of_ne_nil _ nonempty] at last
      exact spaceless d (List.mem_of_mem_getLast? last)

theorem isUpper_iff {c : Char} : c.isUpper = true ↔ 65 ≤ c.toNat ∧ c.toNat ≤ 90 := by
  simp only [Char.isUpper, decide_eq_true_eq, ge_iff_le, UInt32.le_iff_toNat_le]
  exact Iff.rfl

theorem isLower_iff {c : Char} : c.isLower = true ↔ 97 ≤ c.toNat ∧ c.toNat ≤ 122 := by
  simp only [Char.isLower, Bool.and_eq_true, decide_eq_true_eq, ge_iff_le, UInt32.le_iff_toNat_le]
  exact Iff.rfl

theorem upperChar_of_lower : ∀ n ∈ List.range 123, 97 ≤ n → (Char.ofNat (n - 32)).isUpper = true := by
  decide +kernel

theorem lowerChar_of_upper : ∀ n ∈ List.range 91, 65 ≤ n → (Char.ofNat (n + 32)).isLower = true := by
  decide +kernel

/-- A character is its own upper case, or is written in capitals. -/
theorem upperChar_cases (c : Char) :
    upperChar c = [c] ∨ upperChar c ≠ [] ∧ ∀ d ∈ upperChar c, d.isUpper = true := by
  unfold upperChar
  split_ifs with lower
  · refine .inr ⟨List.cons_ne_nil _ _, fun d mem => ?_⟩
    rw [List.mem_singleton.mp mem]
    exact upperChar_of_lower _ (List.mem_range.mpr (by omega)) lower.1
  · split <;> first
      | exact .inr ⟨List.cons_ne_nil _ _, List.all_eq_true.mp rfl⟩
      | exact .inl rfl

theorem upperChar_of_isUpper {c : Char} (upper : c.isUpper = true) : upperChar c = [c] := by
  obtain ⟨low, high⟩ := isUpper_iff.mp upper
  unfold upperChar
  rw [if_neg (by omega)]
  split <;> first | omega | rfl

theorem isSpace_of_letter {c : Char} (letter : 65 ≤ c.toNat ∧ c.toNat ≤ 122) :
    isSpace c = false := by
  simp only [isSpace, Bool.or_eq_false_iff, Bool.and_eq_false_iff, decide_eq_false_iff_not,
    beq_eq_false_iff_ne]
  omega

theorem upperChar_spaceless (c : Char) (space : isSpace c = false) :
    upperChar c ≠ [] ∧ ∀ d ∈ upperChar c, isSpace d = false := by
  rcases upperChar_cases c with own | ⟨nonempty, capitals⟩
  · rw [own]
    exact ⟨List.cons_ne_nil _ _, fun d mem => by rw [List.mem_singleton.mp mem, space]⟩
  · refine ⟨nonempty, fun d mem => isSpace_of_letter ?_⟩
    have bounds := isUpper_iff.mp (capitals d mem)
    omega

theorem flatMap_upperChar_idem (text : List Char) :
    (text.flatMap upperChar).flatMap upperChar = text.flatMap upperChar := by
  rw [List.flatMap_assoc]
  refine List.flatMap_congr fun c _ => ?_
  rcases upperChar_cases c with own | ⟨-, capitals⟩
  · rw [own, List.flatMap_singleton, own]
  · rw [List.flatMap_congr fun d mem => upperChar_of_isUpper (capitals d mem)]
    exact List.flatMap_singleton' _

theorem lowerChar_cases (c : Char) : lowerChar c = c ∨ (lowerChar c).isLower = true := by
  unfold lowerChar
  split_ifs with upper
  · exact .inr (lowerChar_of_upper _ (List.mem_range.mpr (by omega)) upper.1)
  · exact .inr (by decide)
  · exact .inl rfl

theorem lowerChar_idem (c : Char) : lowerChar (lowerChar c) = lowerChar c := by
  rcases lowerChar_cases c with own | lower
  · rw [own, own]
  · obtain ⟨low, high⟩ := isLower_iff.mp lower
    generalize lowerChar c = d at low high
    unfold lowerChar
    rw [if_neg (by omega), if_neg (by omega)]

theorem lowerChar_spaceless (c : Char) (space : isSpace c = false) :
    isSpace (lowerChar c) = false := by
  rcases lowerChar_cases c with own | lower
  · rw [own, space]
  · have bounds := isLower_iff.mp lower
    exact isSpace_of_letter (by omega)

/-! ### Runs of spaces -/

theorem collapse_idem (after : Bool) (text : List Char) :
    collapse after (collapse after text) = collapse after text := by
  have space : isSpace ' ' = true := rfl
  induction text generalizing after with
  | nil => rfl
  | cons c rest ih =>
    cases isSpaceHere : isSpace c with
    | false => simp [collapse, isSpaceHere, ih]
    | true =>
      cases after with
      | true => simpa [collapse, isSpaceHere] using ih true
      | false => simp [collapse, isSpaceHere, space, ih]

theorem collapse_append_singleton {c : Char} (space : isSpace c = false) (text : List Char)
    (after : Bool) : collapse after (text ++ [c]) = collapse after text ++ [c] := by
  induction text generalizing after with
  | nil => simp [collapse, space]
  | cons d rest ih =>
    simp only [List.cons_append, collapse, ih]
    split_ifs <;> rfl

theorem Trimmed.collapse {text : List Char} (trimmed : Trimmed text) :
    Trimmed (InrSettle.collapse false text) where
  head := by
    cases text with
    | nil => simp [InrSettle.collapse]
    | cons c rest =>
      have first := trimmed.head c rfl
      intro d mem
      simp only [InrSettle.collapse, first, Bool.false_eq_true, if_false, List.head?_cons,
        Option.mem_def, Option.some.injEq] at mem
      exact mem ▸ first
  last := by
    rcases List.eq_nil_or_concat text with rfl | ⟨rest, c, rfl⟩
    · simp [InrSettle.collapse]
    · have last := trimmed.last c (by simp)
      intro d mem
      rw [List.concat_eq_append, collapse_append_singleton last] at mem
      simp only [List.getLast?_append, List.getLast?_singleton, Option.some_or, Option.mem_def,
        Option.some.injEq] at mem
      exact mem ▸ last

theorem normalisePayoutDetails_idem (details : PayoutDetails) :
    normalisePayoutDetails (normalisePayoutDetails details) = normalisePayoutDetails details := by
  cases details with
  | bankAccount accountNumber ifsc accountType accountHolderName =>
    have upper := (trimChars_trimmed ifsc.toList).flatMap upperChar_spaceless
    have holder := (trimChars_trimmed accountHolderName.toList).collapse
    simp only [normalisePayoutDetails, normaliseIfsc, normaliseHolder, String.toList_ofList,
      trimChars_of_trimmed (trimChars_trimmed _), trimChars_of_trimmed upper,
      trimChars_of_trimmed holder, flatMap_upperChar_idem, collapse_idem]
  | upi vpa =>
    have lower := (trimChars_trimmed vpa.toList).flatMap (f := fun c => [lowerChar c])
      fun c space => ⟨List.cons_ne_nil _ _, fun d mem => by
        rw [List.mem_singleton.mp mem, lowerChar_spaceless c space]⟩
    rw [← List.map_eq_flatMap] at lower
    simp only [normalisePayoutDetails, String.toList_ofList, trimChars_of_trimmed lower,
      List.map_map, Function.comp_def, lowerChar_idem]

/-! ### Validation -/

inductive DetailsProblem where
  | accountNumberInvalid | ifscInvalid | accountHolderNameMissing | vpaInvalid
  deriving DecidableEq

def isUpperOrDigit (c : Char) : Bool := c.isUpper || c.isDigit

/-- `IFSC_PATTERN`. -/
def matchesIfsc (text : List Char) : Bool :=
  (text.take 4).all Char.isUpper && text[4]? == some '0' && (text.drop 5).all isUpperOrDigit &&
    text.length == 11

/-- `VPA_PATTERN`. -/
def matchesVpa (text : List Char) : Bool :=
  match text.span (· ≠ '@') with
  | (handle, '@' :: first :: rest) =>
    (2 ≤ handle.length && handle.length ≤ 64) &&
      handle.all (fun c => c.isAlphanum || c == '.' || c == '-' || c == '_') && first.isAlpha &&
      (1 ≤ rest.length && rest.length ≤ 63) &&
      rest.all fun c => c.isAlphanum || c == '.' || c == '-'
  | _ => false

def validatePayoutDetails (raw : PayoutDetails) : List DetailsProblem :=
  match normalisePayoutDetails raw with
  | .bankAccount accountNumber ifsc _ accountHolderName =>
    let digits := accountNumber.toList
    (if digits.all Char.isDigit && 6 ≤ digits.length && digits.length ≤ 20 then []
      else [.accountNumberInvalid]) ++
    (if matchesIfsc ifsc.toList then [] else [.ifscInvalid]) ++
    if accountHolderName = "" then [.accountHolderNameMissing] else []
  | .upi vpa => if matchesVpa vpa.toList then [] else [.vpaInvalid]

/-! ### The text of the fingerprint -/

/-- The members of a normalised value. -/
def detailsMembers : PayoutDetails → List (String × String)
  | .bankAccount accountNumber ifsc accountType accountHolderName =>
    [("kind", "bank_account"), ("accountNumber", accountNumber), ("ifsc", ifsc),
      ("accountType", accountType.wire), ("accountHolderName", accountHolderName)]
  | .upi vpa => [("kind", "upi"), ("vpa", vpa)]

def canonicalDetails (raw : PayoutDetails) : String :=
  String.ofList (Json.object ((detailsMembers (normalisePayoutDetails raw)).map fun member =>
    (member.1.toList, member.2.toList)))

/-! ### The text tells the normal form -/

theorem detailsMembers_inj {a b : PayoutDetails} (same : detailsMembers a = detailsMembers b) :
    a = b := by
  cases a with
  | bankAccount accountNumber ifsc accountType accountHolderName =>
    cases b with
    | bankAccount accountNumber' ifsc' accountType' accountHolderName' =>
      cases accountType <;> cases accountType' <;>
        simp_all [detailsMembers, AccountType.wire]
    | upi => simp [detailsMembers] at same
  | upi vpa =>
    cases b with
    | bankAccount => simp [detailsMembers] at same
    | upi => simpa [detailsMembers] using same

theorem canonicalDetails_eq_iff {a b : PayoutDetails} :
    canonicalDetails a = canonicalDetails b ↔
      normalisePayoutDetails a = normalisePayoutDetails b := by
  constructor
  · intro same
    have members := Json.object_inj (String.ofList_injective same)
    refine detailsMembers_inj (List.map_injective_iff.mpr ?_ members)
    rintro ⟨key, value⟩ ⟨key', value'⟩ is
    obtain ⟨keys, values⟩ := Prod.mk.inj is
    exact Prod.ext (String.toList_inj.mp keys) (String.toList_inj.mp values)
  · intro same
    rw [canonicalDetails, canonicalDetails, same]

theorem canonicalDetails_normalise (details : PayoutDetails) :
    canonicalDetails (normalisePayoutDetails details) = canonicalDetails details :=
  canonicalDetails_eq_iff.mpr (normalisePayoutDetails_idem details)

/-! ### What is shown of a destination -/

/-- `accountNumber.slice(-4)`. -/
def maskAccountNumber (accountNumber : String) : String :=
  String.ofList (accountNumber.toList.drop (accountNumber.length - 4))

/-- `destinationSummary` of normalised details, all of whose columns are there. -/
def destinationSummary : PayoutDetails → String
  | .bankAccount accountNumber ifsc _ _ =>
    String.ofList (if ifsc = "" then "Bank".toList else ifsc.toList.take 4) ++ " •••• " ++
      maskAccountNumber accountNumber
  | .upi vpa => vpa

/-! ### The identity of a beneficiary -/

inductive BeneficiaryType where
  | individual | business
  deriving DecidableEq

structure BeneficiaryIdentity where
  displayName : String
  legalName : Option String := none
  type : BeneficiaryType
  taxId : Option String := none
  deriving DecidableEq

inductive IdentityProblem where
  | displayNameMissing | legalNameRequiredForBusiness | taxIdInvalid
  deriving DecidableEq

/-- `PAN_PATTERN`. -/
def matchesPan (text : List Char) : Bool :=
  (text.take 5).all Char.isUpper && ((text.drop 5).take 4).all Char.isDigit &&
    (text.drop 9).all Char.isUpper && text.length == 10

def validateBeneficiaryIdentity (identity : BeneficiaryIdentity) : List IdentityProblem :=
  (if trimChars identity.displayName.toList = [] then [.displayNameMissing] else []) ++
  (if identity.type = .business ∧ identity.legalName.all (fun name => trimChars name.toList = [])
    then [.legalNameRequiredForBusiness] else []) ++
  if identity.taxId.all fun taxId => taxId = "" || matchesPan taxId.toList then []
    else [.taxIdInvalid]

/-! ### The status of a beneficiary -/

inductive BeneficiaryStatus where
  | draft | pendingVerification | verified | rejected | disabled
  deriving DecidableEq

/-- What `deriveBeneficiaryStatus` is given. -/
structure StatusFacts where
  disabled : Bool
  rejected : Bool
  destinationCount : Nat
  anyCurrentVersionVerified : Bool
  deriving DecidableEq

def deriveBeneficiaryStatus (facts : StatusFacts) : BeneficiaryStatus :=
  if facts.disabled then .disabled
  else if facts.rejected then .rejected
  else if facts.destinationCount = 0 then .draft
  else if facts.anyCurrentVersionVerified then .verified
  else .pendingVerification

end InrSettle
