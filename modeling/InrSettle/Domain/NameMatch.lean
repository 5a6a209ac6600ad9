import Mathlib

/-!
# The name-match policy

What a provider returned about the name of an account, and whether the policy of its
method is satisfied by it. Evidence a policy cannot use is never a pass.
-/

namespace InrSettle

inductive DestinationKind where
  | bankAccount | upi
  deriving DecidableEq

inductive VerificationMethod where
  | pennyDrop | providerLookup | manual
  deriving DecidableEq

structure NameMatchEvidence where
  asserted : Option Bool := none
  score : Option ℚ := none
  registryName : Option String := none
  deriving DecidableEq

inductive NameMatchPolicy where
  | notRequired
  | providerAssertion
  | numericScore (minimumScore scaleMax : ℚ) (allowMissingScore : Bool)
  | registryName (minimumSimilarity : ℚ)
  deriving DecidableEq

structure NameMatchPolicyEntry where
  providerId : String
  method : VerificationMethod
  policy : NameMatchPolicy
  deriving DecidableEq

structure NameMatchPolicySet where
  version : String
  entries : List NameMatchPolicyEntry
  deriving DecidableEq

def policyFor (set : NameMatchPolicySet) (providerId : String) (method : VerificationMethod) :
    Option NameMatchPolicy :=
  (set.entries.find? fun e => decide (e.providerId = providerId ∧ e.method = method)).map (·.policy)

/-! ### Name comparison -/

def noiseTokens : List String :=
  ["MR", "MRS", "MS", "MISS", "DR", "SHRI", "SMT", "SRI", "KUMARI", "PVT", "PRIVATE", "LTD",
    "LIMITED", "LLP", "INC", "CO", "COMPANY", "AND", "THE"]

/-- What is no letter and no digit separates tokens. -/
def normaliseName (name : String) : List (List Char) :=
  ((name.toList.map Char.toUpper).splitOnP fun c =>
    decide (¬('A' ≤ c ∧ c ≤ 'Z' ∨ '0' ≤ c ∧ c ≤ '9'))).filter fun token =>
      decide (token ≠ [] ∧ token ∉ noiseTokens.map String.toList)

/-- One of the two is the initial of the other. -/
def initialOf (token p : List Char) : Bool :=
  if token.length = 1 then token.isPrefixOf p else decide (p.length = 1) && p.isPrefixOf token

/-- The tokens of the shorter name found in the pool, each taken out of it: exact ones first. -/
def matchedTokens : List (List Char) → List (List Char) → Nat
  | [], _ => 0
  | token :: rest, pool =>
    if token ∈ pool then matchedTokens rest (pool.erase token) + 1
    else if pool.any (initialOf token) then matchedTokens rest (pool.eraseP (initialOf token)) + 1
    else matchedTokens rest pool

/-- On 0..100, rounded half up. -/
def compareNames (a b : String) : Nat :=
  let left := normaliseName a
  let right := normaliseName b
  let shorter := if left.length ≤ right.length then left else right
  let longer := if left.length ≤ right.length then right else left
  if shorter = [] then 0
  else (200 * matchedTokens shorter longer + shorter.length) / (2 * shorter.length)

/-! ### Decision -/

inductive NameMatchOutcome where
  | satisfied | mismatch | insufficientEvidence
  deriving DecidableEq

inductive NameMatchBasis where
  | notRequired | providerAssertion | numericScore | registryName | unregistered
  deriving DecidableEq

structure NameMatchDecision where
  outcome : NameMatchOutcome
  basis : NameMatchBasis
  score : Option ℚ := none
  deriving DecidableEq

def decideNameMatch (policy : Option NameMatchPolicy) (evidence : NameMatchEvidence)
    (expectedName : String) : NameMatchDecision :=
  match policy with
  | none => ⟨.insufficientEvidence, .unregistered, none⟩
  | some .notRequired => ⟨.satisfied, .notRequired, none⟩
  | some .providerAssertion => match evidence.asserted with
    | none => ⟨.insufficientEvidence, .providerAssertion, none⟩
    | some asserted => ⟨if asserted then .satisfied else .mismatch, .providerAssertion, none⟩
  | some (.numericScore minimumScore scaleMax allowMissingScore) => match evidence.score with
    | none =>
      ⟨if allowMissingScore then .satisfied else .insufficientEvidence, .numericScore, none⟩
    | some score =>
      if score < 0 ∨ scaleMax < score then ⟨.insufficientEvidence, .numericScore, some score⟩
      else ⟨if minimumScore ≤ score then .satisfied else .mismatch, .numericScore, some score⟩
  | some (.registryName minimumSimilarity) => match evidence.registryName with
    | none => ⟨.insufficientEvidence, .registryName, none⟩
    | some registryName =>
      if registryName.toList.all Char.isWhitespace then ⟨.insufficientEvidence, .registryName, none⟩
      else
        let similarity : ℚ := compareNames expectedName registryName
        ⟨if minimumSimilarity ≤ similarity then .satisfied else .mismatch, .registryName,
          some similarity⟩

/-- Without a policy there is no pass. -/
theorem decideNameMatch_unregistered (evidence : NameMatchEvidence) (expectedName : String) :
    (decideNameMatch none evidence expectedName).outcome ≠ .satisfied := nofun

/-- Without evidence there is no pass, but where the policy says so. -/
theorem decideNameMatch_noEvidence {policy : NameMatchPolicy} {expectedName : String}
    (passed : (decideNameMatch (some policy) {} expectedName).outcome = .satisfied) :
    policy = .notRequired ∨ ∃ minimumScore scaleMax, policy = .numericScore minimumScore scaleMax
      true := by
  cases policy with
  | notRequired => exact .inl rfl
  | providerAssertion => cases passed
  | numericScore minimumScore scaleMax allowMissingScore =>
    cases allowMissingScore with
    | true => exact .inr ⟨_, _, rfl⟩
    | false => cases passed
  | registryName minimumSimilarity => cases passed

/-- A middle initial only one of the names has is no difference. -/
example : compareNames "Aarti Sharma" "AARTI R. SHARMA" = 100 := by decide +kernel

end InrSettle
