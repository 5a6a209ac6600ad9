import Mathlib

/-!
# Rate limits

A fixed window for each key and bucket: a call opens a new window where the stored one
is over, and is allowed while its window has counted fewer than the limit.
-/

namespace InrSettle

inductive RateLimitBucket where
  | read | write | batch
  deriving DecidableEq

structure RateLimitPolicy where
  limit : Nat
  windowSeconds : Nat
  deriving DecidableEq

/-- Which bucket a request draws from. -/
def bucketFor (method path : String) : RateLimitBucket :=
  if "/v1/batches".toList <+: path.toList ∧ method ≠ "GET" then .batch
  else if method = "GET" then .read else .write

/-- A row of `api_rate_limits`, its window in seconds. -/
structure RateLimitRow where
  windowStart : Nat
  count : Nat
  deriving DecidableEq

structure RateLimitDecision where
  allowed : Bool
  limit : Nat
  remaining : Nat
  resetAtSeconds : Nat
  retryAfterSeconds : Nat
  newWindowStartSeconds : Nat
  newCount : Nat
  deriving DecidableEq

/-- No window is stored, or the stored one is over. -/
def opensWindow (policy : RateLimitPolicy) (nowSeconds : Nat) (current : Option RateLimitRow) :
    Bool :=
  current.all fun row => decide (row.windowStart + policy.windowSeconds ≤ nowSeconds)

def evaluateRateLimit (policy : RateLimitPolicy) (nowSeconds : Nat)
    (current : Option RateLimitRow) : RateLimitDecision :=
  let expired := opensWindow policy nowSeconds current
  let windowStart := if expired then nowSeconds else (current.map (·.windowStart)).getD nowSeconds
  let used := if expired then 0 else (current.map (·.count)).getD 0
  let resetAt := windowStart + policy.windowSeconds
  let newCount := if used < policy.limit then used + 1 else used
  { allowed := decide (used < policy.limit)
    limit := policy.limit
    remaining := policy.limit - newCount
    resetAtSeconds := resetAt
    retryAfterSeconds := max 1 (resetAt - nowSeconds)
    newWindowStartSeconds := windowStart
    newCount }

namespace RateLimitDecision

/-- The row a decision is stored as. -/
def row (decision : RateLimitDecision) : RateLimitRow :=
  ⟨decision.newWindowStartSeconds, decision.newCount⟩

end RateLimitDecision

variable {policy : RateLimitPolicy} {nowSeconds : Nat} {current : Option RateLimitRow}

theorem evaluateRateLimit_opens (opens : opensWindow policy nowSeconds current = true) :
    (evaluateRateLimit policy nowSeconds current).allowed = decide (0 < policy.limit) ∧
      (evaluateRateLimit policy nowSeconds current).row =
        ⟨nowSeconds, if 0 < policy.limit then 1 else 0⟩ := by
  simp [evaluateRateLimit, RateLimitDecision.row, opens]

theorem evaluateRateLimit_counts {row : RateLimitRow}
    (counts : opensWindow policy nowSeconds (some row) = false) :
    (evaluateRateLimit policy nowSeconds (some row)).allowed = decide (row.count < policy.limit) ∧
      (evaluateRateLimit policy nowSeconds (some row)).row =
        ⟨row.windowStart, if row.count < policy.limit then row.count + 1 else row.count⟩ := by
  simp [evaluateRateLimit, RateLimitDecision.row, counts]

end InrSettle
