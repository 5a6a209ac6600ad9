import Mathlib
import InrSettle.Store.Rows

/-!
# The webhook delivery policy

Which events leave the system and which endpoint wants them; what one HTTP response
means, when a delivery is tried again, and when an endpoint is taken out of service.
-/

namespace InrSettle

/-! ### The catalogue -/

/-- `CUSTOMER_EVENT_TYPES`, the allow-list. -/
def customerEventTypes : List String := [
  "beneficiary.created",
  "beneficiary.verified",
  "beneficiary.verification_failed",
  "settlement.created",
  "settlement.ready",
  "settlement.action_required",
  "settlement.settling",
  "settlement.settled",
  "settlement.cancelled",
  "settlement.cancellation_requested",
  "settlement.replacement_created",
  "settlement.return_observed",
  "settlement.return_confirmed",
  "settlement.return_repaid",
  "settlement.return_rejected",
  "quote.expired",
  "batch.validated",
  "batch.completed",
  "batch.partially_completed",
  "receipt.available"]

def isCustomerEventType (type : String) : Bool := decide (type ∈ customerEventTypes)

/-- `TEST_EVENT_TYPE`, deliberately not in the list. -/
def testEventType : String := "endpoint.test"

/-- An endpoint that lists no types wants every customer type. -/
def endpointWantsEvent (subscribed : List String) (type : String) : Bool :=
  isCustomerEventType type && (subscribed.isEmpty || decide (type ∈ subscribed))

theorem endpointWantsEvent_customer {subscribed : List String} {type : String}
    (wants : endpointWantsEvent subscribed type = true) : isCustomerEventType type = true :=
  (Bool.and_eq_true_iff.mp wants).1

/-! ### Responses -/

inductive DeliveryOutcome where
  | delivered (statusCode : Nat)
  | rejected (statusCode : Nat)
  | retryable (statusCode : Option Nat) (error : Option String)
  deriving DecidableEq

def DeliveryOutcome.isDelivered : DeliveryOutcome → Bool
  | .delivered _ => true
  | _ => false

/-- `4xx` is not retried, except 408 and 429. -/
def classifyResponse (statusCode : Nat) : DeliveryOutcome :=
  if 200 ≤ statusCode ∧ statusCode < 300 then .delivered statusCode
  else if statusCode = 408 ∨ statusCode = 429 then .retryable (some statusCode) none
  else if 400 ≤ statusCode ∧ statusCode < 500 then .rejected statusCode
  else .retryable (some statusCode) none

/-! ### The schedule -/

/-- `RETRY_SCHEDULE_SECONDS`. -/
def retryScheduleSeconds : List Nat :=
  [10, 30, 60, 120, 300, 900, 1800, 3600, 7200, 10800, 14400, 21600, 25200]

/-- `MAX_ATTEMPTS`. -/
def maxAttempts : Nat := retryScheduleSeconds.length + 1

/-- `JITTER_FRACTION`. -/
def jitterFraction : ℚ := 1 / 5

structure NextAttempt where
  attemptNumber : Nat
  delaySeconds : Int
  deriving DecidableEq

/-- When to try again, or nothing where the schedule is spent. -/
def nextAttempt (attemptsSoFar : Nat) (random : ℚ) : Option NextAttempt :=
  match attemptsSoFar with
  -- `RETRY_SCHEDULE_SECONDS[-1]` is undefined.
  | 0 => none
  | index + 1 =>
    retryScheduleSeconds[index]?.map fun base : Nat =>
      let spread : ℚ := base * jitterFraction
      let delay := base - spread + random * 2 * spread
      ⟨attemptsSoFar + 1, max 1 ⌊delay + 1 / 2⌋⟩

theorem nextAttempt_isSome {attemptsSoFar : Nat} {random : ℚ} :
    (nextAttempt attemptsSoFar random).isSome = true ↔
      0 < attemptsSoFar ∧ attemptsSoFar < maxAttempts := by
  cases attemptsSoFar with
  | zero => simp [nextAttempt]
  | succ index =>
    simp [nextAttempt, maxAttempts]

/-- An attempt is never scheduled for the moment it failed in. -/
theorem nextAttempt_delay {attemptsSoFar : Nat} {random : ℚ} {next : NextAttempt}
    (scheduled : nextAttempt attemptsSoFar random = some next) :
    next.attemptNumber = attemptsSoFar + 1 ∧ 1 ≤ next.delaySeconds := by
  cases attemptsSoFar with
  | zero => cases scheduled
  | succ index =>
    obtain ⟨base, -, rfl⟩ := Option.map_eq_some_iff.mp scheduled
    exact ⟨rfl, le_max_left _ _⟩

/-! ### The circuit -/

/-- `CIRCUIT_BREAK_AFTER_CONSECUTIVE_FAILURES`. -/
def circuitBreakAfter : Nat := 20

inductive HealthAction where
  | keepEnabled | openCircuit
  deriving DecidableEq

structure EndpointHealth where
  action : HealthAction
  consecutiveFailures : Nat
  deriving DecidableEq

def endpointHealthAfter (consecutiveFailuresBefore : Nat) (outcome : DeliveryOutcome) :
    EndpointHealth :=
  match outcome with
  | .delivered _ => ⟨.keepEnabled, 0⟩
  | _ =>
    let failures := consecutiveFailuresBefore + 1
    if circuitBreakAfter ≤ failures then ⟨.openCircuit, failures⟩ else ⟨.keepEnabled, failures⟩

theorem endpointHealthAfter_delivered (before : Nat) {outcome : DeliveryOutcome}
    (delivered : outcome.isDelivered = true) :
    endpointHealthAfter before outcome = ⟨.keepEnabled, 0⟩ := by
  cases outcome <;> first | rfl | cases delivered

theorem endpointHealthAfter_failed (before : Nat) {outcome : DeliveryOutcome}
    (failed : outcome.isDelivered = false) :
    endpointHealthAfter before outcome =
      ⟨if circuitBreakAfter ≤ before + 1 then .openCircuit else .keepEnabled, before + 1⟩ := by
  cases outcome with
  | delivered code => cases failed
  | rejected code => simp only [endpointHealthAfter]; split <;> rfl
  | retryable code error => simp only [endpointHealthAfter]; split <;> rfl

/-! ### What is recorded of a response -/

/-- `MAX_RECORDED_RESPONSE_BYTES`. -/
def maxRecordedResponseBytes : Nat := 2048

def truncateResponseBody (body : String) : String :=
  if body.length ≤ maxRecordedResponseBytes then body
  else String.ofList (body.toList.take maxRecordedResponseBytes) ++ "… (truncated)"

end InrSettle
