import InrSettle.Library.Paging
import InrSettle.Domain.Webhook
import InrSettle.Service.Idempotency

/-!
# The lists of the API

Settlements, events and beneficiaries, latest first, a page at a time. A page names the last
row it shows, and the next one is read from the rows created before that row.
-/

namespace InrSettle

open Paging

/-! ### Pages -/

/-- `LIST_DEFAULT_LIMIT`. -/
def listDefaultLimit : Nat := 25

/-- `LIST_MAX_LIMIT`. -/
def listMaxLimit : Nat := 100

structure PageLimit where
  value : Nat
  positive : 0 < value
  bounded : value ≤ listMaxLimit

/-- `parseLimit`, of the number the parameter reads as; `none` where it is not a whole one. -/
def parseLimit : Option (Option Int) → Except ApiError PageLimit
  | none => .ok ⟨listDefaultLimit, by decide, by decide⟩
  | some raw =>
    match raw with
    | some n =>
      if h : 1 ≤ n ∧ n ≤ listMaxLimit then .ok ⟨n.toNat, by omega, by omega⟩
      else .error refusal
    | none => .error refusal
where
  refusal : ApiError := {
    type := "invalid_request_error", code := "invalid_parameter"
    message := s!"limit must be a whole number between 1 and {listMaxLimit}."
    detail := s!"It defaults to {listDefaultLimit} if you omit it.", param := some "limit" }

structure ListEnvelope (ρ : Type) where
  data : List ρ
  hasMore : Bool
  nextCursor : Option String

/-- The caller fetches one row more than the limit. -/
def listEnvelope {ρ : Type} (rows : List ρ) (limit : Nat) (cursorOf : ρ → String) :
    ListEnvelope ρ :=
  let hasMore := decide (limit < rows.length)
  let data := if hasMore then rows.take limit else rows
  { data := data
    hasMore := hasMore
    nextCursor := if hasMore then data.getLast?.map cursorOf else none }

/-- `notFound`. -/
def notFound (what : String) : ApiError where
  type := "not_found_error"
  code := "not_found"
  message := s!"No such {what}."
  detail := "Check the id, and check that the key you used belongs to the same " ++
    "environment as the object. A sandbox key cannot address a live object, " ++
    "and a live object is not visible to it."

/-! ### One list -/

/-- A table with a primary key and the time each row was created, in microseconds. -/
structure ListedTable (ρ : Type) where
  id : ρ → String
  createdAt : ρ → Nat
  /-- What the table is called when a cursor names no row of it. -/
  noun : String
  rows : List ρ
  distinct : (rows.map id).Nodup

/-- A timestamp read back: the column has microseconds, the date has milliseconds. -/
def floorMillis (micros : Nat) : Nat := micros / 1000 * 1000

/-- One page: the cursor is looked up in the whole table, the rows in what the list shows. -/
def listPage {ρ : Type} (table : ListedTable ρ) (shows : ρ → Bool)
    (order : Arrangement table.createdAt) (limit : PageLimit) (startingAfter : Option String) :
    Except ApiError (ListEnvelope ρ) := do
  let rows ← match startingAfter with
    | none => pure (table.rows.filter shows)
    | some after =>
      match table.rows.find? fun row => decide (table.id row = after) with
      | none => throw (notFound s!"{table.noun} named by starting_after")
      | some anchor => pure (below table.createdAt floorMillis anchor (table.rows.filter shows))
  return listEnvelope ((order.arrange rows).take (limit.value + 1)) limit.value table.id

/-- Follow `next_cursor` until it is null, from the query of a number on. -/
def followPages {ρ : Type}
    (list : Nat → Option String → Except ApiError (ListEnvelope ρ)) :
    Nat → Nat → Option String → Option (List ρ)
  | 0, _, _ => none
  | fuel + 1, query, startingAfter =>
    match list query startingAfter with
    | .error _ => none
    | .ok page =>
      match page.nextCursor with
      | none => some page.data
      | some cursor => (followPages list fuel (query + 1) (some cursor)).map (page.data ++ ·)

/-- Every visible row is read exactly once, in the list's order. -/
def ReadsAll {ρ : Type} (list : Nat → Option String → Except ApiError (ListEnvelope ρ))
    (createdAt : ρ → Nat) (visible : List ρ) : Prop :=
  ∃ read, followPages list (visible.length + 1) 0 none = some read ∧ read.Perm visible ∧
    read.Pairwise fun a b => createdAt b ≤ createdAt a

/-! ### The events -/

structure ListedEvent where
  id : String
  type : String
  createdAt : Nat
  deriving DecidableEq

/-- The `type` parameter of `events.list`. -/
def parseEventType : Option String → Except ApiError (Option String)
  | none => .ok none
  | some type =>
    if isCustomerEventType type then .ok (some type)
    else
      let known := ", ".intercalate customerEventTypes
      .error {
        type := "invalid_request_error", code := "unknown_event_type"
        message := s!"\"{type}\" is not an event type this workspace can see."
        detail := s!"Filter on one of: {known}.", param := some "type" }

def showsEvent (type : Option String) (event : ListedEvent) : Bool :=
  isCustomerEventType event.type && type.all (· == event.type)

def eventTable (rows : List ListedEvent) (distinct : (rows.map (·.id)).Nodup) :
    ListedTable ListedEvent :=
  ⟨(·.id), (·.createdAt), "event", rows, distinct⟩

def listEventsHandler (rows : List ListedEvent) (distinct : (rows.map (·.id)).Nodup)
    (order : Arrangement ListedEvent.createdAt) (limit : Option (Option Int))
    (type startingAfter : Option String) : Except ApiError (ListEnvelope ListedEvent) := do
  let limit ← parseLimit limit
  let type ← parseEventType type
  listPage (eventTable rows distinct) (showsEvent type) order limit startingAfter

/-! ### The settlements -/

structure ListedSettlement where
  id : String
  createdAt : Nat
  customerStatus : Option CustomerStatus
  beneficiaryId : String
  externalReference : Option String
  deriving DecidableEq

/-- `CUSTOMER_STATUS_FILTER`. -/
def customerStatusFilter : List (String × CustomerStatus) := [
  ("ready", .ready), ("settling", .settling), ("settled", .settled),
  ("action_required", .actionRequired), ("cancelled", .cancelled)]

def parseStatus : Option String → Except ApiError (Option CustomerStatus)
  | none => .ok none
  | some status =>
    match customerStatusFilter.lookup status with
    | some mapped => .ok (some mapped)
    | none =>
      let known := ", ".intercalate (customerStatusFilter.map (·.1))
      .error {
        type := "invalid_request_error", code := "invalid_parameter"
        message := s!"\"{status}\" is not a settlement status."
        detail := s!"Filter on one of: {known}.", param := some "status" }

/-- The filters of `settlements.list`, once read; dates are in milliseconds. -/
structure SettlementFilters where
  status : Option CustomerStatus := none
  beneficiaryId : Option String := none
  externalReference : Option String := none
  batchId : Option String := none
  createdFrom : Option Nat := none
  createdTo : Option Nat := none
  hasOpenReturn : Bool := false
  hasConfirmedReturn : Bool := false
  deriving DecidableEq

/-- The rows a filter joins to: batch rows by batch and settlement, returns by settlement. -/
structure SettlementJoins where
  batchRows : List (String × Option String) := []
  returns : List (String × ReturnStatus) := []

namespace SettlementFilters

/-- The return statuses the two flags ask for; a confirmed return is asked for first. -/
def returnStatuses (filters : SettlementFilters) : Option (List ReturnStatus) :=
  if filters.hasConfirmedReturn then some [.confirmed, .repaid]
  else if filters.hasOpenReturn then some [.observed, .manualReview]
  else none

/-- A settlement without a customer status is not listed. -/
def shows (filters : SettlementFilters) (joins : SettlementJoins) (s : ListedSettlement) : Bool :=
  filters.status.all (fun status => s.customerStatus == some status) &&
    filters.beneficiaryId.all (· == s.beneficiaryId) &&
    filters.externalReference.all (fun reference => s.externalReference == some reference) &&
    filters.batchId.all (fun batchId => joins.batchRows.contains (batchId, some s.id)) &&
    filters.createdFrom.all (fun date => decide (date * 1000 ≤ s.createdAt)) &&
    filters.createdTo.all (fun date => decide (s.createdAt ≤ date * 1000)) &&
    filters.returnStatuses.all (fun statuses =>
      joins.returns.any fun r => r.1 == s.id && decide (r.2 ∈ statuses)) &&
    s.customerStatus.isSome

end SettlementFilters

def settlementTable (rows : List ListedSettlement) (distinct : (rows.map (·.id)).Nodup) :
    ListedTable ListedSettlement :=
  ⟨(·.id), (·.createdAt), "settlement", rows, distinct⟩

def listSettlementsHandler (rows : List ListedSettlement) (distinct : (rows.map (·.id)).Nodup)
    (joins : SettlementJoins) (order : Arrangement ListedSettlement.createdAt)
    (limit : Option (Option Int)) (status : Option String) (filters : SettlementFilters)
    (startingAfter : Option String) : Except ApiError (ListEnvelope ListedSettlement) := do
  let limit ← parseLimit limit
  let status ← parseStatus status
  listPage (settlementTable rows distinct) ({ filters with status := status }.shows joins) order
    limit startingAfter

/-! ### The beneficiaries -/

structure ListedBeneficiary where
  id : String
  createdAt : Nat
  deriving DecidableEq

def beneficiaryTable (rows : List ListedBeneficiary) (distinct : (rows.map (·.id)).Nodup) :
    ListedTable ListedBeneficiary :=
  ⟨(·.id), (·.createdAt), "beneficiary", rows, distinct⟩

def listBeneficiariesHandler (rows : List ListedBeneficiary)
    (distinct : (rows.map (·.id)).Nodup) (order : Arrangement ListedBeneficiary.createdAt)
    (limit : Option (Option Int)) (startingAfter : Option String) :
    Except ApiError (ListEnvelope ListedBeneficiary) := do
  let limit ← parseLimit limit
  listPage (beneficiaryTable rows distinct) (fun _ => true) order limit startingAfter

end InrSettle
