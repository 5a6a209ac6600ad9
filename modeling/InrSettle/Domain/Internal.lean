import InrSettle.Domain.Preflight
import InrSettle.Service.Idempotency
import InrSettle.Service.Liquidity

/-!
# Internal operations

The roles of operators, the routes of their surface, and what the path and the query of a request
name.
-/

namespace InrSettle.Ops

/-! ### Roles -/

inductive InternalRole where
  | opsRead | opsResolve | opsLiquidity | opsAdmin
  deriving DecidableEq

/-- `INTERNAL_ROLE_CAPABILITIES`. -/
def internalRoleCapabilities : InternalRole → List InternalCapability
  | .opsRead => [.read]
  | .opsResolve => [.read, .exceptionResolve]
  | .opsLiquidity => [.read, .liquidityManage]
  | .opsAdmin => [.read, .providerManage, .operatorManage]

def internalCapabilitiesFor (roles : List InternalRole) : List InternalCapability :=
  roles.flatMap internalRoleCapabilities

theorem mem_internalCapabilitiesFor {roles : List InternalRole} {capability : InternalCapability} :
    capability ∈ internalCapabilitiesFor roles ↔
      ∃ role ∈ roles, capability ∈ internalRoleCapabilities role :=
  List.mem_flatMap

/-- `OPS_SESSION_TTL_SECONDS`. -/
def opsSessionTtlSeconds : Nat := 30 * 60

/-! ### Routes -/

inductive OpsRouteName where
  | queuesDiscover | settlementsGet | settlementsAudit | exceptionsList | exceptionsResolve
  | facilitiesList | facilitiesMovements | facilitiesSetLimit | facilitiesSetStatus
  | repaymentsAdvance | reconciliationsList | providerEventsList | auditList | meGet
  | operatorsHistory
  deriving DecidableEq

def OpsRouteName.wire : OpsRouteName → String
  | queuesDiscover => "queues.discover"
  | settlementsGet => "settlements.get"
  | settlementsAudit => "settlements.audit"
  | exceptionsList => "exceptions.list"
  | exceptionsResolve => "exceptions.resolve"
  | facilitiesList => "facilities.list"
  | facilitiesMovements => "facilities.movements"
  | facilitiesSetLimit => "facilities.set_limit"
  | facilitiesSetStatus => "facilities.set_status"
  | repaymentsAdvance => "repayments.advance"
  | reconciliationsList => "reconciliations.list"
  | providerEventsList => "provider_events.list"
  | auditList => "audit.list"
  | meGet => "me.get"
  | operatorsHistory => "operators.history"

structure OpsRouteDefinition where
  method : String
  pattern : List Segment
  name : OpsRouteName
  capability : InternalCapability
  reason : Bool
  crossTenant : Bool
  deriving DecidableEq

/-- `OPS_ROUTES`. -/
def opsRoutes : List OpsRouteDefinition := [
  ⟨"GET", [.text "ops", .text "queues", .param "queue"], .queuesDiscover, .read, true, true⟩,
  ⟨"GET", [.text "ops", .text "settlements", .param "id"], .settlementsGet, .read, true, true⟩,
  ⟨"GET", [.text "ops", .text "settlements", .param "id", .text "audit"],
    .settlementsAudit, .read, true, true⟩,
  ⟨"GET", [.text "ops", .text "exceptions"], .exceptionsList, .read, true, true⟩,
  ⟨"POST", [.text "ops", .text "exceptions", .param "settlementId", .text "resolve"],
    .exceptionsResolve, .exceptionResolve, true, true⟩,
  ⟨"GET", [.text "ops", .text "facilities"], .facilitiesList, .read, true, true⟩,
  ⟨"GET", [.text "ops", .text "facilities", .text "movements"],
    .facilitiesMovements, .read, true, true⟩,
  ⟨"POST", [.text "ops", .text "facilities", .param "id", .text "limit"],
    .facilitiesSetLimit, .liquidityManage, true, true⟩,
  ⟨"POST", [.text "ops", .text "facilities", .param "id", .text "status"],
    .facilitiesSetStatus, .liquidityManage, true, true⟩,
  ⟨"POST", [.text "ops", .text "repayments", .param "id", .text "advance"],
    .repaymentsAdvance, .liquidityManage, true, true⟩,
  ⟨"GET", [.text "ops", .text "reconciliations"], .reconciliationsList, .read, true, true⟩,
  ⟨"GET", [.text "ops", .text "provider_events"], .providerEventsList, .read, true, true⟩,
  ⟨"GET", [.text "ops", .text "audit"], .auditList, .read, true, true⟩,
  ⟨"GET", [.text "ops", .text "me"], .meGet, .read, false, false⟩,
  ⟨"GET", [.text "ops", .text "operators", .param "id", .text "history"],
    .operatorsHistory, .operatorManage, false, false⟩]

/-- A route that reaches a tenant's data needs a reason. -/
theorem reason_of_crossTenant : ∀ route ∈ opsRoutes, route.crossTenant = true →
    route.reason = true := by
  decide

section Matching

-- `decodeURIComponent`; nothing where it throws.
variable (decodeURIComponent : String → Option String)

/-- One route against the segments: a parameter is decoded when it is come upon, also where a later
segment is another. -/
def matchOpsPattern : List Segment → List String → Except Unit (Option (List (String × String)))
  | .param name :: pattern, s :: segments =>
    match decodeURIComponent s with
    | none => .error ()
    | some value => (matchOpsPattern pattern segments).map (·.map ((name, value) :: ·))
  | .text p :: pattern, s :: segments =>
    if p = s then matchOpsPattern pattern segments else .ok none
  | [], _ => .ok (some [])
  | _ :: _, [] => .ok none

structure MatchedOpsRoute where
  route : OpsRouteDefinition
  params : List (String × String)

/-- The first route that matches; nothing is found behind one that throws. -/
def matchAmong (method : String) (segments : List String) :
    List OpsRouteDefinition → Except Unit (Option MatchedOpsRoute)
  | [] => .ok none
  | route :: others =>
    if route.method = method ∧ route.pattern.length = segments.length then
      match matchOpsPattern decodeURIComponent route.pattern segments with
      | .error () => .error ()
      | .ok none => matchAmong method segments others
      | .ok (some params) => .ok (some ⟨route, params⟩)
    else matchAmong method segments others

/-- A path is what stands between its slashes; empty segments do not count. -/
def matchOpsRoute (method : String) (path : List String) : Except Unit (Option MatchedOpsRoute) :=
  matchAmong decodeURIComponent method (path.filter (· ≠ "")) opsRoutes

theorem matchAmong_route {method : String} {segments : List String}
    {routes : List OpsRouteDefinition} {found : MatchedOpsRoute}
    (matched : matchAmong decodeURIComponent method segments routes = .ok (some found)) :
    found.route ∈ routes := by
  induction routes with
  | nil => cases matched
  | cons route others ih =>
    rw [matchAmong] at matched
    split at matched
    · split at matched
      · cases matched
      · exact List.mem_cons_of_mem _ (ih matched)
      · cases matched
        exact List.mem_cons_self
    · exact List.mem_cons_of_mem _ (ih matched)

end Matching

/-! ### Queries -/

structure Scope where
  workspaceId : String
  environment : Preflight.Environment
  deriving DecidableEq

def explicitScopes (query : List (String × String)) : List Scope :=
  match query.lookup "workspace_id", query.lookup "environment" with
  | some workspaceId, some environment =>
    if workspaceId = "" then []
    else if environment = "sandbox" then [⟨workspaceId, .sandbox⟩]
    else if environment = "live" then [⟨workspaceId, .live⟩]
    else []
  | _, _ => []

/-- What `Number.parseInt(raw, 10)` reads of a text, where that is positive. -/
def parsePositive (raw : String) : Option Nat :=
  let text := raw.toList.dropWhile isSpace
  let unsigned := if text.head? = some '+' then text.drop 1 else text
  let n := Nat.ofDigitChars 10 (unsigned.takeWhile Char.isDigit) 0
  if n = 0 then none else some n

/-- The number is one that a double rounds to infinity. -/
def Infinite (n : Nat) : Prop := 2 ^ 1024 - 2 ^ 970 ≤ n

instance (n : Nat) : Decidable (Infinite n) := inferInstanceAs (Decidable (_ ≤ _))

def intParam (query : List (String × String)) (name : String) (fallback max : Nat) : Nat :=
  match (query.lookup name).bind parsePositive with
  | none => fallback
  | some n => if Infinite n then fallback else min n max

def maxLimit : Nat := 500

def defaultLimit : Nat := 100

theorem intParam_le (query : List (String × String)) (name : String) :
    intParam query name defaultLimit maxLimit ≤ maxLimit := by
  unfold intParam
  split
  · decide
  · split
    · decide
    · exact Nat.min_le_right _ _

end InrSettle.Ops
