import InrSettle.Library.Table
import InrSettle.Store.Rows

/-!
# Idempotency of API requests

The route table, the claim a request makes on its `Idempotency-Key`, and the answer an
existing claim gives. The claims are those of one tenant.
-/

namespace InrSettle

/-! ### Routes -/

/-- The methods of the table; a request's method is read in upper case. -/
inductive Method where
  | get | post | delete
  deriving DecidableEq

def Method.text : Method → String
  | .get => "GET"
  | .post => "POST"
  | .delete => "DELETE"

inductive IdempotencyRequirement where
  | required | accepted | none | routeManaged
  deriving DecidableEq

/-- A segment of a pattern; a parameter captures one segment of the path. -/
inductive Segment where
  | text (value : String)
  | param (name : String)
  deriving DecidableEq

structure RouteDefinition where
  method : Method
  pattern : List Segment
  name : String
  idempotency : IdempotencyRequirement
  subjectParam : Option String := none
  deriving DecidableEq

def routes : List RouteDefinition :=
  [⟨.post, [.text "v1", .text "beneficiaries"], "beneficiaries.create", .accepted, none⟩,
    ⟨.get, [.text "v1", .text "beneficiaries"], "beneficiaries.list", .none, none⟩,
    ⟨.get, [.text "v1", .text "beneficiaries", .param "id"], "beneficiaries.get", .none, none⟩,
    ⟨.post, [.text "v1", .text "beneficiaries", .param "id", .text "verify"],
      "beneficiaries.verify", .accepted, some "id"⟩,
    ⟨.post, [.text "v1", .text "beneficiaries", .param "id", .text "disable"],
      "beneficiaries.disable", .accepted, some "id"⟩,
    ⟨.post, [.text "v1", .text "quotes"], "quotes.create", .accepted, none⟩,
    ⟨.get, [.text "v1", .text "quotes", .param "id"], "quotes.get", .none, none⟩,
    ⟨.post, [.text "v1", .text "settlements"], "settlements.create", .required, none⟩,
    ⟨.get, [.text "v1", .text "settlements"], "settlements.list", .none, none⟩,
    ⟨.get, [.text "v1", .text "settlements", .param "id"], "settlements.get", .none, none⟩,
    ⟨.post, [.text "v1", .text "settlements", .param "id", .text "authorize"],
      "settlements.authorize", .required, some "id"⟩,
    ⟨.post, [.text "v1", .text "settlements", .param "id", .text "cancel"],
      "settlements.cancel", .accepted, some "id"⟩,
    ⟨.get, [.text "v1", .text "settlements", .param "id", .text "receipt"],
      "settlements.receipt", .none, none⟩,
    ⟨.get, [.text "v1", .text "settlements", .param "id", .text "returns"],
      "settlements.returns", .none, none⟩,
    ⟨.get, [.text "v1", .text "settlements", .param "id", .text "receipt", .text "composite"],
      "settlements.receipt.composite", .none, none⟩,
    ⟨.post, [.text "v1", .text "batches"], "batches.create", .routeManaged, none⟩,
    ⟨.get, [.text "v1", .text "batches", .param "id"], "batches.get", .none, none⟩,
    ⟨.get, [.text "v1", .text "batches", .param "id", .text "settlements"],
      "batches.settlements", .none, none⟩,
    ⟨.get, [.text "v1", .text "events"], "events.list", .none, none⟩,
    ⟨.get, [.text "v1", .text "events", .param "id"], "events.get", .none, none⟩,
    ⟨.post, [.text "v1", .text "webhook_endpoints"], "webhook_endpoints.create", .accepted, none⟩,
    ⟨.get, [.text "v1", .text "webhook_endpoints", .param "id"],
      "webhook_endpoints.get", .none, none⟩,
    ⟨.delete, [.text "v1", .text "webhook_endpoints", .param "id"],
      "webhook_endpoints.delete", .none, none⟩,
    ⟨.post, [.text "v1", .text "webhook_endpoints", .param "id", .text "test"],
      "webhook_endpoints.test", .accepted, some "id"⟩]

def matchSegments : List Segment → List String → Option (List (String × String))
  | [], [] => some []
  | .param name :: pattern, s :: segments =>
    (matchSegments pattern segments).map ((name, s) :: ·)
  | .text p :: pattern, s :: segments => if p = s then matchSegments pattern segments else none
  | _, _ => none

inductive RouteMatch where
  | matched (route : RouteDefinition) (params : List (String × String))
  | methodMismatch (allowed : List Method)
  | none
  deriving DecidableEq

/-- A path is what stands between its slashes; empty segments do not count. -/
def matchRoute (method : Method) (path : List String) : RouteMatch :=
  let segments := path.filter (· ≠ "")
  let pathMatches := routes.filterMap fun route =>
    (matchSegments route.pattern segments).map (route, ·)
  match pathMatches.find? (fun found => decide (found.1.method = method)) with
  | some (route, params) => .matched route params
  | Option.none =>
    if pathMatches = [] then .none else .methodMismatch (pathMatches.map (·.1.method))

/-! ### Requests and claims -/

structure ApiRequest where
  method : Method
  path : List String
  apiVersion : String
  idempotencyKey : String
  /-- The validated body in its canonical form. -/
  body : Option String
  requestId : String
  deriving DecidableEq

structure ClaimRequest where
  method : Method
  /-- The concrete path, ids resolved. -/
  path : List String
  apiVersion : String
  idempotencyKey : String
  body : Option String
  requestId : String
  /-- The object the request names, when the path names one. -/
  subjectId : Option String
  deriving DecidableEq

structure FingerprintInput where
  method : Method
  path : List String
  apiVersion : String
  body : Option String
  deriving DecidableEq

structure ApiError where
  type : String
  code : String
  message : String
  detail : String
  param : Option String := none
  deriving DecidableEq

/-- The digests of the service, and what it reads of the body of a batch. -/
structure ApiHashes where
  requestFingerprint : FingerprintInput → String
  importFingerprint : Option String → Except ApiError String

def fingerprintVersion : String := "v1"

structure StoredResponse where
  status : Nat
  body : String
  deriving DecidableEq

/-- The endpoint and the key, on which a tenant's claims have a unique index. -/
abbrev ClaimKey := (Method × List String) × String

structure ClaimRow where
  endpoint : Method × List String
  idempotencyKey : String
  requestFingerprint : String
  fingerprintVersion : String
  requestId : String
  subjectId : Option String
  /-- `response_status` and `response_body`, which are null together. -/
  response : Option StoredResponse
  createdAt : Instant
  completedAt : Option Instant
  expiresAt : Instant
  deriving DecidableEq

def ClaimRow.key (row : ClaimRow) : ClaimKey := (row.endpoint, row.idempotencyKey)

namespace ClaimRequest

def endpoint (req : ClaimRequest) : Method × List String := (req.method, req.path)

def key (req : ClaimRequest) : ClaimKey := (req.endpoint, req.idempotencyKey)

def endpointText (req : ClaimRequest) : String :=
  req.method.text ++ " " ++ "/".intercalate req.path

def fingerprintInput (req : ClaimRequest) : FingerprintInput :=
  ⟨req.method, req.path, req.apiVersion, req.body⟩

end ClaimRequest

/-- What the pipeline claims for a request its route matched. -/
def ApiRequest.claimRequest (req : ApiRequest) (route : RouteDefinition)
    (params : List (String × String)) : ClaimRequest where
  method := req.method
  path := req.path
  apiVersion := req.apiVersion
  idempotencyKey := req.idempotencyKey
  body := req.body
  requestId := req.requestId
  subjectId := route.subjectParam.bind (params.lookup ·)

def ApiRequest.key (req : ApiRequest) : ClaimKey := ((req.method, req.path), req.idempotencyKey)

/-! ### Errors -/

def idempotencyKeyReuse (endpoint : String) : ApiError where
  type := "conflict_error"
  code := "idempotency_key_reuse"
  message := "This Idempotency-Key was already used with a different request."
  detail := "An earlier request to " ++ endpoint ++ " used this key with a different body. " ++
    "Use a new key for a new request, or resend the original body to replay the original response."
  param := some "Idempotency-Key"

def idempotencyInProgress (detail : Option String) : ApiError where
  type := "conflict_error"
  code := "idempotency_in_progress"
  message := "An earlier request with this Idempotency-Key is still running."
  detail := detail.getD <|
    "Retry with the same key after a short backoff; the original response will be replayed."
  param := some "Idempotency-Key"

def claimInconsistent : ApiError where
  type := "api_error"
  code := "internal_error"
  message := "This request failed inside INRSettle. It is our fault, not yours."
  detail := "An idempotency claim could neither be created nor found, which should not be " ++
    "possible. Nothing was executed, so nothing was charged and nothing moved. " ++
    "Send us the request_id on this response."

def internalError : ApiError where
  type := "api_error"
  code := "internal_error"
  message := "This request failed inside INRSettle. It is our fault, not yours."
  detail := "Nothing was committed, so the request is safe to retry with the same " ++
    "Idempotency-Key. Send us the request_id on this response and we can tell " ++
    "you exactly what happened."

/-! ### The claim -/

def retention : Nat := 24 * 60 * 60 * 1000

/-- The row the claim inserts. -/
def insertedClaim (hashes : ApiHashes) (req : ClaimRequest) (now : Instant) : ClaimRow where
  endpoint := req.endpoint
  idempotencyKey := req.idempotencyKey
  requestFingerprint := hashes.requestFingerprint req.fingerprintInput
  fingerprintVersion := fingerprintVersion
  requestId := req.requestId
  subjectId := req.subjectId
  response := none
  createdAt := now
  completedAt := none
  expiresAt := now + retention

/-- The row a batch inserts with its container. -/
def containerClaim (hashes : ApiHashes) (req : ClaimRequest) (now : Instant) (batchId : String) :
    ClaimRow :=
  { insertedClaim hashes req now with subjectId := some batchId }

/-- What a handler returns: the response, and the object it acted on. -/
structure HandlerResult where
  response : StoredResponse
  subjectId : Option String
  deriving DecidableEq

/-- The row once the operation has run. -/
def ClaimRow.completed (row : ClaimRow) (result : HandlerResult) (now : Instant) : ClaimRow :=
  { row with
    response := some result.response
    subjectId := row.subjectId <|> result.subjectId
    completedAt := some now }

/-- What the claim that holds the key answers. -/
def answerExisting (hashes : ApiHashes) (req : ClaimRequest) :
    Option ClaimRow → Except ApiError StoredResponse
  | none => .error claimInconsistent
  | some existing =>
    if existing.fingerprintVersion = fingerprintVersion ∧
        existing.requestFingerprint ≠ hashes.requestFingerprint req.fingerprintInput then
      .error (idempotencyKeyReuse req.endpointText)
    else if req.subjectId.isSome ∧ existing.subjectId.isSome ∧
        existing.subjectId ≠ req.subjectId then
      .error (idempotencyKeyReuse req.endpointText)
    else match existing.response with
      | none => .error <| idempotencyInProgress <| existing.subjectId.map fun subjectId =>
          "The earlier request created " ++ subjectId ++
            "; you can read it directly while this finishes."
      | some response => .ok response

/-- Only `expires_at` decides. -/
def sweepExpiredIdempotencyClaims (now : Instant) (claims : List ClaimRow) : List ClaimRow :=
  claims.filter fun row => decide (¬row.expiresAt < now)

end InrSettle
