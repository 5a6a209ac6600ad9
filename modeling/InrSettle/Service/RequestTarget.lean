import InrSettle.Domain.RateLimit
import InrSettle.Service.Idempotency

/-!
# The target of a request

The router reads the segments of a path; the bucket and the claim read the path as it is
spelled.
-/

namespace InrSettle

/-! ### Segments -/

/-- `path.split('/')`. -/
def splitPath (path : String) : List String := (path.toList.splitOn '/').map String.ofList

theorem intercalate_splitPath (path : String) : "/".intercalate (splitPath path) = path := by
  rw [← String.toList_inj, String.toList_intercalate, splitPath, List.map_map]
  have same : String.toList ∘ String.ofList = id := funext fun _ => String.toList_ofList
  rw [same, List.map_id]
  exact List.intercalate_splitOn '/'

/-- The segments a pattern has matched, from the parameters. -/
def fillPattern : List Segment → List (String × String) → List String
  | .text p :: pattern, params => p :: fillPattern pattern params
  | .param _ :: pattern, (_, s) :: params => s :: fillPattern pattern params
  | _, _ => []

theorem fillPattern_of_match {pattern : List Segment} {segments : List String}
    {params : List (String × String)} (matched : matchSegments pattern segments = some params) :
    fillPattern pattern params = segments := by
  induction pattern generalizing segments params with
  | nil => cases segments with
    | nil => rfl
    | cons => cases matched
  | cons first pattern ih => cases segments with
    | nil => cases first <;> cases matched
    | cons s segments => cases first with
      | text p =>
        rw [matchSegments] at matched
        split at matched
        · rename_i same
          rw [fillPattern, ih matched, same]
        · cases matched
      | param name =>
        obtain ⟨rest, found, rfl⟩ := Option.map_eq_some_iff.mp matched
        rw [fillPattern, ih found]

theorem matchRoute_matched {method : Method} {path : List String} {route : RouteDefinition}
    {params : List (String × String)} (matched : matchRoute method path = .matched route params) :
    route.method = method ∧ matchSegments route.pattern (path.filter (· ≠ "")) = some params := by
  simp only [matchRoute] at matched
  split at matched
  · rename_i route' params' found
    obtain ⟨rfl, rfl⟩ := RouteMatch.matched.inj matched
    refine ⟨of_decide_eq_true (List.find?_some found :), ?_⟩
    obtain ⟨route, -, mem⟩ := List.mem_filterMap.mp (List.mem_of_find?_eq_some found)
    obtain ⟨params, reads, is⟩ := Option.map_eq_some_iff.mp mem
    obtain ⟨rfl, rfl⟩ := Prod.mk.inj is
    exact reads
  · split at matched <;> cases matched

/-! ### Targets -/

structure Target where
  method : Method
  path : String
  deriving DecidableEq

namespace Target

def resolved (target : Target) : RouteMatch := matchRoute target.method (splitPath target.path)

/-- What is left of the path between its slashes. -/
def segments (target : Target) : List String := (splitPath target.path).filter (· ≠ "")

def bucket (target : Target) : RateLimitBucket := bucketFor target.method.text target.path

/-- What `withIdempotencyClaim` is given for the target. -/
def claim (target : Target) (apiVersion idempotencyKey : String) (body : Option String)
    (requestId : String) (subjectId : Option String) : ClaimRequest where
  method := target.method
  path := splitPath target.path
  apiVersion := apiVersion
  idempotencyKey := idempotencyKey
  body := body
  requestId := requestId
  subjectId := subjectId

end Target

/-- The endpoint and the fingerprint of a claim. -/
def ClaimRequest.identity (hashes : ApiHashes) (req : ClaimRequest) : String × String :=
  (req.endpointText, hashes.requestFingerprint req.fingerprintInput)

/-- Two targets are one, to the router. -/
def SameRoute (a b : Target) : Prop :=
  a.method = b.method ∧ ∃ route params, a.resolved = .matched route params ∧
    b.resolved = .matched route params

/-- Targets that are one to the router are one to the limiter and to the claim, and targets that
are not share no claim. -/
structure OneMeaning (hashes : ApiHashes) (a b : Target) : Prop where
  bucket : SameRoute a b → a.bucket = b.bucket
  identity : SameRoute a b → ∀ version key body requestId requestId' subject,
    (a.claim version key body requestId subject).identity hashes =
      (b.claim version key body requestId' subject).identity hashes
  apart : ∀ route params route' params', a.resolved = .matched route params →
    b.resolved = .matched route' params' → (route, params) ≠ (route', params') →
    ∀ c c' : ClaimRequest, c.method = a.method → c.path = splitPath a.path →
      c'.method = b.method → c'.path = splitPath b.path → c.identity hashes ≠ c'.identity hashes

theorem sameRoute_iff {a b : Target} : SameRoute a b ↔ a.method = b.method ∧
    a.segments = b.segments ∧ ∃ route params, a.resolved = .matched route params := by
  constructor
  · rintro ⟨method, route, params, matched, matched'⟩
    have first := fillPattern_of_match (matchRoute_matched matched).2
    have second := fillPattern_of_match (matchRoute_matched matched').2
    exact ⟨method, first.symm.trans second, route, params, matched⟩
  · rintro ⟨method, segments, route, params, matched⟩
    refine ⟨method, route, params, matched, ?_⟩
    have same : a.resolved = b.resolved := by
      simp only [Target.resolved, matchRoute]
      rw [Target.segments, Target.segments] at segments
      rw [method, segments]
    rw [← same, matched]

theorem endpointText_of {c : ClaimRequest} {target : Target} (method : c.method = target.method)
    (path : c.path = splitPath target.path) :
    c.endpointText = target.method.text ++ " " ++ target.path := by
  rw [ClaimRequest.endpointText, method, path, intercalate_splitPath]

theorem endpoint_inj {a b : Target}
    (same : a.method.text ++ " " ++ a.path = b.method.text ++ " " ++ b.path) : a = b := by
  obtain ⟨method, path⟩ := a
  obtain ⟨method', path'⟩ := b
  have chars := congrArg String.toList same
  cases method <;> cases method' <;>
    simp [Method.text, String.toList_append] at chars ⊢ <;> exact String.toList_inj.mp chars

/-- The paths of a route are read alike exactly if they are spelled alike. -/
theorem requestPath_oneMeaning (hashes : ApiHashes) (a b : Target) :
    OneMeaning hashes a b ↔ (a.method = b.method → a.segments = b.segments →
      (∃ route params, a.resolved = .matched route params) → a.path = b.path) := by
  constructor
  · intro meaning method segments matched
    have same := meaning.identity (sameRoute_iff.mpr ⟨method, segments, matched⟩) "" "" none "" ""
      none
    have text : ∀ target : Target, (target.claim "" "" none "" none).endpointText =
        target.method.text ++ " " ++ target.path := fun _ => endpointText_of rfl rfl
    have endpoint := congrArg Prod.fst same
    simp only [ClaimRequest.identity, text] at endpoint
    exact congrArg Target.path (endpoint_inj endpoint)
  · intro spelled
    have equal : SameRoute a b → a = b := fun same => by
      obtain ⟨method, segments, matched⟩ := sameRoute_iff.mp same
      cases a
      cases b
      exact congrArg₂ Target.mk method (spelled method segments matched)
    refine ⟨fun same => by rw [equal same], fun same version key body requestId requestId' subject =>
      by rw [equal same]; rfl, ?_⟩
    intro route params route' params' matched matched' apart c c' method path method' path' same
    have endpoint := congrArg Prod.fst same
    simp only [ClaimRequest.identity, endpointText_of method path,
      endpointText_of method' path'] at endpoint
    obtain rfl := endpoint_inj endpoint
    obtain ⟨rfl, rfl⟩ := RouteMatch.matched.inj (matched.symm.trans matched')
    exact apart rfl

/-- With one more slash, a batch draws from the bucket of the other writes, and is another claim. -/
theorem batches_spelled_twice :
    ¬∃ hashes, OneMeaning hashes ⟨.post, "/v1/batches"⟩ ⟨.post, "//v1/batches"⟩ := by
  rintro ⟨hashes, meaning⟩
  have same : SameRoute ⟨.post, "/v1/batches"⟩ ⟨.post, "//v1/batches"⟩ :=
    sameRoute_iff.mpr ⟨rfl, by decide +kernel,
      ⟨.post, [.text "v1", .text "batches"], "batches.create", .routeManaged, none⟩, [],
      by decide +kernel⟩
  have bucket := meaning.bucket same
  revert bucket
  decide +kernel

end InrSettle
