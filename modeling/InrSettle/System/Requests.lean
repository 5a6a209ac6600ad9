import InrSettle.Library.Run
import InrSettle.Service.Idempotency

/-!
# API requests of a tenant

Requests that passed authentication and carry an `Idempotency-Key`, each with its own
transaction: the claim, the operation, the stored response and the commit are steps, and
between two of them any other request, the sweep or the end of the process may come.
-/

namespace InrSettle

/-- What a request was answered. -/
inductive RequestAnswer where
  /-- Its operation committed. -/
  | performed (response : StoredResponse)
  | replayed (response : StoredResponse)
  /-- By the claim of its key. -/
  | conflicted (error : ApiError)
  /-- By its handler. -/
  | refused (error : ApiError)
  /-- Its process or connection ended first. -/
  | lost
  deriving DecidableEq

inductive RequestPhase where
  | arrived
  /-- The claim is inserted, and seen by nobody until it commits. -/
  | claimed (row : ClaimRow)
  | operated (row : ClaimRow) (result : HandlerResult)
  | completed (row : ClaimRow) (response : StoredResponse)
  /-- Another claim has the key. -/
  | found
  /-- A batch that no import with its content was found for. -/
  | unmatched (importFingerprint : String)
  /-- A batch that an index refused. -/
  | raced (importFingerprint : String)
  /-- A batch with its container and its claim committed. -/
  | importing
  | answered (answer : RequestAnswer)
  deriving DecidableEq

structure RequestRun where
  request : ApiRequest
  route : RouteDefinition
  params : List (String × String)
  phase : RequestPhase
  deriving DecidableEq

namespace RequestRun

def claim (r : RequestRun) : ClaimRequest := r.request.claimRequest r.route r.params

/-- The route writes its own claim. -/
def managed (r : RequestRun) : Bool := decide (r.route.idempotency = .routeManaged)

/-- The claim row its open transaction has inserted. -/
def inserted (r : RequestRun) : Option ClaimRow :=
  match r.phase with
  | .claimed row | .operated row _ | .completed row _ => some row
  | _ => none

def isAnswered (r : RequestRun) : Bool :=
  match r.phase with
  | .answered _ => true
  | _ => false

end RequestRun

/-- An operation that committed, with the claim row that committed beside it. -/
structure Work where
  runId : Nat
  request : ApiRequest
  managed : Bool
  claim : ClaimRow
  deriving DecidableEq

structure RequestWorld where
  claims : List ClaimRow
  /-- The import fingerprints of the batches. -/
  batches : List String
  works : List Work
  runs : List RequestRun
  clock : Instant

namespace RequestWorld

def start (clock : Instant) : RequestWorld := ⟨[], [], [], [], clock⟩

/-- An open transaction has inserted a claim for the key. -/
def held (w : RequestWorld) (key : ClaimKey) : Bool :=
  w.runs.any fun r => decide (r.inserted.map (·.key) = some key)

def stored (w : RequestWorld) (key : ClaimKey) : Option ClaimRow :=
  w.claims.find? fun row => decide (row.key = key)

def go (w : RequestWorld) (runId : Nat) (r : RequestRun) (phase : RequestPhase) : RequestWorld :=
  { w with runs := w.runs.set runId { r with phase } }

/-! ### Steps of one request -/

def arrive (w : RequestWorld) (request : ApiRequest) : RequestWorld :=
  match matchRoute request.method request.path with
  | .matched route params =>
    { w with runs := w.runs ++ [⟨request, route, params, .arrived⟩] }
  | _ => w

/-- The claim's insert. Where another transaction holds the index slot it waits, which is this
step not taken yet, or gives up. -/
def insertClaim (hashes : ApiHashes) (w : RequestWorld) (runId : Nat) (r : RequestRun) :
    RequestWorld :=
  if r.managed then w
  else if w.held r.request.key then
    w.go runId r (.answered (.conflicted (idempotencyInProgress none)))
  else if (w.stored r.request.key).isSome then w.go runId r .found
  else w.go runId r (.claimed (insertedClaim hashes r.claim w.clock))

/-- The row that refused the insert is read by a statement of its own. -/
def readClaim (hashes : ApiHashes) (w : RequestWorld) (runId : Nat) (r : RequestRun) :
    RequestWorld :=
  match answerExisting hashes r.claim (w.stored r.request.key) with
  | .ok response => w.go runId r (.answered (.replayed response))
  | .error error => w.go runId r (.answered (.conflicted error))

/-- A refusal aborts the transaction, and the claim goes with it. -/
def operate (w : RequestWorld) (runId : Nat) (r : RequestRun) (row : ClaimRow)
    (result : Except ApiError HandlerResult) : RequestWorld :=
  match result with
  | .ok result => w.go runId r (.operated row result)
  | .error error => w.go runId r (.answered (.refused error))

def commit (w : RequestWorld) (runId : Nat) (r : RequestRun) (row : ClaimRow)
    (response : StoredResponse) : RequestWorld :=
  { w.go runId r (.answered (.performed response)) with
    claims := w.claims ++ [row]
    works := w.works ++ [⟨runId, r.request, r.managed, row⟩] }

/-! ### Steps of a batch -/

/-- What a batch found by its content is answered, its row as it is now. -/
def replayBatch (w : RequestWorld) (runId : Nat) (r : RequestRun) (summary : String) :
    RequestWorld :=
  w.go runId r (.answered (.replayed ⟨200, summary⟩))

def lookupBatch (hashes : ApiHashes) (w : RequestWorld) (runId : Nat) (r : RequestRun)
    (summary : String) : RequestWorld :=
  if r.managed then
    match hashes.importFingerprint r.request.body with
    | .error error => w.go runId r (.answered (.refused error))
    | .ok fingerprint =>
      if fingerprint ∈ w.batches then w.replayBatch runId r summary
      else w.go runId r (.unmatched fingerprint)
  else w

/-- The container and the claim, in one transaction: both indexes admit it, or neither row is
there. -/
def createContainer (hashes : ApiHashes) (w : RequestWorld) (runId : Nat) (r : RequestRun)
    (fingerprint : String) (batchId : String) : RequestWorld :=
  if fingerprint ∈ w.batches ∨ (w.stored r.request.key).isSome then
    w.go runId r (.raced fingerprint)
  else
    { w.go runId r .importing with
      claims := w.claims ++ [containerClaim hashes r.claim w.clock batchId]
      batches := w.batches ++ [fingerprint]
      works := w.works ++
        [⟨runId, r.request, r.managed, containerClaim hashes r.claim w.clock batchId⟩] }

/-- After a unique violation: the batch with this content, or the violation itself. -/
def lookupRaced (w : RequestWorld) (runId : Nat) (r : RequestRun) (fingerprint summary : String) :
    RequestWorld :=
  if fingerprint ∈ w.batches then w.replayBatch runId r summary
  else w.go runId r (.answered (.refused internalError))

def finishImport (w : RequestWorld) (runId : Nat) (r : RequestRun)
    (result : Except ApiError String) : RequestWorld :=
  match result with
  | .ok summary => w.go runId r (.answered (.performed ⟨201, summary⟩))
  | .error error => w.go runId r (.answered (.refused error))

/-- The process ends, or the connection; the open transaction is rolled back. -/
def lose (w : RequestWorld) (runId : Nat) (r : RequestRun) : RequestWorld :=
  if r.isAnswered then w else w.go runId r (.answered .lost)

end RequestWorld

/-- A step of one request. -/
inductive RequestStep where
  | insertClaim
  | readClaim
  | operate (result : Except ApiError HandlerResult)
  | complete
  | commit
  | lookupBatch (summary : String)
  | createContainer (batchId : String)
  | lookupRaced (summary : String)
  | finishImport (result : Except ApiError String)
  | lose

inductive RequestOp where
  | arrive (request : ApiRequest)
  | proceed (runId : Nat) (step : RequestStep)
  /-- `now()` is the time the transaction of the sweep started. -/
  | sweep (age : Nat)
  | tick (ms : Nat)

namespace RequestWorld

variable (hashes : ApiHashes)

def proceed (w : RequestWorld) (runId : Nat) (r : RequestRun) (s : RequestStep) : RequestWorld :=
  match s, r.phase with
  | .insertClaim, .arrived => w.insertClaim hashes runId r
  | .readClaim, .found => w.readClaim hashes runId r
  | .operate result, .claimed row => w.operate runId r row result
  | .complete, .operated row result =>
    w.go runId r (.completed (row.completed result w.clock) result.response)
  | .commit, .completed row response => w.commit runId r row response
  | .lookupBatch summary, .arrived => w.lookupBatch hashes runId r summary
  | .createContainer batchId, .unmatched fingerprint =>
    w.createContainer hashes runId r fingerprint batchId
  | .lookupRaced summary, .raced fingerprint => w.lookupRaced runId r fingerprint summary
  | .finishImport result, .importing => w.finishImport runId r result
  | .lose, _ => w.lose runId r
  | _, _ => w

def step (w : RequestWorld) : RequestOp → RequestWorld
  | .arrive request => w.arrive request
  | .proceed runId s =>
    match w.runs[runId]? with
    | some r => w.proceed hashes runId r s
    | none => w
  | .sweep age => { w with claims := sweepExpiredIdempotencyClaims (w.clock - age) w.claims }
  | .tick ms => { w with clock := w.clock + ms }

end RequestWorld

end InrSettle
