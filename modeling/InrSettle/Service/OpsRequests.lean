import InrSettle.Domain.Internal

/-!
# Requests of operators

Operators, their sessions and the record of what they have read beside the tables of the tenants.
Each statement of the session service is a step of its own, as it has no transaction, and so is each
transaction that records a read; between two of them anything else may go first.
-/

namespace InrSettle.Ops

/-! ### The tables -/

inductive MfaMethod where
  | totp | webauthn
  deriving DecidableEq

/-- A row of `internal_operators`, with its rows of `internal_operator_roles`. -/
structure InternalOperator where
  email : String
  displayName : String
  suspended : Bool := false
  disabledAt : Option Instant := none
  roles : List InternalRole := []
  deriving DecidableEq

/-- A row of `internal_sessions`; an operator is known by its position. -/
structure InternalSession where
  operatorId : Nat
  mfaMethod : MfaMethod
  deviceFingerprint : String
  ip : String
  networkPolicy : String
  establishedAt : Instant
  expiresAt : Instant
  revokedAt : Option Instant := none
  revokedReason : Option String := none
  deriving DecidableEq

inductive ActionKind where
  | read | write
  deriving DecidableEq

structure RecordedSubject where
  subjectType : String
  subjectId : String
  deriving DecidableEq

/-- A row of `operator_actions`. -/
structure OperatorAction where
  operatorId : Nat
  sessionId : Nat
  kind : ActionKind
  action : String
  scope : Scope
  subject : Option RecordedSubject
  reason : String
  requestId : String
  ip : String
  createdAt : Instant
  deriving DecidableEq

inductive Actor where
  | operator (operatorId : Nat)
  | other (type id : String)
  deriving DecidableEq

/-- A row of `audit_log`. -/
structure AuditEntry where
  scope : Scope
  actor : Actor
  action : String
  subject : RecordedSubject
  reason : Option String
  createdAt : Instant
  deriving DecidableEq

/-- A row of a tenant, with the column that lists are ordered by. -/
structure OpsRow (V : Type) where
  scope : Scope
  id : String
  at_ : Instant
  content : V
  deriving DecidableEq

/-- What operators read of the tenants. -/
structure Tenants (V : Type) where
  settlements : List (OpsRow V) := []
  /-- The exceptions, with whether each is resolved. -/
  exceptions : List (OpsRow V × Bool) := []
  facilities : List (OpsRow V) := []
  reservations : List (OpsRow V) := []
  drawdowns : List (OpsRow V) := []
  repayments : List (OpsRow V) := []
  reconciliations : List (OpsRow V) := []
  providerEvents : List (OpsRow V) := []

/-! ### Requests -/

structure NetworkPolicy where
  name : String
  allowedCidrs : List String
  deriving DecidableEq

structure EstablishInput where
  operatorId : Nat
  mfaMethod : MfaMethod
  deviceFingerprint : String
  ip : String
  policy : NetworkPolicy
  now : Instant
  deriving DecidableEq

structure OpsRequest where
  method : String
  path : List String
  query : List (String × String)
  /-- `x-ops-session`. -/
  session : Option Nat
  /-- `x-ops-device`. -/
  device : String := ""
  /-- `x-ops-reason`. -/
  reason : String := ""
  requestId : String
  ip : String
  /-- The body is there and is not JSON. -/
  badJson : Bool := false
  policy : NetworkPolicy
  now : Instant
  deriving DecidableEq

/-- The operator of a request, as it was resolved, and what is done. -/
structure OperatorContext where
  operatorId : Nat
  sessionId : Nat
  email : String
  displayName : String
  roles : List InternalRole
  action : String
  reason : String
  requestId : String
  ip : String
  deriving DecidableEq

/-- What a handler reads across tenants. -/
inductive OpsRead where
  | settlement (id : String)
  | audit (subjectId actorId : Option String) (limit : Nat)
  | exceptions (limit : Nat)
  | facilities
  | movements (limit : Nat)
  | reconciliations (limit : Nat)
  | providerEvents (limit : Nat)
  deriving DecidableEq

/-- A row of an answer. -/
inductive Seen (V : Type) where
  | row (row : OpsRow V)
  | entry (entry : AuditEntry)
  deriving DecidableEq

def Seen.scope {V : Type} : Seen V → Scope
  | .row shown => shown.scope
  | .entry logged => logged.scope

inductive OpsAnswer (V : Type) where
  | refused (status : Nat) (code : String)
  | view (ctx : OperatorContext) (read : OpsRead) (scopes : List Scope) (rows : List (Seen V))
  | history (ctx : OperatorContext) (rows : List OperatorAction)
  /-- The handlers that name workspaces alone, or write in a transaction of their own. -/
  | handled (ctx : OperatorContext) (name : OpsRouteName)
  deriving DecidableEq

/-- Where a request is. -/
inductive Stage (V : Type) where
  | arrived (sessionId : Nat)
  | mismatched (sessionId : Nat)
  | session (sessionId operatorId : Nat)
  | operator (sessionId operatorId : Nat) (email displayName : String)
  | reviewing (ctx : OperatorContext) (operatorId : String) (limit : Nat)
  | recording (ctx : OperatorContext) (read : OpsRead) (subject : Option RecordedSubject)
      (scopes remaining : List Scope)
  | answered (answer : OpsAnswer V)
  deriving DecidableEq

inductive Task (V : Type) where
  | establishing (input : EstablishInput)
  | opening (input : EstablishInput)
  | suspending (operatorId : Nat) (live : List Nat) (now : Instant)
  | granting (operatorId : Nat) (roles : List InternalRole)
  | request (request : OpsRequest) (stage : Stage V)
  | ended
  deriving DecidableEq

structure OpsWorld (V : Type) where
  operators : List InternalOperator := []
  sessions : List InternalSession := []
  actions : List OperatorAction := []
  auditLog : List AuditEntry := []
  tenants : Tenants V := {}
  tasks : List (Task V) := []

/-- What a step is given: whether the database refuses it, and the clock. -/
structure Given where
  refuses : Bool := false
  now : Instant := 0

namespace OpsWorld

variable {V : Type}

def empty : OpsWorld V := {}

def setTask (w : OpsWorld V) (task : Nat) (next : Task V) : OpsWorld V :=
  { w with tasks := w.tasks.set task next }

def addTask (w : OpsWorld V) (task : Task V) : OpsWorld V := { w with tasks := w.tasks ++ [task] }

end OpsWorld

/-! ### Reading -/

section Reading

variable {V : Type}

def newestFirst (rows : List (OpsRow V)) : List (OpsRow V) :=
  rows.mergeSort fun a b => b.at_ ≤ a.at_

def oldestFirst (rows : List (OpsRow V)) : List (OpsRow V) :=
  rows.mergeSort fun a b => a.at_ ≤ b.at_

def within (scopes : List Scope) (rows : List (OpsRow V)) : List (OpsRow V) :=
  rows.filter fun row => row.scope ∈ scopes

def actorText : Actor → String
  | .operator operatorId => toString operatorId
  | .other _ id => id

/-- The query of a read. A settlement is looked up by its id alone. -/
def rowsRead (w : OpsWorld V) (scopes : List Scope) : OpsRead → List (Seen V)
  | .settlement id => ((w.tenants.settlements.filter (·.id = id)).take 1).map .row
  | .audit subjectId actorId limit =>
    (((w.auditLog.filter fun entry => entry.scope ∈ scopes ∧
        (∀ id ∈ subjectId, entry.subject.subjectId = id) ∧
        ∀ id ∈ actorId, actorText entry.actor = id).mergeSort
      fun a b => b.createdAt ≤ a.createdAt).take limit).map .entry
  | .exceptions limit =>
    ((oldestFirst (within scopes ((w.tenants.exceptions.filter fun (_, resolved) =>
      !resolved).map (·.1)))).take limit).map .row
  | .facilities => (newestFirst (within scopes w.tenants.facilities)).map .row
  | .movements limit =>
    ((newestFirst (within scopes w.tenants.reservations ++ within scopes w.tenants.drawdowns ++
      within scopes w.tenants.repayments)).take limit).map .row
  | .reconciliations limit =>
    ((oldestFirst (within scopes w.tenants.reconciliations)).take limit).map .row
  | .providerEvents limit =>
    ((newestFirst (within scopes w.tenants.providerEvents)).take limit).map .row

/-- `opsOperatorHistory`. -/
def opsOperatorHistory (w : OpsWorld V) (operatorId : String) (limit : Nat) :
    List OperatorAction :=
  ((w.actions.filter fun action => toString action.operatorId = operatorId).mergeSort
    fun a b => b.createdAt ≤ a.createdAt).take limit

/-- A text that is there and is not empty. -/
def stated (text : Option String) : Option String := text.filter (· ≠ "")

/-- What the handler of a route reads across tenants. -/
def readOf (name : OpsRouteName) (params query : List (String × String)) : Option OpsRead :=
  let limit := intParam query "limit" defaultLimit maxLimit
  match name with
  | .settlementsGet => some (.settlement ((params.lookup "id").getD ""))
  | .settlementsAudit => some (.audit (some ((params.lookup "id").getD "")) none limit)
  | .exceptionsList => some (.exceptions limit)
  | .facilitiesList => some .facilities
  | .facilitiesMovements => some (.movements limit)
  | .reconciliationsList => some (.reconciliations limit)
  | .providerEventsList => some (.providerEvents limit)
  | .auditList =>
    some (.audit (stated (query.lookup "subject_id")) (stated (query.lookup "actor_id")) limit)
  | _ => none

/-- The subject that a read is recorded with. -/
def subjectOf (name : OpsRouteName) (params : List (String × String)) : Option RecordedSubject :=
  match name with
  | .settlementsGet | .settlementsAudit => some ⟨"settlement", (params.lookup "id").getD ""⟩
  | _ => none

end Reading

/-! ### Statements and transactions -/

section Steps

variable {V : Type} (decodeURIComponent : String → Option String)

-- `<<=` of the address and one of the blocks; nothing where the database refuses a text.
variable (addressIsAllowed : List String → String → Option Bool)

def trimmed (text : String) : String := String.ofList (trim text)

/-- The checks on a request before a table is read. -/
def arrive (request : OpsRequest) : Stage V :=
  match request.session with
  | none => .answered (.refused 401 "missing_session")
  | some sessionId =>
    if trim request.ip = [] then .answered (.refused 401 "request_address_missing")
    else if trim request.device = [] then .answered (.refused 401 "session_device_mismatch")
    else if request.policy.allowedCidrs = [] then .answered (.refused 500 "internal_error")
    else match addressIsAllowed request.policy.allowedCidrs request.ip with
    | none => .answered (.refused 500 "internal_error")
    | some false => .answered (.refused 401 "network_not_allowed")
    | some true => .arrived sessionId

def readSession (w : OpsWorld V) (request : OpsRequest) (sessionId : Nat) : Stage V :=
  match w.sessions[sessionId]? with
  | none => .answered (.refused 401 "session_not_found")
  | some session =>
    if session.revokedAt ≠ none then .answered (.refused 401 "session_revoked")
    else if session.expiresAt ≤ request.now then .answered (.refused 401 "session_expired")
    else if session.deviceFingerprint ≠ trimmed request.device then .mismatched sessionId
    else .session sessionId session.operatorId

def readOperator (w : OpsWorld V) (sessionId operatorId : Nat) : Stage V :=
  match w.operators[operatorId]? with
  | none => .answered (.refused 401 "session_not_found")
  | some operator =>
    if operator.suspended then .answered (.refused 401 "operator_suspended")
    else .operator sessionId operatorId operator.email operator.displayName

def rolesOf (w : OpsWorld V) (operatorId : Nat) : List InternalRole :=
  (w.operators[operatorId]?.map (·.roles)).getD []

/-- `requireCapability`: the code of the refusal. -/
def refusal (ctx : OperatorContext) (capability : InternalCapability) : Option String :=
  if capability ∉ internalCapabilitiesFor ctx.roles then some "insufficient_capability"
  else validateReason ctx.reason

/-- `withOperatorRead`, up to its first record. -/
def withOperatorRead (ctx : OperatorContext) (read : OpsRead) (subject : Option RecordedSubject)
    (scopes : List Scope) : Stage V :=
  match refusal ctx .read with
  | some code => .answered (.refused 403 code)
  | none =>
    if scopes = [] then .answered (.refused 403 "insufficient_capability")
    else .recording ctx read subject scopes scopes

def handleOpsRoute (request : OpsRequest) (matched : MatchedOpsRoute) (ctx : OperatorContext) :
    Stage V :=
  match readOf matched.route.name matched.params request.query with
  | some read =>
    if explicitScopes request.query = [] then .answered (.refused 400 "workspace_required")
    else withOperatorRead ctx read (subjectOf matched.route.name matched.params)
      (explicitScopes request.query)
  | none =>
    if matched.route.name = .operatorsHistory then
      .reviewing ctx ((matched.params.lookup "id").getD "")
        (intParam request.query "limit" defaultLimit maxLimit)
    else .answered (.handled ctx matched.route.name)

def contextOf (request : OpsRequest) (matched : MatchedOpsRoute) (sessionId operatorId : Nat)
    (email displayName : String) (roles : List InternalRole) : OperatorContext where
  operatorId := operatorId
  sessionId := sessionId
  email := email
  displayName := displayName
  roles := roles
  action := "ops." ++ matched.route.name.wire
  reason := request.reason
  requestId := request.requestId
  ip := request.ip

/-- Where a request goes whose operator has been resolved. -/
def dispatch (request : OpsRequest) (sessionId operatorId : Nat) (email displayName : String)
    (roles : List InternalRole) : Stage V :=
  match matchOpsRoute decodeURIComponent request.method request.path with
  | .error () => .answered (.refused 500 "internal_error")
  | .ok none => .answered (.refused 404 "not_found")
  | .ok (some matched) =>
    if matched.route.capability ∉ internalCapabilitiesFor roles then
      .answered (.refused 403 "insufficient_capability")
    else match (if matched.route.reason then validateReason request.reason else none) with
    | some code => .answered (.refused 403 code)
    | none =>
      if request.badJson then .answered (.refused 400 "invalid_json")
      else handleOpsRoute request matched
        (contextOf request matched sessionId operatorId email displayName roles)

/-- `btrim`, of blanks alone. -/
def btrim (text : String) : List Char :=
  ((text.toList.dropWhile (· = ' ')).reverse.dropWhile (· = ' ')).reverse

def readAction (ctx : OperatorContext) (subject : Option RecordedSubject) (scope : Scope)
    (now : Instant) : OperatorAction where
  operatorId := ctx.operatorId
  sessionId := ctx.sessionId
  kind := .read
  action := ctx.action
  scope := scope
  subject := subject
  reason := ctx.reason
  requestId := ctx.requestId
  ip := ctx.ip
  createdAt := now

def readEntry (ctx : OperatorContext) (subject : Option RecordedSubject) (scope : Scope)
    (now : Instant) : AuditEntry where
  scope := scope
  actor := .operator ctx.operatorId
  action := ctx.action
  subject := subject.getD ⟨"workspace", scope.workspaceId⟩
  reason := some ctx.reason
  createdAt := now

/-- `recordOperatorAccess` of a read: the two rows, in one transaction; nothing where the reason is
too short for its column. -/
def recordOperatorAccess (ctx : OperatorContext) (subject : Option RecordedSubject) (scope : Scope)
    (now : Instant) (w : OpsWorld V) : Option (OpsWorld V) :=
  if (btrim ctx.reason).length < 8 then none
  else some { w with
    actions := w.actions ++ [readAction ctx subject scope now]
    auditLog := w.auditLog ++ [readEntry ctx subject scope now] }

/-- `OPS_DEVICE_MISMATCH_REASON`. -/
def opsDeviceMismatchReason : String := "ops_session_device_mismatch"

/-- A settlement that is not found is refused. -/
def answerOf (ctx : OperatorContext) (read : OpsRead) (scopes : List Scope)
    (rows : List (Seen V)) : OpsAnswer V :=
  match read, rows with
  | .settlement _, [] => .refused 404 "not_found"
  | _, _ => .view ctx read scopes rows

/-- A statement fails. -/
def Stage.failed : Stage V → Stage V
  | answered answer => answered answer
  | _ => answered (.refused 500 "internal_error")

/-- The next statement of a request. -/
def goOnRequest (given : Given) (request : OpsRequest) (w : OpsWorld V) (stage : Stage V) :
    OpsWorld V × Stage V :=
  if given.refuses then (w, stage.failed)
  else match stage with
  | .arrived sessionId => (w, readSession w request sessionId)
  | .mismatched sessionId =>
    ({ w with sessions := w.sessions.modify sessionId fun session => { session with
        revokedAt := some request.now
        revokedReason := some opsDeviceMismatchReason } },
      .answered (.refused 401 "session_device_mismatch"))
  | .session sessionId operatorId => (w, readOperator w sessionId operatorId)
  | .operator sessionId operatorId email displayName =>
    (w, dispatch decodeURIComponent request sessionId operatorId email displayName
      (rolesOf w operatorId))
  | .recording ctx read subject scopes (scope :: remaining) =>
    match recordOperatorAccess ctx subject scope given.now w with
    | some w' => (w', .recording ctx read subject scopes remaining)
    | none => (w, stage.failed)
  | .recording ctx read _ scopes [] =>
    (w, .answered (answerOf ctx read scopes (rowsRead w scopes read)))
  | .reviewing ctx operatorId limit =>
    (w, .answered (.history ctx (opsOperatorHistory w operatorId limit)))
  | .answered answer => (w, .answered answer)

def sessionOf (input : EstablishInput) : InternalSession where
  operatorId := input.operatorId
  mfaMethod := input.mfaMethod
  deviceFingerprint := trimmed input.deviceFingerprint
  ip := input.ip
  networkPolicy := input.policy.name
  establishedAt := input.now
  expiresAt := input.now + opsSessionTtlSeconds * 1000

/-- The sessions of an operator that are not revoked. -/
def liveSessions (w : OpsWorld V) (operatorId : Nat) : List Nat :=
  (w.sessions.zipIdx.filter fun (session, _) =>
    session.operatorId = operatorId ∧ session.revokedAt = none).map (·.2)

def revoked (now : Instant) (session : InternalSession) : InternalSession :=
  { session with revokedAt := session.revokedAt.or (some now) }

/-- The transaction of `suspendOperator` commits: the sessions are those its update came upon. -/
def suspend (operatorId : Nat) (live : List Nat) (now : Instant) (w : OpsWorld V) : OpsWorld V :=
  if w.operators[operatorId]?.map (·.suspended) = some false then { w with
    operators := w.operators.modify operatorId
      ({ · with suspended := true, disabledAt := some now })
    sessions := w.sessions.mapIdx fun i session =>
      if i ∈ live then revoked now session else session }
  else w

/-- A role is granted, if it is not held. -/
def grant (operatorId : Nat) (role : InternalRole) (w : OpsWorld V) : OpsWorld V :=
  { w with operators := w.operators.modify operatorId fun operator =>
    { operator with roles := operator.roles ++ [role] } }

/-- The next statement of a task. -/
def goOn (task : Nat) (given : Given) (w : OpsWorld V) : Task V → OpsWorld V
  | .establishing input =>
    match w.operators[input.operatorId]?.map (·.suspended) with
    | some false => w.setTask task (.opening input)
    | _ => w.setTask task .ended
  | .opening input =>
    if given.refuses then w.setTask task .ended
    else ({ w with sessions := w.sessions ++ [sessionOf input] } : OpsWorld V).setTask task .ended
  | .suspending operatorId live now => (suspend operatorId live now w).setTask task .ended
  | .granting operatorId (role :: roles) =>
    if role ∈ rolesOf w operatorId then w.setTask task .ended
    else (grant operatorId role w).setTask task (.granting operatorId roles)
  | .granting _ [] => w.setTask task .ended
  | .request request stage =>
    let (w', next) := goOnRequest decodeURIComponent given request w stage
    w'.setTask task (.request request next)
  | .ended => w

inductive OpsOp (V : Type) where
  | createOperator (email displayName : String) (roles : List InternalRole)
  | establishOperatorSession (input : EstablishInput)
  | revokeOperatorSession (sessionId : Nat) (now : Instant)
  | suspendOperator (operatorId : Nat) (now : Instant)
  | request (request : OpsRequest)
  | tenants (change : Tenants V → Tenants V)
  | audited (entry : AuditEntry)
  | goOn (task : Nat) (given : Given)

/-- The checks of `establishOperatorSession` before a table is read. -/
def admitted (input : EstablishInput) : Bool :=
  input.policy.allowedCidrs ≠ [] && trim input.deviceFingerprint ≠ [] &&
    addressIsAllowed input.policy.allowedCidrs input.ip == some true

/-- The tenants and their own log change as they will. -/
def step (w : OpsWorld V) : OpsOp V → OpsWorld V
  | .createOperator email displayName roles =>
    ({ w with operators := w.operators ++ [{ email := email, displayName := displayName }] } :
      OpsWorld V).addTask (.granting w.operators.length roles)
  | .establishOperatorSession input =>
    if admitted addressIsAllowed input then w.addTask (.establishing input) else w
  | .revokeOperatorSession sessionId now =>
    { w with sessions := w.sessions.modify sessionId (revoked now) }
  | .suspendOperator operatorId now =>
    if w.operators[operatorId]?.map (·.suspended) = some false then
      w.addTask (.suspending operatorId (liveSessions w operatorId) now)
    else w
  | .request request => w.addTask (.request request (arrive addressIsAllowed request))
  | .tenants change => { w with tenants := change w.tenants }
  | .audited entry => { w with auditLog := w.auditLog ++ [entry] }
  | .goOn task given =>
    match w.tasks[task]? with
    | none => w
    | some at_ => goOn decodeURIComponent task given w at_

end Steps

end InrSettle.Ops
