import InrSettle.Library.Table
import InrSettle.Library.Visits
import InrSettle.Service.OpsRequests

/-!
# Runs of the operators' surface

A request acts for an operator only where its session, the operator and the roles have been read, in
this order, and let it; and no request is let after a session is revoked or an operator suspended.
What a step does to the tables and to a request, and from it what is true after any steps: a request
that acts was let to, and what it reads has been recorded.
-/

namespace InrSettle.Ops

open Run

variable {V : Type} {decodeURIComponent : String → Option String}
  {addressIsAllowed : List String → String → Option Bool}

/-! ### Stages -/

/-- The session and the operator of a request whose session has been let in. -/
def Stage.session? : Stage V → Option (Nat × Nat)
  | session sessionId operatorId => some (sessionId, operatorId)
  | operator sessionId operatorId _ _ => some (sessionId, operatorId)
  | reviewing ctx _ _ => some (ctx.sessionId, ctx.operatorId)
  | recording ctx _ _ _ _ => some (ctx.sessionId, ctx.operatorId)
  | answered (.view ctx _ _ _) => some (ctx.sessionId, ctx.operatorId)
  | answered (.history ctx _) => some (ctx.sessionId, ctx.operatorId)
  | answered (.handled ctx _) => some (ctx.sessionId, ctx.operatorId)
  | _ => none

/-- The operator of a request that has been found active. -/
def Stage.operator? : Stage V → Option Nat
  | session _ _ => none
  | stage => stage.session?.map (·.2)

/-- What a request acts with. -/
def Stage.context? : Stage V → Option OperatorContext
  | reviewing ctx _ _ => some ctx
  | recording ctx _ _ _ _ => some ctx
  | answered (.view ctx _ _ _) => some ctx
  | answered (.history ctx _) => some ctx
  | answered (.handled ctx _) => some ctx
  | _ => none

theorem Stage.operator_of_context {stage : Stage V} {ctx : OperatorContext}
    (acts : stage.context? = some ctx) : stage.operator? = some ctx.operatorId := by
  cases stage with
  | answered answer => cases answer <;> cases acts <;> rfl
  | _ => cases acts <;> rfl

theorem Stage.session_of_operator {stage : Stage V} {operatorId : Nat}
    (found : stage.operator? = some operatorId) :
    ∃ sessionId, stage.session? = some (sessionId, operatorId) := by
  cases stage with
  | answered answer => cases answer <;> cases found <;> exact ⟨_, rfl⟩
  | _ => cases found <;> exact ⟨_, rfl⟩

theorem Stage.session_of_context {stage : Stage V} {ctx : OperatorContext}
    (acts : stage.context? = some ctx) :
    stage.session? = some (ctx.sessionId, ctx.operatorId) := by
  cases stage with
  | answered answer => cases answer <;> cases acts <;> rfl
  | _ => cases acts <;> rfl

/-- What a request has shown before a table is read. -/
structure Shown (addressIsAllowed : List String → String → Option Bool) (request : OpsRequest)
    (sessionId : Nat) : Prop where
  session : request.session = some sessionId
  device : trim request.device ≠ []
  address : addressIsAllowed request.policy.allowedCidrs request.ip = some true

variable (V addressIsAllowed) in
/-- A request that has come is refused, or its session is to be read. -/
theorem arrive_cases (request : OpsRequest) :
    (∃ status code, arrive (V := V) addressIsAllowed request = .answered (.refused status code)) ∨
      ∃ sessionId, Shown addressIsAllowed request sessionId ∧
        arrive (V := V) addressIsAllowed request = .arrived sessionId := by
  fun_cases arrive addressIsAllowed request with
  | case7 sessionId isSession here device named allowed =>
    exact .inr ⟨sessionId, ⟨isSession, device, allowed⟩, rfl⟩
  | _ => exact .inl ⟨_, _, rfl⟩

/-! ### What the tables say -/

/-- The session may be used by the request, for its operator. -/
def Live (request : OpsRequest) (sessionId operatorId : Nat) (w : OpsWorld V) : Prop :=
  ∃ session, w.sessions[sessionId]? = some session ∧ session.revokedAt = none ∧
    request.now < session.expiresAt ∧ session.deviceFingerprint = trimmed request.device ∧
    session.operatorId = operatorId

def Active (operatorId : Nat) (w : OpsWorld V) : Prop :=
  ∃ operator, w.operators[operatorId]? = some operator ∧ operator.suspended = false

def Suspended (operatorId : Nat) (w : OpsWorld V) : Prop :=
  ∃ operator, w.operators[operatorId]? = some operator ∧ operator.suspended = true

def Revoked (sessionId : Nat) (w : OpsWorld V) : Prop :=
  ∃ session, w.sessions[sessionId]? = some session ∧ session.revokedAt ≠ none

theorem Active.not_suspended {operatorId : Nat} {w : OpsWorld V} (active : Active operatorId w) :
    ¬Suspended operatorId w := by
  rintro ⟨operator, there, suspended⟩
  obtain ⟨operator', there', active⟩ := active
  cases there.symm.trans there'
  exact Bool.noConfusion (suspended.symm.trans active)

theorem Live.not_revoked {request : OpsRequest} {sessionId operatorId : Nat} {w : OpsWorld V}
    (live : Live request sessionId operatorId w) : ¬Revoked sessionId w := by
  rintro ⟨session, there, revoked⟩
  obtain ⟨session', there', live, -⟩ := live
  cases there.symm.trans there'
  exact revoked live

/-! ### Routes -/

/-- The route of a request is open to its operator. -/
structure Routed (decodeURIComponent : String → Option String) (request : OpsRequest)
    (matched : MatchedOpsRoute) (ctx : OperatorContext) : Prop where
  found : matchOpsRoute decodeURIComponent request.method request.path = .ok (some matched)
  capability : matched.route.capability ∈ internalCapabilitiesFor ctx.roles
  reason : matched.route.reason = true → validateReason ctx.reason = none
  action : ctx.action = "ops." ++ matched.route.name.wire
  request : ctx.reason = request.reason ∧ ctx.requestId = request.requestId ∧ ctx.ip = request.ip

/-- What is recorded before a read. -/
structure Asked (request : OpsRequest) (matched : MatchedOpsRoute) (ctx : OperatorContext)
    (read : OpsRead) (subject : Option RecordedSubject) (scopes : List Scope) : Prop where
  isRead : readOf matched.route.name matched.params request.query = some read
  isSubject : subject = subjectOf matched.route.name matched.params
  isScopes : scopes = explicitScopes request.query
  named : scopes ≠ []
  capability : .read ∈ internalCapabilitiesFor ctx.roles
  reason : validateReason ctx.reason = none

theorem withOperatorRead_cases (ctx : OperatorContext) (read : OpsRead)
    (subject : Option RecordedSubject) (scopes : List Scope) :
    (∃ status code, withOperatorRead (V := V) ctx read subject scopes =
      .answered (.refused status code)) ∨
    .read ∈ internalCapabilitiesFor ctx.roles ∧ validateReason ctx.reason = none ∧ scopes ≠ [] ∧
      withOperatorRead (V := V) ctx read subject scopes =
        .recording ctx read subject scopes scopes := by
  unfold withOperatorRead
  split
  · exact .inl ⟨_, _, rfl⟩
  · rename_i allowed
    unfold refusal at allowed
    split at allowed
    · cases allowed
    · rename_i holds
      split
      · exact .inl ⟨_, _, rfl⟩
      · rename_i named
        exact .inr ⟨not_not.mp holds, allowed, named, rfl⟩

theorem handleOpsRoute_cases (request : OpsRequest) (matched : MatchedOpsRoute)
    (ctx : OperatorContext) :
    (∃ status code, handleOpsRoute (V := V) request matched ctx =
      .answered (.refused status code)) ∨
    (∃ operatorId limit, handleOpsRoute (V := V) request matched ctx =
      .reviewing ctx operatorId limit) ∨
    (∃ name, handleOpsRoute (V := V) request matched ctx = .answered (.handled ctx name)) ∨
    ∃ read subject scopes, Asked request matched ctx read subject scopes ∧
      handleOpsRoute (V := V) request matched ctx = .recording ctx read subject scopes scopes := by
  unfold handleOpsRoute
  split
  · rename_i read isRead
    split
    · exact .inl ⟨_, _, rfl⟩
    · rcases withOperatorRead_cases (V := V) ctx read
        (subjectOf matched.route.name matched.params) (explicitScopes request.query)
        with refused | ⟨capability, reason, named, is⟩
      · exact .inl refused
      · exact .inr (.inr (.inr ⟨read, _, _, ⟨isRead, rfl, rfl, named, capability, reason⟩, is⟩))
  · split
    · exact .inr (.inl ⟨_, _, rfl⟩)
    · exact .inr (.inr (.inl ⟨_, rfl⟩))

variable (decodeURIComponent) in
theorem dispatch_cases (request : OpsRequest) (sessionId operatorId : Nat)
    (email displayName : String) (roles : List InternalRole) :
    (∃ status code, dispatch (V := V) decodeURIComponent request sessionId operatorId email
      displayName roles = .answered (.refused status code)) ∨
    ∃ matched ctx, Routed decodeURIComponent request matched ctx ∧ ctx.sessionId = sessionId ∧
      ctx.operatorId = operatorId ∧ ctx.roles = roles ∧
      dispatch (V := V) decodeURIComponent request sessionId operatorId email displayName roles =
        handleOpsRoute request matched ctx := by
  unfold dispatch
  split
  · exact .inl ⟨_, _, rfl⟩
  · exact .inl ⟨_, _, rfl⟩
  · rename_i matched isMatched
    split
    · exact .inl ⟨_, _, rfl⟩
    · rename_i holds
      split
      · exact .inl ⟨_, _, rfl⟩
      · rename_i reason
        split
        · exact .inl ⟨_, _, rfl⟩
        · refine .inr ⟨matched, contextOf request matched sessionId operatorId email displayName
            roles, ⟨isMatched, not_not.mp holds, ?_, rfl, rfl, rfl, rfl⟩, rfl, rfl, rfl, rfl⟩
          intro needed
          rwa [if_pos needed] at reason

/-! ### One request -/

/-- The world with the two rows of a read. -/
def OpsWorld.recorded (w : OpsWorld V) (ctx : OperatorContext) (subject : Option RecordedSubject)
    (scope : Scope) (now : Instant) : OpsWorld V :=
  { w with
    actions := w.actions ++ [readAction ctx subject scope now]
    auditLog := w.auditLog ++ [readEntry ctx subject scope now] }

def OpsWorld.mismatched (w : OpsWorld V) (sessionId : Nat) (now : Instant) : OpsWorld V :=
  { w with sessions := w.sessions.modify sessionId fun session => { session with
      revokedAt := some now
      revokedReason := some opsDeviceMismatchReason } }

/-- What the next statement of a request does. -/
inductive Moved (decodeURIComponent : String → Option String) (request : OpsRequest)
    (w : OpsWorld V) : Stage V → OpsWorld V → Stage V → Prop where
  | stays {answer : OpsAnswer V} :
    Moved decodeURIComponent request w (.answered answer) w (.answered answer)
  | refused {stage : Stage V} (status : Nat) (code : String) :
    Moved decodeURIComponent request w stage w (.answered (.refused status code))
  | letIn {sessionId operatorId : Nat} : Live request sessionId operatorId w →
    Moved decodeURIComponent request w (.arrived sessionId) w (.session sessionId operatorId)
  | found {sessionId : Nat} :
    Moved decodeURIComponent request w (.arrived sessionId) w (.mismatched sessionId)
  | revoked {sessionId : Nat} {status : Nat} {code : String} :
    Moved decodeURIComponent request w (.mismatched sessionId) (w.mismatched sessionId request.now)
      (.answered (.refused status code))
  | active {sessionId operatorId : Nat} {email displayName : String} : Active operatorId w →
    Moved decodeURIComponent request w (.session sessionId operatorId) w
      (.operator sessionId operatorId email displayName)
  | acting {matched : MatchedOpsRoute} {ctx : OperatorContext} {email displayName : String}
      {next : Stage V} : Routed decodeURIComponent request matched ctx →
    ctx.roles = rolesOf w ctx.operatorId → next.context? = some ctx →
    (∀ read subject scopes remaining, next = .recording ctx read subject scopes remaining →
      Asked request matched ctx read subject scopes ∧ remaining = scopes) →
    (∀ read scopes rows, next ≠ .answered (.view ctx read scopes rows)) →
    Moved decodeURIComponent request w (.operator ctx.sessionId ctx.operatorId email displayName) w
      next
  | recorded {ctx : OperatorContext} {read : OpsRead} {subject : Option RecordedSubject}
      {scopes remaining : List Scope} {scope : Scope} (now : Instant) :
    Moved decodeURIComponent request w (.recording ctx read subject scopes (scope :: remaining))
      (w.recorded ctx subject scope now) (.recording ctx read subject scopes remaining)
  | viewed {ctx : OperatorContext} {read : OpsRead} {subject : Option RecordedSubject}
      {scopes : List Scope} :
    Moved decodeURIComponent request w (.recording ctx read subject scopes []) w
      (.answered (.view ctx read scopes (rowsRead w scopes read)))
  | reviewed {ctx : OperatorContext} {operatorId : String} {limit : Nat}
      {rows : List OperatorAction} :
    Moved decodeURIComponent request w (.reviewing ctx operatorId limit) w
      (.answered (.history ctx rows))

theorem moved_readSession (w : OpsWorld V) (request : OpsRequest) (sessionId : Nat) :
    Moved decodeURIComponent request w (.arrived sessionId) w
      (readSession w request sessionId) := by
  fun_cases readSession w request sessionId with
  | case4 => exact .found
  | case5 session there unrevoked unexpired device =>
    exact .letIn ⟨session, there, not_not.mp unrevoked, Nat.lt_of_not_le unexpired,
      not_not.mp device, rfl⟩
  | _ => exact .refused _ _

theorem moved_readOperator (w : OpsWorld V) (request : OpsRequest) (sessionId operatorId : Nat) :
    Moved decodeURIComponent request w (.session sessionId operatorId) w
      (readOperator w sessionId operatorId) := by
  fun_cases readOperator w sessionId operatorId with
  | case3 operator there active => exact .active ⟨operator, there, Bool.eq_false_iff.mpr active⟩
  | _ => exact .refused _ _

theorem moved_dispatch (w : OpsWorld V) (request : OpsRequest) (sessionId operatorId : Nat)
    (email displayName : String) :
    Moved decodeURIComponent request w (.operator sessionId operatorId email displayName) w
      (dispatch decodeURIComponent request sessionId operatorId email displayName
        (rolesOf w operatorId)) := by
  rcases dispatch_cases (V := V) decodeURIComponent request sessionId operatorId email displayName
    (rolesOf w operatorId) with ⟨status, code, is⟩ | ⟨matched, ctx, routed, rfl, rfl, roles, is⟩
  · rw [is]
    exact .refused status code
  rw [is]
  rcases handleOpsRoute_cases (V := V) request matched ctx with
    ⟨status, code, is⟩ | ⟨operatorId, limit, is⟩ | ⟨name, is⟩ | ⟨read, subject, scopes, asked, is⟩
  · rw [is]
    exact .refused status code
  · rw [is]
    exact .acting routed roles rfl (by rintro _ _ _ _ ⟨⟩) (by rintro _ _ _ ⟨⟩)
  · rw [is]
    exact .acting routed roles rfl (by rintro _ _ _ _ ⟨⟩) (by rintro _ _ _ ⟨⟩)
  · rw [is]
    refine .acting routed roles rfl ?_ (by rintro _ _ _ ⟨⟩)
    rintro _ _ _ _ ⟨⟩
    exact ⟨asked, rfl⟩

theorem moved_goOnRequest (given : Given) (request : OpsRequest) (w : OpsWorld V)
    (stage : Stage V) :
    Moved decodeURIComponent request w stage
      (goOnRequest decodeURIComponent given request w stage).1
      (goOnRequest decodeURIComponent given request w stage).2 := by
  have failed : Moved decodeURIComponent request w stage w stage.failed := by
    cases stage with
    | answered answer => exact .stays
    | _ => exact .refused _ _
  unfold goOnRequest
  split
  · exact failed
  · cases stage with
    | arrived sessionId => exact moved_readSession w request sessionId
    | mismatched sessionId => exact .revoked
    | session sessionId operatorId => exact moved_readOperator w request sessionId operatorId
    | operator sessionId operatorId email displayName =>
      exact moved_dispatch w request sessionId operatorId email displayName
    | reviewing ctx operatorId limit => exact .reviewed
    | recording ctx read subject scopes remaining =>
      cases remaining with
      | nil =>
        dsimp only
        unfold answerOf
        split
        · exact .refused _ _
        · exact .viewed
      | cons scope remaining =>
        dsimp only [recordOperatorAccess]
        split
        · rename_i w' stored
          split at stored
          · cases stored
          · cases stored
            exact .recorded _
        · exact failed
    | answered answer => exact .stays

/-- A request whose session is let in was, or its session may be used. -/
theorem Moved.session {w v : OpsWorld V} {request : OpsRequest} {stage next : Stage V}
    (moved : Moved decodeURIComponent request w stage v next) {sessionId operatorId : Nat}
    (letIn : next.session? = some (sessionId, operatorId)) :
    stage.session? = some (sessionId, operatorId) ∨
      stage = .arrived sessionId ∧ Live request sessionId operatorId w := by
  cases moved with
  | stays => exact .inl letIn
  | letIn live =>
    cases letIn
    exact .inr ⟨rfl, live⟩
  | acting routed roles acts asked =>
    rw [Stage.session_of_context acts] at letIn
    cases letIn
    exact .inl rfl
  | active => exact .inl letIn
  | recorded => exact .inl letIn
  | viewed => exact .inl letIn
  | reviewed => exact .inl letIn
  | refused => cases letIn
  | found => cases letIn
  | revoked => cases letIn

/-- A request whose operator is found active was, or its operator is. -/
theorem Moved.operator {w v : OpsWorld V} {request : OpsRequest} {stage next : Stage V}
    (moved : Moved decodeURIComponent request w stage v next) {operatorId : Nat}
    (found : next.operator? = some operatorId) :
    stage.operator? = some operatorId ∨
      ∃ sessionId, stage = .session sessionId operatorId ∧ Active operatorId w := by
  cases moved with
  | stays => exact .inl found
  | active active =>
    cases found
    exact .inr ⟨_, rfl, active⟩
  | acting routed roles acts asked =>
    rw [Stage.operator_of_context acts] at found
    cases found
    exact .inl rfl
  | recorded => exact .inl found
  | viewed => exact .inl found
  | reviewed => exact .inl found
  | letIn => cases found
  | refused => cases found
  | found => cases found
  | revoked => cases found

/-- A request that acts did, or its route is open to its operator. -/
theorem Moved.context {w v : OpsWorld V} {request : OpsRequest} {stage next : Stage V}
    (moved : Moved decodeURIComponent request w stage v next) {ctx : OperatorContext}
    (acts : next.context? = some ctx) : stage.context? = some ctx ∨
      (∃ matched, Routed decodeURIComponent request matched ctx) ∧
        ctx.roles = rolesOf w ctx.operatorId ∧ stage.operator? = some ctx.operatorId ∧
        stage.session? = some (ctx.sessionId, ctx.operatorId) := by
  cases moved with
  | stays => exact .inl acts
  | @acting matched ctx' email displayName next routed roles acts' asked =>
    cases acts'.symm.trans acts
    exact .inr ⟨⟨matched, routed⟩, roles, rfl, rfl⟩
  | recorded => exact .inl acts
  | viewed => exact .inl acts
  | reviewed => exact .inl acts
  | letIn => cases acts
  | active => cases acts
  | refused => cases acts
  | found => cases acts
  | revoked => cases acts

/-! ### One step -/

/-- A session as it was opened. -/
def InternalSession.opened (session : InternalSession) : InternalSession :=
  { session with revokedAt := none, revokedReason := none }

/-- What later states keep: the rows, suspensions and revocations, and the two logs. -/
structure Since (w v : OpsWorld V) : Prop where
  operators : ∀ (i : Nat) operator, w.operators[i]? = some operator →
    ∃ operator', v.operators[i]? = some operator' ∧
      (operator.suspended = true → operator'.suspended = true)
  sessions : ∀ (i : Nat) session, w.sessions[i]? = some session →
    ∃ session', v.sessions[i]? = some session' ∧ session'.opened = session.opened ∧
      (session.revokedAt ≠ none → session'.revokedAt ≠ none)
  actions : w.actions <+: v.actions
  auditLog : w.auditLog <+: v.auditLog

theorem getElem?_of_extended {A : Type} {rows more : List A} (isPrefix : rows <+: more) {i : Nat}
    {row : A} (there : rows[i]? = some row) : more[i]? = some row := by
  obtain ⟨rest, rfl⟩ := isPrefix
  rw [List.getElem?_append_left (List.getElem?_eq_some_iff.mp there).1, there]

theorem Since.of_extended {w v : OpsWorld V} (operators : w.operators <+: v.operators)
    (sessions : w.sessions <+: v.sessions) (actions : w.actions <+: v.actions)
    (auditLog : w.auditLog <+: v.auditLog) : Since w v := by
  refine ⟨?_, ?_, actions, auditLog⟩
  · intro i operator there
    exact ⟨operator, getElem?_of_extended operators there, id⟩
  · intro i session there
    exact ⟨session, getElem?_of_extended sessions there, rfl, id⟩

instance : Std.Refl (Since (V := V)) :=
  ⟨fun _ => .of_extended List.prefix_rfl List.prefix_rfl List.prefix_rfl List.prefix_rfl⟩

instance : IsTrans (OpsWorld V) Since := by
  constructor
  intro u w v first second
  refine ⟨?_, ?_, first.actions.trans second.actions, first.auditLog.trans second.auditLog⟩
  · intro i operator there
    obtain ⟨operator', there', stays⟩ := first.operators i operator there
    obtain ⟨operator'', there'', stays'⟩ := second.operators i operator' there'
    exact ⟨operator'', there'', fun suspended => stays' (stays suspended)⟩
  · intro i session there
    obtain ⟨session', there', same, stays⟩ := first.sessions i session there
    obtain ⟨session'', there'', same', stays'⟩ := second.sessions i session' there'
    exact ⟨session'', there'', same'.trans same, fun revoked => stays' (stays revoked)⟩

/-- Sessions change as they are revoked. -/
theorem Since.of_sessions {w v : OpsWorld V} (operators : v.operators = w.operators)
    (length : v.sessions.length = w.sessions.length)
    (sessions : ∀ (i : Nat) session session', w.sessions[i]? = some session →
      v.sessions[i]? = some session' → session'.opened = session.opened ∧
        (session.revokedAt ≠ none → session'.revokedAt ≠ none))
    (actions : v.actions = w.actions) (auditLog : v.auditLog = w.auditLog) : Since w v := by
  refine ⟨?_, ?_, actions ▸ List.prefix_rfl, auditLog ▸ List.prefix_rfl⟩
  · intro i operator there
    exact ⟨operator, operators ▸ there, id⟩
  · intro i session there
    have lt : i < v.sessions.length := length ▸ (List.getElem?_eq_some_iff.mp there).1
    exact ⟨v.sessions[i], List.getElem?_eq_getElem lt,
      sessions i session _ there (List.getElem?_eq_getElem lt)⟩

theorem Suspended.since {w v : OpsWorld V} (since : Since w v) {operatorId : Nat}
    (suspended : Suspended operatorId w) : Suspended operatorId v := by
  obtain ⟨operator, there, suspended⟩ := suspended
  obtain ⟨operator', there', stays⟩ := since.operators _ _ there
  exact ⟨operator', there', stays suspended⟩

theorem Revoked.since {w v : OpsWorld V} (since : Since w v) {sessionId : Nat}
    (revoked : Revoked sessionId w) : Revoked sessionId v := by
  obtain ⟨session, there, revoked⟩ := revoked
  obtain ⟨session', there', -, stays⟩ := since.sessions _ _ there
  exact ⟨session', there', stays revoked⟩

theorem since_setTask {w v : OpsWorld V} (since : Since w v) (task : Nat) (next : Task V) :
    Since w (v.setTask task next) :=
  ⟨since.operators, since.sessions, since.actions, since.auditLog⟩

theorem since_addTask {w v : OpsWorld V} (since : Since w v) (task : Task V) :
    Since w (v.addTask task) :=
  ⟨since.operators, since.sessions, since.actions, since.auditLog⟩

theorem revoked_opened (now : Instant) (session : InternalSession) :
    (revoked now session).opened = session.opened := rfl

theorem since_modify {w : OpsWorld V} {sessionId : Nat} {f : InternalSession → InternalSession}
    (opened : ∀ session, (f session).opened = session.opened)
    (stays : ∀ session, session.revokedAt ≠ none → (f session).revokedAt ≠ none) :
    Since w { w with sessions := w.sessions.modify sessionId f } := by
  refine .of_sessions rfl (List.length_modify _ _ _) ?_ rfl rfl
  intro i session session' there there'
  rw [List.getElem?_modify, there] at there'
  cases there'
  split
  · exact ⟨opened session, stays session⟩
  · exact ⟨rfl, id⟩

theorem revoked_revokedAt {now : Instant} {session : InternalSession}
    (revoked : session.revokedAt ≠ none) : (Ops.revoked now session).revokedAt ≠ none := by
  obtain ⟨at_, is⟩ := Option.ne_none_iff_exists'.mp revoked
  rw [Ops.revoked, is]
  exact Option.some_ne_none at_

theorem since_suspend (operatorId : Nat) (live : List Nat) (now : Instant) (w : OpsWorld V) :
    Since w (suspend operatorId live now w) := by
  unfold suspend
  split
  · refine ⟨?_, ?_, List.prefix_rfl, List.prefix_rfl⟩
    · intro i operator there
      dsimp only
      rw [List.getElem?_modify, there]
      split
      · exact ⟨_, rfl, fun _ => rfl⟩
      · exact ⟨_, rfl, id⟩
    · intro i session there
      dsimp only
      rw [List.getElem?_mapIdx, there]
      refine ⟨_, rfl, ?_⟩
      split
      · exact ⟨revoked_opened now session, revoked_revokedAt⟩
      · exact ⟨rfl, id⟩
  · exact refl w

theorem since_grant (operatorId : Nat) (role : InternalRole) (w : OpsWorld V) :
    Since w (grant operatorId role w) := by
  refine ⟨?_, fun i session there => ⟨session, there, rfl, id⟩, List.prefix_rfl, List.prefix_rfl⟩
  intro i operator there
  dsimp only [grant]
  rw [List.getElem?_modify, there]
  split
  · exact ⟨_, rfl, id⟩
  · exact ⟨_, rfl, id⟩

theorem since_recorded (w : OpsWorld V) (ctx : OperatorContext) (subject : Option RecordedSubject)
    (scope : Scope) (now : Instant) : Since w (w.recorded ctx subject scope now) :=
  .of_extended List.prefix_rfl List.prefix_rfl (List.prefix_append _ _) (List.prefix_append _ _)

theorem Moved.since {w v : OpsWorld V} {request : OpsRequest} {stage next : Stage V}
    (moved : Moved decodeURIComponent request w stage v next) : Since w v := by
  cases moved with
  | revoked => exact since_modify (fun _ => rfl) fun _ _ => Option.some_ne_none _
  | recorded => exact since_recorded w _ _ _ _
  | _ => exact refl w

theorem Moved.tasks {w v : OpsWorld V} {request : OpsRequest} {stage next : Stage V}
    (moved : Moved decodeURIComponent request w stage v next) : v.tasks = w.tasks := by
  cases moved <;> rfl

/-- What the next statement of a task does. -/
inductive Turn (decodeURIComponent : String → Option String) (w : OpsWorld V) :
    Task V → OpsWorld V → Task V → Prop where
  | ends {at_ : Task V} : Turn decodeURIComponent w at_ w .ended
  | active {input : EstablishInput} : Active input.operatorId w →
    Turn decodeURIComponent w (.establishing input) w (.opening input)
  | opened {input : EstablishInput} : Turn decodeURIComponent w (.opening input)
    { w with sessions := w.sessions ++ [sessionOf input] } .ended
  | suspended {operatorId : Nat} {live : List Nat} {now : Instant} :
    Turn decodeURIComponent w (.suspending operatorId live now) (suspend operatorId live now w)
      .ended
  | granted {operatorId : Nat} {role : InternalRole} {roles : List InternalRole} :
    Turn decodeURIComponent w (.granting operatorId (role :: roles)) (grant operatorId role w)
      (.granting operatorId roles)
  | request {request : OpsRequest} {stage next : Stage V} {v : OpsWorld V} :
    Moved decodeURIComponent request w stage v next →
    Turn decodeURIComponent w (.request request stage) v (.request request next)

theorem turn_goOn (task : Nat) (given : Given) (w : OpsWorld V) (at_ : Task V) :
    goOn decodeURIComponent task given w at_ = w ∨
      ∃ v next, Turn decodeURIComponent w at_ v next ∧
        goOn decodeURIComponent task given w at_ = v.setTask task next := by
  cases at_ with
  | establishing input =>
    rw [goOn]
    split
    · rename_i active
      obtain ⟨operator, there, active⟩ := Option.map_eq_some_iff.mp active
      exact .inr ⟨w, _, .active ⟨operator, there, active⟩, rfl⟩
    · exact .inr ⟨w, _, .ends, rfl⟩
  | opening input =>
    rw [goOn]
    split
    · exact .inr ⟨w, _, .ends, rfl⟩
    · exact .inr ⟨_, _, .opened, rfl⟩
  | suspending operatorId live now => exact .inr ⟨_, _, .suspended, rfl⟩
  | granting operatorId roles =>
    cases roles with
    | nil => exact .inr ⟨w, _, .ends, rfl⟩
    | cons role roles =>
      rw [goOn]
      split
      · exact .inr ⟨w, _, .ends, rfl⟩
      · exact .inr ⟨_, _, .granted, rfl⟩
  | request request stage =>
    exact .inr ⟨_, _, .request (moved_goOnRequest given request w stage), rfl⟩
  | ended => exact .inl rfl

theorem Turn.since {w v : OpsWorld V} {at_ next : Task V}
    (turn : Turn decodeURIComponent w at_ v next) : Since w v := by
  cases turn with
  | ends => exact refl w
  | active => exact refl w
  | opened =>
    exact .of_extended List.prefix_rfl (List.prefix_append _ _) List.prefix_rfl List.prefix_rfl
  | suspended => exact since_suspend _ _ _ w
  | granted => exact since_grant _ _ w
  | request moved => exact moved.since

theorem Turn.tasks {w v : OpsWorld V} {at_ next : Task V}
    (turn : Turn decodeURIComponent w at_ v next) : v.tasks = w.tasks := by
  cases turn with
  | suspended =>
    unfold suspend
    split <;> rfl
  | request moved => exact moved.tasks
  | _ => rfl

/-- The task that an operation begins. -/
inductive Begun (addressIsAllowed : List String → String → Option Bool) (w : OpsWorld V) :
    OpsOp V → OpsWorld V → Task V → Prop where
  | createOperator {email displayName : String} {roles : List InternalRole} :
    Begun addressIsAllowed w (.createOperator email displayName roles)
      { w with operators := w.operators ++ [{ email := email, displayName := displayName }] }
      (.granting w.operators.length roles)
  | establishing {input : EstablishInput} : admitted addressIsAllowed input = true →
    Begun addressIsAllowed w (.establishOperatorSession input) w (.establishing input)
  | suspending {operatorId : Nat} {live : List Nat} {now : Instant} :
    Begun addressIsAllowed w (.suspendOperator operatorId now) w
      (.suspending operatorId live now)
  | request {request : OpsRequest} : Begun addressIsAllowed w (.request request) w
    (.request request (arrive addressIsAllowed request))

/-- What an operation does. -/
inductive Stepped (decodeURIComponent : String → Option String)
    (addressIsAllowed : List String → String → Option Bool) (w : OpsWorld V) :
    OpsOp V → OpsWorld V → Prop where
  | same {op : OpsOp V} : Stepped decodeURIComponent addressIsAllowed w op w
  | begun {op : OpsOp V} {v : OpsWorld V} {new : Task V} : Begun addressIsAllowed w op v new →
    Stepped decodeURIComponent addressIsAllowed w op (v.addTask new)
  | revoked (sessionId : Nat) (now : Instant) :
    Stepped decodeURIComponent addressIsAllowed w (.revokeOperatorSession sessionId now)
      { w with sessions := w.sessions.modify sessionId (revoked now) }
  | tenants (change : Tenants V → Tenants V) :
    Stepped decodeURIComponent addressIsAllowed w (.tenants change)
      { w with tenants := change w.tenants }
  | audited (entry : AuditEntry) : Stepped decodeURIComponent addressIsAllowed w (.audited entry)
    { w with auditLog := w.auditLog ++ [entry] }
  | turn {task : Nat} {given : Given} {at_ next : Task V} {v : OpsWorld V} :
    w.tasks[task]? = some at_ → Turn decodeURIComponent w at_ v next →
    Stepped decodeURIComponent addressIsAllowed w (.goOn task given) (v.setTask task next)

theorem stepped_step (w : OpsWorld V) (op : OpsOp V) :
    Stepped decodeURIComponent addressIsAllowed w op
      (step decodeURIComponent addressIsAllowed w op) := by
  cases op with
  | createOperator email displayName roles => exact .begun .createOperator
  | establishOperatorSession input =>
    rw [step]
    split
    · rename_i allowed
      exact .begun (.establishing allowed)
    · exact .same
  | revokeOperatorSession sessionId now => exact .revoked sessionId now
  | suspendOperator operatorId now =>
    rw [step]
    split
    · exact .begun .suspending
    · exact .same
  | request request => exact .begun .request
  | tenants change => exact .tenants change
  | audited entry => exact .audited entry
  | goOn task given =>
    rw [step]
    split
    · exact .same
    · rename_i at_ there
      rcases turn_goOn task given w at_ with is | ⟨v, next, turn, is⟩
      · rw [is]
        exact .same
      · rw [is]
        exact .turn there turn

theorem Begun.since {w v : OpsWorld V} {op : OpsOp V} {new : Task V}
    (begun : Begun addressIsAllowed w op v new) : Since w v := by
  cases begun with
  | createOperator =>
    exact .of_extended (List.prefix_append _ _) List.prefix_rfl List.prefix_rfl List.prefix_rfl
  | _ => exact refl w

theorem Begun.tasks {w v : OpsWorld V} {op : OpsOp V} {new : Task V}
    (begun : Begun addressIsAllowed w op v new) : v.tasks = w.tasks := by
  cases begun <;> rfl

theorem Stepped.since {w v : OpsWorld V} {op : OpsOp V}
    (stepped : Stepped decodeURIComponent addressIsAllowed w op v) : Since w v := by
  cases stepped with
  | same => exact refl w
  | begun begun => exact since_addTask begun.since _
  | revoked sessionId now => exact since_modify (revoked_opened now) fun _ => revoked_revokedAt
  | tenants change =>
    exact .of_extended List.prefix_rfl List.prefix_rfl List.prefix_rfl List.prefix_rfl
  | audited entry =>
    exact .of_extended List.prefix_rfl List.prefix_rfl List.prefix_rfl (List.prefix_append _ _)
  | turn there turn => exact since_setTask turn.since _ _

/-- Whatever is done, nothing of it is taken back. -/
theorem since_step (w : OpsWorld V) (op : OpsOp V) :
    Since w (step decodeURIComponent addressIsAllowed w op) :=
  (stepped_step w op).since

/-- A task was where it is, or has just begun, or its next statement has run. -/
theorem task_step {w : OpsWorld V} {op : OpsOp V} {task : Nat} {next : Task V}
    (found : (step decodeURIComponent addressIsAllowed w op).tasks[task]? = some next) :
    w.tasks[task]? = some next ∨
      (w.tasks.length ≤ task ∧ ∃ v, Begun addressIsAllowed w op v next) ∨
      ∃ at_ v, w.tasks[task]? = some at_ ∧ Turn decodeURIComponent w at_ v next ∧
        step decodeURIComponent addressIsAllowed w op = v.setTask task next := by
  have stepped : Stepped decodeURIComponent addressIsAllowed w op
    (step decodeURIComponent addressIsAllowed w op) := stepped_step w op
  revert found stepped
  generalize step decodeURIComponent addressIsAllowed w op = after
  intro found stepped
  cases stepped with
  | same => exact .inl found
  | begun begun =>
    rw [OpsWorld.addTask, begun.tasks] at found
    rcases Table.getElem?_concat_some.mp found with there | ⟨here, rfl⟩
    · exact .inl there
    · exact .inr (.inl ⟨here ▸ le_refl _, _, begun⟩)
  | revoked sessionId now => exact .inl found
  | tenants change => exact .inl found
  | audited entry => exact .inl found
  | @turn task' given at_ next' v there turn =>
    rw [OpsWorld.setTask, List.getElem?_set, turn.tasks] at found
    split at found
    · rename_i here
      subst here
      split at found
      · cases found
        exact .inr (.inr ⟨at_, v, there, turn, rfl⟩)
      · cases found
    · exact .inl found

/-- A request was where it is, or has just come, or its next statement has run. -/
theorem request_step {w : OpsWorld V} {op : OpsOp V} {task : Nat} {request : OpsRequest}
    {next : Stage V}
    (found : (step decodeURIComponent addressIsAllowed w op).tasks[task]? =
      some (.request request next)) :
    w.tasks[task]? = some (.request request next) ∨ next = arrive addressIsAllowed request ∨
      ∃ stage v, w.tasks[task]? = some (.request request stage) ∧
        Moved decodeURIComponent request w stage v next ∧
        step decodeURIComponent addressIsAllowed w op = v.setTask task (.request request next) := by
  rcases task_step found with there | ⟨-, v, begun⟩ | ⟨at_, v, there, turn, is⟩
  · exact .inl there
  · cases begun
    exact .inr (.inl rfl)
  · cases turn with
    | request moved => exact .inr (.inr ⟨_, v, there, moved, is⟩)

theorem Turn.sessions {w v : OpsWorld V} {at_ next : Task V}
    (turn : Turn decodeURIComponent w at_ v next) :
    v.sessions.length = w.sessions.length ∨
      ∃ input, at_ = .opening input ∧ v.sessions = w.sessions ++ [sessionOf input] := by
  cases turn with
  | opened => exact .inr ⟨_, rfl, rfl⟩
  | suspended =>
    unfold suspend
    split
    · exact .inl List.length_mapIdx
    · exact .inl rfl
  | request moved =>
    cases moved with
    | revoked => exact .inl (List.length_modify _ _ _)
    | _ => exact .inl rfl
  | _ => exact .inl rfl

theorem Stepped.sessions {w v : OpsWorld V} {op : OpsOp V}
    (stepped : Stepped decodeURIComponent addressIsAllowed w op v) :
    v.sessions.length = w.sessions.length ∨
      ∃ (task : Nat) (input : EstablishInput), w.tasks[task]? = some (.opening input) ∧
        v.sessions = w.sessions ++ [sessionOf input] := by
  cases stepped with
  | begun begun =>
    cases begun <;> exact .inl rfl
  | revoked sessionId now => exact .inl (List.length_modify _ _ _)
  | @turn task _ _ _ _ there turn =>
    rcases turn.sessions with same | ⟨input, rfl, is⟩
    · exact .inl same
    · exact .inr ⟨task, input, there, is⟩
  | _ => exact .inl rfl

/-- A session was there, or is the one that a login opens. -/
theorem session_step {w : OpsWorld V} {op : OpsOp V} {sessionId : Nat} {session : InternalSession}
    (found : (step decodeURIComponent addressIsAllowed w op).sessions[sessionId]? = some session) :
    (∃ earlier, w.sessions[sessionId]? = some earlier ∧ session.opened = earlier.opened) ∨
      ∃ (task : Nat) (input : EstablishInput), w.tasks[task]? = some (.opening input) ∧
        session = sessionOf input := by
  have stepped : Stepped decodeURIComponent addressIsAllowed w op
    (step decodeURIComponent addressIsAllowed w op) := stepped_step w op
  cases before : w.sessions[sessionId]? with
  | some earlier =>
    obtain ⟨session', there, same, -⟩ := stepped.since.sessions sessionId earlier before
    cases found.symm.trans there
    exact .inl ⟨earlier, rfl, same⟩
  | none =>
    rcases stepped.sessions with same | ⟨task, input, there, is⟩
    · have lt := (List.getElem?_eq_some_iff.mp found).1
      exact (absurd (List.getElem?_eq_none_iff.mp before) (by omega))
    · rw [is] at found
      rcases Table.getElem?_concat_some.mp found with earlier | ⟨-, rfl⟩
      · cases before.symm.trans earlier
      · exact .inr ⟨task, input, there, rfl⟩

/-- A recorded read was recorded, or has just been, in both tables. -/
theorem action_step {w : OpsWorld V} {op : OpsOp V} {action : OperatorAction}
    (mem : action ∈ (step decodeURIComponent addressIsAllowed w op).actions) :
    action ∈ w.actions ∨
      ∃ (task : Nat) (request : OpsRequest) (ctx : OperatorContext) (read : OpsRead)
        (subject : Option RecordedSubject) (scopes remaining : List Scope) (scope : Scope)
        (now : Instant),
        w.tasks[task]? = some (.request request
          (.recording ctx read subject scopes (scope :: remaining))) ∧
        action = readAction ctx subject scope now ∧
        readEntry ctx subject scope now ∈
          (step decodeURIComponent addressIsAllowed w op).auditLog := by
  have stepped : Stepped decodeURIComponent addressIsAllowed w op
    (step decodeURIComponent addressIsAllowed w op) := stepped_step w op
  revert mem stepped
  generalize step decodeURIComponent addressIsAllowed w op = after
  intro mem stepped
  cases stepped with
  | begun begun =>
    cases begun <;> exact .inl mem
  | @turn task _ _ _ _ there turn =>
    cases turn with
    | suspended =>
      unfold suspend at mem
      split at mem <;> exact .inl mem
    | request moved =>
      cases moved with
      | recorded now =>
        rcases List.mem_append.mp mem with before | new
        · exact .inl before
        · exact .inr ⟨task, _, _, _, _, _, _, _, now, there, List.mem_singleton.mp new,
            List.mem_append_right _ List.mem_cons_self⟩
      | _ => exact .inl mem
    | _ => exact .inl mem
  | _ => exact .inl mem

end InrSettle.Ops
