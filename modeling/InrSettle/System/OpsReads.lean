import InrSettle.System.OpsRuns

/-!
# Requests that act, and their records

A request acts after its session, its operator and its roles were read and let it; none does any
more once the session is revoked or the operator suspended; and what it reads of a workspace comes
after the two records of the read.
-/

namespace InrSettle.Ops

open Run

variable {V : Type} {decodeURIComponent : String → Option String}
  {addressIsAllowed : List String → String → Option Bool}

/-! ### Withdrawn access -/

variable (decodeURIComponent addressIsAllowed) in
/-- The state after some operations. -/
def after (w : OpsWorld V) (ops : List (OpsOp V)) : OpsWorld V :=
  run (step decodeURIComponent addressIsAllowed) w ops

theorem since_after (w : OpsWorld V) (ops : List (OpsOp V)) :
    Since w (after decodeURIComponent addressIsAllowed w ops) :=
  run_related since_step w ops

/-- The requests that a property of their stage holds of are among those it held of before. -/
def NoMore (p : Stage V → Prop) (w v : OpsWorld V) : Prop :=
  ∀ (task : Nat) request stage, v.tasks[task]? = some (.request request stage) → p stage →
    ∃ earlier, w.tasks[task]? = some (.request request earlier) ∧ p earlier

variable (V addressIsAllowed) in
theorem arrive_session (request : OpsRequest) :
    (arrive addressIsAllowed request : Stage V).session? = none := by
  rcases arrive_cases V addressIsAllowed request with ⟨status, code, is⟩ | ⟨sessionId, -, is⟩
  · rw [is]
    rfl
  · rw [is]
    rfl

/-- A stage is reached in no later state where no step from such a state reaches it. -/
theorem noMore_run {p : Stage V → Prop} {I : OpsWorld V → Prop}
    (letIn : ∀ stage, p stage → stage.session? ≠ none)
    (kept : ∀ v op, I v → I (step decodeURIComponent addressIsAllowed v op))
    (moves : ∀ v request stage v' next, I v → Moved decodeURIComponent request v stage v' next →
      p next → p stage)
    {w : OpsWorld V} (start : I w) (ops : List (OpsOp V)) :
    NoMore p w (after decodeURIComponent addressIsAllowed w ops) := by
  refine (run_invariant (I := fun v => I v ∧ NoMore p w v) ?_ ⟨start, ?_⟩ ops).2
  · rintro v op ⟨holds, noMore⟩
    refine ⟨kept v op holds, ?_⟩
    intro task request next found reached
    rcases request_step found with there | is | ⟨stage, v', there, moved, -⟩
    · exact noMore task request next there reached
    · exact (letIn next reached (is ▸ arrive_session V addressIsAllowed request)).elim
    · exact noMore task request stage there (moves v request stage v' next holds moved reached)
  · intro task request stage found reached
    exact ⟨stage, found, reached⟩

/-- After a session is revoked no further request is let in with it, and after an operator is
suspended none acts for the operator but those that were found active before. -/
theorem access_withdrawn (w : OpsWorld V) (ops : List (OpsOp V)) :
    (∀ sessionId, Revoked sessionId w →
      Revoked sessionId (after decodeURIComponent addressIsAllowed w ops) ∧
        NoMore (fun stage => ∃ operatorId, stage.session? = some (sessionId, operatorId)) w
          (after decodeURIComponent addressIsAllowed w ops)) ∧
    ∀ operatorId, Suspended operatorId w →
      Suspended operatorId (after decodeURIComponent addressIsAllowed w ops) ∧
        NoMore (fun stage => stage.operator? = some operatorId) w
          (after decodeURIComponent addressIsAllowed w ops) := by
  constructor
  · intro sessionId revoked
    refine ⟨revoked.since (since_after w ops), noMore_run ?_ ?_ ?_ revoked ops⟩
    · rintro stage ⟨operatorId, letIn⟩ none_
      exact Option.some_ne_none _ (letIn.symm.trans none_)
    · exact fun v op holds => holds.since (since_step v op)
    · rintro v request stage v' next holds moved ⟨operatorId, letIn⟩
      rcases moved.session letIn with before | ⟨-, live⟩
      · exact ⟨operatorId, before⟩
      · exact (live.not_revoked holds).elim
  · intro operatorId suspended
    refine ⟨suspended.since (since_after w ops), noMore_run ?_ ?_ ?_ suspended ops⟩
    · intro stage found none_
      obtain ⟨sessionId, letIn⟩ := Stage.session_of_operator found
      exact Option.some_ne_none _ (letIn.symm.trans none_)
    · exact fun v op holds => holds.since (since_step v op)
    · intro v request stage v' next holds moved found
      rcases moved.operator found with before | ⟨sessionId, -, active⟩
      · exact before
      · exact (active.not_suspended holds).elim

/-! ### Sessions -/

variable (decodeURIComponent addressIsAllowed) in
/-- The run has passed through states with the properties, the last of them first. -/
def Seeing (places : List (OpsWorld V → Prop)) (ops : List (OpsOp V)) : Prop :=
  Visits (step decodeURIComponent addressIsAllowed) .empty places ops

/-- A login that was admitted. -/
structure LoggedIn (addressIsAllowed : List String → String → Option Bool) (ops : List (OpsOp V))
    (input : EstablishInput) : Prop where
  called : .establishOperatorSession input ∈ ops
  admitted : admitted addressIsAllowed input = true

/-- The session is of an admitted login of an operator that was active. -/
structure OpenedBy (decodeURIComponent : String → Option String)
    (addressIsAllowed : List String → String → Option Bool) (ops : List (OpsOp V))
    (input : EstablishInput) (session : InternalSession) : Prop where
  loggedIn : LoggedIn addressIsAllowed ops input
  active : Seeing decodeURIComponent addressIsAllowed [Active input.operatorId] ops
  opened : session.opened = sessionOf input

/-- What the logins and the sessions of a run are. -/
structure Logins (decodeURIComponent : String → Option String)
    (addressIsAllowed : List String → String → Option Bool) (ops : List (OpsOp V))
    (w : OpsWorld V) : Prop where
  establishing : ∀ (task : Nat) input, w.tasks[task]? = some (.establishing input) →
    LoggedIn addressIsAllowed ops input
  opening : ∀ (task : Nat) input, w.tasks[task]? = some (.opening input) →
    LoggedIn addressIsAllowed ops input ∧
      Seeing decodeURIComponent addressIsAllowed [Active input.operatorId] ops
  sessions : ∀ (sessionId : Nat) session, w.sessions[sessionId]? = some session →
    ∃ input, OpenedBy decodeURIComponent addressIsAllowed ops input session

theorem LoggedIn.next {ops : List (OpsOp V)} {input : EstablishInput}
    (loggedIn : LoggedIn addressIsAllowed ops input) (op : OpsOp V) :
    LoggedIn addressIsAllowed (ops ++ [op]) input :=
  ⟨List.mem_append_left _ loggedIn.called, loggedIn.admitted⟩

theorem logins_run (ops : List (OpsOp V)) : Logins decodeURIComponent addressIsAllowed ops
    (after decodeURIComponent addressIsAllowed .empty ops) := by
  refine history (Q := Logins decodeURIComponent addressIsAllowed) ?_ ?_ ops
  · constructor
    · intro task input found
      cases found
    · intro task input found
      cases found
    · intro sessionId session found
      cases found
  · intro ops op ih
    constructor
    · intro task input found
      rcases task_step found with there | ⟨-, v, begun⟩ | ⟨at_, v, there, turn, -⟩
      · exact (ih.establishing task input there).next op
      · cases begun with
        | establishing allowed => exact ⟨List.mem_append_right _ List.mem_cons_self, allowed⟩
      · cases turn
    · intro task input found
      rcases task_step found with there | ⟨-, v, begun⟩ | ⟨at_, v, there, turn, -⟩
      · obtain ⟨loggedIn, active⟩ := ih.opening task input there
        exact ⟨loggedIn.next op, active.next op⟩
      · cases begun
      · cases turn with
        | active active =>
          have seen : Seeing decodeURIComponent addressIsAllowed [Active input.operatorId] ops :=
            Visits.here active trivial
          exact ⟨(ih.establishing task input there).next op, seen.next op⟩
    · intro sessionId session found
      rcases session_step found with ⟨earlier, there, same⟩ | ⟨task, input, there, rfl⟩
      · obtain ⟨input, loggedIn, active, opened⟩ := ih.sessions sessionId earlier there
        exact ⟨input, loggedIn.next op, active.next op, same.trans opened⟩
      · obtain ⟨loggedIn, active⟩ := ih.opening task input there
        exact ⟨input, loggedIn.next op, active.next op, rfl⟩

/-! ### A read of one workspace -/

def samplePolicy : NetworkPolicy := ⟨"office", ["10.0.0.0/8"]⟩

def sampleAllowed (cidrs : List String) (ip : String) : Option Bool :=
  some (decide ("10.0.0.0/8" ∈ cidrs ∧ ip = "10.0.0.1"))

def sampleScope : Scope := ⟨"ws_1", .live⟩

def sampleRequest : OpsRequest where
  method := "GET"
  path := ["ops", "exceptions"]
  query := [("workspace_id", "ws_1"), ("environment", "live")]
  session := some 0
  device := "laptop"
  reason := "A payout is stuck."
  requestId := "req_1"
  ip := "10.0.0.1"
  policy := samplePolicy
  now := 60000

def sampleRow : OpsRow Unit := ⟨sampleScope, "exc_1", 5, ()⟩

/-- An operator logs in and reads the exceptions of a workspace. -/
def sampleOps : List (OpsOp Unit) :=
  [.createOperator "ann@ops" "Ann" [.opsRead], .goOn 0 {}, .goOn 0 {},
    .establishOperatorSession ⟨0, .totp, "laptop", "10.0.0.1", samplePolicy, 0⟩,
    .goOn 1 {}, .goOn 1 {},
    .tenants fun tenants => { tenants with exceptions := [(sampleRow, false)] },
    .request sampleRequest, .goOn 2 {}, .goOn 2 {}, .goOn 2 {}, .goOn 2 ⟨false, 60001⟩, .goOn 2 {}]

def sampleContext : OperatorContext where
  operatorId := 0
  sessionId := 0
  email := "ann@ops"
  displayName := "Ann"
  roles := [.opsRead]
  action := "ops.exceptions.list"
  reason := "A payout is stuck."
  requestId := "req_1"
  ip := "10.0.0.1"

theorem sample_found : (after some sampleAllowed .empty sampleOps).tasks[2]? =
    some (.request sampleRequest (.answered (.view sampleContext (.exceptions 100) [sampleScope]
      [.row sampleRow]))) := by
  decide +kernel

/-! ### Requests that act -/

/-- A request may act: what it has shown, and that its session, then its operator and then its roles
were read and let it. -/
structure Authorized (decodeURIComponent : String → Option String)
    (addressIsAllowed : List String → String → Option Bool) (ops : List (OpsOp V))
    (request : OpsRequest) (ctx : OperatorContext) : Prop where
  shown : Shown addressIsAllowed request ctx.sessionId
  read : Seeing decodeURIComponent addressIsAllowed
    [fun w => ctx.roles = rolesOf w ctx.operatorId, Active ctx.operatorId,
      Live request ctx.sessionId ctx.operatorId] ops
  routed : ∃ matched, Routed decodeURIComponent request matched ctx

theorem Authorized.next {ops : List (OpsOp V)} {request : OpsRequest} {ctx : OperatorContext}
    (authorized : Authorized decodeURIComponent addressIsAllowed ops request ctx) (op : OpsOp V) :
    Authorized decodeURIComponent addressIsAllowed (ops ++ [op]) request ctx :=
  ⟨authorized.shown, authorized.read.next op, authorized.routed⟩

/-- What is known of a request, by how far it is. -/
structure Standing (decodeURIComponent : String → Option String)
    (addressIsAllowed : List String → String → Option Bool) (ops : List (OpsOp V))
    (request : OpsRequest) (stage : Stage V) : Prop where
  arrived : ∀ sessionId, stage = .arrived sessionId → Shown addressIsAllowed request sessionId
  session : ∀ sessionId operatorId, stage.session? = some (sessionId, operatorId) →
    Shown addressIsAllowed request sessionId ∧ Seeing decodeURIComponent addressIsAllowed
      [Live request sessionId operatorId] ops
  operator : ∀ sessionId operatorId, stage.operator? = some operatorId →
    stage.session? = some (sessionId, operatorId) → Seeing decodeURIComponent addressIsAllowed
      [Active operatorId, Live request sessionId operatorId] ops
  context : ∀ ctx, stage.context? = some ctx →
    Authorized decodeURIComponent addressIsAllowed ops request ctx

theorem Standing.next {ops : List (OpsOp V)} {request : OpsRequest} {stage : Stage V}
    (standing : Standing decodeURIComponent addressIsAllowed ops request stage) (op : OpsOp V) :
    Standing decodeURIComponent addressIsAllowed (ops ++ [op]) request stage := by
  refine ⟨standing.arrived, ?_, ?_, ?_⟩
  · intro sessionId operatorId letIn
    obtain ⟨shown, read⟩ := standing.session sessionId operatorId letIn
    exact ⟨shown, read.next op⟩
  · intro sessionId operatorId found letIn
    exact (standing.operator sessionId operatorId found letIn).next op
  · exact fun ctx acts => (standing.context ctx acts).next op

theorem standing_arrive (ops : List (OpsOp V)) (request : OpsRequest) :
    Standing decodeURIComponent addressIsAllowed ops request
      (arrive addressIsAllowed request) := by
  have unread := arrive_session V addressIsAllowed request
  refine ⟨?_, ?_, ?_, ?_⟩
  · intro sessionId is
    rcases arrive_cases V addressIsAllowed request with ⟨_, _, refused⟩ | ⟨_, shown, came⟩
    · cases is.symm.trans refused
    · cases is.symm.trans came
      exact shown
  · intro sessionId operatorId letIn
    cases letIn.symm.trans unread
  · intro sessionId operatorId found letIn
    cases letIn.symm.trans unread
  · intro ctx acts
    cases (Stage.session_of_context acts).symm.trans unread

theorem Standing.moved {ops : List (OpsOp V)} {request : OpsRequest} {stage next : Stage V}
    (standing : Standing decodeURIComponent addressIsAllowed ops request stage) {v : OpsWorld V}
    (moved : Moved decodeURIComponent request
      (after decodeURIComponent addressIsAllowed .empty ops) stage v next) :
    Standing decodeURIComponent addressIsAllowed ops request next := by
  refine ⟨?_, ?_, ?_, ?_⟩
  · rintro sessionId rfl
    cases moved with
    | acting routed roles acts => cases acts
  · intro sessionId operatorId letIn
    rcases moved.session letIn with before | ⟨rfl, live⟩
    · exact standing.session sessionId operatorId before
    · exact ⟨standing.arrived sessionId rfl, Visits.here live trivial⟩
  · intro sessionId operatorId found letIn
    have before : stage.session? = some (sessionId, operatorId) := by
      rcases moved.session letIn with before | ⟨rfl, -⟩
      · exact before
      · rcases moved.operator found with arrived | ⟨_, arrived, -⟩ <;> cases arrived
    rcases moved.operator found with there | ⟨sessionId', rfl, active⟩
    · exact standing.operator sessionId operatorId there before
    · exact Visits.here active (standing.session sessionId operatorId before).2
  · intro ctx acts
    rcases moved.context acts with before | ⟨routed, roles, found, letIn⟩
    · exact standing.context ctx before
    · obtain ⟨shown, -⟩ := standing.session _ _ letIn
      exact ⟨shown, Visits.here roles (standing.operator _ _ found letIn), routed⟩

theorem standing_run (ops : List (OpsOp V)) (task : Nat) (request : OpsRequest) (stage : Stage V)
    (found : (after decodeURIComponent addressIsAllowed .empty ops).tasks[task]? =
      some (.request request stage)) :
    Standing decodeURIComponent addressIsAllowed ops request stage := by
  revert task request stage
  refine history (Q := fun ops (w : OpsWorld V) => ∀ (task : Nat) request stage,
    w.tasks[task]? = some (.request request stage) →
      Standing decodeURIComponent addressIsAllowed ops request stage) ?_ ?_ ops
  · intro task request stage found
    cases found
  · intro ops op ih task request stage found
    rcases request_step found with there | rfl | ⟨stage', v, there, moved, -⟩
    · exact (ih task request stage there).next op
    · exact standing_arrive _ request
    · exact ((ih task request stage' there).moved moved).next op

/-- A read of a workspace is recorded, in both tables. -/
def Recorded (ctx : OperatorContext) (subject : Option RecordedSubject) (scope : Scope)
    (w : OpsWorld V) : Prop :=
  ∃ now, readAction ctx subject scope now ∈ w.actions ∧
    readEntry ctx subject scope now ∈ w.auditLog

theorem Recorded.since {ctx : OperatorContext} {subject : Option RecordedSubject} {scope : Scope}
    {w v : OpsWorld V} (recorded : Recorded ctx subject scope w) (since : Since w v) :
    Recorded ctx subject scope v := by
  obtain ⟨now, action, entry⟩ := recorded
  exact ⟨now, since.actions.subset action, since.auditLog.subset entry⟩

/-- The request reads what its route asks for. -/
def Asks (decodeURIComponent : String → Option String) (request : OpsRequest)
    (ctx : OperatorContext) (read : OpsRead) (subject : Option RecordedSubject)
    (scopes : List Scope) : Prop :=
  ∃ matched, Routed decodeURIComponent request matched ctx ∧
    Asked request matched ctx read subject scopes

/-- What is recorded of a request, by how far it is. -/
structure Records (decodeURIComponent : String → Option String)
    (addressIsAllowed : List String → String → Option Bool) (ops : List (OpsOp V))
    (w : OpsWorld V) (request : OpsRequest) (stage : Stage V) : Prop where
  recording : ∀ ctx read subject scopes remaining,
    stage = .recording ctx read subject scopes remaining →
      Asks decodeURIComponent request ctx read subject scopes ∧
        (∀ scope ∈ remaining, scope ∈ scopes) ∧
        ∀ scope ∈ scopes, scope ∈ remaining ∨ Recorded ctx subject scope w
  view : ∀ ctx read scopes rows, stage = .answered (.view ctx read scopes rows) →
    ∃ subject, Asks decodeURIComponent request ctx read subject scopes ∧
      Seeing decodeURIComponent addressIsAllowed [fun earlier =>
        rows = rowsRead earlier scopes read ∧
          ∀ scope ∈ scopes, Recorded ctx subject scope earlier] ops

theorem Records.next {ops : List (OpsOp V)} {w v : OpsWorld V} {request : OpsRequest}
    {stage : Stage V}
    (records : Records decodeURIComponent addressIsAllowed ops w request stage)
    (since : Since w v) (op : OpsOp V) :
    Records decodeURIComponent addressIsAllowed (ops ++ [op]) v request stage := by
  constructor
  · intro ctx read subject scopes remaining is
    obtain ⟨asks, inside, each⟩ := records.recording ctx read subject scopes remaining is
    exact ⟨asks, inside, fun scope mem => (each scope mem).imp_right (·.since since)⟩
  · intro ctx read scopes rows is
    obtain ⟨subject, asks, seen⟩ := records.view ctx read scopes rows is
    exact ⟨subject, asks, seen.next op⟩

theorem records_arrive (ops : List (OpsOp V)) (w : OpsWorld V) (request : OpsRequest) :
    Records decodeURIComponent addressIsAllowed ops w request
      (arrive addressIsAllowed request) := by
  have unread := arrive_session V addressIsAllowed request
  constructor
  · intro ctx read subject scopes remaining is
    rw [is] at unread
    cases unread
  · intro ctx read scopes rows is
    rw [is] at unread
    cases unread

theorem Records.moved {ops : List (OpsOp V)} {request : OpsRequest} {stage next : Stage V}
    {v : OpsWorld V}
    (records : Records decodeURIComponent addressIsAllowed ops
      (after decodeURIComponent addressIsAllowed .empty ops) request stage)
    (moved : Moved decodeURIComponent request
      (after decodeURIComponent addressIsAllowed .empty ops) stage v next) :
    Records decodeURIComponent addressIsAllowed ops v request next := by
  constructor
  · rintro ctx read subject scopes remaining rfl
    cases moved with
    | acting routed roles acts asked =>
      cases acts
      obtain ⟨asked, rfl⟩ := asked read subject scopes remaining rfl
      exact ⟨⟨_, routed, asked⟩, fun _ mem => mem, fun _ mem => .inl mem⟩
    | @recorded _ _ _ _ _ scope now =>
      obtain ⟨asks, inside, each⟩ := records.recording ctx read subject scopes _ rfl
      refine ⟨asks, fun scope mem => inside scope (List.mem_cons_of_mem _ mem), ?_⟩
      intro scope' mem
      rcases each scope' mem with waits | recorded
      · rcases List.mem_cons.mp waits with rfl | waits
        · exact .inr ⟨now, List.mem_append_right _ List.mem_cons_self,
            List.mem_append_right _ List.mem_cons_self⟩
        · exact .inl waits
      · exact .inr (recorded.since (since_recorded _ ctx subject scope now))
  · rintro ctx read scopes rows rfl
    cases moved with
    | stays => exact records.view ctx read scopes rows rfl
    | acting routed roles acts asked unseen =>
      cases acts
      exact (unseen read scopes rows rfl).elim
    | @viewed _ _ subject _ =>
      obtain ⟨asks, -, each⟩ := records.recording ctx read subject scopes [] rfl
      refine ⟨subject, asks, Visits.here ⟨rfl, ?_⟩ trivial⟩
      intro scope mem
      exact (each scope mem).resolve_left List.not_mem_nil

theorem records_run (ops : List (OpsOp V)) (task : Nat) (request : OpsRequest) (stage : Stage V)
    (found : (after decodeURIComponent addressIsAllowed .empty ops).tasks[task]? =
      some (.request request stage)) :
    Records decodeURIComponent addressIsAllowed ops
      (after decodeURIComponent addressIsAllowed .empty ops) request stage := by
  revert task request stage
  refine history (Q := fun ops (w : OpsWorld V) => ∀ (task : Nat) request stage,
    w.tasks[task]? = some (.request request stage) →
      Records decodeURIComponent addressIsAllowed ops w request stage) ?_ ?_ ops
  · intro task request stage found
    cases found
  · intro ops op ih task request stage found
    rcases request_step found with there | rfl | ⟨stage', v, there, moved, is⟩
    · exact (ih task request stage there).next (since_step _ op) op
    · exact records_arrive _ _ request
    · rw [is]
      exact ((ih task request stage' there).moved moved).next
        (since_setTask (refl v) task _) op

theorem mem_within {scopes : List Scope} {rows : List (OpsRow V)} {row : OpsRow V}
    (mem : row ∈ within scopes rows) : row.scope ∈ scopes :=
  of_decide_eq_true (List.mem_filter.mp mem).2

/-- Every read but that of one settlement is of the workspaces that it names. -/
theorem scope_of_rowsRead {w : OpsWorld V} {scopes : List Scope} {read : OpsRead} {seen : Seen V}
    (mem : seen ∈ rowsRead w scopes read) : seen.scope ∈ scopes ∨ ∃ id, read = .settlement id := by
  cases read with
  | settlement id => exact .inr ⟨id, rfl⟩
  | audit subjectId actorId limit =>
    obtain ⟨entry, inside, rfl⟩ := List.mem_map.mp mem
    have kept := List.mem_filter.mp (List.mem_mergeSort.mp (List.mem_of_mem_take inside))
    exact .inl (of_decide_eq_true kept.2).1
  | facilities =>
    obtain ⟨row, inside, rfl⟩ := List.mem_map.mp mem
    exact .inl (mem_within (List.mem_mergeSort.mp inside))
  | movements limit =>
    obtain ⟨row, inside, rfl⟩ := List.mem_map.mp mem
    have among := List.mem_mergeSort.mp (List.mem_of_mem_take inside)
    rw [List.mem_append, List.mem_append] at among
    rcases among with (reservation | drawdown) | repayment
    · exact .inl (mem_within reservation)
    · exact .inl (mem_within drawdown)
    · exact .inl (mem_within repayment)
  | _ =>
    obtain ⟨row, inside, rfl⟩ := List.mem_map.mp mem
    exact .inl (mem_within (List.mem_mergeSort.mp (List.mem_of_mem_take inside)))

/-- What an answer shows of workspaces was read after each workspace named by the request had the
two records of the read, with a valid reason; and it is of these workspaces, unless it is a
settlement asked for by its id. -/
theorem reads_recorded (ops : List (OpsOp V)) (task : Nat) (request : OpsRequest)
    (ctx : OperatorContext) (read : OpsRead) (scopes : List Scope) (rows : List (Seen V))
    (found : (after decodeURIComponent addressIsAllowed .empty ops).tasks[task]? =
      some (.request request (.answered (.view ctx read scopes rows)))) :
    ∃ subject, Asks decodeURIComponent request ctx read subject scopes ∧
      (∀ seen ∈ rows, seen.scope ∈ scopes ∨ ∃ id, read = .settlement id) ∧
      Seeing decodeURIComponent addressIsAllowed [fun earlier =>
        rows = rowsRead earlier scopes read ∧
          ∀ scope ∈ scopes, Recorded ctx subject scope earlier] ops := by
  obtain ⟨subject, asks, seen⟩ :=
    (records_run ops task request _ found).view ctx read scopes rows rfl
  refine ⟨subject, asks, ?_, seen⟩
  obtain ⟨earlier, -, ⟨rfl, -⟩, -⟩ := seen
  exact fun row mem => scope_of_rowsRead mem

theorem reads_recorded_sample :
    ∃ subject, Asks some sampleRequest sampleContext (.exceptions 100) subject [sampleScope] ∧
      (∀ seen ∈ [Seen.row sampleRow], seen.scope ∈ [sampleScope] ∨
        ∃ id, OpsRead.exceptions 100 = .settlement id) ∧
      Seeing some sampleAllowed [fun earlier =>
        [Seen.row sampleRow] = rowsRead earlier [sampleScope] (.exceptions 100) ∧
          ∀ scope ∈ [sampleScope], Recorded sampleContext subject scope earlier] sampleOps :=
  reads_recorded sampleOps 2 sampleRequest sampleContext (.exceptions 100) [sampleScope]
    [.row sampleRow] sample_found

end InrSettle.Ops
