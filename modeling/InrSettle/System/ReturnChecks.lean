import InrSettle.System.Returns

/-!
# Returns confirmed on the provider's answer

The provider keeps, for each payout, how much of it has come back, and answers with
that figure when it is asked. A return is checked against an answer in one step and
confirmed on it in a later one, with anything in between.
-/

namespace InrSettle

open Transaction CaseTables Run

/-! ### The provider -/

/-- What was learned of one return. -/
structure RecordedCheck where
  settlementId : String
  returnId : String
  check : ReturnCheck
  deriving DecidableEq

/-- The tenant's tables, what the provider has returned of each payout, what it last reported of it,
and the checks made so far. -/
structure Checking where
  world : World
  cameBack : String → Int
  reported : String → Option Int
  checks : List RecordedCheck

def Checking.empty : Checking := ⟨World.empty, fun _ => 0, fun _ => none, []⟩

/-- How the provider answers for a payout: a status, with the figure it keeps, or not at all. -/
inductive Answer where
  | found (status : ProviderStatus)
  | failed (error : String)
  deriving DecidableEq

inductive CheckingOp where
  /-- Any operation but a confirmation. -/
  | world (op : WorldOp)
  /-- The provider returns more of a payout. -/
  | comesBack (key : String) (amountMinor : Nat)
  | check (settlementId returnId : String) (answer : Answer)
  /-- A confirmation of the return that was checked, on what was learned of it. -/
  | confirm (nth : Nat) (input : ConfirmInput)
  deriving DecidableEq

def WorldOp.confirms : WorldOp → Bool
  | .settlement _ (.confirmReturn _) => true
  | _ => false

/-- The key of the payout a return is of: `payoutIdempotencyKey` of its attempt. -/
def askedKey (c : Case) (r : SettlementReturnRow) : Option String :=
  (c.attempts.find? fun a => decide (a.id = r.payoutAttemptId)).bind fun a =>
    payoutIdempotencyKey a.settlementId a.attemptNumber

def Answer.query (cameBackMinor : Int) : Answer → ReturnQuery
  | found status => .found status (some cameBackMinor)
  | failed error => .failed error

/-- What an answer leaves as last reported. -/
def Answer.report (cameBackMinor : Int) (before : Option Int) : Answer → Option Int
  | found _ => some cameBackMinor
  | failed _ => before

/-- The confirmation as it is called with a recorded check. -/
def RecordedCheck.confirm (recorded : RecordedCheck) (input : ConfirmInput) : WorldOp :=
  .settlement 0 (.confirmReturn { input with
    settlementId := recorded.settlementId, returnId := recorded.returnId, check := recorded.check })

variable (digest : AuthorizedInstruction → String)

def Checking.step (s : Checking) : CheckingOp → Checking
  | .world op => if op.confirms then s else { s with world := s.world.step digest op }
  | .comesBack key amountMinor =>
    { s with cameBack := Function.update s.cameBack key (s.cameBack key + amountMinor) }
  | .check settlementId returnId answer =>
    let c := s.world.now.cases settlementId
    match findReturn c returnId with
    | none => s
    | some r =>
      match askedKey c r with
      | none => s
      | some key =>
        { s with
          reported := Function.update s.reported key
            (answer.report (s.cameBack key) (s.reported key))
          checks := s.checks ++ [⟨settlementId, returnId,
            checkReturnWithProvider (some r) (answer.query (s.cameBack key))⟩] }
  | .confirm nth input =>
    match s.checks[nth]? with
    | none => s
    | some recorded => { s with world := s.world.step digest (recorded.confirm input) }

theorem Answer.report_le {answer : Answer} {cameBackMinor : Int} {before : Option Int}
    (latest : before.getD 0 ≤ cameBackMinor) :
    before.getD 0 ≤ (answer.report cameBackMinor before).getD 0 ∧
      (answer.report cameBackMinor before).getD 0 ≤ cameBackMinor := by
  cases answer with
  | found status => exact ⟨latest, le_refl _⟩
  | failed error => exact ⟨le_refl _, latest⟩

/-! ### What was reported -/

/-- The counted returns of each attempt take back no more than was reported of it. -/
def WithinReport (reported : String → Option Int) (c : Case) : Prop :=
  ∀ a ∈ c.attempts, takenBack c a.id ≤ (reported a.idempotencyKey).getD 0

def ReturnCheck.isUpheld : ReturnCheck → Bool
  | upheld .. => true
  | notUpheld _ => false

/-- Where the step confirms a return under the cap, what the provider last reported covers it along
with the returns of the attempt that are counted already. -/
def Checking.covers (s : Checking) : CheckingOp → Bool
  | .confirm nth _ => (s.checks[nth]?).all fun recorded =>
    let c := s.world.now.cases recorded.settlementId
    !recorded.check.isUpheld || (findReturn c recorded.returnId).all fun current =>
      countsTowardCap current.status || current.status == .rejected ||
        (c.attempts.find? fun a => decide (a.id = current.payoutAttemptId)).all fun attempt =>
          match checkReturnCap attempt.creditedMinor
            (attempt.amountCurrency.getD current.amountCurrency)
            (confirmedSoFar c current.payoutAttemptId)
            ⟨current.amountCurrency, current.amountMinor⟩ with
          | .error _ => true
          | .ok total => decide (total ≤ (s.reported attempt.idempotencyKey).getD 0)
  | _ => true

section Steps

variable {digest : AuthorizedInstruction → String} {reported : String → Option Int}
  {op : SettlementOp} {c c' : Case}

theorem WithinReport.mono {later : String → Option Int} (held : WithinReport reported c)
    (more : ∀ key, (reported key).getD 0 ≤ (later key).getD 0) : WithinReport later c :=
  fun a mem => (held a mem).trans (more _)

theorem ReturnsMove.withinReport (moved : ReturnsMove op c c') (inOrder : InOrder c)
    (against : Against c) (nonneg : ∀ key, 0 ≤ (reported key).getD 0)
    (held : WithinReport reported c)
    (covered : ∀ input current attempt total observation, op = .confirmReturn input →
      Counts c input current attempt total observation →
      total ≤ (reported attempt.idempotencyKey).getD 0) : WithinReport reported c' := by
  intro a mem
  rw [← confirmedSoFar_eq]
  cases moved.attempts inOrder against a mem with
  | kept old _ key _ _ same =>
    rw [same, key, confirmedSoFar_eq]
    exact held _ old
  | lowered old _ _ _ _ lower =>
    have before := held a old
    rw [← confirmedSoFar_eq] at before
    exact lower.trans before
  | fresh _ nothing =>
    rw [nothing]
    exact nonneg _
  | counted is counts same total =>
    have within := covered _ _ _ _ _ is counts
    rw [total, same]
    exact within

/-- A step of the tables keeps the returns within what was reported, if a confirmation it makes
is covered. -/
theorem step_withinReport {w : World} {op : WorldOp} (settlementId : String)
    (held : ReturnsInOrder (w.now.cases settlementId))
    (nonneg : ∀ key, 0 ≤ (reported key).getD 0)
    (within : WithinReport reported (w.now.cases settlementId))
    (covered : ∀ asOf input current attempt total observation,
      op = .settlement asOf (.confirmReturn input) → input.settlementId = settlementId →
      Counts (w.now.cases settlementId) input current attempt total observation →
      total ≤ (reported attempt.idempotencyKey).getD 0) :
    WithinReport reported ((w.step digest op).now.cases settlementId) := by
  cases op with
  | funding op => exact within
  | settlement asOf op =>
    by_cases subject : settlementId = op.subject
    · subst subject
      rw [step_case_subject]
      have moved : StoreMove digest (w.read asOf op) (w.now.store op.subject) op _ :=
        settlementStep_move op
      refine (moved.returns held.inOrder held.checked).withinReport held.inOrder held.against
        nonneg within ?_
      rintro input current attempt total observation rfl counts
      exact covered asOf input current attempt total observation rfl rfl counts
    · rw [step_case_of_ne subject]
      exact within

/-- What holds while every confirmation is covered. -/
structure Answered (s : Checking) : Prop where
  inOrder : ∀ id, ReturnsInOrder (s.world.now.cases id)
  nonneg : ∀ key, 0 ≤ (s.reported key).getD 0
  latest : ∀ key, (s.reported key).getD 0 ≤ s.cameBack key
  within : ∀ id, WithinReport s.reported (s.world.now.cases id)

theorem answered_empty : Answered Checking.empty where
  inOrder := fun _ => returnsInOrder_empty
  nonneg := fun _ => le_refl _
  latest := fun _ => le_refl _
  within := fun _ _ mem => by cases mem

theorem Answered.world {s : Checking} (held : Answered s) {op : WorldOp}
    (covered : ∀ asOf input current attempt total observation,
      op = .settlement asOf (.confirmReturn input) →
      Counts (s.world.now.cases input.settlementId) input current attempt total observation →
      total ≤ (s.reported attempt.idempotencyKey).getD 0) :
    Answered { s with world := s.world.step digest op } := by
  refine ⟨fun id => step_returnsInOrder id s.world op (held.inOrder id), held.nonneg, held.latest,
    fun id => step_withinReport id (held.inOrder id) held.nonneg (held.within id) ?_⟩
  rintro asOf input current attempt total observation is rfl counts
  exact covered asOf input current attempt total observation is counts

theorem Answered.step {s : Checking} (held : Answered s) {op : CheckingOp}
    (covers : s.covers op = true) : Answered (s.step digest op) := by
  cases op with
  | world op =>
    simp only [Checking.step]
    split
    · exact held
    · rename_i other
      refine held.world ?_
      rintro asOf input current attempt total observation rfl -
      exact (other rfl).elim
  | comesBack key amountMinor =>
    refine ⟨held.inOrder, held.nonneg, fun other => ?_, held.within⟩
    have latest := held.latest other
    by_cases same : other = key
    · subst same
      simp only [Checking.step, Function.update_self]
      omega
    · simpa only [Checking.step, Function.update_of_ne same] using latest
  | check settlementId returnId answer =>
    simp only [Checking.step]
    split
    · exact held
    split
    · exact held
    rename_i key _
    -- Each key's report is at least what it was and at most what came back.
    have between : ∀ other, (s.reported other).getD 0 ≤
          (Function.update s.reported key (answer.report (s.cameBack key) (s.reported key))
            other).getD 0 ∧
        (Function.update s.reported key (answer.report (s.cameBack key) (s.reported key))
          other).getD 0 ≤ s.cameBack other := by
      intro other
      by_cases same : other = key
      · subst same
        rw [Function.update_self]
        exact Answer.report_le (held.latest other)
      · rw [Function.update_of_ne same]
        exact ⟨le_refl _, held.latest other⟩
    exact ⟨held.inOrder, fun other => (held.nonneg other).trans (between other).1,
      fun other => (between other).2, fun id => (held.within id).mono fun other => (between other).1⟩
  | confirm nth input =>
    simp only [Checking.step]
    split
    · exact held
    rename_i recorded found
    refine held.world ?_
    rintro asOf input' current attempt total observation is counts
    simp only [RecordedCheck.confirm, WorldOp.settlement.injEq, SettlementOp.confirmReturn.injEq] at is
    obtain ⟨rfl, rfl⟩ := is
    have upheld : recorded.check.isUpheld = true := by
      obtain ⟨source, is⟩ := counts.upheld
      rw [show recorded.check = _ from is]
      rfl
    have uncounted : countsTowardCap current.status = false ∧ current.status ≠ .rejected := by
      rcases counts.pending with is | is <;> rw [is] <;> exact ⟨rfl, by decide⟩
    have named : findReturn (s.world.now.cases recorded.settlementId) recorded.returnId =
        some current := counts.found
    simpa [Checking.covers, found, upheld, named, uncounted, counts.against, counts.covered]
      using covers

end Steps

section Runs

variable (digest : AuthorizedInstruction → String)

/-- After every run in which what the provider last reported covers each return it confirms along
with those that were confirmed before. -/
theorem confirmed_within_report (ops : List CheckingOp)
    (covers : Along (Checking.step digest) (fun s op => s.covers op = true) Checking.empty ops)
    (settlementId : String) :
    WithinReport (run (Checking.step digest) Checking.empty ops).reported
      ((run (Checking.step digest) Checking.empty ops).world.now.cases settlementId) :=
  (Along.invariant (I := Answered) (fun _ _ held covers => held.step covers) answered_empty
    covers).within settlementId

/-- What a caller adds to a recorded check. -/
def confirmation (repaymentId : String) : ConfirmInput where
  settlementId := "s"
  returnId := "r"
  actor := worker
  check := .notUpheld "not asked"
  repaymentId := repaymentId
  notice := some ⟨"notice", "hash"⟩
  now := 31

/-- Two returns of 400 of one payout, each checked and then confirmed. -/
def confirmingBoth (cameBackMinor : Nat) : List CheckingOp :=
  (delivered ++ [comingBack "r1" 400, comingBack "r2" 400]).map .world ++ [
    .comesBack "payout:v1:s:1" cameBackMinor,
    .check "s" "r1" (.found .returned), .confirm 0 (confirmation "p1"),
    .check "s" "r2" (.found .returned), .confirm 1 (confirmation "p2")]

/-- Of 800 that came back. -/
theorem both_confirmed_within_report :
    WithinReport (run (Checking.step fun _ => "hash") Checking.empty (confirmingBoth 800)).reported
      ((run (Checking.step fun _ => "hash") Checking.empty
        (confirmingBoth 800)).world.now.cases "s") :=
  confirmed_within_report (fun _ => "hash") (confirmingBoth 800) (by decide +kernel) "s"

/-- Where 400 came back in all, each of the two returns of 400 is confirmed. -/
theorem both_confirmed_beyond_report :
    ¬ WithinReport (run (Checking.step fun _ => "hash") Checking.empty
        (confirmingBoth 400)).reported
      ((run (Checking.step fun _ => "hash") Checking.empty
        (confirmingBoth 400)).world.now.cases "s") := by
  unfold WithinReport
  decide +kernel

end Runs

end InrSettle
