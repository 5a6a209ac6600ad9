import InrSettle.System.Attempts
import InrSettle.System.DrawdownRefusals
import InrSettle.System.Holdings
import InrSettle.System.PayoutRefusals

/-!
# Answers to replayed messages

A credited payout and a confirmed drawdown are acknowledged again without a look at the settlement.
That is sound as long as neither was ever written while the settlement stayed where it was.
-/

namespace InrSettle

open Transaction CaseTables Run

/-- The step leaves a credited attempt, or a confirmed drawdown, behind a settlement it does not
move. -/
def strands (read : Reads) (s : Store) : SettlementOp → Bool
  | .applyPayoutOutcome _ input | .applyEvent _ input _ =>
    input.outcome == .credited && input.moves s.case &&
      !(s.case.isIn .payoutSubmitted && read.settlement.map (·.status) != some .exception)
  | .resolveDrawdown input =>
    (input.move s.case).any (fun moved => moved.2.target == .confirmed) && !input.lands s
  | _ => false

/-- The step takes the settlement along. -/
def TakesAlong (w : World) : WorldOp → Prop
  | .funding _ => True
  | .settlement asOf op => strands (w.read asOf op) (w.now.store op.subject) op = false

instance (w : World) : (op : WorldOp) → Decidable (TakesAlong w op)
  | .funding _ => isTrue trivial
  | .settlement _ _ => inferInstanceAs (Decidable (_ = _))

/-! ### Credited attempts -/

def HasCredited (c : Case) : Prop := ∃ a ∈ c.attempts, a.status = .credited

/-- A credit the settlement waits for confirms it. -/
theorem credited_confirms {settlementStatus : Option SettlementStatus}
    {input : PayoutOutcomeInput} {c c' : Case} {r : PayoutResult}
    (isCredited : input.outcome = .credited) (moves : input.moves c = true)
    (waits : c.isIn .payoutSubmitted = true) (asked : settlementStatus ≠ some .exception)
    (h : Commits (applyPayoutOutcome settlementStatus input) c r c') :
    c'.status = some .payoutConfirmed := by
  rcases applyPayoutOutcome_commits h with ⟨unmoved, -⟩ | ⟨-, -, moved⟩ | ⟨refused, -⟩
  · rw [moves] at unmoved
    cases unmoved
  · obtain ⟨attempt, c₁, old, new, t, -, takes, rfl⟩ := moved asked
    have trigger : (outcomeTransition input attempt).trigger = .payoutCredited := by
      rw [outcomeTransition_trigger, if_pos isCredited]
    have status := takes.status
    rw [trigger] at status
    exact congrArg some status
  · simp [PayoutOutcomeInput.lands, waits] at refused

/-- An outcome that credits an attempt is a credit that moves one. -/
theorem moves_of_permits {input : PayoutOutcomeInput} {c : Case} {a b : PayoutAttemptRow}
    (trusted : input.trusted = true) (latest : latestAttempt c = some a) (permits : input.Permits a)
    (isCredited : (input.set b).status = .credited) :
    input.outcome = .credited ∧ input.moves c = true := by
  cases is : input.outcome with
  | credited =>
    simp only [PayoutOutcomeInput.Permits, is] at permits
    exact ⟨rfl, by simp [PayoutOutcomeInput.moves, trusted, latest, permits.1, permits.2, is]⟩
  | rejected => simp [PayoutOutcomeInput.set, is, rejected] at isCredited
  | accepted => simp [PayoutOutcomeInput.set, is, accepted] at isCredited
  | returned => simp [PayoutOutcomeInput.set, is, returned] at isCredited
  | unknown => simp [PayoutOutcomeInput.Permits, is] at permits

/-- An update that credits an attempt is a credit that moves it. -/
theorem AttemptWrite.credits {c : Case} {op : SettlementOp} {attemptId : String}
    {set : PayoutAttemptRow → PayoutAttemptRow} (write : AttemptWrite c op attemptId set)
    {a : PayoutAttemptRow} (isCredited : (set a).status = .credited) :
    a.status = .credited ∨ ∃ input, op.reports = some input ∧ input.outcome = .credited ∧
      input.moves c = true := by
  cases write with
  | @acknowledged _ input =>
    left
    by_cases accepted : input.ack.status = .accepted
    · simp [InrSettle.acknowledged, accepted] at isCredited
    · simpa [InrSettle.acknowledged, accepted] using isCredited
  | outcome reports trusted latest permits =>
    exact .inr ⟨_, reports, moves_of_permits trusted latest permits isCredited⟩
  | overdue latest waiting => cases isCredited
  | totalled counts => exact .inl isCredited

/-- What an operation that credits no attempt leaves. -/
theorem AttemptsMove.credited {op : SettlementOp} {c c' : Case} (moved : AttemptsMove op c c')
    (has : HasCredited c') : HasCredited c ∨ ∃ input, op.reports = some input ∧
      input.outcome = .credited ∧ input.moves c = true := by
  obtain ⟨a, mem, isCredited⟩ := has
  cases moved with
  | still attempts => exact .inl ⟨a, attempts ▸ mem, isCredited⟩
  | added made attempts =>
    rw [attempts] at mem
    rcases List.mem_append.mp mem with old | new
    · exact .inl ⟨a, old, isCredited⟩
    · rw [List.mem_singleton.mp new, made.status] at isCredited
      cases isCredited
  | updated write allowed attempts =>
    rw [attempts] at mem
    rcases Table.mem_setWhere.mp mem with ⟨old, oldMem, -, rfl⟩ | ⟨oldMem, -⟩
    · exact (write.credits isCredited).imp (fun was => ⟨old, oldMem, was⟩) id
    · exact .inl ⟨a, oldMem, isCredited⟩

section Steps

variable {digest : AuthorizedInstruction → String}

/-- A reported outcome is applied, and a return may be opened after it. -/
theorem reports_commits {read : Reads} {s : Store} {op : SettlementOp} {input : PayoutOutcomeInput}
    (reports : op.reports = some input) (isCredited : input.outcome = .credited) :
    settlementStep digest read s op = s ∨ ∃ r,
      Commits (applyPayoutOutcome (read.settlement.map (·.status)) input) s.case r
        (settlementStep digest read s op).case := by
  cases op <;> cases reports
  case applyPayoutOutcome settlementId =>
    rcases after_cases (onCase (applyPayoutOutcome (read.settlement.map (·.status)) input)) s with
      ⟨r, committed⟩ | same
    · obtain ⟨c, applied, left⟩ := commits_onCase.mp committed
      refine .inr ⟨r, ?_⟩
      rw [settlementStep, left]
      exact applied
    · exact .inl same
  case applyEvent settlementId onReturn =>
    rcases after_cases (onCase (applyEvent (read.settlement.map (·.status)) input onReturn)) s with
      ⟨r, committed⟩ | same
    · obtain ⟨c, applied, left⟩ := commits_onCase.mp committed
      obtain ⟨answer, c₁, applied, rest⟩ := commits_bind.mp applied
      have same : c = c₁ := by
        split at rest
        · rw [if_neg (by simp [isCredited])] at rest
          exact (commits_pure.mp rest).2
        · exact (commits_pure.mp rest).2
      refine .inr ⟨answer, ?_⟩
      rw [settlementStep, left, same]
      exact applied
    · exact .inl same

theorem credited_begins {w : World} {op : WorldOp} (along : TakesAlong w op) (id : String)
    (has : HasCredited ((w.step digest op).now.cases id)) :
    HasCredited (w.now.cases id) ∨
      ((w.step digest op).now.cases id).status = some .payoutConfirmed := by
  cases op with
  | funding op => exact .inl has
  | settlement asOf op =>
    by_cases subject : id = op.subject
    · subst subject
      rw [step_case_subject] at has ⊢
      rcases (settlementStep_move op).payout.attempts.credited has with
        before | ⟨input, reports, isCredited, moves⟩
      · exact .inl before
      · have waits : (w.now.store op.subject).case.isIn .payoutSubmitted = true ∧
            (w.read asOf op).settlement.map (·.status) ≠ some .exception := by
          cases op <;> cases reports <;> simpa [TakesAlong, strands, isCredited, moves] using along
        rcases reports_commits reports isCredited with same | ⟨r, applied⟩
        · rw [same] at has
          exact .inl has
        · exact .inr (credited_confirms isCredited moves waits.1 waits.2 applied)
    · rw [step_case_of_ne subject] at has
      exact .inl has

end Steps

/-- A credit answered as a duplicate finds a credited attempt. -/
theorem credited_duplicate {settlementStatus : Option SettlementStatus}
    {input : PayoutOutcomeInput} {c c' : Case} {done : PayoutDone}
    (h : Commits (applyPayoutOutcome settlementStatus input) c (.ok done) c')
    (isCredited : input.outcome = .credited) (idempotent : done.idempotent = true) :
    HasCredited c := by
  unfold applyPayoutOutcome at h
  split at h
  · cases (commits_pure.mp h).1
  simp only [commits_get_bind] at h
  split at h
  · cases (commits_pure.mp h).1
  rename_i attempt latest
  simp only [isCredited] at h
  split at h
  · cases (commits_pure.mp h).1
  split at h
  · rename_i is
    exact ⟨attempt, (Table.latestBy_some latest).1, is⟩
  split at h
  · cases (commits_pure.mp h).1
  -- Moving the attempt is no duplicate.
  obtain ⟨_, c₁, -, h⟩ := commits_bind.mp h
  split at h
  · obtain rfl := Except.ok.inj (commits_pure.mp h).1
    cases idempotent
  · obtain ⟨outcome, c₂, -, h⟩ := commits_bind.mp h
    split at h
    · cases (commits_pure.mp h).1
    · obtain rfl := Except.ok.inj (commits_pure.mp h).1
      cases idempotent

/-! ### Confirmed drawdowns -/

def HasConfirmed (c : Case) : Prop := ∃ d ∈ c.drawdowns, d.status = .confirmed

theorem confirmed_duplicate {input : ResolveDrawdownInput} {s s' : Store} {done : FundingDone}
    (h : Commits (resolveDrawdown input) s (.ok done) s') (idempotent : done.idempotent = true) :
    HasConfirmed s.case := by
  simp only [resolveDrawdown, commits_get_bind] at h
  split at h
  · cases (commits_pure.mp h).1
  rename_i d latest
  split at h
  · cases (commits_pure.mp h).1
  split at h
  · cases (commits_pure.mp h).1
  split at h
  · rename_i is
    exact ⟨d, (Table.latestBy_some latest).1, is.2⟩
  split at h
  · cases (commits_pure.mp h).1
  obtain ⟨_, s₁, -, h⟩ := commits_bind.mp h
  obtain ⟨followed, s₂, -, h⟩ := commits_bind.mp h
  split at h
  · cases (commits_pure.mp h).1
  obtain ⟨outcome, s₃, -, h⟩ := commits_bind.mp h
  split at h
  · cases (commits_pure.mp h).1
  · obtain rfl := Except.ok.inj (commits_pure.mp h).1
    cases idempotent

theorem hasConfirmed_resolved {input : ResolveDrawdownInput} {s s' : Store} {r : FundingResult}
    (h : Commits (resolveDrawdown input) s r s')
    (along : ∀ d row, input.move s.case = some (d, row) → row.target = .confirmed →
      input.lands s = true) (has : HasConfirmed s'.case) :
    HasConfirmed s.case ∨ s'.case.status = some .drawdownConfirmed := by
  rcases resolveDrawdown_commits h with ⟨-, rfl⟩ | ⟨d, row, move, -, -, drawdowns, result⟩
  · exact .inl has
  by_cases confirms : row.target = .confirmed
  · rcases result with ⟨-, -, c, old, new, t, -, takes, is⟩ | ⟨refused, -⟩
    · right
      have status := takes.status
      rw [confirms] at status
      rw [is]
      exact congrArg some status
    · rw [along d row move confirms] at refused
      cases refused
  · obtain ⟨e, mem, isConfirmed⟩ := has
    rw [drawdowns] at mem
    rcases Table.mem_setWhere.mp mem with ⟨old, oldMem, -, rfl⟩ | ⟨oldMem, -⟩
    · exact (confirms isConfirmed).elim
    · exact .inl ⟨e, oldMem, isConfirmed⟩

section Steps

variable {digest : AuthorizedInstruction → String}

/-- Every operation but an answer to it leaves which drawdowns are confirmed. -/
theorem HoldsMove.confirmed {read : Reads} {s s' : Store} {op : SettlementOp}
    (moved : HoldsMove read s op s') (other : ∀ input, op ≠ .resolveDrawdown input)
    (has : HasConfirmed s'.case) : HasConfirmed s.case := by
  obtain ⟨d, mem, isConfirmed⟩ := has
  cases moved with
  | still drawdowns => exact ⟨d, drawdowns ▸ mem, isConfirmed⟩
  | reserved _ _ _ drawdowns => exact ⟨d, drawdowns ▸ mem, isConfirmed⟩
  | released _ _ drawdowns => exact ⟨d, drawdowns ▸ mem, isConfirmed⟩
  | asked _ _ drawdowns => exact ⟨d, drawdowns ▸ mem, isConfirmed⟩
  | drawn _ _ _ _ _ _ drawdowns =>
    rw [drawdowns] at mem
    rcases List.mem_append.mp mem with old | new
    · exact ⟨d, old, isConfirmed⟩
    · rw [List.mem_singleton.mp new] at isConfirmed
      cases isConfirmed
  | resolved is => exact (other _ is).elim

theorem confirmed_begins {w : World} {op : WorldOp} (along : TakesAlong w op) (id : String)
    (has : HasConfirmed ((w.step digest op).now.cases id)) :
    HasConfirmed (w.now.cases id) ∨
      ((w.step digest op).now.cases id).status = some .drawdownConfirmed := by
  cases op with
  | funding op => exact .inl has
  | settlement asOf op =>
    by_cases subject : id = op.subject
    · subst subject
      rw [step_case_subject] at has ⊢
      by_cases resolves : ∃ input, op = .resolveDrawdown input
      · obtain ⟨input, rfl⟩ := resolves
        refine (after_induction (P := fun s' : Store => HasConfirmed s'.case →
          HasConfirmed (w.now.cases input.settlementId) ∨
            s'.case.status = some .drawdownConfirmed) .inl (fun r s' h has => ?_)) has
        refine hasConfirmed_resolved h (fun d row move confirms => ?_) has
        have along : strands (w.read asOf (.resolveDrawdown input))
            (w.now.store input.settlementId) (.resolveDrawdown input) = false := along
        have move : input.move (w.now.store input.settlementId).case = some (d, row) := move
        simp only [strands, move, confirms, Option.any_some, BEq.rfl, Bool.true_and] at along
        exact (Bool.not_eq_eq_eq_not.mp along)
      · exact .inl ((settlementStep_move op).holds.confirmed
          (fun input is => resolves ⟨input, is⟩) has)
    · rw [step_case_of_ne subject] at has
      exact .inl has

end Steps

/-! ### Over runs -/

/-- Some state of the run had the settlement in the status. -/
def HasReached (digest : AuthorizedInstruction → String) (ops : List WorldOp)
    (settlementId : String) (status : SettlementStatus) : Prop :=
  Passed (World.step digest)
    (fun w => (w.now.cases settlementId).status = some status) World.empty ops

instance (digest : AuthorizedInstruction → String) (ops : List WorldOp) (settlementId : String)
    (status : SettlementStatus) : Decidable (HasReached digest ops settlementId status) :=
  inferInstanceAs (Decidable (Passed _ _ _ _))

/-- A credit or a confirmation answered as a duplicate is of a settlement that has got as far. -/
structure DuplicatesSound (digest : AuthorizedInstruction → String) (ops : List WorldOp)
    (settlementId : String) : Prop where
  credited : ∀ settlementStatus input done c',
    Commits (applyPayoutOutcome settlementStatus input) (caseAfter digest ops settlementId)
      (.ok done) c' → input.outcome = .credited → done.idempotent = true →
    HasReached digest ops settlementId .payoutConfirmed
  confirmed : ∀ input done s',
    Commits (resolveDrawdown input)
      ((run (World.step digest) World.empty ops).now.store settlementId) (.ok done) s' →
    done.idempotent = true → HasReached digest ops settlementId .drawdownConfirmed

/-- In a run each step of which takes the settlement along, duplicates are soundly answered. -/
theorem duplicates_sound (digest : AuthorizedInstruction → String) (ops : List WorldOp)
    (steps : Along (World.step digest) TakesAlong World.empty ops) (settlementId : String) :
    DuplicatesSound digest ops settlementId where
  credited settlementStatus input done c' h isCredited idempotent :=
    steps.passed (Q := fun w => HasCredited (w.now.cases settlementId))
      (fun _ _ along has => credited_begins along settlementId has)
      (by simp [HasCredited, World.empty, Tenant.empty])
      (credited_duplicate h isCredited idempotent)
  confirmed input done s' h idempotent :=
    steps.passed (Q := fun w => HasConfirmed (w.now.cases settlementId))
      (fun _ _ along has => confirmed_begins along settlementId has)
      (by simp [HasConfirmed, World.empty, Tenant.empty])
      (confirmed_duplicate h idempotent)

theorem duplicates_sound_delivered :
    DuplicatesSound (fun _ => "hash") (funded ++ [dispatching, reporting .credited 10]) "s" :=
  duplicates_sound _ _ (by decide +kernel) "s"

/-- The payout's SLA elapses and the provider then says it was credited: the attempt is CREDITED and
the settlement waits in EXCEPTION. -/
def creditedLate : List WorldOp := funded ++ [dispatching,
  fresh (.sweepPayoutSla "s" { actor := worker, now := 60006 }), reporting .credited 60007]

/-- The drawdown's SLA elapses and the lender then says it was funded: T13 is refused. -/
def fundedLate : List WorldOp := authorizing ++ capacity ++
  [drawing, resolving .slaElapsed 5, resolving .pullResolvedConfirmed 6]

theorem duplicates_unsound :
    ¬DuplicatesSound (fun _ => "hash") creditedLate "s" ∧
      ¬DuplicatesSound (fun _ => "hash") fundedLate "s" := by
  refine ⟨fun sound => ?_, fun sound => ?_⟩
  · have answered : answer (applyPayoutOutcome none {
        outcome := .credited, actor := worker, trusted := true, utr := some "UTR0000000001"
        now := 60008 }) (reached creditedLate).case =
          some (.ok { attemptNumber := 1, status := .credited, idempotent := true }) := by
      decide +kernel
    exact absurd (sound.credited none _ _ _ (answer_some answered) rfl rfl) (by decide +kernel)
  · have answered : answer (resolveDrawdown {
        settlementId := "s", trigger := .confirmed, actor := worker, providerEventVerified := true
        evidence := some ⟨1000, "INR", some "facility"⟩, transferId := "t3", now := 7 })
        (reached fundedLate) =
          some (.ok { transition := none, drawdownId := some "drawdown", idempotent := true }) := by
      decide +kernel
    exact absurd (sound.confirmed _ _ _ (answer_some answered) rfl) (by decide +kernel)

end InrSettle
