import InrSettle.Service.PayoutWebhook
import InrSettle.System.Runs

/-!
# Deliveries among the operations

The operations of a tenant, the deliveries of its provider and what is stored for other tenants,
in any order. To the settlements a delivery is one operation, the event it reports; to the
provider events it is at most one row more, kept as it came.
-/

namespace InrSettle

open Transaction CaseTables InboxTables Run

/-! ### What was stored stays -/

/-- The row as it was inserted: what `protect_provider_event` keeps. -/
def ProviderEventRow.stored (row : ProviderEventRow) : ProviderEventRow :=
  { row with interpretedAt := none, interpretation := none, unmappedCode := none }

/-- The events stored so far, as they came, are the first of the events stored later. -/
def StoredKept (s s' : Inbox) : Prop :=
  s.events.map (·.stored) <+: s'.events.map (·.stored)

instance : Std.Refl StoredKept := ⟨fun _ => List.prefix_rfl⟩

instance : IsTrans Inbox StoredKept := ⟨fun _ _ _ => List.IsPrefix.trans⟩

/-- The settlements are as they were. -/
def SameCases (s s' : Inbox) : Prop := s'.cases = s.cases

instance : Std.Refl SameCases := ⟨fun _ => rfl⟩

instance : IsTrans Inbox SameCases := ⟨fun _ _ _ first second => second.trans first⟩

theorem storedKept_interpreted {s : Inbox} {which : ProviderEventRow → Bool}
    {set : ProviderEventRow → ProviderEventRow} (kept : ∀ row, (set row).stored = row.stored) :
    StoredKept s { s with events := Table.setWhere which set s.events } := by
  have same : (Table.setWhere which set s.events).map (·.stored) = s.events.map (·.stored) :=
    Table.map_setWhere fun row _ _ => kept row
  exact ⟨[], (List.append_nil _).trans same.symm⟩

section Tables

variable (row : ProviderEventRow) (id rawCode : String) (now : Instant)
  (interpretation : EventInterpretation) (outcome : ProviderOutcome)

theorem insertProviderEvent_stored : Keeps StoredKept (insertProviderEvent row) :=
  .bind .get fun _ => .bind (.require _ _) fun _ => .bind (.require _ _) fun _ =>
    .bind (.require _ _) fun _ => .modify fun s => by simp [StoredKept]

theorem insertProviderEvent_cases : Keeps SameCases (insertProviderEvent row) :=
  .bind .get fun _ => .bind (.require _ _) fun _ => .bind (.require _ _) fun _ =>
    .bind (.require _ _) fun _ => .modify fun _ => rfl

theorem interpretEvent_stored : Keeps StoredKept (interpretEvent id now interpretation) :=
  .modify fun _ => storedKept_interpreted fun _ => rfl

theorem interpretEvent_cases : Keeps SameCases (interpretEvent id now interpretation) :=
  .modify fun _ => rfl

theorem markUnmapped_stored : Keeps StoredKept (markUnmapped id rawCode outcome) :=
  .bind (.require _ _) fun _ => .modify fun _ => storedKept_interpreted fun _ => rfl

theorem markUnmapped_cases : Keeps SameCases (markUnmapped id rawCode outcome) :=
  .bind (.require _ _) fun _ => .modify fun _ => rfl

theorem note_stored (audited : AuditRow) : Keeps StoredKept (note audited) :=
  .modify fun _ => List.prefix_rfl

theorem note_cases (audited : AuditRow) : Keeps SameCases (note audited) := .modify fun _ => rfl

theorem orThrow_keeps {R : Inbox → Inbox → Prop} [Std.Refl R] {α : Type} (message : String)
    (found : Option α) : Keeps R (orThrow message found : InboxTx α) := by
  cases found with
  | none => exact .abort _
  | some a => exact .pure a

theorem aboutSettlement_stored {α : Type} (m : CaseTx α) :
    Keeps StoredKept (aboutSettlement id m) := by
  intro s a s' done
  obtain ⟨c, -, rfl⟩ := commits_focus.mp done
  exact List.prefix_rfl

end Tables

theorem commits_typed {α : Type} {m : CaseTx α} {c c' : Case} {a : α} :
    Commits (typed m) c a c' ↔ Commits m c a c' ∧ c'.fits = true := by
  simp only [typed, commits_bind, commits_get, commits_require, commits_pure]
  constructor
  · rintro ⟨b, t, done, _, _, ⟨rfl, rfl⟩, _, _, ⟨fits, rfl⟩, rfl, rfl⟩
    exact ⟨done, fits⟩
  · rintro ⟨done, fits⟩
    exact ⟨a, c', done, _, _, ⟨rfl, rfl⟩, ⟨⟩, _, ⟨fits, rfl⟩, rfl, rfl⟩

theorem commits_aboutSettlement {α : Type} {settlementId : String} {m : CaseTx α}
    {s s' : Inbox} {a : α} :
    Commits (aboutSettlement settlementId m) s a s' ↔
      ∃ c, Commits m (s.cases settlementId) a c ∧
        s' = { s with cases := Function.update s.cases settlementId c } := commits_focus

/-! ### A delivery is one operation -/

/-- The settlements are as they were, or one of them was told an event. -/
def EventApplied (statusRead : String → Option SettlementStatus) (s s' : Inbox) : Prop :=
  s'.cases = s.cases ∨ ∃ settlementId report opening r c',
    Commits (applyEvent (statusRead settlementId) report opening) (s.cases settlementId) r c' ∧
      c'.fits = true ∧ s'.cases = Function.update s.cases settlementId c'

section Ingest

variable {edge : PayoutEdge} {statusRead : String → Option SettlementStatus}
  {input : IngestInput} {event : PayoutEvent} {settlementId rawCode : String} {s s' : Inbox}

theorem alarmUnmapped_keeps {R : Inbox → Inbox → Prop} [Std.Refl R] [IsTrans Inbox R]
    (marks : ∀ outcome, Keeps R (markUnmapped input.eventRowId rawCode outcome))
    (notes : ∀ audited, Keeps R (note audited)) :
    Keeps R (edge.alarmUnmapped input event settlementId rawCode) :=
  .ite (.pure _) (.bind (marks _) fun _ => notes _)

theorem tellReturn_stored (applied : PayoutResult) :
    Keeps StoredKept (edge.tellReturn event settlementId rawCode applied) := by
  unfold PayoutEdge.tellReturn
  split
  · exact .ite (.bind (aboutSettlement_stored _ _) fun _ => .pure _) (.pure _)
  · exact .pure _

theorem applyVerified_stored :
    Keeps StoredKept (edge.applyVerified statusRead input event settlementId) := by
  refine .bind (orThrow_keeps _ _) fun rawCode => .bind
    (alarmUnmapped_keeps (markUnmapped_stored _ _) note_stored) fun _ => .ite
    (.bind (interpretEvent_stored _ _ _) fun _ => .pure _) ?_
  exact .bind (aboutSettlement_stored _ _) fun applied => .bind (interpretEvent_stored _ _ _)
    fun _ => .bind (tellReturn_stored applied) fun _ => .pure _

theorem ingestPayoutWebhook_stored :
    Keeps StoredKept (edge.ingestPayoutWebhook statusRead input) := by
  unfold PayoutEdge.ingestPayoutWebhook
  split
  · exact .bind (note_stored _) fun _ => .pure _
  · refine .bind (.require _ _) fun _ => .bind .get fun _ => .ite (.pure _) ?_
    refine .bind (insertProviderEvent_stored _) fun _ => ?_
    split
    · exact .bind (interpretEvent_stored _ _ _) fun _ => .bind (note_stored _) fun _ => .pure _
    · split
      · exact .bind (interpretEvent_stored _ _ _) fun _ => .pure _
      · exact applyVerified_stored

theorem EventApplied.of_same (same : SameCases s s') : EventApplied statusRead s s' := .inl same

/-- A report applied, and what the sink did of it, are one event. -/
theorem eventApplied_of_applied {applied : PayoutResult} {c₁ : Case}
    {s₁ s₂ : Inbox} (done : Commits (typed (applyPayoutOutcome (statusRead settlementId)
      (edge.report input event rawCode))) (s.cases settlementId) applied c₁)
    (s₁Is : s₁.cases = Function.update s.cases settlementId c₁)
    (tells : Commits (edge.tellReturn event settlementId rawCode applied) s₁ ⟨⟩ s₂) :
    EventApplied statusRead s s₂ := by
  obtain ⟨done, fits⟩ := commits_typed.mp done
  have untold (same : s₂ = s₁) : EventApplied statusRead s s₂ := by
    subst same
    refine .inr ⟨settlementId, edge.report input event rawCode, none, applied, c₁, ?_, fits, s₁Is⟩
    refine commits_bind.mpr ⟨applied, c₁, done, ?_⟩
    cases applied <;> exact commits_pure.mpr ⟨rfl, rfl⟩
  unfold PayoutEdge.tellReturn at tells
  split at tells
  · rename_i paid opening _ _
    split at tells
    · rename_i isReturn
      obtain ⟨r, _, about, last⟩ := commits_bind.mp tells
      obtain ⟨-, rfl⟩ := commits_pure.mp last
      obtain ⟨c₂, opens, rfl⟩ := commits_aboutSettlement.mp about
      obtain ⟨opened, fits⟩ := commits_typed.mp opens
      rw [s₁Is, Function.update_self] at opened
      refine .inr ⟨settlementId, edge.report input event rawCode, some opening, .ok paid, c₂, ?_,
        fits, ?_⟩
      · refine commits_bind.mpr ⟨.ok paid, c₁, done, ?_⟩
        have asked : (edge.report input event rawCode).outcome = .returned := isReturn
        simp only [asked, if_true]
        exact commits_bind.mpr ⟨r, c₂, opened, commits_pure.mpr ⟨rfl, rfl⟩⟩
      · rw [s₁Is, Function.update_idem]
    · exact untold (commits_pure.mp tells).2
  · exact untold (commits_pure.mp tells).2

theorem applyVerified_applies {r : WebhookResult}
    (h : Commits (edge.applyVerified statusRead input event settlementId) s r s') :
    EventApplied statusRead s s' := by
  rw [PayoutEdge.applyVerified, commits_bind] at h
  obtain ⟨rawCode, s₁, found, h⟩ := h
  obtain ⟨-, rfl⟩ := commits_orThrow.mp found
  obtain ⟨_, s₂, alarmed, h⟩ := commits_bind.mp h
  have same : SameCases s₁ s₂ :=
    alarmUnmapped_keeps (fun _ => markUnmapped_cases _ _ _) note_cases alarmed
  split at h
  · obtain ⟨_, s₃, interpreted, h⟩ := commits_bind.mp h
    obtain ⟨-, rfl⟩ := commits_pure.mp h
    exact .of_same ((interpretEvent_cases _ _ _ interpreted).trans same)
  · obtain ⟨applied, s₃, about, h⟩ := commits_bind.mp h
    obtain ⟨c, done, rfl⟩ := commits_aboutSettlement.mp about
    obtain ⟨_, s₄, interpreted, h⟩ := commits_bind.mp h
    obtain ⟨_, s₅, tells, h⟩ := commits_bind.mp h
    obtain ⟨-, rfl⟩ := commits_pure.mp h
    rw [same] at done
    have cases₄ := interpretEvent_cases _ _ _ interpreted
    exact eventApplied_of_applied done (cases₄.trans (by rw [same])) tells

/-- To the settlements, a delivery that commits is an event one of them was told, or nothing. -/
theorem ingestPayoutWebhook_applies {r : WebhookResult}
    (h : Commits (edge.ingestPayoutWebhook statusRead input) s r s') :
    EventApplied statusRead s s' := by
  unfold PayoutEdge.ingestPayoutWebhook at h
  split at h
  · obtain ⟨_, s₁, noted, h⟩ := commits_bind.mp h
    obtain ⟨-, rfl⟩ := commits_pure.mp h
    exact .of_same (note_cases _ noted)
  simp only [commits_require_bind, commits_get_bind] at h
  replace h := h.2
  split at h
  · exact .of_same (by rw [(commits_pure.mp h).2]; exact rfl)
  obtain ⟨_, s₁, inserted, h⟩ := commits_bind.mp h
  have same := insertProviderEvent_cases _ inserted
  split at h
  · obtain ⟨_, s₂, interpreted, h⟩ := commits_bind.mp h
    obtain ⟨_, s₃, noted, h⟩ := commits_bind.mp h
    obtain ⟨-, rfl⟩ := commits_pure.mp h
    exact .of_same
      ((note_cases _ noted).trans ((interpretEvent_cases _ _ _ interpreted).trans same))
  · split at h
    · obtain ⟨_, s₂, interpreted, h⟩ := commits_bind.mp h
      obtain ⟨-, rfl⟩ := commits_pure.mp h
      exact .of_same ((interpretEvent_cases _ _ _ interpreted).trans same)
    · have applies := applyVerified_applies h
      unfold EventApplied at applies ⊢
      rwa [same] at applies

end Ingest

/-! ### The edge and the tenant behind it -/

/-- A tenant's settlements and funding, the provider events of all tenants and the audit rows of
the edge. -/
structure EdgeWorld where
  world : World
  events : List ProviderEventRow
  audits : List AuditRow

def EdgeWorld.empty : EdgeWorld := ⟨World.empty, [], []⟩

def EdgeWorld.inbox (w : EdgeWorld) : Inbox := ⟨w.world.now.cases, w.events, w.audits⟩

/-- The statuses of the settlements as they were some commits ago. -/
def EdgeWorld.statuses (w : EdgeWorld) (asOf : Nat) (settlementId : String) :
    Option SettlementStatus :=
  ((w.world.asOf asOf).cases settlementId).settlement.map (·.status)

inductive EdgeOp where
  /-- Any other operation of the tenant. -/
  | other (op : WorldOp)
  /-- An event stored for another tenant. -/
  | elsewhere (row : ProviderEventRow)
  | delivery (edge : PayoutEdge) (asOf : Nat) (input : IngestInput)

variable (digest : AuthorizedInstruction → String)

/-- The operation writes no value its column cannot hold. -/
def WorldOp.fits (w : World) : WorldOp → Bool
  | .funding _ => true
  | .settlement asOf op =>
    ((w.step digest (.settlement asOf op)).now.cases op.subject).fits

def EdgeWorld.step (w : EdgeWorld) : EdgeOp → EdgeWorld
  | .other op => if op.fits digest w.world then { w with world := w.world.step digest op } else w
  | .elsewhere row => { w with events := (after (insertProviderEvent row) w.inbox).events }
  | .delivery edge asOf input =>
    let s := after (edge.ingestPayoutWebhook (w.statuses asOf) input) w.inbox
    { world := {
        now := { w.world.now with cases := s.cases }
        past := w.world.now :: w.world.past
        pending := w.world.pending }
      events := s.events
      audits := s.audits }

/-! ### Runs of the edge are runs of the tenant -/

/-- A report that moves nothing, for it is not trusted. -/
def untrustedReport : PayoutOutcomeInput where
  outcome := .unknown
  actor := ⟨.provider, ""⟩
  trusted := false
  now := 0

theorem applyEvent_untrusted {status : Option SettlementStatus} {c : Case} :
    Commits (applyEvent status untrustedReport none) c (.error .untrustedEvidence) c :=
  commits_bind.mpr ⟨_, c, commits_pure.mpr ⟨rfl, rfl⟩, commits_pure.mpr ⟨rfl, rfl⟩⟩

section Simulation

variable {digest} {w : EdgeWorld}

theorem step_applyEvent {asOf : Nat} {settlementId : String} {report : PayoutOutcomeInput}
    {opening : Option OpenReturnInput} {r : PayoutResult} {c : Case}
    (told : Commits (applyEvent (w.statuses asOf settlementId) report opening)
      (w.world.now.cases settlementId) r c) :
    w.world.step digest (.settlement asOf (.applyEvent settlementId report opening)) =
      { now := { w.world.now with cases := Function.update w.world.now.cases settlementId c }
        past := w.world.now :: w.world.past
        pending := w.world.pending } := by
  have stored : settlementStep digest (w.world.read asOf (.applyEvent settlementId report opening))
      (w.world.now.store settlementId) (.applyEvent settlementId report opening) =
        { w.world.now.store settlementId with case := c } :=
    after_of_commits (commits_onCase.mpr ⟨c, told, rfl⟩)
  simp only [World.step, SettlementOp.subject, stored, nextPending]
  rfl

/-- To the tenant's tables a delivery is one event told to one settlement. -/
theorem delivery_world (edge : PayoutEdge) (asOf : Nat) (input : IngestInput) :
    ∃ settlementId report opening, (w.step digest (.delivery edge asOf input)).world =
      w.world.step digest (.settlement asOf (.applyEvent settlementId report opening)) := by
  have applied : EventApplied (w.statuses asOf) w.inbox
      (after (edge.ingestPayoutWebhook (w.statuses asOf) input) w.inbox) :=
    after_induction (.inl rfl) fun _ _ done => ingestPayoutWebhook_applies done
  rcases applied with same | ⟨settlementId, report, opening, r, c, told, -, cases⟩
  · refine ⟨"", untrustedReport, none, ?_⟩
    rw [step_applyEvent applyEvent_untrusted, Function.update_eq_self]
    simp only [EdgeWorld.step, same]
    rfl
  · refine ⟨settlementId, report, opening, ?_⟩
    rw [step_applyEvent told]
    simp only [EdgeWorld.step, cases]
    rfl

theorem step_world (op : EdgeOp) : (w.step digest op).world = w.world ∨
    ∃ worldOp, (w.step digest op).world = w.world.step digest worldOp := by
  cases op with
  | other op =>
    simp only [EdgeWorld.step]
    split
    · exact .inr ⟨op, rfl⟩
    · exact .inl rfl
  | elsewhere row => exact .inl rfl
  | delivery edge asOf input =>
    obtain ⟨settlementId, report, opening, same⟩ := delivery_world edge asOf input
    exact .inr ⟨_, same⟩

theorem step_stored (op : EdgeOp) : StoredKept w.inbox (w.step digest op).inbox := by
  cases op with
  | other op =>
    simp only [EdgeWorld.step]
    split <;> exact List.prefix_rfl
  | elsewhere row => exact (insertProviderEvent_stored row).after w.inbox
  | delivery edge asOf input =>
    have kept : Keeps StoredKept (edge.ingestPayoutWebhook (w.statuses asOf) input) :=
      ingestPayoutWebhook_stored
    exact kept.after w.inbox

/-- Every value a report or a return wrote fits its column. -/
def EdgeWorld.Fits (w : EdgeWorld) : Prop := ∀ id, (w.world.now.cases id).fits = true

theorem step_fits (op : EdgeOp) (fits : w.Fits) : (w.step digest op).Fits := by
  cases op with
  | other op =>
    simp only [EdgeWorld.step]
    split
    · rename_i fitting
      intro id
      cases op with
      | funding op => exact fits id
      | settlement asOf op =>
        by_cases subject : id = op.subject
        · exact subject ▸ fitting
        · exact (congrArg Case.fits (step_case_of_ne subject)).trans (fits id)
    · exact fits
  | elsewhere row => exact fits
  | delivery edge asOf input =>
    have applied : EventApplied (w.statuses asOf) w.inbox
        (after (edge.ingestPayoutWebhook (w.statuses asOf) input) w.inbox) :=
      after_induction (.inl rfl) fun _ _ done => ingestPayoutWebhook_applies done
    intro id
    show ((after (edge.ingestPayoutWebhook (w.statuses asOf) input) w.inbox).cases id).fits = true
    rcases applied with same | ⟨settlementId, report, opening, r, c, -, fitting, cases⟩
    · rw [same]
      exact fits id
    · rw [cases, Function.update_apply]
      split
      · exact fitting
      · exact fits id

end Simulation

variable (ops : List EdgeOp)

/-- The state of the edge after a run from nothing. -/
abbrev edgeAfter : EdgeWorld := run (EdgeWorld.step digest) EdgeWorld.empty ops

theorem edgeAfter_world :
    ∃ worldOps, (edgeAfter digest ops).world = run (World.step digest) World.empty worldOps := by
  refine run_invariant (I := fun w : EdgeWorld => ∃ worldOps, w.world =
    run (World.step digest) World.empty worldOps) ?_ ⟨[], rfl⟩ ops
  rintro w op ⟨worldOps, is⟩
  have moves : (w.step digest op).world = w.world ∨
      ∃ worldOp, (w.step digest op).world = w.world.step digest worldOp := step_world op
  rcases moves with same | ⟨worldOp, stepped⟩
  · exact ⟨worldOps, same.trans is⟩
  · exact ⟨worldOps ++ [worldOp], by rw [stepped, is, run_append]; rfl⟩

theorem edgeAfter_fits : (edgeAfter digest ops).Fits :=
  run_invariant (I := EdgeWorld.Fits) (fun _ op fits => step_fits op fits) (fun _ => rfl) ops

end InrSettle
