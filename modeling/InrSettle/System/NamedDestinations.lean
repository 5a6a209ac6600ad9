import InrSettle.Service.Preflight
import InrSettle.System.Preflights
import InrSettle.System.Steps

/-!
# The named destination

A preflight examines and an authorization freezes a version of the destination the settlement
names. A name that is not among the beneficiary's destinations is not refused: both fall back to
the first enabled one, which is meant for settlements that name none.
-/

namespace InrSettle.Preflight

open Js Transaction

/-! ### The two choices -/

/-- The destination both copies of the resolution find first. -/
def isNamed (beneficiary : BeneficiaryView) (destinationId : Option String)
    (d : PayoutDestinationView) : Bool :=
  match named destinationId with
  | some id => decide (d.id = id)
  | none => decide (some d.id = beneficiary.defaultDestinationId)

/-- The destination both fall back to. -/
def firstEnabled (beneficiary : BeneficiaryView) : Option PayoutDestinationView :=
  beneficiary.destinations.find? fun d => d.disabledAt.isNone

theorem chosenDestination_eq {beneficiary : BeneficiaryView} {destinationId : Option String} :
    chosenDestination beneficiary destinationId =
      (beneficiary.destinations.find? (isNamed beneficiary destinationId)).or
        (firstEnabled beneficiary) :=
  rfl

theorem named_named {text : Option String} : named (named text) = named text := by
  simp [named, Option.filter_filter]

theorem isNamed_iff {beneficiary : BeneficiaryView} {destinationId : Option String} {id : String}
    (names : named destinationId = some id) {d : PayoutDestinationView} :
    isNamed beneficiary (named destinationId) d = true ↔ d.id = id := by
  rw [isNamed, named_named, names, decide_eq_true_eq]

/-- The two copies choose alike. -/
theorem chosen_eq_authorized {beneficiary : BeneficiaryView} {settlement : SettlementRow} :
    chosenDestination beneficiary (named settlement.destinationId) =
      authorizedDestination (some beneficiary) settlement := by
  rw [chosenDestination, authorizedDestination, named_named]
  rfl

theorem chosen_mem {beneficiary : BeneficiaryView} {destinationId : Option String}
    {d : PayoutDestinationView} (chosen : chosenDestination beneficiary destinationId = some d) :
    d ∈ beneficiary.destinations := by
  rw [chosenDestination_eq, Option.or_eq_some_iff] at chosen
  rcases chosen with found | ⟨-, found⟩
  · exact List.mem_of_find?_eq_some found
  · exact List.mem_of_find?_eq_some found

/-- The name of a settlement is one of the beneficiary's destinations, or there is nothing to pay
to in the one that is fallen back to. -/
def Listed (beneficiary : BeneficiaryView) (settlement : SettlementRow) : Prop :=
  ∀ id, named settlement.destinationId = some id →
    (∃ d ∈ beneficiary.destinations, d.id = id) ∨
      ∀ d, firstEnabled beneficiary = some d → d.currentVersion = none

theorem examined_eq_some {d : PayoutDestinationView} {found : SubjectDestination}
    (is : examined d = some found) : d.disabledAt = none ∧ ∃ version,
      d.currentVersion = some version ∧ found = examinedVersion d version := by
  unfold examined at is
  split at is
  · rename_i enabled
    obtain ⟨version, current, rfl⟩ := Option.map_eq_some_iff.mp is
    exact ⟨Option.isNone_iff_eq_none.mp enabled, version, current, rfl⟩
  · cases is

/-- Of a listed name a version of that destination is examined, or none. -/
theorem id_of_examined {beneficiary : BeneficiaryView} {settlement : SettlementRow}
    (listed : Listed beneficiary settlement) {d : PayoutDestinationView} {found : SubjectDestination}
    (chosen : chosenDestination beneficiary (named settlement.destinationId) = some d)
    (is : examined d = some found) {id : String} (names : named settlement.destinationId = some id) :
    d.id = id := by
  rw [chosenDestination_eq, Option.or_eq_some_iff] at chosen
  rcases chosen with found | ⟨missing, fallback⟩
  · exact (isNamed_iff names).mp (List.find?_some found)
  · obtain ⟨-, version, current, -⟩ := examined_eq_some is
    rcases listed id names with ⟨other, mem, same⟩ | versionless
    · exact absurd ((isNamed_iff names).mpr same) (List.find?_eq_none.mp missing other mem)
    · cases current.symm.trans (versionless d fallback)

/-- Of a name that is not listed a version of the first enabled destination is examined. -/
theorem examined_of_not_listed {beneficiary : BeneficiaryView} {settlement : SettlementRow}
    {id : String} (names : named settlement.destinationId = some id)
    (unlisted : ∀ d ∈ beneficiary.destinations, d.id ≠ id) {d : PayoutDestinationView}
    {version : DestinationVersionView} (first : firstEnabled beneficiary = some d)
    (current : d.currentVersion = some version) :
    (chosenDestination beneficiary (named settlement.destinationId)).bind examined =
      some (examinedVersion d version) := by
  have missing : beneficiary.destinations.find?
      (isNamed beneficiary (named settlement.destinationId)) = none :=
    List.find?_eq_none.mpr fun other mem is => unlisted other mem ((isNamed_iff names).mp is)
  have enabled : d.disabledAt.isNone = true :=
    List.find?_some (p := fun d : PayoutDestinationView => d.disabledAt.isNone) first
  have chosen : chosenDestination beneficiary (named settlement.destinationId) = some d := by
    rw [chosenDestination_eq, missing, first, Option.none_or]
  rw [chosen, Option.bind_some, examined, if_pos enabled, current, Option.map_some]

/-! ### A preflight that is ready -/

section

variable {N : Type} [Js.NumberFormat N] {integerOf : N → Option Int}

/-- Nothing is ready without a destination, whatever the rules. -/
theorem destination_of_ready {subject : Subject} {ruleSet : RuleSet N} {outcome : Outcome}
    (ran : runPreflight integerOf subject ruleSet = some outcome)
    (ready : outcome.status = .ready) : ∃ destination, subject.destination = some destination := by
  refine Option.ne_none_iff_exists'.mp fun absent => ?_
  obtain ⟨requirements, from_, rfl⟩ := Option.map_eq_some_iff.mp ran
  have holds := destinationMissing_holds (N := N) integerOf absent
  rw [policyRules, List.cons_append, requirementsFrom] at from_
  simp only [show evaluateCondition integerOf subject (destinationMissing : Rule N).condition =
    some true from holds, Option.bind_eq_bind, Option.bind_some] at from_
  simp only [materialiseAction, destinationMissing, policyRule, List.not_mem_nil, if_false,
    not_true_eq_false, Option.bind_eq_some_iff] at from_
  obtain ⟨others, -, is⟩ := from_
  cases is
  exact status_outcomeOf.mp ready _ List.mem_cons_self rfl

omit [Js.NumberFormat N] in
/-- What the preflight of a settlement examines. -/
theorem destination_of_built {environment : Environment} {ruleSet : RuleSet N}
    {beneficiary : BeneficiaryView} {input : PreflightInput} {subject : Subject}
    (built : buildPreflightSubject environment ruleSet (some beneficiary) input = some subject) :
    subject.destination = (chosenDestination beneficiary input.destinationId).bind examined := by
  cases built
  rfl

/-- An authorization whose preflight passes chose a destination with something to examine. -/
theorem examined_of_passing {environment : Environment} {ruleSet : RuleSet N}
    {beneficiary : BeneficiaryView} {input : PreflightInput} {result : PreflightResult}
    (ran : runPreflightFor integerOf environment ruleSet (some beneficiary) input = some result)
    (passing : result.passing = true) :
    ∃ d found, chosenDestination beneficiary input.destinationId = some d ∧
      examined d = some found := by
  obtain ⟨outcome, checked, rfl⟩ := Option.map_eq_some_iff.mp ran
  obtain ⟨destination, is⟩ := destination_of_ready checked (of_decide_eq_true passing)
  rw [destination_of_built rfl, Option.bind_eq_some_iff] at is
  obtain ⟨d, chosen, is⟩ := is
  exact ⟨d, destination, chosen, is⟩

/-! ### The promise -/

/-- A settlement row is bound to a version of a destination. -/
structure BoundTo (row : SettlementRow) (d : PayoutDestinationView)
    (version : DestinationVersionView) : Prop where
  destinationId : row.destinationId = some d.id
  versionId : row.destinationVersionId = some version.id
  terms : ∃ terms, row.authorizedTerms = some terms ∧ terms.destinationId = d.id ∧
    terms.destinationVersionId = version.id

variable (integerOf) in
/-- What becomes of the destination a settlement names, or does not. -/
structure Honoured (digest : AuthorizedInstruction → String) (beneficiary : BeneficiaryView)
    (settlement : SettlementRow) : Prop where
  /-- A preflight evaluates a version of the named destination, or none. -/
  evaluates : ∀ id, named settlement.destinationId = some id →
    ∀ (environment : Environment) (ruleSet : RuleSet N) (documents : List Text) (funded : Bool)
      (subject : Subject) (found : SubjectDestination),
    buildPreflightSubject environment ruleSet (some beneficiary)
      (preflightInputOf settlement documents funded) = some subject →
    subject.destination = some found →
    ∃ d ∈ beneficiary.destinations, d.id = id ∧ ∃ version, d.currentVersion = some version ∧
      found = examinedVersion d version
  /-- An authorization leaves the row alone, or binds it to an enabled destination, the named one
  if one is named. -/
  freezes : ∀ (environment : Environment) (ruleSet : RuleSet N) (documents : List Text)
      (input read : AuthorizeInput) (c c' : Case) (r : Except AuthorizeRefusal String),
    readForAuthorization integerOf environment ruleSet documents (some beneficiary) settlement
      input = some read →
    Commits (authorizeSettlement digest (some settlement) read) c r c' →
    c'.settlement = c.settlement ∨ ∃ row d version, c'.settlement = some row ∧
      BoundTo row d version ∧ d ∈ beneficiary.destinations ∧ d.currentVersion = some version ∧
      d.disabledAt = none ∧ ∀ id, named settlement.destinationId = some id → d.id = id
  /-- With none named both choose the same. -/
  agrees : named settlement.destinationId = none →
    chosenDestination beneficiary (named settlement.destinationId) =
      authorizedDestination (some beneficiary) settlement

/-- An authorization binds the row to the version its own preflight examined. -/
theorem bound_of_authorized {digest : AuthorizedInstruction → String} {environment : Environment}
    {ruleSet : RuleSet N} {documents : List Text} {beneficiary : BeneficiaryView}
    {settlement : SettlementRow} {input read : AuthorizeInput} {c c' : Case}
    {r : Except AuthorizeRefusal String}
    (is : readForAuthorization integerOf environment ruleSet documents (some beneficiary) settlement
      input = some read)
    (h : Commits (authorizeSettlement digest (some settlement) read) c r c') :
    c'.settlement = c.settlement ∨ ∃ row d version, c'.settlement = some row ∧
      BoundTo row d version ∧
      chosenDestination beneficiary (named settlement.destinationId) = some d ∧
      d.currentVersion = some version ∧ examined d = some (examinedVersion d version) := by
  rcases authorizeSettlement_turns h with ⟨audits, rfl⟩ |
    ⟨row, quote, destination, asked, same, -, chosen, -, passing, asks, -, moved⟩
  · exact .inl rfl
  cases same
  obtain ⟨preflight, ran, given⟩ := Option.bind_eq_some_iff.mp is
  cases given
  obtain ⟨d, found, chose, looked⟩ := examined_of_passing ran passing
  replace chose : chosenDestination beneficiary (named settlement.destinationId) = some d := chose
  obtain ⟨-, version, current, rfl⟩ := examined_eq_some looked
  have frozen : destination = ⟨d.id, version.id, isVersionVerified version⟩ := by
    rw [← chosen_eq_authorized, chose, Option.bind_some, versionToFreeze, current] at chosen
    exact (Option.some.inj chosen).symm
  obtain ⟨old, new, t, -, takes, rfl⟩ := moved
  obtain ⟨number, rfl⟩ := takes.moved
  refine .inr ⟨_, d, version, rfl, ?_, chose, current, looked⟩
  rw [asks.patch, frozen]
  cases t.leadsTo old.exceptionEnteredFrom <;> exact ⟨rfl, rfl, _, rfl, rfl, rfl⟩

/-- The named destination is honoured exactly if it is one of the beneficiary's, or there is
nothing to fall back to. -/
theorem honoured_iff (digest : AuthorizedInstruction → String) (beneficiary : BeneficiaryView)
    (settlement : SettlementRow) :
    Honoured integerOf digest beneficiary settlement ↔ Listed beneficiary settlement := by
  refine ⟨fun honoured id names => ?_, fun listed => ⟨?_, ?_, fun _ => chosen_eq_authorized⟩⟩
  · refine or_iff_not_imp_left.mpr fun unlisted d first => ?_
    rw [← Option.not_isSome_iff_eq_none]
    intro current
    obtain ⟨version, current⟩ := Option.isSome_iff_exists.mp current
    have other : ∀ d ∈ beneficiary.destinations, d.id ≠ id :=
      fun d mem same => unlisted ⟨d, mem, same⟩
    have fallback := examined_of_not_listed names other first current
    let ruleSet : RuleSet N := ⟨[], .sandboxFixture, [], [], []⟩
    obtain ⟨named, mem, same, version', -, is⟩ := honoured.evaluates id names .sandbox ruleSet []
      false _ _ rfl fallback
    have ids : d.id = named.id := ofString_injective (congrArg SubjectDestination.id is)
    exact other d (List.mem_of_find?_eq_some first) (ids.trans same)
  · intro id names environment ruleSet documents funded subject found built is
    rw [destination_of_built built, Option.bind_eq_some_iff] at is
    obtain ⟨d, chosen, looked⟩ := is
    obtain ⟨-, version, current, rfl⟩ := examined_eq_some looked
    exact ⟨d, chosen_mem chosen, id_of_examined listed chosen looked names, version, current, rfl⟩
  · intro environment ruleSet documents input read c c' r is h
    rcases bound_of_authorized is h with
      same | ⟨row, d, version, written, bound, chose, current, looked⟩
    · exact .inl same
    · exact .inr ⟨row, d, version, written, bound, chosen_mem chose, current,
        (examined_eq_some looked).1, fun id names => id_of_examined listed chose looked names⟩

end

/-- A beneficiary with one enabled destination, which is verified. -/
def ashaView : BeneficiaryView where
  id := "ben_1"
  displayName := ofString "Asha"
  legalName := none
  type := .individual
  country := ofString "IN"
  hasTaxId := false
  status := .verified
  defaultDestinationId := some "dst_1"
  destinations := [⟨"dst_1", some ⟨"dsv_1", .upi, ofString "asha@bank", .verified, none⟩, none⟩]

/-- A settlement to the beneficiary that names a destination of somebody else's. -/
def namesElsewhere : SettlementRow where
  id := "s"
  beneficiaryId := "ben_1"
  destinationId := some "dst_2"
  recipientAmountMinor := 100
  fundingCurrency := "USD"
  purposeCode := some "P1301"
  quoteId := some "q"
  status := .quoted
  createdBy := "creator"

def approving : AuthorizeInput where
  settlementId := "s"
  actor := ⟨.user, "approver"⟩
  mayAuthorize := true
  separationEnabled := true
  quote := some {
    terms := ⟨"q", "DELIVER_INR", ⟨"INR", 100⟩, ⟨"USD", 2⟩, "USD/INR", "8500000000", 8, "", [], "USD",
      "0", 12, "", ""⟩
    sameTenant := true
    status := .active
    expiresAt := 10 }
  beneficiaryVerified := false
  destination := none
  preflightPassing := false
  hasActiveLiquidityFacility := true
  quoteConsumed := true
  now := 5

def noRules : RuleSet Whole := ⟨[], .sandboxFixture, [], [], []⟩

/-- The destination in the row once an authorization has been committed. -/
def boundDestination (beneficiary : BeneficiaryView) (settlement : SettlementRow) :
    Option String := do
  let read ← readForAuthorization integerOfWhole .sandbox noRules [] (some beneficiary) settlement
    approving
  match (authorizeSettlement (fun _ => "digest") (some settlement) read).run
      { settlement := some settlement } with
  | .ok (_, c) => c.settlement.bind (·.destinationId)
  | .error _ => none

theorem exists_of_boundDestination {beneficiary : BeneficiaryView} {settlement : SettlementRow}
    {id : String} (bound : boundDestination beneficiary settlement = some id) :
    ∃ read r c', readForAuthorization integerOfWhole .sandbox noRules [] (some beneficiary)
        settlement approving = some read ∧
      Commits (authorizeSettlement (fun _ => "digest") (some settlement) read)
        { settlement := some settlement } r c' ∧
      c'.settlement.bind (·.destinationId) = some id := by
  obtain ⟨read, is, bound⟩ := Option.bind_eq_some_iff.mp bound
  split at bound
  · rename_i answered c ran
    exact ⟨read, answered, c, is, by rw [Commits, ran], bound⟩
  · cases bound

/-- The settlement is authorized to be paid to the beneficiary's other destination. -/
theorem not_always_honoured : ¬ ∀ (beneficiary : BeneficiaryView) (settlement : SettlementRow),
    Honoured integerOfWhole (fun _ => "digest") beneficiary settlement := by
  intro always
  have bound : boundDestination ashaView namesElsewhere = some "dst_1" := by decide +kernel
  obtain ⟨read, r, c', is, h, bound⟩ := exists_of_boundDestination bound
  rcases (always ashaView namesElsewhere).freezes _ _ _ _ _ _ _ _ is h with
    same | ⟨row, d, version, written, binds, -, -, -, names⟩
  · rw [same] at bound
    exact absurd bound (by decide)
  · rw [written, Option.bind_some, binds.destinationId, names "dst_2" rfl] at bound
    exact absurd bound (by decide)

end InrSettle.Preflight
