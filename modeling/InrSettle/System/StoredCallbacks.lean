import InrSettle.Service.VerificationCallback
import InrSettle.System.Callbacks
import InrSettle.System.NameMatches

/-!
# Raw callbacks stay stored

Whether a delivery is answered and its event stays, path by path: what the database takes of what
was sent, and which scores the policy of the method writes to an integer column.
-/

namespace InrSettle

open Transaction VerificationTables Js

/-! ### The scores -/

theorem matchedTokens_le (tokens pool : List (List Char)) :
    matchedTokens tokens pool ≤ tokens.length := by
  induction tokens generalizing pool with
  | nil => exact Nat.le_refl 0
  | cons token rest ih =>
    unfold matchedTokens
    split
    · exact Nat.succ_le_succ (ih _)
    · split
      · exact Nat.succ_le_succ (ih _)
      · exact Nat.le_succ_of_le (ih _)

theorem compareNames_le (a b : String) : compareNames a b ≤ 100 := by
  rw [compareNames_eq, scoreOf]
  split
  · exact Nat.zero_le _
  · rename_i some_
    have matched := matchedTokens_le (shorterOf (normaliseName a) (normaliseName b))
      (longerOf (normaliseName a) (normaliseName b))
    have pos := List.length_pos_iff.mpr some_
    refine Nat.lt_succ_iff.mp (Nat.div_lt_of_lt_mul ?_)
    omega

/-- A policy that compares the score of the provider finds it missing or an integer of 32 bits. -/
def ScoreFits (policy : Option NameMatchPolicy) (evidence : ReportedEvidence) : Prop :=
  ∀ minimumScore scaleMax allowMissingScore score,
    policy = some (.numericScore minimumScore scaleMax allowMissingScore) →
    evidence.score = some score → score = .special .nan ∨ score.isInteger = true

theorem isInteger_natCast {n : Nat} (small : n < 2 ^ 31) :
    (ReportedScore.finite (n : ℚ)).isInteger = true := by
  have below : (n : ℚ) < ((2 ^ 31 : Nat) : ℚ) := Nat.cast_lt.mpr small
  refine decide_eq_true ⟨Rat.den_natCast n, ?_, ?_⟩
  · exact le_trans (by norm_num) (Nat.cast_nonneg n)
  · exact lt_of_lt_of_eq below (by norm_num)

theorem decideReported_score {policy : Option NameMatchPolicy} {evidence : ReportedEvidence}
    {expectedName : String} :
    (decideReported policy evidence expectedName).score.all (·.isInteger) = true ↔
      ScoreFits policy evidence := by
  rcases policy with _ | _ | _ | ⟨minimumScore, scaleMax, allowMissingScore⟩ | minimumSimilarity
  · exact ⟨fun _ => nofun, fun _ => rfl⟩
  · exact ⟨fun _ => nofun, fun _ => rfl⟩
  · refine ⟨fun _ => nofun, fun _ => ?_⟩
    simp only [decideReported, decideNameMatch]
    cases evidence.known.asserted <;> rfl
  · rcases evidence with ⟨asserted, _ | value | _ | _ | _, registryName⟩
    · exact ⟨fun _ _ _ _ _ _ => nofun, fun _ => rfl⟩
    · have score : (decideReported (some (.numericScore minimumScore scaleMax allowMissingScore))
          ⟨asserted, some (.finite value), registryName⟩ expectedName).score =
            some (.finite value) := by
        simp only [decideReported, ReportedEvidence.known, decideNameMatch]
        split <;> rfl
      rw [score, Option.all_some]
      refine ⟨fun fits _ _ _ _ _ is => Option.some.inj is ▸ .inr fits, fun fits => ?_⟩
      exact (fits _ _ _ _ rfl rfl).resolve_left nofun
    · exact ⟨fun _ _ _ _ _ _ is => .inl (Option.some.inj is).symm, fun _ => rfl⟩
    · exact ⟨nofun, fun fits => ((fits _ _ _ _ rfl rfl).resolve_left nofun)⟩
    · exact ⟨nofun, fun fits => ((fits _ _ _ _ rfl rfl).resolve_left nofun)⟩
  · refine ⟨fun _ => nofun, fun _ => ?_⟩
    simp only [decideReported, decideNameMatch]
    split
    · rfl
    · split
      · rfl
      · exact isInteger_natCast (Nat.lt_of_le_of_lt (compareNames_le _ _) (by norm_num))

theorem den_of_isInteger {policy : Option NameMatchPolicy} {evidence : ReportedEvidence}
    {expectedName : String}
    (fits : (decideReported policy evidence expectedName).score.all (·.isInteger) = true) :
    ((decideNameMatch policy evidence.known expectedName).score.all
      fun score => decide (score.den = 1)) = true := by
  unfold decideReported at fits
  dsimp only at fits
  split at fits
  · cases fits
  · cases fits
  · generalize (decideNameMatch _ evidence.known expectedName).score = known at fits ⊢
    cases known with
    | none => rfl
    | some score => exact decide_eq_true (of_decide_eq_true fits).1

/-! ### What an ingested callback leaves -/

section Deliveries

variable {N : Type} (reader : CallbackReader N) (args : CallbackArgs N)

/-- The row of the delivery, with what was sent. -/
def RawRow (eventRowId : Nat) (eventId : String) (payload : Value N) (t : CallbackTables N) : Prop :=
  (∃ event, t.rows.providerEvents[eventRowId]? = some event ∧
    dedupeKey event = some (reader.provider.id, eventId) ∧
    event.signatureValid = args.signatureValid) ∧
  (eventRowId, payload) ∈ t.payloads

/-- A row of the event was there and nothing has changed, or the next row is that of the delivery. -/
def RawStored (t t' : CallbackTables N) : Prop :=
  ∃ eventId payload, reader.columns.text args.providerEventId = some eventId ∧
    reader.columns.jsonb args.payload = some payload ∧
    (t.rows.Stored (reader.provider.id, eventId) ∧ t' = t ∨
      RawRow reader args t.rows.providerEvents.length eventId payload t')

/-- The callback is answered, and its raw event stays. -/
def StaysStored (names : String) (now : Instant) (t : CallbackTables N) : Prop :=
  Ends (ingestVerificationCallback reader args names now) t fun _ t' => RawStored reader args t t'

/-! ### What may be sent -/

/-- The score of an outcome fits, if it is to be applied. -/
def OutcomeFits : ReportedOutcome → Prop
  | .verifying => True
  | .accountConfirmed nameEvidence | .failed _ nameEvidence =>
    ScoreFits (policyFor reader.policies reader.provider.id reader.provider.method) nameEvidence

/-- What is said about a row that was found can be written. -/
def FoundFits (t : VerificationTables) (callback : ReportedCallback)
    (row : DestinationVerification) : Prop :=
  let expected := ofString (reader.ids.versionId row.destinationVersionId)
  if expected ≠ callback.destinationVersionId then
    (reader.columns.jsonb
      (mismatchAudit expected callback.destinationVersionId args.providerEventId)).isSome = true
  else if row.status ≠ .verifying then
    (reader.columns.jsonb (notInFlightAudit row.status args.providerEventId)).isSome = true
  else t.versions[row.destinationVersionId]?.isSome = true → OutcomeFits reader callback.outcome

/-- The request is named by a text the database takes, and what is said about its row fits. -/
def CallbackFits (t : VerificationTables) (callback : ReportedCallback) : Prop :=
  ∃ requestId, reader.columns.text callback.requestId = some requestId ∧
    ∀ id row, verificationNamed reader.ids t requestId = some (id, row) →
      FoundFits reader args t callback row

/-- A new event can be stored, and what it is read as can be written. -/
def NewEventFits (t : VerificationTables) (eventId : String) : Prop :=
  reader.columns.eventKey eventId = true ∧
    if args.signatureValid = false then
      (reader.columns.jsonb (untrustedAudit reader.provider args)).isSome = true
    else ∃ interpreted, reader.interpret args.payload = some interpreted ∧
      ∀ callback, interpreted = some callback → CallbackFits reader args t callback

/-- The columns take the payload and the id of the event; the event is stored already, or all that is
written about it can be. -/
def DeliveryFits (t : VerificationTables) : Prop :=
  isNull args.payload = false ∧ (reader.columns.jsonb args.payload).isSome = true ∧
    ∃ eventId, reader.columns.text args.providerEventId = some eventId ∧
      (t.Stored (reader.provider.id, eventId) ∨ NewEventFits reader args t eventId)

variable {reader args}

/-! ### The paths -/

variable {eventRowId : Nat} {eventId : String} {payload : Value N} {t : CallbackTables N}

theorem RawRow.marked (raw : RawRow reader args eventRowId eventId payload t) (marked : Nat)
    (interpretation : CallbackInterpretation) :
    RawRow reader args eventRowId eventId payload { t with rows := { t.rows with
      providerEvents := t.rows.providerEvents.modify marked fun event =>
        { event with interpretation } } } := by
  obtain ⟨⟨event, found, key, signature⟩, kept⟩ := raw
  refine ⟨⟨_, Table.getElem?_modify_some.mpr ⟨event, found, rfl⟩, ?_, ?_⟩, kept⟩
  · split <;> exact key
  · split <;> exact signature

theorem markInterpreted_ends (raw : RawRow reader args eventRowId eventId payload t) {marked : Nat}
    {interpretation : CallbackInterpretation} {α : Type} {m : PUnit → CallbackTx N α} {p : Prop}
    (next : ∀ t', RawRow reader args eventRowId eventId payload t' →
      (Ends (m ⟨⟩) t' (fun _ t' => RawRow reader args eventRowId eventId payload t') ↔ p)) :
    Ends (markInterpreted marked interpretation >>= m) t
      (fun _ t' => RawRow reader args eventRowId eventId payload t') ↔ p := by
  rw [markInterpreted, ends_modify_bind]
  exact next _ (raw.marked marked interpretation)

theorem marked_ends (raw : RawRow reader args eventRowId eventId payload t) {marked : Nat}
    {interpretation : CallbackInterpretation} {α : Type} {result : α} :
    Ends (markInterpreted marked interpretation >>= fun _ => (pure result : CallbackTx N α)) t
      (fun _ t' => RawRow reader args eventRowId eventId payload t') := by
  rw [markInterpreted, ends_modify_bind, ends_pure]
  exact raw.marked marked interpretation

theorem auditRejected_ends (raw : RawRow reader args eventRowId eventId payload t) {note : Value N}
    {α : Type} {result : α} :
    Ends (auditRejected reader note >>= fun _ => (pure result : CallbackTx N α)) t
      (fun _ t' => RawRow reader args eventRowId eventId payload t') ↔
      (reader.columns.jsonb note).isSome = true := by
  rw [auditRejected, ends_require_bind, ends_pure]
  exact and_iff_left raw

theorem applyReported_ends (raw : RawRow reader args eventRowId eventId payload t)
    {loaded : LoadedVerification} {failure : Option VerificationFailureCode}
    {nameEvidence : ReportedEvidence} {link : Nat} {now : Instant} {α : Type}
    {result : VerificationStatus → α} (provider : loaded.provider = reader.provider) :
    Ends (applyReported reader loaded failure nameEvidence link now >>= fun status =>
        (pure (result status) : CallbackTx N α)) t
      (fun _ t' => RawRow reader args eventRowId eventId payload t') ↔
      ScoreFits (policyFor reader.policies reader.provider.id reader.provider.method)
        nameEvidence := by
  simp only [applyReported, bind_assoc, ends_require_bind]
  rw [← decideReported_score]
  refine and_iff_left_of_imp fun fits => ?_
  rw [onRows, ends_bind, ends_focus, applyOutcome, setResolved, bind_assoc, ends_require_bind]
  refine ⟨?_, ?_⟩
  · rw [Finding.record, Finding.nameMatch, provider]
    exact den_of_isInteger fits
  · simp only [ends_modify_bind, ends_pure]
    exact raw

theorem applyRead_ends (raw : RawRow reader args eventRowId eventId payload t) {id : Nat}
    {row : DestinationVerification} {failure : Option VerificationFailureCode}
    {nameEvidence : ReportedEvidence} {names : String} {now : Instant} :
    Ends (applyRead reader id row failure nameEvidence names eventRowId now) t
      (fun _ t' => RawRow reader args eventRowId eventId payload t') ↔
      (t.rows.versions[row.destinationVersionId]?.isSome = true →
        ScoreFits (policyFor reader.policies reader.provider.id reader.provider.method)
          nameEvidence) := by
  rw [applyRead, ends_get_bind]
  cases t.rows.versions[row.destinationVersionId]? with
  | none =>
    exact ⟨fun _ => nofun, fun _ => marked_ends raw⟩
  | some version =>
    refine (markInterpreted_ends raw fun _ raw => ?_).trans (forall_prop_of_true rfl).symm
    exact applyReported_ends raw rfl

theorem applyFound_ends (raw : RawRow reader args eventRowId eventId payload t) {id : Nat}
    {callback : ReportedCallback} {row : DestinationVerification} {names : String} {now : Instant} :
    Ends (applyFound reader args callback id row names eventRowId now) t
      (fun _ t' => RawRow reader args eventRowId eventId payload t') ↔
      FoundFits reader args t.rows callback row := by
  unfold applyFound FoundFits
  dsimp only
  split
  · exact markInterpreted_ends raw fun _ raw => auditRejected_ends raw
  · split
    · exact markInterpreted_ends raw fun _ raw => auditRejected_ends raw
    · cases callback.outcome with
      | verifying =>
        exact ⟨fun _ _ => trivial, fun _ => marked_ends raw⟩
      | accountConfirmed nameEvidence => exact applyRead_ends raw
      | failed reasonCode nameEvidence => exact applyRead_ends raw

theorem applyCallbackOf_ends (raw : RawRow reader args eventRowId eventId payload t)
    {callback : ReportedCallback} {names : String} {now : Instant} :
    Ends (applyCallbackOf reader args callback names eventRowId now) t
      (fun _ t' => RawRow reader args eventRowId eventId payload t') ↔
      CallbackFits reader args t.rows callback := by
  unfold applyCallbackOf CallbackFits
  cases reader.columns.text callback.requestId with
  | none =>
    refine ⟨fun ends => (ends_abort ends).elim, fun fits => ?_⟩
    obtain ⟨_, is, -⟩ := fits
    cases is
  | some requestId =>
    simp only [ends_get_bind, Option.some.injEq, exists_eq_left']
    cases verificationNamed reader.ids t.rows requestId with
    | none =>
      refine ⟨fun _ _ _ is => ?_, fun _ => marked_ends raw⟩
      cases is
    | some found =>
      refine (applyFound_ends raw).trans ⟨?_, fun fits => fits _ _ rfl⟩
      rintro fits _ _ ⟨⟩
      exact fits

/-- What happens to an event that was inserted. -/
theorem inserted_ends (raw : RawRow reader args eventRowId eventId payload t) {names : String}
    {now : Instant} :
    Ends (if args.signatureValid = false then do
        markInterpreted eventRowId .untrustedSignature
        auditRejected reader (untrustedAudit reader.provider args)
        return .untrustedEvidence
      else match reader.interpret args.payload with
        | none => abort (.thrown "interpret")
        | some none => do
          markInterpreted eventRowId .uninterpretable
          return .uninterpretable
        | some (some callback) => applyCallbackOf reader args callback names eventRowId now :
          CallbackTx N CallbackResult) t
      (fun _ t' => RawRow reader args eventRowId eventId payload t') ↔
      if args.signatureValid = false then
        (reader.columns.jsonb (untrustedAudit reader.provider args)).isSome = true
      else ∃ interpreted, reader.interpret args.payload = some interpreted ∧
        ∀ callback, interpreted = some callback → CallbackFits reader args t.rows callback := by
  split
  · exact markInterpreted_ends raw fun _ raw => auditRejected_ends raw
  · rcases reader.interpret args.payload with _ | _ | callback
    · exact ⟨fun ends => (ends_abort ends).elim, nofun⟩
    · exact ⟨fun _ => ⟨none, rfl, fun _ is => (nomatch is)⟩, fun _ => marked_ends raw⟩
    · refine (applyCallbackOf_ends raw).trans ⟨fun fits => ⟨_, rfl, ?_⟩, ?_⟩
      · rintro _ ⟨⟩
        exact fits
      · rintro ⟨_, ⟨⟩, fits⟩
        exact fits _ rfl

theorem rawStored_iff {t' : CallbackTables N}
    (text : reader.columns.text args.providerEventId = some eventId)
    (jsonb : reader.columns.jsonb args.payload = some payload)
    (unstored : ¬t.rows.Stored (reader.provider.id, eventId)) :
    RawStored reader args t t' ↔
      RawRow reader args t.rows.providerEvents.length eventId payload t' := by
  constructor
  · rintro ⟨_, _, text', jsonb', stored⟩
    cases text.symm.trans text'
    cases jsonb.symm.trans jsonb'
    exact stored.resolve_left fun stored => unstored stored.1
  · exact fun row => ⟨eventId, payload, text, jsonb, .inr row⟩

/-- A callback is answered and its raw event stays exactly if all that is written about it fits. -/
theorem staysStored_iff (reader : CallbackReader N) (args : CallbackArgs N) (names : String)
    (now : Instant) (t : CallbackTables N) :
    StaysStored reader args names now t ↔ DeliveryFits reader args t.rows := by
  unfold StaysStored ingestVerificationCallback DeliveryFits
  rw [ends_bind, insertRawEvent, ends_require_bind]
  refine and_congr_right fun _ => ?_
  cases jsonb : reader.columns.jsonb args.payload with
  | none => exact ⟨fun ends => (ends_abort ends).elim, fun fits => nomatch fits.1⟩
  | some payload => cases text : reader.columns.text args.providerEventId with
    | none => exact ⟨fun ends => (ends_abort ends).elim, fun ⟨_, _, is, _⟩ => nomatch is⟩
    | some eventId =>
      simp only [Option.isSome_some, true_and, Option.some.injEq, exists_eq_left', ends_get_bind]
      split
      · rename_i stored
        have stored := any_stored.mp stored
        refine ⟨fun _ => .inl stored, fun _ => ?_⟩
        exact ends_pure.mpr (ends_pure.mpr ⟨eventId, payload, text, jsonb, .inl ⟨stored, rfl⟩⟩)
      · rename_i unstored
        have unstored := mt any_stored.mpr unstored
        rw [ends_require_bind, ends_modify_bind, ends_pure, or_iff_right unstored, NewEventFits]
        refine and_congr_right fun _ => ?_
        simp only [rawStored_iff text jsonb unstored]
        have raw : RawRow reader args t.rows.providerEvents.length eventId payload
            ⟨{ t.rows with providerEvents := t.rows.providerEvents ++
              [⟨reader.provider.id, eventId, args.signatureValid, .uninterpretable⟩] },
              t.payloads ++ [(t.rows.providerEvents.length, payload)]⟩ :=
          ⟨⟨_, List.getElem?_concat_length, rfl, rfl⟩,
            List.mem_append_right _ List.mem_cons_self⟩
        exact inserted_ends raw

end Deliveries

/-! ### A score that is no integer -/

/-- Columns that take everything. -/
def anyColumns : Columns Literal := ⟨fun text => some (decoded text), fun _ => true, some⟩

/-- The sandbox's provider, with a policy that compares scores. -/
def scoring : CallbackReader Literal where
  columns := anyColumns
  ids := ⟨fun id => if id = "dvf_1" then some 0 else none, fun _ => "pdv_1"⟩
  provider := bank
  policies := ⟨"v1", [⟨"bank", .pennyDrop, .numericScore 80 100 false⟩]⟩
  interpret := sandboxInterpret id

/-- The account is confirmed, with a score of 82.5. -/
def confirmedByHalf : CallbackArgs Literal where
  providerEventId := ofString "event"
  payload := .object [(ofString "request_id", .string (ofString "dvf_1")),
    (ofString "destination_version_id", .string (ofString "pdv_1")),
    (ofString "event_id", .string (ofString "event")),
    (ofString "result", .string (ofString "account_confirmed")),
    (ofString "name_match_score", .number (.numeral ⟨false, [8, 2], [5], none, by decide, Numeral.exponentOk_none⟩))]
  signatureValid := true

/-- One version, whose verification is in flight. -/
def inFlight : CallbackTables Literal where
  rows := ⟨[⟨0, 0, .bankAccount, some "Aarti Sharma"⟩], [openedVerification bank 0 "user"], [], []⟩
  payloads := []

/-- The score is within the scale and passes the policy; writing it aborts the transaction. -/
theorem not_always_staysStored : ¬ ∀ (reader : CallbackReader Literal) (args : CallbackArgs Literal)
    (names : String) (now : Instant) (t : CallbackTables Literal),
    StaysStored reader args names now t := by
  intro always
  obtain ⟨result, is, -⟩ := (always scoring confirmedByHalf "" 0 inFlight).answer
  have none_ : answer (ingestVerificationCallback scoring confirmedByHalf "" 0) inFlight = none := by
    decide +kernel
  cases none_.symm.trans is

end InrSettle
