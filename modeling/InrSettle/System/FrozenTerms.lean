import InrSettle.Domain.AuthorizedTerms
import InrSettle.Domain.Reconciliation
import InrSettle.System.Artifacts

/-!
# The terms that were frozen

Whatever order a store gives the members of the canonical object back in, the same instruction is
rebuilt from it, up to the order of its fees, and its canonical form and hash with it. The finality
evaluation compares that hash with the column beside the terms, so it tells an edit of the terms from
an authorization only while the hash column is not rewritten with them.
-/

namespace InrSettle.Terms

open Js Js.NumberFormat Js.Value

variable {N : Type} [Js.NumberFormat N]

/-! ### Members of what is given back -/

section Members

variable {members : List (String × Value N)} {w : Value N}

omit [Js.NumberFormat N] in
theorem lookup_record (members : List (String × Value N)) (name : String) :
    (members.map fun member => (ofString member.1, member.2)).lookup (ofString name) =
      members.lookup name := by
  induction members with
  | nil => rfl
  | cons member rest ih =>
    rw [List.map_cons, List.lookup_cons, List.lookup_cons, ih]
    by_cases same : name = member.1
    · rw [same, beq_self_eq_true, beq_self_eq_true]
    · rw [beq_false_of_ne same, beq_false_of_ne fun units => same (ofString_injective units)]

omit [Js.NumberFormat N] in
theorem memberOf_alike (name : String) (alike : Alike Eq Eq (record members) w)
    (distinct : (members.map (·.1)).Nodup) {v : Value N} (found : members.lookup name = some v) :
    ∃ v', memberOf name w = some v' ∧ Alike Eq Eq v v' := by
  obtain ⟨members', rfl, alike⟩ := alike
  have names : ((members.map fun member => (ofString member.1, member.2)).map (·.1)).Nodup := by
    have same := distinct.map ofString_injective
    rw [List.map_map] at same ⊢
    exact same
  have related := lookup_alike alike names (ofString name)
  rw [lookup_record, found] at related
  rw [memberOf]
  generalize members'.lookup (ofString name) = there at related
  cases related with
  | some same => exact ⟨_, rfl, same⟩

theorem textAt_alike {name : String} (alike : Alike Eq Eq (record members) w)
    (distinct : (members.map (·.1)).Nodup) {text : Text}
    (found : members.lookup name = some (.string text)) : textAt name w = some text := by
  obtain ⟨v', member, same⟩ := memberOf_alike name alike distinct found
  cases (same : Value.string text = v')
  rw [textAt, member]
  rfl

theorem numberAt_alike {name : String} (alike : Alike Eq Eq (record members) w)
    (distinct : (members.map (·.1)).Nodup) {n : N}
    (found : members.lookup name = some (.number n)) : numberAt name w = some n := by
  obtain ⟨v', member, same⟩ := memberOf_alike name alike distinct found
  cases (same : Value.number n = v')
  rw [numberAt, member]
  rfl

end Members

/-! ### Reading what is written -/

theorem readMoney_alike {m : Money} {w : Value N} (alike : Alike Eq Eq (moneyJson m : Value N) w) :
    readMoney w = some m := by
  have distinct : (["currency", "minor_units"] : List String).Nodup := by decide
  rw [readMoney, textAt_alike alike distinct rfl, textAt_alike alike distinct rfl]
  dsimp only [bind, Option.bind]
  rw [bigIntOf_decimal]
  rfl

theorem readFee_alike {f : FeeComponent} {w : Value N} (alike : Alike Eq Eq (feeJson f : Value N) w) :
    readFee w = some f := by
  have distinct : (["code", "label", "amount"] : List String).Nodup := by
    decide
  obtain ⟨amount, member, same⟩ := memberOf_alike "amount" alike distinct rfl
  rw [readFee, textAt_alike alike distinct rfl, textAt_alike alike distinct rfl, member]
  dsimp only [bind, Option.bind]
  rw [readMoney_alike same]
  rfl

theorem readFees_alike {fees : List FeeComponent} {items : List (Value N)}
    (alike : AlikeItems Eq Eq (fees.map feeJson : List (Value N)) items) :
    readFees items = some fees := by
  induction fees generalizing items with
  | nil =>
    cases (alike : items = [])
    rfl
  | cons fee rest ih =>
    obtain ⟨item, others, rfl, first, alike⟩ := alike
    rw [readFees, readFee_alike first]
    dsimp only [bind, Option.bind]
    rw [ih alike]
    rfl

theorem readFxRate_alike {rate : FxRate N} {w : Value N}
    (alike : Alike Eq Eq (fxRateJson rate) w) : readFxRate w = some rate := by
  have distinct : (["pair", "rate_scaled", "scale",
      "quoted_at"] : List String).Nodup := by decide
  rw [readFxRate, textAt_alike alike distinct rfl, textAt_alike alike distinct rfl,
    numberAt_alike alike distinct rfl, textAt_alike alike distinct rfl]
  rfl

theorem readResidual_alike {residual : ExactAmount N} {w : Value N}
    (alike : Alike Eq Eq (residualJson residual) w) : readResidual w = some residual := by
  have distinct : (["currency", "amount", "scale"] : List String).Nodup := by
    decide
  rw [readResidual, textAt_alike alike distinct rfl, textAt_alike alike distinct rfl,
    numberAt_alike alike distinct rfl]
  rfl

/-- The terms with their fees sorted. -/
def sortedTerms (t : AuthorizedTerms N) : AuthorizedTerms N :=
  { t with feeComponents := sortedFees t.feeComponents }

theorem readTerms_alike {t : AuthorizedTerms N} {w : Value N} (alike : Alike Eq Eq (termsJson t) w) :
    readTerms w = some (sortedTerms t) := by
  have distinct : (["quote_id", "direction", "recipient_amount",
      "funding_amount", "fx_rate", "fee_components",
      "rounding_residual", "quoted_at", "expires_at"] :
        List String).Nodup := by decide
  obtain ⟨recipient, isRecipient, sameRecipient⟩ :=
    memberOf_alike "recipient_amount" alike distinct rfl
  obtain ⟨funding, isFunding, sameFunding⟩ :=
    memberOf_alike "funding_amount" alike distinct rfl
  obtain ⟨rate, isRate, sameRate⟩ := memberOf_alike "fx_rate" alike distinct rfl
  obtain ⟨fees, isFees, sameFees⟩ := memberOf_alike "fee_components" alike distinct rfl
  obtain ⟨residual, isResidual, sameResidual⟩ :=
    memberOf_alike "rounding_residual" alike distinct rfl
  obtain ⟨items, rfl, sameItems⟩ := sameFees
  rw [readTerms, textAt_alike alike distinct rfl, textAt_alike alike distinct rfl, isRecipient,
    isFunding, isRate, isFees, isResidual, textAt_alike alike distinct rfl,
    textAt_alike alike distinct rfl]
  dsimp only [bind, Option.bind, itemsOf]
  rw [readMoney_alike sameRecipient, readMoney_alike sameFunding, readFxRate_alike sameRate,
    readFees_alike sameItems, readResidual_alike sameResidual]
  rfl

/-- The instruction with its fees sorted. -/
def sorted (i : AuthorizedInstruction N) : AuthorizedInstruction N :=
  { i with terms := sortedTerms i.terms }

/-- The members of a canonical object, beside its version. -/
def instructionMembers (version : Value N) (i : AuthorizedInstruction N) :
    List (String × Value N) :=
  [("v", version), ("beneficiary_id", .string i.beneficiaryId),
    ("destination_id", .string i.destinationId),
    ("destination_version_id", .string i.destinationVersionId),
    ("recipient_amount", moneyJson i.recipientAmount), ("purpose_code", .string i.purposeCode),
    ("funding_currency", .string i.fundingCurrency), ("terms", termsJson i.terms)]

theorem instructionFromCanonicalObject_alike {version : Value N} {i : AuthorizedInstruction N}
    {w : Value N} (alike : Alike Eq Eq (record (instructionMembers version i)) w) :
    instructionFromCanonicalObject w = some (sorted i) := by
  have distinct : ["v", "beneficiary_id", "destination_id", "destination_version_id",
      "recipient_amount", "purpose_code", "funding_currency", "terms"].Nodup := by decide
  obtain ⟨recipient, isRecipient, sameRecipient⟩ :=
    memberOf_alike "recipient_amount" alike distinct rfl
  obtain ⟨terms, isTerms, sameTerms⟩ := memberOf_alike "terms" alike distinct rfl
  rw [instructionFromCanonicalObject, textAt_alike alike distinct rfl,
    textAt_alike alike distinct rfl, textAt_alike alike distinct rfl, isRecipient,
    textAt_alike alike distinct rfl, textAt_alike alike distinct rfl, isTerms]
  dsimp only [bind, Option.bind]
  rw [readMoney_alike sameRecipient, readTerms_alike sameTerms]
  rfl

/-! ### What is written of an instruction -/

/-- The scales are numbers a JSON text can have: finite, and not -0. -/
structure Valid (i : AuthorizedInstruction N) : Prop where
  fxScale : (Value.number i.terms.fxRate.scale).Plain
  residualScale : (Value.number i.terms.roundingResidual.scale).Plain

theorem plain_record {members : List (String × Value N)}
    (each : ∀ member ∈ members, member.2.Plain) : (record members).Plain := by
  apply plainMembers_iff.mpr
  intro member mem
  obtain ⟨named, inside, rfl⟩ := List.mem_map.mp mem
  exact each named inside

omit [Js.NumberFormat N] in
theorem distinct_record {members : List (String × Value N)}
    (names : (members.map (·.1)).Nodup) (each : ∀ member ∈ members, member.2.distinct = true) :
    (record members).distinct = true := by
  refine Bool.and_eq_true_iff.mpr ⟨decide_eq_true ?_, distinctMembers_iff.mpr ?_⟩
  · have same := names.map ofString_injective
    rw [List.map_map] at same ⊢
    exact same
  · intro member mem
    obtain ⟨named, inside, rfl⟩ := List.mem_map.mp mem
    exact each named inside

theorem plain_moneyJson (m : Money) : (moneyJson m : Value N).Plain :=
  ⟨trivial, trivial, trivial⟩

theorem plain_termsJson {i : AuthorizedInstruction N} (valid : Valid i) :
    (termsJson i.terms).Plain := by
  apply plain_record
  simp only [List.forall_mem_cons]
  refine ⟨trivial, trivial, plain_moneyJson _, plain_moneyJson _,
    ⟨trivial, trivial, valid.fxScale, trivial, trivial⟩, ?_,
    ⟨trivial, trivial, valid.residualScale, trivial⟩, trivial, trivial, nofun⟩
  apply plainItems_iff.mpr
  intro item mem
  obtain ⟨fee, -, rfl⟩ := List.mem_map.mp mem
  exact ⟨trivial, trivial, plain_moneyJson _, trivial⟩

omit [Js.NumberFormat N] in
theorem distinct_moneyJson (m : Money) : (moneyJson m : Value N).distinct = true := by
  apply distinct_record
  · exact (by decide : ["currency", "minor_units"].Nodup)
  · simp only [List.forall_mem_cons]
    exact ⟨rfl, rfl, nofun⟩

omit [Js.NumberFormat N] in
theorem distinct_fees (fees : List FeeComponent) :
    distinctItems (fees.map feeJson : List (Value N)) = true := by
  induction fees with
  | nil => rfl
  | cons fee rest ih =>
    refine Bool.and_eq_true_iff.mpr ⟨?_, ih⟩
    apply distinct_record
    · exact (by decide : ["code", "label", "amount"].Nodup)
    · simp only [List.forall_mem_cons]
      exact ⟨rfl, rfl, distinct_moneyJson _, nofun⟩

omit [Js.NumberFormat N] in
theorem distinct_termsJson (t : AuthorizedTerms N) : (termsJson t).distinct = true := by
  apply distinct_record
  · exact (by decide : ["quote_id", "direction", "recipient_amount", "funding_amount", "fx_rate",
      "fee_components", "rounding_residual", "quoted_at", "expires_at"].Nodup)
  · simp only [List.forall_mem_cons]
    refine ⟨rfl, rfl, distinct_moneyJson _, distinct_moneyJson _, ?_, distinct_fees _, ?_, rfl, rfl,
      nofun⟩
    · apply distinct_record
      · exact (by decide : ["pair", "rate_scaled", "scale", "quoted_at"].Nodup)
      · simp only [List.forall_mem_cons]
        exact ⟨rfl, rfl, rfl, rfl, nofun⟩
    · apply distinct_record
      · exact (by decide : ["currency", "amount", "scale"].Nodup)
      · simp only [List.forall_mem_cons]
        exact ⟨rfl, rfl, rfl, nofun⟩

theorem distinct_object (i : AuthorizedInstruction N) :
    (canonicalInstructionObject i).distinct = true := by
  apply distinct_record
  · exact (by decide : ["v", "beneficiary_id", "destination_id", "destination_version_id",
      "recipient_amount", "purpose_code", "funding_currency", "terms"].Nodup)
  · simp only [List.forall_mem_cons]
    exact ⟨rfl, rfl, rfl, rfl, distinct_moneyJson _, rfl, rfl, distinct_termsJson _, nofun⟩

/-- The version beside the instruction. -/
def version : Value N := .number (numberOfInt 1)

theorem written_object {i : AuthorizedInstruction N} (valid : Valid i) :
    (canonicalInstructionObject i).written = record (instructionMembers version.written i) := by
  have rest : PlainMembers ((instructionMembers version i).tail.map fun member =>
      (ofString member.1, member.2)) :=
    ⟨trivial, trivial, trivial, plain_moneyJson _, trivial, trivial, plain_termsJson valid, trivial⟩
  exact congrArg (fun more => Value.object ((ofString "v", version.written) :: more))
    (writtenMembers_of_plain _ rest)

/-! ### The same instruction again -/

/-- What is rebuilt from the stored object is the instruction with its fees sorted. -/
theorem instructionFromCanonicalObject_kept {i : AuthorizedInstruction N} (valid : Valid i)
    {stored : Value N} (kept : Kept (canonicalInstructionObject i) stored) :
    instructionFromCanonicalObject stored = some (sorted i) := by
  apply instructionFromCanonicalObject_alike
  rw [← written_object valid]
  exact kept

theorem sortedFees_sortedFees (fees : List FeeComponent) :
    sortedFees (sortedFees fees) = sortedFees fees :=
  (List.pairwise_insertionSort (fun a b : FeeComponent => a.code ≤ b.code) fees).insertionSort_eq

/-- The canonical object is a function of the instruction with its fees sorted. -/
theorem canonicalInstructionObject_sorted (i : AuthorizedInstruction N) :
    canonicalInstructionObject (sorted i) = canonicalInstructionObject i := by
  have terms : termsJson (sortedTerms i.terms) = termsJson i.terms := by
    simp only [termsJson, sortedTerms, sortedFees_sortedFees]
  simp only [canonicalInstructionObject, sorted, terms]

/-- One instruction is the other with its fees in an order of their own. -/
def SameButOrder (i j : AuthorizedInstruction N) : Prop :=
  ∃ fees, fees.Perm j.terms.feeComponents ∧
    i = { j with terms := { j.terms with feeComponents := fees } }

omit [Js.NumberFormat N] in
theorem sameButOrder_of_sorted {i j : AuthorizedInstruction N} (same : sorted i = sorted j) :
    SameButOrder i j := by
  obtain ⟨_, _, _, _, _, _, t⟩ := i
  obtain ⟨_, _, _, _, _, _, t'⟩ := j
  obtain ⟨_, _, _, _, _, fees, _, _, _⟩ := t
  obtain ⟨_, _, _, _, _, fees', _, _, _⟩ := t'
  simp only [sorted, sortedTerms, AuthorizedInstruction.mk.injEq, AuthorizedTerms.mk.injEq] at same
  obtain ⟨rfl, rfl, rfl, rfl, rfl, rfl, rfl, rfl, rfl, rfl, rfl, order, rfl, rfl, rfl⟩ := same
  refine ⟨fees, ?_, rfl⟩
  have perm := List.perm_insertionSort (fun a b : FeeComponent => a.code ≤ b.code) fees
  have perm' := List.perm_insertionSort (fun a b : FeeComponent => a.code ≤ b.code) fees'
  exact perm.symm.trans ((List.Perm.of_eq order).trans perm')

/-- One canonical text is the text of one instruction. -/
theorem sorted_of_canonical {i j : AuthorizedInstruction N} (valid : Valid i) (valid' : Valid j)
    (same : canonicalInstruction i = canonicalInstruction j) : sorted i = sorted j := by
  have read := parseJson_stringify (v := canonicalInstructionObject i) rfl (distinct_object i)
  have read' := parseJson_stringify (v := canonicalInstructionObject j) rfl (distinct_object j)
  rw [← canonicalInstruction, same, canonicalInstruction, read'] at read
  have one := instructionFromCanonicalObject_kept valid (alike_refl _)
  have other := instructionFromCanonicalObject_kept valid' (alike_refl _)
  rw [← Option.some.inj read, other] at one
  exact (Option.some.inj one).symm

/-- The canonical object comes back as the same instruction from whatever a store gives back for it,
and its text tells the instruction, up to the order of its fees. -/
theorem instruction_comesBack (sha256 : Text → String) (i : AuthorizedInstruction N)
    (valid : Valid i) :
    (∀ stored, Kept (canonicalInstructionObject i) stored →
      ∃ i', instructionFromCanonicalObject stored = some i' ∧
        canonicalInstruction i' = canonicalInstruction i ∧
        authorizedTermsHash sha256 i' = authorizedTermsHash sha256 i) ∧
    ∀ j, Valid j → canonicalInstruction i = canonicalInstruction j → SameButOrder i j := by
  have canonical : canonicalInstruction (sorted i) = canonicalInstruction i := by
    rw [canonicalInstruction, canonicalInstructionObject_sorted, canonicalInstruction]
  constructor
  · intro stored kept
    refine ⟨sorted i, instructionFromCanonicalObject_kept valid kept, canonical, ?_⟩
    rw [authorizedTermsHash, canonical, authorizedTermsHash]
  · intro j valid' same
    exact sameButOrder_of_sorted (sorted_of_canonical valid valid' same)

/-! ### A payout, for example -/

def number (digits : List Digit) (ok : digits = [0] ∨ digits.head?.any (· ≠ 0) = true) : Literal :=
  .numeral ⟨false, digits, [], none, ok, Numeral.exponentOk_none⟩

/-- Ten thousand rupees for a hundred and twenty euros, with two fees. -/
def salary : AuthorizedInstruction Literal where
  beneficiaryId := ofString "ben_1"
  destinationId := ofString "dst_1"
  destinationVersionId := ofString "pdv_1"
  recipientAmount := ⟨ofString "INR", 1000000⟩
  purposeCode := ofString "P0802"
  fundingCurrency := ofString "EUR"
  terms := {
    quoteId := ofString "qte_1"
    direction := ofString "RECIPIENT_FIRST"
    recipientAmount := ⟨ofString "INR", 1000000⟩
    fundingAmount := ⟨ofString "EUR", 12000⟩
    fxRate := ⟨ofString "EUR/INR", ofString "900000000000", number [1, 0] (by decide),
      ofString "2026-01-05T10:00:00.000Z"⟩
    feeComponents := [⟨ofString "platform", ofString "Platform fee", ⟨ofString "EUR", 90⟩⟩,
      ⟨ofString "network", ofString "Network fee", ⟨ofString "EUR", 10⟩⟩]
    roundingResidual := ⟨ofString "EUR", ofString "0.000000000000", number [1, 2] (by decide)⟩
    quotedAt := ofString "2026-01-05T10:00:00.000Z"
    expiresAt := ofString "2026-01-05T10:15:00.000Z" }

theorem valid_salary : Valid salary where
  fxScale := ⟨rfl, rfl⟩
  residualScale := ⟨rfl, rfl⟩

/-- A digest that spells the whole text out. -/
def spelled (text : Text) : String := String.ofList (text.map fun u => Char.ofNat (0x10000 + u.val))

theorem spelled_injective : Function.Injective spelled := by
  intro text text' same
  refine List.map_injective_iff.mpr ?_ (String.ofList_injective same)
  intro u u' char
  have code : ∀ v : CodeUnit, (Char.ofNat (0x10000 + v.val)).toNat = 0x10000 + v.val := by
    intro v
    rw [Char.toNat_ofNat, if_pos (.inr ⟨by omega, by omega⟩)]
  have values := congrArg Char.toNat char
  rw [code, code] at values
  exact Fin.ext (by omega)

theorem salary_comesBack :
    (∀ stored, Kept (canonicalInstructionObject salary) stored →
      ∃ i', instructionFromCanonicalObject stored = some i' ∧
        canonicalInstruction i' = canonicalInstruction salary ∧
        authorizedTermsHash spelled i' = authorizedTermsHash spelled salary) ∧
    ∀ j, Valid j → canonicalInstruction salary = canonicalInstruction j → SameButOrder salary j :=
  instruction_comesBack spelled salary valid_salary

/-! ### What the finality evaluation can tell -/

/-- The columns of a settlement that its terms are frozen in. -/
structure TermsColumns (N : Type) where
  authorizedTerms : Value N
  authorizedTermsHash : Option String

section Evaluation

variable (sha256 : Text → String)

/-- `toEvidence`, for the columns of the terms: the hash that is stored, and the hash of what is
stored beside it. -/
def withTerms (e : FinalityEvidence) (columns : TermsColumns N) : FinalityEvidence :=
  { e with
    authorizedTermsHash := columns.authorizedTermsHash
    executedTermsHash := (instructionFromCanonicalObject columns.authorizedTerms).map
      (authorizedTermsHash sha256) }

variable (N) in
/-- Two canonical forms with one hash are one. -/
def CollisionFree : Prop :=
  ∀ i j : AuthorizedInstruction N, sha256 (canonicalInstruction i) = sha256 (canonicalInstruction j) →
    canonicalInstruction i = canonicalInstruction j

/-- X1 holds of the columns only if the terms in them are the ones authorized. -/
def Detects (e : FinalityEvidence) (authorized : AuthorizedInstruction N)
    (edited : TermsColumns N) : Prop :=
  (x1 (withTerms sha256 e edited)).met = true →
    ∃ i, instructionFromCanonicalObject edited.authorizedTerms = some i ∧
      canonicalInstruction i = canonicalInstruction authorized

/-- The stored hash is the one of the authorization, or not the one of the terms beside it. -/
def HashKept (authorized : AuthorizedInstruction N) (edited : TermsColumns N) : Prop :=
  edited.authorizedTermsHash = some (authorizedTermsHash sha256 authorized) ∨
    ∀ i, instructionFromCanonicalObject edited.authorizedTerms = some i →
      edited.authorizedTermsHash ≠ some (authorizedTermsHash sha256 i)

variable {sha256}

theorem x1_met_iff {e : FinalityEvidence} {columns : TermsColumns N} :
    (x1 (withTerms sha256 e columns)).met = true ↔
      ∃ i, instructionFromCanonicalObject columns.authorizedTerms = some i ∧
        columns.authorizedTermsHash = some (authorizedTermsHash sha256 i) := by
  unfold x1 withTerms
  cases columns.authorizedTermsHash with
  | none => simp
  | some stored =>
    cases instructionFromCanonicalObject columns.authorizedTerms with
    | none => simp
    | some i =>
      by_cases same : authorizedTermsHash sha256 i = stored
      · simp [same]
      · simp [same, Ne.symm same]

/-- X1 tells an edit of the terms exactly if the hash was not rewritten with them. -/
theorem detects_iff (collisionFree : CollisionFree N sha256) (e : FinalityEvidence)
    (authorized : AuthorizedInstruction N) (edited : TermsColumns N) :
    Detects sha256 e authorized edited ↔ HashKept sha256 authorized edited := by
  constructor
  · intro detects
    by_cases met : (x1 (withTerms sha256 e edited)).met = true
    · obtain ⟨i, read, stored⟩ := x1_met_iff.mp met
      obtain ⟨i', read', same⟩ := detects met
      cases read.symm.trans read'
      refine .inl (stored.trans ?_)
      rw [authorizedTermsHash, same, authorizedTermsHash]
    · exact .inr fun i read stored => met (x1_met_iff.mpr ⟨i, read, stored⟩)
  · intro kept met
    obtain ⟨i, read, stored⟩ := x1_met_iff.mp met
    refine ⟨i, read, collisionFree i authorized ?_⟩
    rcases kept with kept | other
    · exact Option.some.inj (stored.symm.trans kept)
    · exact (other i read stored).elim

end Evaluation

/-! ### Another account, for example -/

/-- Everything but the terms is in order. -/
def inOrder : FinalityEvidence where
  authorizedAt := some 0
  authorizedBy := some "usr_1"
  actorHeldCapability := true
  drawdownStatus := some .confirmed
  facilityStatus := some .active
  confirmationSource := some .trustedProviderEvent
  attemptStatus := some .credited
  utr := some "UTR0000000000001"
  reconciliationStatus := some .matched
  reconciliationDelta := some 0
  openExceptionCode := none
  authorizedTermsHash := none
  authorizedDestinationVersionId := some "pdv_1"
  executedTermsHash := none
  executedDestinationVersionId := some "pdv_1"

/-- The same payout into another account. -/
def repointed : AuthorizedInstruction Literal :=
  { salary with destinationVersionId := ofString "pdv_2" }

theorem valid_repointed : Valid repointed where
  fxScale := ⟨rfl, rfl⟩
  residualScale := ⟨rfl, rfl⟩

/-- The terms are edited and the hash is left alone. -/
theorem detects_repointed : Detects spelled inOrder salary
    ⟨(canonicalInstructionObject repointed).written,
      some (authorizedTermsHash spelled salary)⟩ :=
  (detects_iff (fun _ _ same => spelled_injective same) inOrder salary _).mpr (.inl rfl)

/-- The terms are edited and the hash with them. -/
theorem not_always_detects : ¬∀ edited : TermsColumns Literal, Detects spelled inOrder salary edited := by
  intro always
  have read : instructionFromCanonicalObject (canonicalInstructionObject repointed).written =
      some (sorted repointed) :=
    instructionFromCanonicalObject_kept valid_repointed (alike_refl _)
  obtain ⟨i, read', same⟩ := always
    ⟨(canonicalInstructionObject repointed).written,
      some (authorizedTermsHash spelled (sorted repointed))⟩ (x1_met_iff.mpr ⟨_, read, rfl⟩)
  cases read.symm.trans read'
  rw [canonicalInstruction, canonicalInstructionObject_sorted] at same
  have instructions := sorted_of_canonical valid_repointed valid_salary same
  have accounts := congrArg AuthorizedInstruction.destinationVersionId instructions
  exact absurd accounts (by decide)

end InrSettle.Terms
