import InrSettle.Service.EventDocument

/-!
# One event, two documents

The envelope that is posted and the document that is read have the same fields. The time of
the event is written in two ways, and the version and the labels come from different places.
-/

namespace InrSettle.Public

open Js

variable {N : Type} [Js.NumberFormat N]

/-- The documents have the same in these fields. -/
def SameIn (fields : String → Prop) (envelope document : Document N) : Prop :=
  ∀ field, fields field → envelope.lookup field = document.lookup field

/-- The event can be read, and the document is the posted envelope but for the delivery history. -/
def OneDocument (reads : PublicReads N) (workspace : Option WorkspaceRow) (scope : TenantScope)
    (purposeCodes : List (String × String)) (event : EventRow) (deliveries : List (Value N)) :
    Prop :=
  ∃ document, getEvent reads workspace scope purposeCodes none event deliveries = some document ∧
    SameIn (· ≠ "deliveries") (postedEnvelope reads workspace scope event) document

/-! ### Texts and objects -/

omit [Js.NumberFormat N] in
theorem text_injective : Function.Injective (text : String → Value N) :=
  fun _ _ same => ofString_injective (Value.string.inj same)

omit [Js.NumberFormat N] in
theorem object_injective : Function.Injective (object : Document N → Value N) := by
  intro document document' same
  refine List.map_injective_iff.mpr ?_ (Value.object.inj same)
  rintro ⟨name, value⟩ ⟨name', value'⟩ is
  obtain ⟨names, values⟩ := Prod.mk.inj is
  exact Prod.ext (ofString_injective names) values

omit [Js.NumberFormat N] in
theorem purposeJson_injective {code : String} {label label' : Option String}
    (same : (purposeJson (some code) label : Value N) = purposeJson (some code) label') :
    label.getD code = label'.getD code := by
  have members := object_injective same
  simp only [List.cons.injEq, Prod.mk.injEq, true_and, and_true] at members
  exact text_injective members

/-! ### The object -/

section

variable (reads : PublicReads N) (workspace : Option WorkspaceRow) (scope : TenantScope)
  (purposeCodes : List (String × String)) (event : EventRow)

/-- The rule set has no label of its own for the purpose of the settlement the event is about. -/
def PurposeUnlabelled : Prop :=
  event.subjectType = "settlement" → ∀ v, reads.settlement event.subjectId = some v →
    ∀ code label, v.row.purposeCode = some code → labelOf (some purposeCodes) code = some label →
      label = code

variable {reads workspace scope purposeCodes event}

theorem settlementJson_purpose {v : SettlementView N} {label : Option String}
    {format : NumberFormat} :
    (settlementJson v label format).lookup "purpose" = some (purposeJson v.row.purposeCode label) :=
  rfl

theorem settlementJson_eq {v : SettlementView N} {label label' : Option String}
    {format : NumberFormat} :
    settlementJson v label format = settlementJson v label' format ↔
      purposeJson (N := N) v.row.purposeCode label = purposeJson v.row.purposeCode label' := by
  constructor
  · intro same
    have purposes := congrArg (List.lookup "purpose") same
    exact Option.some.inj (settlementJson_purpose.symm.trans (purposes.trans settlementJson_purpose))
  · intro same
    rw [settlementJson, settlementJson, same]

theorem settlementObject_eq {format : NumberFormat} {settlementId : String} :
    settlementObject reads settlementId ⟨format, none⟩ =
        settlementObject reads settlementId ⟨format, some purposeCodes⟩ ↔
      ∀ v, reads.settlement settlementId = some v → ∀ code label, v.row.purposeCode = some code →
        labelOf (some purposeCodes) code = some label → label = code := by
  unfold settlementObject
  cases reads.settlement settlementId with
  | none => exact ⟨fun _ _ is => (nomatch is), fun _ => rfl⟩
  | some v =>
    refine settlementJson_eq.trans ⟨?_, fun shown => ?_⟩
    · rintro same _ ⟨⟩ code label is labelled
      rw [is, Option.bind_some, Option.bind_some, labelled] at same
      exact (purposeJson_injective same).symm
    · cases is : v.row.purposeCode with
      | none => rfl
      | some code =>
        cases labelled : labelOf (some purposeCodes) code with
        | none => rw [Option.bind_some, Option.bind_some, labelled]; rfl
        | some label =>
          have same := shown v rfl code label is labelled
          rw [Option.bind_some, Option.bind_some, labelled, same]
          rfl

/-- The two objects are one exactly if the purpose has no label of its own. -/
theorem resolve_eq {format : NumberFormat} (customer : isCustomerEventType event.type = true) :
    resolveCustomerEventObject reads scope event ⟨format, none⟩ =
        resolveCustomerEventObject reads scope event ⟨format, some purposeCodes⟩ ↔
      PurposeUnlabelled reads purposeCodes event := by
  have listed : ¬(!isCustomerEventType event.type &&
      !"endpoint.".toList.isPrefixOf event.type.toList) = true := by
    rw [customer]
    exact Bool.false_ne_true
  unfold resolveCustomerEventObject PurposeUnlabelled
  dsimp only
  rw [if_neg listed, if_neg listed]
  by_cases settlement : event.subjectType = "settlement"
  · rw [settlement]
    exact settlementObject_eq.trans ⟨fun shown _ => shown, fun shown => shown rfl⟩
  · refine iff_of_true ?_ fun is => (settlement is).elim
    split
    all_goals first | rfl | contradiction

/-! ### The documents -/

theorem posted_created_at :
    (postedEnvelope reads workspace scope event).lookup "created_at" =
      some (.string (toISOString event.createdAt)) := rfl

theorem read_created_at {ctx : EventObjectContext} {apiVersion : String}
    {deliveries : List (Value N)} :
    (withDeliveries reads scope event ctx apiVersion deliveries).lookup "created_at" =
      some (.string (withoutMilliseconds (toISOString event.createdAt))) := rfl

theorem getEvent_some {header : Option String} {deliveries : List (Value N)}
    {document : Document N}
    (is : getEvent reads workspace scope purposeCodes header event deliveries = some document) :
    isCustomerEventType event.type = true ∧
      ∃ apiVersion, resolveApiVersion header (pinOf workspace) = some apiVersion ∧
        document = withDeliveries reads scope event ⟨numberFormatOf workspace, some purposeCodes⟩
          apiVersion deliveries := by
  obtain ⟨apiVersion, resolved, is⟩ := Option.bind_eq_some_iff.mp is
  split at is
  · rename_i customer
    exact ⟨customer, apiVersion, resolved, (Option.some.inj is).symm⟩
  · cases is

/-- But for the time of the event and the deliveries, the documents are the same exactly if the
workspace's version is one there is and the purpose has no label of its own. -/
theorem sameElsewhere_iff {deliveries : List (Value N)} {document : Document N}
    (is : getEvent reads workspace scope purposeCodes none event deliveries = some document) :
    SameIn (fun field => field ≠ "deliveries" ∧ field ≠ "created_at")
        (postedEnvelope reads workspace scope event) document ↔
      pinOf workspace ∈ apiVersions ∧ PurposeUnlabelled reads purposeCodes event := by
  obtain ⟨customer, apiVersion, resolved, rfl⟩ := getEvent_some is
  have pinned : some (if pinOf workspace ∈ apiVersions then pinOf workspace
      else defaultApiVersion) = some apiVersion := resolved
  have objects := @resolve_eq N _ reads scope purposeCodes event (numberFormatOf workspace) customer
  constructor
  · intro same
    have versions : some (text (pinOf workspace)) = some (text apiVersion : Value N) :=
      same "api_version" (by decide)
    have version := text_injective (Option.some.inj versions)
    have data := object_injective (Option.some.inj (same "data" (by decide)))
    simp only [List.cons.injEq, Prod.mk.injEq, true_and, and_true] at data
    refine ⟨?_, objects.mp (object_injective data)⟩
    by_contra unsupported
    rw [if_neg unsupported, ← version] at pinned
    exact unsupported (Option.some.inj pinned ▸ List.mem_cons_self)
  · rintro ⟨supported, unlabelled⟩ field ⟨notDeliveries, notCreated⟩
    rw [if_pos supported] at pinned
    have deliveries_ : (field == "deliveries") = false := beq_false_of_ne notDeliveries
    have created : (field == "created_at") = false := beq_false_of_ne notCreated
    rw [postedEnvelope, withDeliveries, eventJson, objects.mpr unlabelled, Option.some.inj pinned]
    simp only [List.cons_append, List.nil_append, List.lookup, deliveries_, created]

/-- The event is dated to the millisecond in the one and to the second in the other. -/
theorem dated_apart {header : Option String} {deliveries : List (Value N)} {document : Document N}
    (is : getEvent reads workspace scope purposeCodes header event deliveries = some document) :
    ¬SameIn (· ≠ "deliveries") (postedEnvelope reads workspace scope event) document := by
  obtain ⟨-, apiVersion, -, rfl⟩ := getEvent_some is
  intro same
  have dated := same "created_at" (by decide)
  rw [posted_created_at, read_created_at] at dated
  exact withoutMilliseconds_ne _ (Value.string.inj (Option.some.inj dated)).symm

end

/-- No event is one document. -/
theorem never_oneDocument (reads : PublicReads N) (workspace : Option WorkspaceRow)
    (scope : TenantScope) (purposeCodes : List (String × String)) (event : EventRow)
    (deliveries : List (Value N)) :
    ¬OneDocument reads workspace scope purposeCodes event deliveries := by
  rintro ⟨document, is, same⟩
  exact dated_apart is same

/-- A workspace from which everything was deleted. -/
def noReads : PublicReads Literal :=
  ⟨fun _ => none, fun _ => none, fun _ => none, fun _ => none, fun _ => none, fun _ => none,
    fun _ => none, fun _ => none⟩

def beneficiaryCreated : EventRow :=
  ⟨"evt_1", "beneficiary.created", "beneficiary", "ben_1", 1788134400123⟩

/-- The event of a beneficiary that is gone is visible, and its two documents have two times. -/
theorem beneficiaryCreated_twice : isCustomerEventType beneficiaryCreated.type = true ∧
    ¬OneDocument noReads none ⟨"ws_1", "sandbox"⟩ [] beneficiaryCreated [] := by
  refine ⟨by decide, ?_⟩
  rintro ⟨document, is, same⟩
  exact dated_apart is same

end InrSettle.Public
