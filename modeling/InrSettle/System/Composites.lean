import InrSettle.Library.JsMerged
import InrSettle.Library.Run
import InrSettle.Service.CompositeExport
import InrSettle.System.Artifacts
import InrSettle.System.FrozenTerms

/-!
# Two exports of one settlement

A composite's document names the composite, under an id that is drawn for each export, and the hash
is taken of the whole document: two exports never have one hash, and where the settlement's
artifacts have not changed the ids are all that tells their documents apart.
-/

namespace InrSettle.Composite

open Js Js.NumberFormat ArtifactStore Terms Run

variable {N : Type} [Js.NumberFormat N]

/-! ### The rows that are there -/

theorem insertArtifact_eq_ok {row : PrintedRow} {rows rows' : List PrintedRow} :
    insertArtifact row rows = .ok rows' ↔ Free row rows ∧ rows' = rows ++ [row] := by
  unfold insertArtifact
  split
  · rename_i free
    constructor
    · intro inserted
      exact ⟨free, (Except.ok.inj inserted).symm⟩
    · rintro ⟨-, rfl⟩
      rfl
  · rename_i taken
    constructor
    · intro inserted
      cases inserted
    · rintro ⟨free, -⟩
      exact (taken free).elim

section Export

variable {sha256 : Text → Text}

/-- What a row that is inserted holds of its artifact. -/
theorem persistArtifact_eq_ok {artifactId settlementId : Text} {artifact : CanonicalArtifact N}
    {receiptId sourceContentHash : Option Text} {now : Nat} {rows : List PrintedRow}
    {result : ArtifactResult} {rows' : List PrintedRow} :
    persistArtifact sha256 artifactId artifact settlementId receiptId sourceContentHash now rows =
        .ok (result, rows') ↔
      ∃ text, canonicalize artifact.document = .ok text ∧
        result = .ok ⟨artifactId, artifact.kind, contentHashPrefix ++ sha256 text,
          artifactObjectKey artifact.kind artifactId, text⟩ ∧
        insertArtifact ⟨⟨artifactId, artifact.kind, settlementId, receiptId, sourceContentHash, text,
          contentHashPrefix ++ sha256 text, now⟩, artifactObjectKey artifact.kind artifactId⟩ rows =
            .ok rows' := by
  unfold persistArtifact contentHash canonicalBytes
  cases canonicalize artifact.document with
  | error refused => simp [bind, Except.bind, Except.mapError]
  | ok text =>
    simp only [bind, Except.bind, Except.mapError, pure, Except.pure, Except.ok.injEq]
    split
    · rename_i refused
      simp [refused]
    · rename_i inserted is
      simp only [is, Except.ok.injEq, Prod.mk.injEq, exists_eq_left']
      constructor
      · rintro ⟨rfl, rfl⟩
        exact ⟨rfl, rfl⟩
      · rintro ⟨rfl, rfl⟩
        exact ⟨rfl, rfl⟩

theorem exportComposite_eq_ok {scope : TenantScope} {settlementId compositeId : Text} {now : Nat}
    {rows rows' : List PrintedRow} {issued : IssuedArtifact} :
    exportComposite N sha256 scope settlementId compositeId now rows = .ok (.ok issued, rows') ↔
      ∃ found artifact, readSources N settlementId rows = .ok (some found) ∧
        compositeDocument (compositeInput scope settlementId found compositeId) = some artifact ∧
        persistArtifact sha256 compositeId artifact settlementId (some found.row.id)
          (some found.row.contentHash) now rows = .ok (.ok issued, rows') := by
  unfold exportComposite
  cases readSources N settlementId rows with
  | error thrown => simp
  | ok found =>
    cases found with
    | none => simp
    | some found =>
      simp only [Except.ok.injEq, Option.some.injEq, exists_and_left, exists_eq_left']
      cases compositeDocument (compositeInput scope settlementId found compositeId) with
      | none => simp
      | some artifact => simp

/-- An export's document, whatever id it is made under. -/
def Exported (N : Type) [Js.NumberFormat N] (scope : TenantScope) (settlementId : Text)
    (found : Sources N) (issued : IssuedArtifact) : Prop :=
  ∃ artifact, compositeDocument (compositeInput scope settlementId found issued.artifactId) =
    some artifact ∧ canonicalBytes artifact = .ok issued.canonicalBytes

/-! ### What later calls leave -/

theorem mem_of_insertArtifact {row old : PrintedRow} {rows rows' : List PrintedRow}
    (inserted : insertArtifact row rows = .ok rows') (there : old ∈ rows) : old ∈ rows' := by
  obtain ⟨-, rfl⟩ := insertArtifact_eq_ok.mp inserted
  exact List.mem_append_left _ there

theorem mem_of_exportComposite {scope : TenantScope} {settlementId compositeId : Text} {now : Nat}
    {rows rows' : List PrintedRow} {result : ArtifactResult} {old : PrintedRow}
    (done : exportComposite N sha256 scope settlementId compositeId now rows = .ok (result, rows'))
    (there : old ∈ rows) : old ∈ rows' := by
  cases result with
  | receiptNotFound =>
    unfold exportComposite at done
    split at done
    · cases done
    · cases done
      exact there
    · split at done
      · cases done
      · obtain ⟨_, -, same, -⟩ := persistArtifact_eq_ok.mp done
        cases same
  | ok issued =>
    obtain ⟨found, artifact, -, -, persisted⟩ := exportComposite_eq_ok.mp done
    obtain ⟨_, -, -, inserted⟩ := persistArtifact_eq_ok.mp persisted
    exact mem_of_insertArtifact inserted there

/-- A step keeps the rows that are there. -/
theorem mem_step {rows : List PrintedRow} {old : PrintedRow} (call : Call) (there : old ∈ rows) :
    old ∈ step N sha256 rows call := by
  cases call with
  | exportComposite scope settlementId compositeId now =>
    rw [step]
    split
    · rename_i done
      exact mem_of_exportComposite done there
    · exact there
  | issue row =>
    rw [step]
    split
    · rename_i inserted
      exact mem_of_insertArtifact inserted there
    · exact there

theorem mem_run {rows : List PrintedRow} {old : PrintedRow} (calls : List Call)
    (there : old ∈ rows) : old ∈ run (step N sha256) rows calls := by
  induction calls generalizing rows with
  | nil => exact there
  | cons call rest ih => exact ih (mem_step call there)

/-! ### The documents -/

theorem mem_of_mapM {A B : Type} {f : A → Option B} {items : List A} {made : List B}
    (all : items.mapM f = some made) : ∀ b ∈ made, ∃ a ∈ items, f a = some b := by
  induction items generalizing made with
  | nil =>
    rw [List.mapM_nil] at all
    cases all
    intro b mem
    cases mem
  | cons item rest ih =>
    rw [List.mapM_cons] at all
    obtain ⟨first, is, all⟩ := Option.bind_eq_some_iff.mp all
    obtain ⟨others, are, all⟩ := Option.bind_eq_some_iff.mp all
    cases all
    intro b mem
    rcases List.mem_cons.mp mem with rfl | mem
    · exact ⟨item, List.mem_cons_self, is⟩
    · obtain ⟨a, inRest, made⟩ := ih are b mem
      exact ⟨a, List.mem_cons_of_mem _ inRest, made⟩

theorem mem_of_sortedNotices {notices sorted : List (Source N)}
    (sorts : sortedNotices notices = some sorted) : ∀ notice ∈ sorted, notice ∈ notices := by
  intro notice mem
  unfold sortedNotices at sorts
  split at sorts
  · cases sorts
    exact mem
  · cases sorts
    exact mem
  · obtain ⟨keyed, keys, sorts⟩ := Option.bind_eq_some_iff.mp sorts
    cases sorts
    obtain ⟨⟨id, notice'⟩, inKeyed, rfl⟩ := List.mem_map.mp mem
    obtain ⟨a, there, is⟩ := mem_of_mapM keys _ (((List.perm_insertionSort _ _).mem_iff).mp inKeyed)
    obtain ⟨id', -, same⟩ := Option.map_eq_some_iff.mp is
    cases same
    exact there

theorem compositeDocument_eq_some {input : CompositeInput N} {artifact : CanonicalArtifact N} :
    compositeDocument input = some artifact ↔ ∃ sorted, sortedNotices input.notices = some sorted ∧
      ⟨.receiptComposite, record (compositeMembers input sorted)⟩ = artifact :=
  Option.map_eq_some_iff

/-- No object in the source has two members with one name. -/
def Source.Distinct (source : Source N) : Prop := source.document.distinct = true

omit [Js.NumberFormat N] in
theorem distinct_doc {source : Source N} (distinct : source.Distinct) :
    source.doc.distinct = true := by
  apply distinct_record
  · exact (by decide : ["content_hash", "document"].Nodup)
  · rw [Source.Distinct] at distinct
    simpa [Value.distinct] using distinct

omit [Js.NumberFormat N] in
theorem names_compositeMembers (input : CompositeInput N) (sorted : List (Source N)) :
    ((compositeMembers input sorted).map (·.1)).Nodup :=
  (by decide : ["artifact", "schema", "id", "settlement_id", "workspace_id", "environment",
    "created_at", "receipt", "return_notices"].Nodup)

omit [Js.NumberFormat N] in
theorem distinct_docs {sources : List (Source N)} (all : ∀ source ∈ sources, source.Distinct) :
    Value.distinctItems (sources.map Source.doc) = true := by
  induction sources with
  | nil => rfl
  | cons source rest ih =>
    rw [List.map_cons, Value.distinctItems, Bool.and_eq_true]
    refine ⟨distinct_doc (all _ List.mem_cons_self), ih ?_⟩
    intro other mem
    exact all _ (List.mem_cons_of_mem _ mem)

theorem distinct_compositeDocument {input : CompositeInput N} {artifact : CanonicalArtifact N}
    (made : compositeDocument input = some artifact) (receipt : input.receipt.Distinct)
    (notices : ∀ notice ∈ input.notices, notice.Distinct) : artifact.document.distinct = true := by
  obtain ⟨sorted, sorts, rfl⟩ := compositeDocument_eq_some.mp made
  have items : Value.distinctItems (sorted.map Source.doc) = true := by
    apply distinct_docs
    intro notice mem
    exact notices notice (mem_of_sortedNotices sorts notice mem)
  apply distinct_record (names_compositeMembers input sorted)
  simp [compositeMembers, Value.distinct, distinct_doc receipt, items]

theorem distinct_of_sourceOf {row : PrintedRow} {source : Source N}
    (found : sourceOf N row = some source) : source.Distinct := by
  obtain ⟨document, parsed, rfl⟩ := Option.map_eq_some_iff.mp found
  exact distinct_of_parseJson parsed

/-- What is read is distinct. -/
theorem distinct_of_readSources {settlementId : Text} {rows : List PrintedRow} {found : Sources N}
    (reads : readSources N settlementId rows = .ok (some found)) :
    found.receipt.Distinct ∧ ∀ notice ∈ found.notices, notice.Distinct := by
  unfold readSources at reads
  dsimp only at reads
  split at reads
  · cases reads
  · split at reads
    · rename_i receipt notices isReceipt areNotices
      cases reads
      refine ⟨distinct_of_sourceOf isReceipt, ?_⟩
      intro notice mem
      obtain ⟨row, -, is⟩ := mem_of_mapM areNotices notice mem
      exact distinct_of_sourceOf is
    · cases reads

theorem memberOf_canonical {members : List (String × Value N)} (names : (members.map (·.1)).Nodup)
    {name : String} {v : Value N} (found : members.lookup name = some v) :
    memberOf name (canonical (record members)) = some (canonical v) := by
  have normal : Value.normalMembers id plainLeaf
      (members.map fun member => (ofString member.1, member.2)) =
        (members.map fun member => (member.1, canonical member.2)).map
          fun member => (ofString member.1, member.2) := by
    rw [Value.normalMembers_eq, List.map_map, List.map_map]
    rfl
  have inside : (members.map fun member => (member.1, canonical member.2)).lookup name =
      some (canonical v) := by
    clear normal
    induction members with
    | nil => cases found
    | cons member rest ih =>
      rw [List.lookup_cons] at found
      rw [List.map_cons, List.lookup_cons]
      cases is : name == member.1 with
      | true =>
        rw [is] at found
        cases found
        rfl
      | false =>
        rw [is] at found
        exact ih (List.nodup_cons.mp names).2 found
  have distinct : ((Value.sortMembers (Value.normalMembers id plainLeaf
      (members.map fun member => (ofString member.1, member.2)))).map (·.1)).Nodup := by
    apply ((Value.perm_sortMembers _).map _).nodup_iff.mpr
    rw [Value.names_normalMembers, List.map_map]
    have units := names.map ofString_injective
    rw [List.map_map] at units
    exact units
  rw [canonical, record, Value.normal, memberOf, Value.lookup_perm (Value.perm_sortMembers _) distinct,
    normal, lookup_record, inside]
  rfl

/-- Documents with one text are made under one id. -/
theorem compositeId_eq {input input' : CompositeInput N} {artifact artifact' : CanonicalArtifact N}
    {text : Text} (made : compositeDocument input = some artifact)
    (made' : compositeDocument input' = some artifact')
    (distinct : artifact.document.distinct = true) (distinct' : artifact'.document.distinct = true)
    (ok : canonicalize artifact.document = .ok text)
    (ok' : canonicalize artifact'.document = .ok text) : input.compositeId = input'.compositeId := by
  have same : canonical artifact.document = canonical artifact'.document := by
    have found := parseJson_canonicalize distinct ok
    rw [parseJson_canonicalize distinct' ok'] at found
    exact (Option.some.inj found).symm
  obtain ⟨sorted, -, rfl⟩ := compositeDocument_eq_some.mp made
  obtain ⟨sorted', -, rfl⟩ := compositeDocument_eq_some.mp made'
  have member := congrArg (memberOf "id") same
  rw [memberOf_canonical (names_compositeMembers input sorted) rfl,
    memberOf_canonical (names_compositeMembers input' sorted') rfl] at member
  exact Value.string.inj (Option.some.inj member)

/-! ### Two exports -/

/-- The id of an artifact that was exported is the one it was exported under. -/
theorem row_of_exportComposite {scope : TenantScope} {settlementId compositeId : Text} {now : Nat}
    {rows rows' : List PrintedRow} {issued : IssuedArtifact}
    (done : exportComposite N sha256 scope settlementId compositeId now rows =
      .ok (.ok issued, rows')) : ∃ row ∈ rows', row.id = compositeId := by
  obtain ⟨found, artifact, -, -, persisted⟩ := exportComposite_eq_ok.mp done
  obtain ⟨text, -, -, inserted⟩ := persistArtifact_eq_ok.mp persisted
  obtain ⟨-, rfl⟩ := insertArtifact_eq_ok.mp inserted
  exact ⟨_, List.mem_append_right _ (List.mem_singleton.mpr rfl), rfl⟩

/-- What an export reads is a matter of the settlement's receipt and notices. -/
theorem readSources_eq {settlementId : Text} {rows rows' : List PrintedRow}
    (unchanged : sources settlementId rows = sources settlementId rows') :
    readSources N settlementId rows = readSources N settlementId rows' := by
  have receipt : ∀ rows, (sources settlementId rows).find? (fun row => row.kind = .settlementReceipt) =
      (listArtifacts settlementId rows).find? fun row => row.kind = .settlementReceipt := by
    intro rows
    rw [sources, List.find?_filter]
    congr
    funext row
    cases row.kind <;> rfl
  have notices : ∀ rows, (sources settlementId rows).filter (fun row => row.kind = .returnNotice) =
      (listArtifacts settlementId rows).filter fun row => row.kind = .returnNotice := by
    intro rows
    rw [sources, List.filter_filter]
    congr
    funext row
    cases row.kind <;> rfl
  rw [readSources, readSources, ← receipt, ← receipt, ← notices, ← notices, unchanged]

/-- The hashes are different whatever happens between the exports. -/
theorem contentHash_ne (collisionFree : Function.Injective sha256) {scope : TenantScope}
    {settlementId compositeId compositeId' : Text} {now now' : Nat}
    {rows after last : List PrintedRow} {between : List Call} {issued issued' : IssuedArtifact}
    (first : exportComposite N sha256 scope settlementId compositeId now rows =
      .ok (.ok issued, after))
    (second : exportComposite N sha256 scope settlementId compositeId' now'
      (run (step N sha256) after between) = .ok (.ok issued', last)) :
    issued.contentHash ≠ issued'.contentHash := by
  obtain ⟨old, there, named⟩ := row_of_exportComposite first
  obtain ⟨found, artifact, reads, made, persisted⟩ := exportComposite_eq_ok.mp first
  obtain ⟨found', artifact', reads', made', persisted'⟩ := exportComposite_eq_ok.mp second
  obtain ⟨text, ok, is, -⟩ := persistArtifact_eq_ok.mp persisted
  obtain ⟨text', ok', is', inserted⟩ := persistArtifact_eq_ok.mp persisted'
  cases is
  cases is'
  have fresh : compositeId ≠ compositeId' := by
    rw [← named]
    exact ((insertArtifact_eq_ok.mp inserted).1 old (mem_run between there)).1
  intro same
  have texts : text = text' := collisionFree (List.append_cancel_left same)
  subst texts
  have distinct := distinct_of_readSources reads
  have distinct' := distinct_of_readSources reads'
  apply fresh
  exact compositeId_eq made made' (distinct_compositeDocument made distinct.1 distinct.2)
    (distinct_compositeDocument made' distinct'.1 distinct'.2) ok ok'

/-- An export serialises the document that is composed of what it reads. -/
theorem exported {scope : TenantScope} {settlementId compositeId : Text} {now : Nat}
    {rows rows' : List PrintedRow} {issued : IssuedArtifact}
    (done : exportComposite N sha256 scope settlementId compositeId now rows =
      .ok (.ok issued, rows')) :
    ∃ found : Sources N, readSources N settlementId rows = .ok (some found) ∧
      Exported N scope settlementId found issued := by
  obtain ⟨found, artifact, reads, made, persisted⟩ := exportComposite_eq_ok.mp done
  obtain ⟨text, ok, is, -⟩ := persistArtifact_eq_ok.mp persisted
  cases is
  exact ⟨found, reads, artifact, made, ok⟩

/-- Two exports of a settlement have two hashes; and if its receipt and its notices are the same,
so are the documents, but for the id. -/
theorem exports_differ (collisionFree : Function.Injective sha256) {scope : TenantScope}
    {settlementId compositeId compositeId' : Text} {now now' : Nat}
    {rows after last : List PrintedRow} {between : List Call} {issued issued' : IssuedArtifact}
    (first : exportComposite N sha256 scope settlementId compositeId now rows =
      .ok (.ok issued, after))
    (second : exportComposite N sha256 scope settlementId compositeId' now'
      (run (step N sha256) after between) = .ok (.ok issued', last))
    (unchanged : sources settlementId rows =
      sources settlementId (run (step N sha256) after between)) :
    issued.contentHash ≠ issued'.contentHash ∧ ∃ found : Sources N,
      Exported N scope settlementId found issued ∧
        Exported N scope settlementId found issued' := by
  refine ⟨contentHash_ne collisionFree first second, ?_⟩
  obtain ⟨found, reads, document⟩ := exported first
  obtain ⟨found', reads', document'⟩ := exported second
  rw [readSources_eq unchanged] at reads
  cases reads.symm.trans reads'
  exact ⟨found, document, document'⟩

end Export

/-! ### A receipt exported twice, for example -/

def sampleScope : TenantScope := ⟨ofString "ws_1", ofString "sandbox"⟩

def sampleSettlement : Text := ofString "stl_1"

/-- A receipt, and a hash that is not looked at. -/
def sampleReceipt : PrintedRow where
  id := ofString "rcp_1"
  kind := .settlementReceipt
  settlementId := sampleSettlement
  receiptId := none
  sourceContentHash := none
  canonicalBytes := (Value.object [] : Value Literal).text
  contentHash := contentHashPrefix
  createdAt := 0
  pdfObjectKey := artifactObjectKey .settlementReceipt (ofString "rcp_1")

def sampleSources : Sources Literal := ⟨sampleReceipt, ⟨.object [], contentHashPrefix⟩, []⟩

/-- The document exported under an id. -/
def sampleDocument (id : String) : Value Literal :=
  record (compositeMembers (compositeInput sampleScope sampleSettlement sampleSources
    (ofString id)) [])

def sampleIssued (id : String) : IssuedArtifact where
  artifactId := ofString id
  kind := .receiptComposite
  contentHash := contentHashPrefix ++ (canonical (sampleDocument id)).text
  pdfObjectKey := artifactObjectKey .receiptComposite (ofString id)
  canonicalBytes := (canonical (sampleDocument id)).text

def sampleRow (id : String) : PrintedRow where
  id := ofString id
  kind := .receiptComposite
  settlementId := sampleSettlement
  receiptId := some sampleReceipt.id
  sourceContentHash := some sampleReceipt.contentHash
  canonicalBytes := (canonical (sampleDocument id)).text
  contentHash := contentHashPrefix ++ (canonical (sampleDocument id)).text
  createdAt := 0
  pdfObjectKey := artifactObjectKey .receiptComposite (ofString id)

theorem artifactObjectKey_injective (kind : ArtifactKind) :
    Function.Injective (artifactObjectKey kind) := by
  intro id id' same
  unfold artifactObjectKey at same
  have whole := List.append_cancel_left (List.append_cancel_right same)
  exact (List.cons.inj whole).2

/-- The key of a composite is never the key of a receipt. -/
theorem artifactObjectKey_ne (id id' : Text) :
    artifactObjectKey .settlementReceipt id ≠ artifactObjectKey .receiptComposite id' := by
  intro same
  unfold artifactObjectKey at same
  rw [List.append_assoc, List.append_assoc, List.append_assoc, List.append_assoc] at same
  have kinds := congrArg List.head? (List.append_cancel_left same)
  exact absurd (Option.some.inj kinds) (by decide : unit 's' ≠ unit 'r')

/-- Exports find the receipt and each other's rows. -/
theorem sample_exports {rows : List PrintedRow} {id : String}
    (reads : readSources Literal sampleSettlement rows = .ok (some sampleSources))
    (free : Free (sampleRow id) rows) :
    exportComposite Literal (fun text => text) sampleScope sampleSettlement (ofString id) 0 rows =
      .ok (.ok (sampleIssued id), rows ++ [sampleRow id]) := by
  apply exportComposite_eq_ok.mpr
  refine ⟨sampleSources, ⟨.receiptComposite, sampleDocument id⟩, reads, rfl, ?_⟩
  apply persistArtifact_eq_ok.mpr
  refine ⟨(canonical (sampleDocument id)).text, canonicalize_text _ rfl, rfl, ?_⟩
  exact insertArtifact_eq_ok.mpr ⟨free, rfl⟩

theorem listArtifacts_receipt : listArtifacts sampleSettlement [sampleReceipt] = [sampleReceipt] := by
  simp [listArtifacts, sampleReceipt]

theorem listArtifacts_both (id : String) :
    listArtifacts sampleSettlement [sampleReceipt, sampleRow id] =
      [sampleReceipt, sampleRow id] := by
  have before : Before sampleReceipt (sampleRow id) := .inl Nat.zero_lt_two
  have ours : ([sampleReceipt, sampleRow id].filter fun row =>
      row.settlementId = sampleSettlement) = [sampleReceipt, sampleRow id] := by
    simp [sampleReceipt, sampleRow]
  rw [listArtifacts, ours, List.insertionSort_cons]
  exact List.orderedInsert_cons_of_le Before [] before

theorem readSources_receipt :
    readSources Literal sampleSettlement [sampleReceipt] = .ok (some sampleSources) := by
  have empty : (Value.object [] : Value Literal).Plain := trivial
  have source : sourceOf Literal sampleReceipt = some sampleSources.receipt := by
    rw [sourceOf, sampleReceipt, parseJson_text empty rfl]
    rfl
  rw [readSources, listArtifacts_receipt]
  dsimp only
  rw [List.find?_cons_of_pos rfl]
  dsimp only
  rw [source]
  rfl

theorem sources_both (id : String) : sources sampleSettlement [sampleReceipt] =
    sources sampleSettlement [sampleReceipt, sampleRow id] := by
  rw [sources, sources, listArtifacts_receipt, listArtifacts_both]
  rfl

theorem free_first : Free (sampleRow "rcc_1") [sampleReceipt] := by
  intro old mem
  cases List.mem_singleton.mp mem
  refine ⟨?_, artifactObjectKey_ne _ _, ?_⟩
  · exact fun same => absurd (ofString_injective same) (by decide)
  · intro _ composite
    cases composite

theorem free_second : Free (sampleRow "rcc_2") [sampleReceipt, sampleRow "rcc_1"] := by
  have ids : ofString "rcc_1" ≠ ofString "rcc_2" :=
    fun same => absurd (ofString_injective same) (by decide)
  intro old mem
  rcases List.mem_cons.mp mem with rfl | mem
  · refine ⟨?_, artifactObjectKey_ne _ _, ?_⟩
    · exact fun same => absurd (ofString_injective same) (by decide)
    · intro _ composite
      cases composite
  · cases List.mem_singleton.mp mem
    refine ⟨ids, fun same => ids (artifactObjectKey_injective _ same), ?_⟩
    intro receipt
    cases receipt

theorem first_export : exportComposite Literal (fun text => text) sampleScope sampleSettlement
    (ofString "rcc_1") 0 [sampleReceipt] =
      .ok (.ok (sampleIssued "rcc_1"), [sampleReceipt, sampleRow "rcc_1"]) :=
  sample_exports readSources_receipt free_first

theorem second_export : exportComposite Literal (fun text => text) sampleScope sampleSettlement
    (ofString "rcc_2") 0
    (run (step Literal fun text => text) [sampleReceipt, sampleRow "rcc_1"] []) =
      .ok (.ok (sampleIssued "rcc_2"),
        [sampleReceipt, sampleRow "rcc_1"] ++ [sampleRow "rcc_2"]) :=
  sample_exports ((readSources_eq (sources_both "rcc_1")).symm.trans readSources_receipt)
    free_second

theorem exports_of_receipt_differ :
    (sampleIssued "rcc_1").contentHash ≠ (sampleIssued "rcc_2").contentHash ∧
      ∃ found : Sources Literal,
        Exported Literal sampleScope sampleSettlement found (sampleIssued "rcc_1") ∧
          Exported Literal sampleScope sampleSettlement found (sampleIssued "rcc_2") :=
  exports_differ Function.injective_id first_export second_export (sources_both "rcc_1")

/-- Exports of what has not changed do not have one hash. -/
theorem not_one_hash : ¬∀ (scope : TenantScope) (settlementId compositeId compositeId' : Text)
    (now now' : Nat) (rows after last : List PrintedRow) (between : List Call)
    (issued issued' : IssuedArtifact),
    exportComposite Literal (fun text => text) scope settlementId compositeId now rows =
        .ok (.ok issued, after) →
      exportComposite Literal (fun text => text) scope settlementId compositeId' now'
          (run (step Literal fun text => text) after between) = .ok (.ok issued', last) →
        sources settlementId rows =
            sources settlementId (run (step Literal fun text => text) after between) →
          issued.contentHash = issued'.contentHash := by
  intro same
  apply contentHash_ne Function.injective_id first_export second_export
  exact same _ _ _ _ _ _ _ _ _ _ _ _ first_export second_export (sources_both "rcc_1")

end InrSettle.Composite
