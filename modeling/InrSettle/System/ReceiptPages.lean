import InrSettle.Domain.ReceiptTemplate
import InrSettle.Library.Markup
import InrSettle.System.Artifacts

/-!
# Pages of receipts

What a page that was made of a document is read as: one row for each field, whatever the texts of
the document hold.
-/

namespace InrSettle.Template

open Js Markup

variable {N : Type} [Js.NumberFormat N] {toUpperCase : Text → Text}

/-! ### Escaping -/

/-- What is written for a unit. -/
def escapeUnit (u : CodeUnit) : Text :=
  if u = unit '&' then ofString "&amp;"
  else if u = unit '<' then ofString "&lt;"
  else if u = unit '>' then ofString "&gt;"
  else if u = unit '"' then ofString "&quot;"
  else if u = unit '\x27' then ofString "&#39;"
  else [u]

theorem replaceUnit_append (u : CodeUnit) (by_ : String) (text more : Text) :
    replaceUnit u by_ (text ++ more) = replaceUnit u by_ text ++ replaceUnit u by_ more :=
  List.flatMap_append

theorem escapeHtml_append (text more : Text) :
    escapeHtml (text ++ more) = escapeHtml text ++ escapeHtml more := by
  simp only [escapeHtml, replaceUnit_append]

theorem replaceUnit_singleton (u v : CodeUnit) (by_ : String) :
    replaceUnit u by_ [v] = if v = u then ofString by_ else [v] :=
  List.flatMap_singleton _ _

theorem escapeHtml_singleton (u : CodeUnit) : escapeHtml [u] = escapeUnit u := by
  by_cases amp : u = unit '&'
  · subst amp
    decide
  by_cases lt : u = unit '<'
  · subst lt
    decide
  by_cases gt : u = unit '>'
  · subst gt
    decide
  by_cases quote : u = unit '"'
  · subst quote
    decide
  rw [escapeHtml, replaceUnit_singleton, if_neg amp, replaceUnit_singleton, if_neg lt,
    replaceUnit_singleton, if_neg gt, replaceUnit_singleton, if_neg quote, replaceUnit_singleton,
    escapeUnit, if_neg amp, if_neg lt, if_neg gt, if_neg quote]

/-- The replacements, one after the other, escape each unit. -/
theorem escapeHtml_eq (text : Text) : escapeHtml text = text.flatMap escapeUnit := by
  induction text with
  | nil => rfl
  | cons u text ih =>
    rw [← List.singleton_append, escapeHtml_append, escapeHtml_singleton, ih]
    rfl

theorem escapes_escapeUnit : Escapes escapeUnit := by
  intro u
  by_cases amp : u = unit '&'
  · subst amp
    exact .reference (ofString "amp") (by decide) (by decide)
  by_cases lt : u = unit '<'
  · subst lt
    exact .reference (ofString "lt") (by decide) (by decide)
  by_cases gt : u = unit '>'
  · subst gt
    exact .reference (ofString "gt") (by decide) (by decide)
  by_cases quote : u = unit '"'
  · subst quote
    exact .reference (ofString "quot") (by decide) (by decide)
  by_cases apostrophe : u = unit '\x27'
  · subst apostrophe
    exact .reference (ofString "#39") (by decide) (by decide)
  rw [escapeUnit, if_neg amp, if_neg lt, if_neg gt, if_neg quote, if_neg apostrophe]
  exact .itself lt amp quote

theorem fills_escapeHtml (text : Text) : Fills (escapeHtml text) (units (shown text)) := by
  rw [escapeHtml_eq]
  exact fills_text escapes_escapeUnit text

theorem fills_ofString (text : String) (plain : shown (ofString text) = ofString text)
    (itself : escapeHtml (ofString text) = ofString text) :
    Fills (ofString text) (units (ofString text)) := by
  have fills := fills_escapeHtml (ofString text)
  rwa [itself, plain] at fills

/-! ### The nodes of a page -/

/-- An element with its class. -/
def classed (name class_ : String) (children : List Node) : Node :=
  .element (ofString name) [(ofString "class", ofString class_)] children

def plainElement (name : String) (children : List Node) : Node :=
  .element (ofString name) [] children

variable (toUpperCase) in
/-- A row with its label and its field. -/
def rowNode (key : Text) (nested : Bool) (field : List Node) : Node :=
  .element (ofString "div")
    [(ofString "class", ofString (if nested then "row row-block" else "row")),
      (ofString "data-field", shownValue key)]
    [classed "div" "label" (units (shown (humanLabel toUpperCase key))),
      classed "div" "field" field]

section Nodes

variable (toUpperCase)

mutual

/-- What a field is read as. -/
def valueNodes (key : Text) : Value N → List Node
  | .undefined => []
  | .null => [classed "span" "empty" [.unit (unit '—')]]
  | .bigint value => units (shown (decimal value))
  | .bool value => units (ofString (if value then "Yes" else "No"))
  | .number value => units (shown (numberText value))
  | .string value =>
    [classed "span" (if key ∈ hashFields then "mono wrap" else "value") (units (shown value))]
  | .array [] => [classed "span" "empty" (units (ofString "None"))]
  | .array (item :: items) => [classed "div" "nested" (itemNodes 1 (item :: items))]
  | .object members =>
    match asMoney (.object members) with
    | some amount => [classed "span" "money" (units (shown (moneyText amount)))]
    | none => [classed "div" "nested" (memberNodes members)]

def itemNodes (number : Nat) : List (Value N) → List Node
  | [] => []
  | item :: rest => rowNode toUpperCase (decimal number) (isNested item)
      (valueNodes (decimal number) item) :: itemNodes (number + 1) rest

def memberNodes : List (Text × Value N) → List Node
  | [] => []
  | (key, value) :: rest =>
    rowNode toUpperCase key (isNested value) (valueNodes key value) :: memberNodes rest

end

end Nodes

/-! ### Rows -/

theorem closes_div : EndsTag (ofString "</div>") (ofString "div") := by
  intro afterReturn attributes children outer stack
  rfl

theorem closes_span : EndsTag (ofString "</span>") (ofString "span") := by
  intro afterReturn attributes children outer stack
  rfl

theorem opens_row (key : Text) (nested : Bool) :
    StartsTag (ofString (if nested then "<div class=\"row row-block\" data-field=\"" else
      "<div class=\"row\" data-field=\"") ++ (escapeHtml key ++ ofString "\">")) (ofString "div")
      [(ofString "class", ofString (if nested then "row row-block" else "row")),
        (ofString "data-field", shownValue key)] := by
  intro afterReturn stack
  have opened : Leads ⟨.data afterReturn, stack⟩
      (ofString (if nested then "<div class=\"row row-block\" data-field=\"" else
        "<div class=\"row\" data-field=\""))
      ⟨.value ⟨ofString "div",
        [(ofString "class", ofString (if nested then "row row-block" else "row"))]⟩
        (ofString "data-field") [] false, stack⟩ := by
    cases nested <;> rfl
  obtain ⟨last, inside⟩ := leads_value escapes_escapeUnit key ⟨ofString "div",
    [(ofString "class", ofString (if nested then "row row-block" else "row"))]⟩
    (ofString "data-field") [] false stack
  rw [← escapeHtml_eq] at inside
  exact opened.append (inside.append rfl)

theorem reads_rowText (key : Text) (nested : Bool) {field : Text} {nodes : List Node}
    (fills : Fills field nodes) :
    ReadAs (rowText toUpperCase key nested field) [rowNode toUpperCase key nested nodes] := by
  have label : StartsTag (ofString "<div class=\"label\">") (ofString "div")
    [(ofString "class", ofString "label")] := fun _ _ => rfl
  have inner : StartsTag (ofString "<div class=\"field\">") (ofString "div")
    [(ofString "class", ofString "field")] := fun _ _ => rfl
  have labelled := label.reads (fills_escapeHtml (humanLabel toUpperCase key)) closes_div
  have filled := inner.reads fills closes_div
  exact (opens_row key nested).reads (labelled.append filled).fills closes_div

/-- The classes of the spans. -/
def spanClasses : List String := ["empty", "money", "mono wrap", "value", "mono"]

theorem reads_span {class_ : String} (known : class_ ∈ spanClasses) {content : Text}
    {nodes : List Node} (fills : Fills content nodes) :
    ReadAs (spanText class_ content) [classed "span" class_ nodes] := by
  have opens : StartsTag (ofString ("<span class=\"" ++ class_ ++ "\">")) (ofString "span")
      [(ofString "class", ofString class_)] := by
    intro afterReturn stack
    simp only [spanClasses, List.mem_cons, List.not_mem_nil, or_false] at known
    rcases known with rfl | rfl | rfl | rfl | rfl <;> rfl
  exact opens.reads fills closes_span

theorem reads_nested {rows : List Text} {nodes : List Node}
    (each : List.Forall₂ ReadAs rows (nodes.map fun node => [node])) :
    ReadAs (nestedText rows.flatten) [classed "div" "nested" nodes] := by
  have opens : StartsTag (ofString "<div class=\"nested\">") (ofString "div")
    [(ofString "class", ofString "nested")] := fun _ _ => rfl
  have fills := fills_flatten each
  rw [← List.flatMap_def, List.flatMap_singleton'] at fills
  exact opens.reads fills closes_div

mutual

/-- A field that is rendered is read as its nodes. -/
theorem fills_renderValue (key : Text) : ∀ (value : Value N) {html : Text},
    renderValue toUpperCase key value = some html →
      Fills html (valueNodes toUpperCase key value)
  | .undefined, html, made => by cases made
  | .null, html, made => by
    cases made
    refine (reads_span (by decide) ?_).fills
    exact fun frame stack => ⟨false, rfl⟩
  | .bigint value, html, made => by
    cases made
    exact fills_escapeHtml (decimal value)
  | .bool value, html, made => by
    cases made
    cases value
    · exact fills_ofString "No" (by decide) (by decide)
    · exact fills_ofString "Yes" (by decide) (by decide)
  | .number value, html, made => by
    cases made
    exact fills_escapeHtml (numberText value)
  | .string value, html, made => by
    cases made
    refine (reads_span ?_ (fills_escapeHtml value)).fills
    split <;> decide
  | .array [], html, made => by
    cases made
    exact (reads_span (by decide) (fills_ofString "None" (by decide) (by decide))).fills
  | .array (item :: items), html, made => by
    rw [renderValue] at made
    obtain ⟨rows, rendered, rfl⟩ := Option.map_eq_some_iff.mp made
    exact (reads_nested (reads_renderItems 1 (item :: items) rendered)).fills
  | .object members, html, made => by
    rw [renderValue] at made
    rw [valueNodes]
    cases is : asMoney (.object members) with
    | some amount =>
      rw [is] at made
      cases made
      exact (reads_span (by decide) (fills_escapeHtml (moneyText amount))).fills
    | none =>
      rw [is] at made
      obtain ⟨rows, rendered, rfl⟩ := Option.map_eq_some_iff.mp made
      exact (reads_nested (reads_renderMembers members rendered)).fills

theorem reads_renderItems (number : Nat) : ∀ (items : List (Value N)) {rows : List Text},
    renderItems toUpperCase number items = some rows →
      List.Forall₂ ReadAs rows ((itemNodes toUpperCase number items).map fun node => [node])
  | [], rows, made => by
    cases made
    exact .nil
  | item :: rest, rows, made => by
    rw [renderItems] at made
    obtain ⟨field, isField, made⟩ := Option.bind_eq_some_iff.mp made
    obtain ⟨others, isOthers, made⟩ := Option.bind_eq_some_iff.mp made
    cases made
    exact .cons (reads_rowText _ _ (fills_renderValue _ item isField))
      (reads_renderItems (number + 1) rest isOthers)

theorem reads_renderMembers : ∀ (members : List (Text × Value N)) {rows : List Text},
    renderMembers toUpperCase members = some rows →
      List.Forall₂ ReadAs rows ((memberNodes toUpperCase members).map fun node => [node])
  | [], rows, made => by
    cases made
    exact .nil
  | (key, value) :: rest, rows, made => by
    rw [renderMembers] at made
    obtain ⟨field, isField, made⟩ := Option.bind_eq_some_iff.mp made
    obtain ⟨others, isOthers, made⟩ := Option.bind_eq_some_iff.mp made
    cases made
    exact .cons (reads_rowText _ _ (fills_renderValue key value isField))
      (reads_renderMembers rest isOthers)

end

/-! ### The page -/

def headNode (kind : ArtifactKind) : Node :=
  plainElement "head"
    [.element (ofString "meta") [(ofString "charset", ofString "utf-8")] [],
      plainElement "title" (units (shown (ofString (titleOf kind)))),
      plainElement "style" (units style)]

def subjectNodes (subject : Text) : List Node :=
  if subject = [] then [] else
    [classed "div" "subject" (units (shown (ofString "Settlement " ++ subject)))]

def headerNode (kind : ArtifactKind) (subject : Text) : Node :=
  plainElement "header"
    (plainElement "h1" (units (shown (ofString (titleOf kind)))) :: subjectNodes subject)

def footerNode (contentHash : Text) : Node :=
  plainElement "footer"
    (units (ofString footerNote) ++ [classed "span" "mono" (units (shown contentHash))])

variable (toUpperCase) in
/-- What the page of a document is read as. -/
def pageNode (kind : ArtifactKind) (document : List (Text × Value N)) (contentHash : Text) : Node :=
  .element (ofString "html") [(ofString "lang", ofString "en")]
    [headNode kind, plainElement "body"
      [headerNode kind (subjectOf document),
        plainElement "main" (memberNodes toUpperCase (shownMembers document)),
        footerNode contentHash]]

theorem plain_cons {u : CodeUnit} {cs : List Char} {pieces : List String}
    (plain : u ∉ cs.flatMap unitsOf) (others : ∀ piece ∈ pieces, u ∉ ofString piece) :
    ∀ piece ∈ String.ofList cs :: pieces, u ∉ ofString piece := by
  rw [List.forall_mem_cons, ofString, String.toList_ofList]
  exact ⟨plain, others⟩

theorem plain_style : unit '<' ∉ style := by
  have plain : ∀ piece ∈ stylePieces, unit '<' ∉ ofString piece := by
    unfold stylePieces
    repeat refine plain_cons (by decide +kernel) ?_
    exact fun _ mem => absurd mem List.not_mem_nil
  rw [style, List.mem_flatMap]
  rintro ⟨piece, mem, inPiece⟩
  exact plain piece mem inPiece

theorem reads_head (kind : ArtifactKind) :
    ReadAs (headText (escapeHtml (ofString (titleOf kind)))) [headNode kind] := by
  have head : StartsTag (ofString "<head>") (ofString "head") [] := fun _ _ => rfl
  have charset : ReadAs (ofString "<meta charset=\"utf-8\">")
    [.element (ofString "meta") [(ofString "charset", ofString "utf-8")] []] := fun _ _ _ => rfl
  have title : StartsTag (ofString "<title>") (ofString "title") [] := fun _ _ => rfl
  have styleOpens : ∀ afterReturn stack, Leads ⟨.data afterReturn, stack⟩ (ofString "<style>")
    ⟨.raw [], ⟨ofString "style", [], []⟩ :: stack⟩ := fun _ _ => rfl
  have styled := reads_raw styleOpens plain_style (by decide)
  have titleCloses : EndsTag (ofString "</title>") (ofString "title") := fun _ _ _ _ _ => rfl
  have headCloses : EndsTag (ofString "</head>") (ofString "head") := fun _ _ _ _ _ => rfl
  have titled := title.reads (fills_escapeHtml (ofString (titleOf kind))) titleCloses
  have ending : ofString "</" ++ ofString "style" ++ ofString ">" = ofString "</style>" := rfl
  rw [ending] at styled
  exact head.reads ((charset.append titled).append styled).fills headCloses

theorem reads_header (kind : ArtifactKind) (subject : Text) :
    ReadAs (headerText (escapeHtml (ofString (titleOf kind))) subject)
      [headerNode kind subject] := by
  have header : StartsTag (ofString "<header>") (ofString "header") [] := fun _ _ => rfl
  have h1 : StartsTag (ofString "<h1>") (ofString "h1") [] := fun _ _ => rfl
  have closed : EndsTag (ofString "</h1>") (ofString "h1") := fun _ _ _ _ _ => rfl
  have titled := h1.reads (fills_escapeHtml (ofString (titleOf kind))) closed
  have named : Fills (if subject = [] then [] else ofString "<div class=\"subject\">" ++
      (ofString "Settlement " ++ escapeHtml subject ++ ofString "</div>"))
      (subjectNodes subject) := by
    rw [subjectNodes]
    split
    · exact fills_flatten .nil
    · have opens : StartsTag (ofString "<div class=\"subject\">") (ofString "div")
        [(ofString "class", ofString "subject")] := fun _ _ => rfl
      have text := fills_escapeHtml (ofString "Settlement " ++ subject)
      have itself : escapeHtml (ofString "Settlement ") = ofString "Settlement " := by decide
      rw [escapeHtml_append, itself] at text
      exact (opens.reads text closes_div).fills
  exact header.reads (titled.fills_append named) fun _ _ _ _ _ => rfl

theorem reads_footer (contentHash : Text) :
    ReadAs (footerText contentHash) [footerNode contentHash] := by
  have footer : StartsTag (ofString "<footer>") (ofString "footer") [] := fun _ _ => rfl
  have text : Fills (ofString footerNote) (units (ofString footerNote)) :=
    fills_ofString footerNote (by decide) (by decide)
  have hash : ReadAs (spanText "mono" (escapeHtml contentHash))
    [classed "span" "mono" (units (shown contentHash))] :=
    reads_span (by decide) (fills_escapeHtml contentHash)
  exact footer.reads (text.append hash) fun _ _ _ _ _ => rfl

/-- A page is read as its nodes, whatever stands in the document. -/
theorem readPage_renderReceiptTemplate {kind : ArtifactKind} {document : List (Text × Value N)}
    {contentHash html : Text}
    (made : renderReceiptTemplate toUpperCase kind document contentHash = some html) :
    readPage html = some [pageNode toUpperCase kind document contentHash] := by
  obtain ⟨rows, rendered, is⟩ := Option.bind_eq_some_iff.mp made
  cases is
  have opened : StartsTag (ofString "<html lang=\"en\">") (ofString "html")
    [(ofString "lang", ofString "en")] := fun _ _ => rfl
  have body : StartsTag (ofString "<body>") (ofString "body") [] := fun _ _ => rfl
  have main : StartsTag (ofString "<main>") (ofString "main") [] := fun _ _ => rfl
  have each := fills_flatten (reads_renderMembers (shownMembers document) rendered)
  rw [← List.flatMap_def, List.flatMap_singleton'] at each
  have mainCloses : EndsTag (ofString "</main>") (ofString "main") := fun _ _ _ _ _ => rfl
  have bodyCloses : EndsTag (ofString "</body>") (ofString "body") := fun _ _ _ _ _ => rfl
  have htmlCloses : EndsTag (ofString "</html>") (ofString "html") := fun _ _ _ _ _ => rfl
  have rowed := main.reads each mainCloses
  have inner := ((reads_header kind (subjectOf document)).append rowed).append
    (reads_footer contentHash)
  have bodied := body.reads inner.fills bodyCloses
  have page := opened.reads ((reads_head kind).append bodied).fills htmlCloses
  have declared : ReadAs (ofString "<!doctype html>") [] := by
    intro afterReturn frame stack
    rw [Frame.add_nil]
    rfl
  have whole : readUnits _ _ = some _ := (declared.append page) false ⟨[], [], []⟩ []
  rw [readPage, whole]
  rfl

/-! ### The elements of a page -/

/-- The elements of the template. -/
def elementNames : List Text :=
  ["html", "head", "meta", "title", "style", "body", "header", "h1", "div", "main", "span",
    "footer"].map ofString

/-- Their attributes: none of them names a source, an address or a handler. -/
def attributeNames : List Text := ["lang", "charset", "class", "data-field"].map ofString

/-- Nothing but the elements of the template stands among the nodes. -/
def OfTemplate (nodes : List Node) : Prop :=
  ∀ node ∈ nodes, node.Within elementNames attributeNames

theorem ofTemplate_nil : OfTemplate [] := fun _ mem => absurd mem List.not_mem_nil

theorem ofTemplate_cons {node : Node} {nodes : List Node}
    (first : node.Within elementNames attributeNames) (rest : OfTemplate nodes) :
    OfTemplate (node :: nodes) :=
  List.forall_mem_cons.mpr ⟨first, rest⟩

theorem ofTemplate_single {node : Node} (only : node.Within elementNames attributeNames) :
    OfTemplate [node] :=
  ofTemplate_cons only ofTemplate_nil

theorem class_mem_attributeNames : ofString "class" ∈ attributeNames := by decide

theorem within_classed {name : String} (known : ofString name ∈ elementNames) (class_ : String)
    {children : List Node} (inside : OfTemplate children) :
    (classed name class_ children).Within elementNames attributeNames := by
  refine .element known ?_ inside
  rw [List.forall_mem_singleton]
  exact class_mem_attributeNames

theorem within_plain {name : String} (known : ofString name ∈ elementNames) {children : List Node}
    (inside : OfTemplate children) :
    (plainElement name children).Within elementNames attributeNames :=
  .element known (fun _ mem => absurd mem List.not_mem_nil) inside

theorem within_rowNode (key : Text) (nested : Bool) {field : List Node}
    (inside : OfTemplate field) :
    (rowNode toUpperCase key nested field).Within elementNames attributeNames := by
  refine .element (by decide) ?_ (ofTemplate_cons ?_ (ofTemplate_single ?_))
  · have fieldMem : ofString "data-field" ∈ attributeNames := by decide
    rw [List.forall_mem_cons, List.forall_mem_singleton]
    exact ⟨class_mem_attributeNames, fieldMem⟩
  · exact within_classed (by decide) "label" (within_units _)
  · exact within_classed (by decide) "field" inside

mutual

theorem ofTemplate_valueNodes (key : Text) : ∀ value : Value N,
    OfTemplate (valueNodes toUpperCase key value)
  | .undefined => ofTemplate_nil
  | .null => ofTemplate_single
      (within_classed (by decide) "empty" (ofTemplate_single (.unit (unit '—'))))
  | .bigint _ | .bool _ | .number _ => within_units _
  | .string _ => ofTemplate_single (within_classed (by decide) _ (within_units _))
  | .array [] => ofTemplate_single (within_classed (by decide) "empty" (within_units _))
  | .array (item :: items) =>
    ofTemplate_single (within_classed (by decide) "nested" (ofTemplate_itemNodes 1 (item :: items)))
  | .object members => by
    rw [valueNodes]
    split
    · exact ofTemplate_single (within_classed (by decide) "money" (within_units _))
    · exact ofTemplate_single
        (within_classed (by decide) "nested" (ofTemplate_memberNodes members))

theorem ofTemplate_itemNodes (number : Nat) : ∀ items : List (Value N),
    OfTemplate (itemNodes toUpperCase number items)
  | [] => ofTemplate_nil
  | item :: rest => ofTemplate_cons
      (within_rowNode _ _ (ofTemplate_valueNodes _ item)) (ofTemplate_itemNodes (number + 1) rest)

theorem ofTemplate_memberNodes : ∀ members : List (Text × Value N),
    OfTemplate (memberNodes toUpperCase members)
  | [] => ofTemplate_nil
  | (key, value) :: rest => ofTemplate_cons
      (within_rowNode key _ (ofTemplate_valueNodes key value)) (ofTemplate_memberNodes rest)

end

theorem within_headNode (kind : ArtifactKind) :
    (headNode kind).Within elementNames attributeNames := by
  refine within_plain (by decide) (ofTemplate_cons ?_ (ofTemplate_cons ?_ (ofTemplate_single ?_)))
  · refine .element (by decide) ?_ fun _ mem => absurd mem List.not_mem_nil
    rw [List.forall_mem_singleton]
    decide
  · exact within_plain (by decide) (within_units _)
  · exact within_plain (by decide) (within_units _)

theorem within_headerNode (kind : ArtifactKind) (subject : Text) :
    (headerNode kind subject).Within elementNames attributeNames := by
  have named : OfTemplate (subjectNodes subject) := by
    rw [subjectNodes]
    split
    · exact ofTemplate_nil
    · exact ofTemplate_single (within_classed (by decide) "subject" (within_units _))
  exact within_plain (by decide)
    (ofTemplate_cons (within_plain (by decide) (within_units _)) named)

theorem within_footerNode (contentHash : Text) :
    (footerNode contentHash).Within elementNames attributeNames := by
  refine within_plain (by decide) (List.forall_mem_append.mpr ⟨within_units _, ?_⟩)
  exact ofTemplate_single (within_classed (by decide) "mono" (within_units _))

/-- No element that a text of the document spells out is in the page. -/
theorem within_pageNode (kind : ArtifactKind) (document : List (Text × Value N))
    (contentHash : Text) :
    (pageNode toUpperCase kind document contentHash).Within elementNames attributeNames := by
  refine .element (by decide) ?_ (ofTemplate_cons (within_headNode kind) (ofTemplate_single ?_))
  · rw [List.forall_mem_singleton]
    decide
  · refine within_plain (by decide) (ofTemplate_cons (within_headerNode kind _)
      (ofTemplate_cons ?_ (ofTemplate_single (within_footerNode contentHash))))
    exact within_plain (by decide) (ofTemplate_memberNodes (shownMembers document))

/-! ### Every artifact has a page -/

mutual

/-- What can be serialised can be rendered. -/
theorem isSome_renderValue (key : Text) : ∀ value : Value N, representable value = true →
    (renderValue toUpperCase key value).isSome = true
  | .undefined, able => by cases able
  | .null, _ | .bigint _, _ | .bool _, _ | .number _, _ | .string _, _ | .array [], _ => rfl
  | .array (item :: items), able => by
    rw [renderValue, Option.isSome_map]
    exact isSome_renderItems 1 (item :: items) able
  | .object members, able => by
    rw [renderValue]
    split
    · rfl
    · rw [Option.isSome_map]
      exact isSome_renderMembers members able

theorem isSome_renderItems (number : Nat) : ∀ items : List (Value N),
    representableItems items = true → (renderItems toUpperCase number items).isSome = true
  | [], _ => rfl
  | item :: rest, able => by
    rw [representableItems, Bool.and_eq_true] at able
    obtain ⟨field, isField⟩ :=
      Option.isSome_iff_exists.mp (isSome_renderValue (decimal number) item able.1)
    obtain ⟨rows, isRows⟩ :=
      Option.isSome_iff_exists.mp (isSome_renderItems (number + 1) rest able.2)
    rw [renderItems, isField, isRows]
    rfl

theorem isSome_renderMembers : ∀ members : List (Text × Value N),
    representableMembers members = true → (renderMembers toUpperCase members).isSome = true
  | [], _ => rfl
  | (key, value) :: rest, able => by
    rw [representableMembers, Bool.and_eq_true] at able
    obtain ⟨field, isField⟩ := Option.isSome_iff_exists.mp (isSome_renderValue key value able.1)
    obtain ⟨rows, isRows⟩ := Option.isSome_iff_exists.mp (isSome_renderMembers rest able.2)
    rw [renderMembers, isField, isRows]
    rfl

end

theorem isSome_renderReceiptTemplate {kind : ArtifactKind} {document : List (Text × Value N)}
    {bytes : Text} (serialised : canonicalBytes ⟨kind, .object document⟩ = .ok bytes)
    (contentHash : Text) :
    (renderReceiptTemplate toUpperCase kind document contentHash).isSome = true := by
  have able := representableMembers_iff.mp (canonicalize_iff.mp serialised).1
  have shownAble : representableMembers (shownMembers document) = true :=
    representableMembers_iff.mpr fun member mem => able member (List.mem_filter.mp mem).1
  obtain ⟨rows, rendered⟩ := Option.isSome_iff_exists.mp (isSome_renderMembers _ shownAble)
  rw [renderReceiptTemplate, rendered]
  rfl

/-- A page tells the hash that is printed on it. -/
theorem shown_of_pageNode {kind kind' : ArtifactKind} {document document' : List (Text × Value N)}
    {contentHash contentHash' : Text}
    (same : pageNode toUpperCase kind document contentHash =
      pageNode toUpperCase kind' document' contentHash') :
    shown contentHash = shown contentHash' := by
  simp only [pageNode, plainElement, footerNode, classed, Node.element.injEq, List.cons.injEq,
    List.append_cancel_left_eq, true_and, and_true] at same
  exact units_injective same.2.2.2

/-- What the page of a document is. -/
structure PageOf (toUpperCase : Text → Text) (kind : ArtifactKind)
    (document : List (Text × Value N)) (contentHash html : Text) : Prop where
  /-- It has a row for each field, with the texts of the document as they are. -/
  rows : readPage html = some [pageNode toUpperCase kind document contentHash]
  /-- No text of the document has become an element or an attribute. -/
  template : (pageNode toUpperCase kind document contentHash).Within elementNames attributeNames
  /-- No artifact with another hash has this page. -/
  identified : ∀ (kind' : ArtifactKind) (document' : List (Text × Value N)) (contentHash' : Text),
    renderReceiptTemplate toUpperCase kind' document' contentHash' = some html →
      shown contentHash' = shown contentHash

/-- Every artifact that can be hashed has a page, which shows its document and its hash. -/
theorem receipt_pages (toUpperCase : Text → Text) {kind : ArtifactKind}
    {document : List (Text × Value N)} {bytes : Text}
    (serialised : canonicalBytes ⟨kind, .object document⟩ = .ok bytes) (contentHash : Text) :
    ∃ html, renderReceiptTemplate toUpperCase kind document contentHash = some html ∧
      PageOf toUpperCase kind document contentHash html := by
  obtain ⟨html, made⟩ :=
    Option.isSome_iff_exists.mp (isSome_renderReceiptTemplate serialised contentHash)
  have rows := readPage_renderReceiptTemplate made
  refine ⟨html, made, rows, within_pageNode kind document contentHash, ?_⟩
  intro kind' document' contentHash' made'
  have rows' := readPage_renderReceiptTemplate made'
  rw [rows, Option.some_inj, List.singleton_inj] at rows'
  exact (shown_of_pageNode rows').symm

/-- A receipt of a beneficiary whose name is markup. -/
def sampleReceipt : List (Text × Value Literal) :=
  [(ofString "artifact", .string (ofString "settlement_receipt")),
    (ofString "settlement_id", .string (ofString "stl_1")),
    (ofString "beneficiary_name", .string (ofString "<script>alert(1)</script>")),
    (ofString "recipient_amount", .object [(ofString "currency", .string (ofString "INR")),
      (ofString "minor_units", .string (ofString "5000000"))]),
    (ofString "fees", .array [])]

theorem receipt_pages_sample : ∃ html,
    renderReceiptTemplate id .settlementReceipt sampleReceipt (ofString "sha256:00") = some html ∧
      PageOf id .settlementReceipt sampleReceipt (ofString "sha256:00") html :=
  receipt_pages id (canonicalize_text (.object sampleReceipt) rfl) (ofString "sha256:00")

end InrSettle.Template
