import InrSettle.Domain.Artifact
import InrSettle.Domain.Money
import InrSettle.Library.JsConvert

/-!
# The receipt template

The page that is made of an artifact's document, to be shown and to be printed.
-/

namespace InrSettle.Template

open Js

variable {N : Type} [Js.NumberFormat N]

/-! ### Escaping -/

/-- `value.replace(/u/g, by)`. -/
def replaceUnit (u : CodeUnit) (by_ : String) (value : Text) : Text :=
  value.flatMap fun v => if v = u then ofString by_ else [v]

def escapeHtml (value : Text) : Text :=
  replaceUnit (unit '\x27') "&#39;" (replaceUnit (unit '"') "&quot;" (replaceUnit (unit '>') "&gt;"
    (replaceUnit (unit '<') "&lt;" (replaceUnit (unit '&') "&amp;" value))))

/-! ### Fields -/

section Fields

-- `text.toUpperCase()`.
variable (toUpperCase : Text → Text)

def humanLabel (key : Text) : Text :=
  let spaced := replaceUnit (unit '_') " " key
  toUpperCase (spaced.take 1) ++ spaced.drop 1

/-- `isCurrencyCode`, with the code it finds. -/
def currencyOf (text : Text) : Option CurrencyCode :=
  CurrencyCode.all.find? fun code => ofString code.wire = text

def unitsOf? : Value N → Option Int
  | .string text => bigIntOf text
  | .bigint value => some value
  | .undefined | .null | .bool _ | .number _ | .array _ | .object _ => none

/-- The money that a value has the shape of. -/
def asMoney : Value N → Option Amount
  | .object members =>
    match members.lookup (ofString "currency"), members.lookup (ofString "minor_units") with
    | some (.string currency), some value =>
      (currencyOf currency).bind fun code => (unitsOf? value).map (⟨code, ·⟩)
    | _, _ => none
  | .undefined | .null | .bool _ | .number _ | .bigint _ | .string _ | .array _ => none

/-- `HASH_FIELDS`. -/
def hashFields : List Text :=
  [ofString "content_hash", ofString "receipt_content_hash", ofString "source_content_hash",
    ofString "authorized_terms_hash"]

/-- `SUPPRESSED`. -/
def suppressed : List Text :=
  [ofString "artifact", ofString "schema", ofString "workspace_id", ofString "environment"]

def moneyFormat (amount : Amount) : NumberFormat :=
  if amount.currency = .inr then .indian else .international

def moneyText (amount : Amount) : Text := ofString (formatMoney amount (moneyFormat amount))

def isNested : Value N → Bool
  | .array _ | .object _ => true
  | .undefined | .null | .bool _ | .number _ | .bigint _ | .string _ => false

/-- `renderRow`, of a value that has been rendered. -/
def rowText (key : Text) (nested : Bool) (field : Text) : Text :=
  ofString (if nested then "<div class=\"row row-block\" data-field=\"" else
    "<div class=\"row\" data-field=\"") ++ (escapeHtml key ++ ofString "\">") ++
  (ofString "<div class=\"label\">" ++ (escapeHtml (humanLabel toUpperCase key) ++
    ofString "</div>") ++
  (ofString "<div class=\"field\">" ++ (field ++ ofString "</div>")) ++ ofString "</div>")

def spanText (class_ : String) (text : Text) : Text :=
  ofString ("<span class=\"" ++ class_ ++ "\">") ++ (text ++ ofString "</span>")

def nestedText (rows : Text) : Text :=
  ofString "<div class=\"nested\">" ++ (rows ++ ofString "</div>")

mutual

/-- `renderValue`; nothing where it throws. -/
def renderValue (key : Text) : Value N → Option Text
  | .undefined => none
  | .null => some (spanText "empty" (ofString "&mdash;"))
  | .bigint value => some (escapeHtml (decimal value))
  | .bool value => some (ofString (if value then "Yes" else "No"))
  | .number value => some (escapeHtml (numberText value))
  | .string value =>
    some (spanText (if key ∈ hashFields then "mono wrap" else "value") (escapeHtml value))
  | .array [] => some (spanText "empty" (ofString "None"))
  | .array (item :: items) =>
    (renderItems 1 (item :: items)).map fun rows => nestedText rows.flatten
  | .object members =>
    match asMoney (.object members) with
    | some amount => some (spanText "money" (escapeHtml (moneyText amount)))
    | none => (renderMembers members).map fun rows => nestedText rows.flatten

/-- The rows of the items, which are numbered. -/
def renderItems (number : Nat) : List (Value N) → Option (List Text)
  | [] => some []
  | item :: rest => do
    let key := decimal number
    let field ← renderValue key item
    let rows ← renderItems (number + 1) rest
    return rowText toUpperCase key (isNested item) field :: rows

def renderMembers : List (Text × Value N) → Option (List Text)
  | [] => some []
  | (key, value) :: rest => do
    let field ← renderValue key value
    let rows ← renderMembers rest
    return rowText toUpperCase key (isNested value) field :: rows

end

/-! ### The page -/

/-- `TITLES`. -/
def titleOf : ArtifactKind → String
  | .settlementReceipt => "Settlement receipt"
  | .returnNotice => "Return notice"
  | .receiptComposite => "Settlement receipt and return notices"

/-- The pieces of `STYLE`. -/
def stylePieces : List String :=
  ["\n:root \x7b color-scheme: light; \x7d\n",
    "* \x7b box-sizing: border-box; \x7d\n",
    "body \x7b\n",
    "  margin: 0; padding: 32px 40px;\n",
    "  font: 10.5px/1.55 -apple-system, \"Segoe UI\", Roboto, ",
    "\"Helvetica Neue\", Arial, sans-serif;\n",
    "  color: #16181d; background: #fff;\n",
    "\x7d\n",
    "header \x7b border-bottom: 2px solid #16181d; padding-bottom: ",
    "12px; margin-bottom: 20px; \x7d\n",
    "h1 \x7b margin: 0; font-size: 17px; letter-spacing: -0.01em; \x7d\n",
    ".subject \x7b margin-top: 4px; font-size: 11px; color: #5a6070; \x7d\n",
    ".row \x7b display: flex; gap: 16px; padding: 4px 0; ",
    "align-items: baseline; \x7d\n",
    ".row-block \x7b display: block; padding-top: 10px; \x7d\n",
    ".label \x7b flex: 0 0 190px; color: #5a6070; \x7d\n",
    ".row-block > .label \x7b\n",
    "  flex: none; font-weight: 600; color: #16181d; ",
    "text-transform: uppercase;\n",
    "  font-size: 9px; letter-spacing: 0.07em; margin-bottom: 4px;\n",
    "  border-bottom: 1px solid #e3e6ec; padding-bottom: 4px;\n",
    "\x7d\n",
    ".field \x7b flex: 1 1 auto; min-width: 0; \x7d\n",
    ".nested \x7b margin-left: 0; \x7d\n",
    ".nested .label \x7b flex-basis: 174px; \x7d\n",
    ".money \x7b font-variant-numeric: tabular-nums; font-weight: 600; \x7d\n",
    ".mono \x7b font-family: ui-monospace, \"SF Mono\", Menlo, ",
    "Consolas, monospace; font-size: 9.5px; \x7d\n",
    ".wrap \x7b overflow-wrap: anywhere; \x7d\n",
    ".empty \x7b color: #9aa1b1; \x7d\n",
    "footer \x7b\n",
    "  margin-top: 24px; padding-top: 12px; border-top: 1px solid #e3e6ec;\n",
    "  font-size: 9.5px; color: #5a6070;\n",
    "\x7d\n",
    "footer .mono \x7b display: block; margin-top: 3px; color: #16181d; \x7d\n",
    "@page \x7b size: A4; margin: 14mm; \x7d\n",
    "@media print \x7b body \x7b padding: 0; \x7d \x7d\n"]

/-- `STYLE`. -/
def style : Text := stylePieces.flatMap ofString

/-- The settlement that a document names. -/
def subjectOf (document : List (Text × Value N)) : Text :=
  match document.lookup (ofString "settlement_id") with
  | some (.string subject) => subject
  | _ => []

def shownMembers (document : List (Text × Value N)) : List (Text × Value N) :=
  document.filter fun member => member.1 ∉ suppressed

def headText (title : Text) : Text :=
  ofString "<head>" ++ (ofString "<meta charset=\"utf-8\">" ++
    (ofString "<title>" ++ (title ++ ofString "</title>")) ++
    (ofString "<style>" ++ (style ++ ofString "</style>")) ++ ofString "</head>")

def headerText (title subject : Text) : Text :=
  ofString "<header>" ++ (ofString "<h1>" ++ (title ++ ofString "</h1>") ++
    (if subject = [] then [] else ofString "<div class=\"subject\">" ++
      (ofString "Settlement " ++ escapeHtml subject ++ ofString "</div>")) ++ ofString "</header>")

def footerNote : String :=
  "This document is identified by the hash of its canonical serialisation."

def footerText (contentHash : Text) : Text :=
  ofString "<footer>" ++
    (ofString footerNote ++ spanText "mono" (escapeHtml contentHash) ++ ofString "</footer>")

/-- `renderReceiptTemplate`; nothing where it throws. -/
def renderReceiptTemplate (kind : ArtifactKind) (document : List (Text × Value N))
    (contentHash : Text) : Option Text := do
  let rows ← renderMembers toUpperCase (shownMembers document)
  let title := escapeHtml (ofString (titleOf kind))
  return ofString "<!doctype html>" ++ (ofString "<html lang=\"en\">" ++
    (headText title ++ (ofString "<body>" ++ (headerText title (subjectOf document) ++
      (ofString "<main>" ++ (rows.flatten ++ ofString "</main>")) ++ footerText contentHash ++
      ofString "</body>")) ++ ofString "</html>"))

end Fields

end InrSettle.Template
