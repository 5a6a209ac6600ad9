import InrSettle.Library.Csv

/-!
# Batch files

The grid of a file, rupee amounts as people write them, the checks of the header and
of each row below it, and the verdict every row is given.
-/

namespace InrSettle.BatchCsv

open Csv

local instance lawfulBEq_cell : LawfulBEq (List Char) := inferInstance

/-! ### The grid -/

/-- `text.replace(/^\uFEFF/, '')`. -/
def withoutMark : List Char → List Char
  | [] => []
  | c :: rest => if c = '\uFEFF' then rest else c :: rest

/-- A line with one cell that is white space. -/
def Blank : Row → Prop
  | [cell] => Chars.trim cell = []
  | _ => False

instance : DecidablePred Blank
  | [] => inferInstanceAs (Decidable False)
  | [cell] => inferInstanceAs (Decidable (Chars.trim cell = []))
  | _ :: _ :: _ => inferInstanceAs (Decidable False)

def parseCsvGrid (text : List Char) : List Row :=
  (records (withoutMark text)).filter fun row => ¬ Blank row

/-! ### Columns -/

/-- `BATCH_CSV_COLUMNS`. -/
inductive BatchCsvColumn where
  | beneficiaryId | amountInr | purposeCode | externalReference
  deriving DecidableEq, Repr

namespace BatchCsvColumn

def wire : BatchCsvColumn → String
  | beneficiaryId => "beneficiary_id" | amountInr => "amount_inr"
  | purposeCode => "purpose_code" | externalReference => "external_reference"

def all : List BatchCsvColumn := [beneficiaryId, amountInr, purposeCode, externalReference]

def name (column : BatchCsvColumn) : List Char := column.wire.toList

end BatchCsvColumn

/-- `REQUIRED_COLUMNS`. -/
def requiredColumns : List BatchCsvColumn := [.beneficiaryId, .amountInr, .purposeCode]

structure RowError where
  column : Option BatchCsvColumn
  problem : String
  fix : String
  deriving DecidableEq, Repr

/-! ### Rupees -/

/-- `replace(/^₹/, '')`. -/
def withoutSymbol : List Char → List Char
  | [] => []
  | c :: rest => if c = '₹' then rest else c :: rest

/-- The digits at the beginning, and what is left. -/
def wholeAndRest (text : List Char) : List Char × List Char := text.span Char.isDigit

/-- Digits after the point. -/
def isFraction : List Char → Bool
  | '.' :: digits => digits ≠ [] ∧ digits.all Char.isDigit
  | _ => false

/-- `/^\d+(\.\d{1,2})?$/`. -/
def isRupees (text : List Char) : Bool :=
  let (whole, rest) := wholeAndRest text
  whole ≠ [] ∧ (rest = [] ∨ (isFraction rest ∧ rest.length ≤ 3))

/-- `/^\d+\.\d{3,}$/`. -/
def isTooFine (text : List Char) : Bool :=
  let (whole, rest) := wholeAndRest text
  whole ≠ [] ∧ isFraction rest ∧ 4 ≤ rest.length

structure Refused where
  problem : String
  fix : String
  deriving DecidableEq, Repr

def quoted (text : List Char) : String := "\"" ++ String.ofList text ++ "\""

/-- `padEnd(2, '0')`. -/
def padEnd (digits : List Char) : List Char := digits ++ List.replicate (2 - digits.length) '0'

def paise (text : List Char) : Nat :=
  let (whole, rest) := wholeAndRest text
  Nat.ofDigitChars 10 whole 0 * 100 + Nat.ofDigitChars 10 (padEnd (rest.drop 1)) 0

def cleaned (input : List Char) : List Char :=
  Chars.trim ((withoutSymbol (Chars.trim input)).filter (· ≠ ','))

/-- The amount in paise. -/
def parseRupees (input : List Char) : Except Refused Nat :=
  let text := cleaned input
  if text = [] then
    .error ⟨"the amount is empty", "enter the amount in rupees, for example 12000 or 12000.50"⟩
  else if ¬ isRupees text then
    if text.head? = some '-' then
      .error ⟨quoted (Chars.trim input) ++ " is negative",
        "enter a positive amount; a batch pays money out, " ++
          "and a refund is a separate settlement"⟩
    else if isTooFine text then
      .error ⟨quoted (Chars.trim input) ++ " has more than two decimal places",
        "round the amount to paise yourself, to two decimal places — " ++
          "we will not round it for you"⟩
    else
      .error ⟨quoted (Chars.trim input) ++ " is not a rupee amount",
        "use digits only, with an optional two decimal places, for example 12000 or 12000.50"⟩
  else if paise text = 0 then
    .error ⟨"the amount is zero", "enter an amount greater than zero, or delete the row"⟩
  else .ok (paise text)

/-! ### Rows -/

/-- A record of texts by name, in the order the names were written. -/
abbrev Raw := List (List Char × List Char)

structure ParsedRow where
  line : Nat
  raw : Raw
  beneficiaryId : List Char
  amountMinor : Nat
  purposeCode : List Char
  externalReference : Option (List Char)
  deriving DecidableEq

inductive RowResult where
  | accepted (row : ParsedRow)
  | rejected (line : Nat) (raw : Raw) (errors : List RowError)
  deriving DecidableEq

namespace RowResult

def line : RowResult → Nat
  | accepted row => row.line
  | rejected line _ _ => line

end RowResult

structure CsvValidationOptions where
  purposeCodes : List (List Char)
  maxRows : Option Nat := none

/-- `DEFAULT_MAX_ROWS`. -/
def defaultMaxRows : Nat := 10000

def CsvValidationOptions.limit (options : CsvValidationOptions) : Nat :=
  options.maxRows.getD defaultMaxRows

/-- `[...purposeCodes].join(', ')` of the set of codes. -/
def CsvValidationOptions.choices (options : CsvValidationOptions) : String :=
  ", ".intercalate (options.purposeCodes.eraseDups.map String.ofList)

/-- The cells under the columns that have a name; writing a text to `__proto__` writes nothing. -/
def rawOf (header : List (List Char)) (cells : Row) : Raw :=
  (header.zipIdx.filter fun (name, _) => name ≠ [] ∧ name ≠ "__proto__".toList).map
    fun (name, i) => (name, Chars.trim (cells.getD i []))

/-- `raw[column] ?? ''`. -/
def field (raw : Raw) (column : BatchCsvColumn) : List Char := (raw.lookup column.name).getD []

/-- `/^ben_[A-Za-z0-9]+$/`. -/
def isBeneficiaryId (text : List Char) : Bool :=
  let rest := text.drop 4
  text.take 4 = "ben_".toList ∧ rest ≠ [] ∧ rest.all Char.isAlphanum

def beneficiaryErrors (beneficiaryId : List Char) : List RowError :=
  if beneficiaryId = [] then
    [⟨some .beneficiaryId, "the beneficiary is missing",
      "paste the beneficiary id from the beneficiary page — it starts with ben_"⟩]
  else if ¬ isBeneficiaryId beneficiaryId then
    [⟨some .beneficiaryId, quoted beneficiaryId ++ " is not a beneficiary id",
      "use the id from the beneficiary page, which starts with ben_ — not the name"⟩]
  else []

def amountErrors : Except Refused Nat → List RowError
  | .ok _ => []
  | .error refused => [⟨some .amountInr, refused.problem, refused.fix⟩]

def purposeErrors (options : CsvValidationOptions) (purposeCode : List Char) : List RowError :=
  if purposeCode = [] then
    [⟨some .purposeCode, "the purpose code is missing", "choose one of: " ++ options.choices⟩]
  else if purposeCode ∉ options.purposeCodes then
    [⟨some .purposeCode, quoted purposeCode ++ " is not a purpose code we accept",
      "use one of: " ++ options.choices⟩]
  else []

def rowErrors (options : CsvValidationOptions) (raw : Raw) : List RowError :=
  beneficiaryErrors (field raw .beneficiaryId) ++
    amountErrors (parseRupees (field raw .amountInr)) ++
    purposeErrors options (field raw .purposeCode)

def parsedRow (line : Nat) (raw : Raw) : ParsedRow where
  line := line
  raw := raw
  beneficiaryId := field raw .beneficiaryId
  amountMinor := (parseRupees (field raw .amountInr)).toOption.getD 0
  purposeCode := field raw .purposeCode
  externalReference :=
    if field raw .externalReference ≠ [] then some (field raw .externalReference) else none

/-- The verdict on one row. -/
def verdict (options : CsvValidationOptions) (header : List (List Char)) (line : Nat) (cells : Row) :
    RowResult :=
  let raw := rawOf header cells
  let errors := rowErrors options raw
  if errors ≠ [] then .rejected line raw errors else .accepted (parsedRow line raw)

/-! ### Files -/

def columnNames : String := ", ".intercalate (BatchCsvColumn.all.map (·.wire))

def missingErrors (header : List (List Char)) : List RowError :=
  (requiredColumns.filter fun column => column.name ∉ header).map fun column =>
    ⟨some column, "the file has no \"" ++ column.wire ++ "\" column",
      "add a \"" ++ column.wire ++ "\" column to the header row (the columns we read are: " ++
        columnNames ++ ")"⟩

/-- The names that stand in the header again, each once. -/
def duplicates (header : List (List Char)) : List (List Char) :=
  ((header.zipIdx.filter fun (name, i) => name ≠ [] ∧ header.idxOf name ≠ i).map (·.1)).eraseDups

def duplicateErrors (header : List (List Char)) : List RowError :=
  (duplicates header).map fun duplicate =>
    ⟨BatchCsvColumn.all.find? (·.name = duplicate),
      "the column " ++ quoted duplicate ++ " appears more than once",
      "remove the duplicate column, so it is unambiguous which one we should read"⟩

def headerErrors (header : List (List Char)) : List RowError :=
  missingErrors header ++ duplicateErrors header

section Parse

variable (toLowerCase : List Char → List Char)

def headerOf (cells : Row) : List (List Char) := cells.map fun cell => toLowerCase (Chars.trim cell)

/-- What keeps a file from having rows. -/
def fileErrors (options : CsvValidationOptions) (header : List (List Char)) (body : List Row) :
    List RowError :=
  if headerErrors header ≠ [] then headerErrors header
  else if body = [] then
    [⟨none, "the file has a header but no rows", "add at least one settlement row below the header"⟩]
  else if options.limit < body.length then
    [⟨none, "the file has " ++ toString body.length ++ " rows, and the limit is " ++
        toString options.limit,
      "split it into files of at most " ++ toString options.limit ++ " rows"⟩]
  else []

/-- The header is line 1. -/
def verdicts (options : CsvValidationOptions) (header : List (List Char)) (body : List Row) :
    List RowResult :=
  body.mapIdx fun index cells => verdict options header (index + 2) cells

def parseBatchCsv (text : List Char) (options : CsvValidationOptions) :
    Except (List RowError) (List RowResult) :=
  match parseCsvGrid text with
  | [] =>
    .error [⟨none, "the file is empty",
      "export the file again with a header row and at least one settlement"⟩]
  | first :: body =>
    let header := headerOf toLowerCase first
    if fileErrors options header body ≠ [] then .error (fileErrors options header body)
    else .ok (verdicts options header body)

end Parse

end InrSettle.BatchCsv
