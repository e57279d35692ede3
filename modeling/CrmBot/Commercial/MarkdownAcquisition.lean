import CrmBot.Commercial.MarkdownTables
import CrmBot.Commercial.PriceText

/-! Acquisition of prices from the tables of a Markdown document.

The ids that `uuid5` makes are a parameter; none of them is blank. -/

namespace CrmBot.Commercial

open CrmBot.Python

def itemHeaderMarkers : List String :=
  ["service", "услуга", "товар", "позиция", "тариф", "plan", "name", "название"]

def priceHeaderMarkers : List String :=
  ["price", "цена", "стоимость", "тариф", "amount", "руб", "₽"]

def unitHeaderMarkers : List String :=
  ["unit", "период", "единица", "за", "billing"]

/-- `_role_for_header`. -/
def roleForHeader (mapping : CaseMapping) (header : String) : PriceAcquisitionFieldRole :=
  let normalized := normalizeSlotName mapping header
  if itemHeaderMarkers.any (containsText · normalized) then .itemName
  else if priceHeaderMarkers.any (containsText · normalized) then .amount
  else if unitHeaderMarkers.any (containsText · normalized) then .unit
  else if normalized ∈ ["description", "описание"] then .description
  else .variant

variable (mapping : CaseMapping) (stableId : String → { id : String // isBlank id = false })
  (projectId priceDocumentId : String)

/-- The role of one header, unless it is unknown. -/
def columnRole (table : MarkdownTable) (header : String) :
    Except AcquisitionFault (Option PriceColumnRoleCandidate) :=
  let role := roleForHeader mapping header
  if role = .unknown then .ok none
  else do
    let ref ← priceSourceRef table.unit.priceDocumentId table.unit.id none header
    let candidate ← priceColumnRoleCandidate table.unit.id header role ⟨false, 85, -2⟩ [ref]
    pure (some candidate)

/-- `_column_roles`. -/
def columnRoles (table : MarkdownTable) : Except AcquisitionFault (List PriceColumnRoleCandidate) :=
  do
    let found ← table.headers.mapM (columnRole mapping table)
    pure found.reduceOption

/-- `values[index] if index < len(values) else ""`. -/
def cellAt (values : List String) (index : ℕ) : String := values.getD index ""

def rowId (table : MarkdownTable) (rowIndex : ℕ) : { id : String // isBlank id = false } :=
  stableId ("row:" ++ table.unit.id ++ ":" ++ toString table.startLine ++ ":" ++
    toString rowIndex)

/-- `raw_cells`. A repeated header keeps its last cell. -/
def rawCells (table : MarkdownTable) (values : List String) : List (String × String) :=
  table.headers.zipIdx.foldl (fun cells header =>
    setItem header.1 (cellAt values header.2) cells) []

def normalizedCells (table : MarkdownTable) (values : List String) : List (String × String) :=
  table.headers.zipIdx.foldl (fun cells header =>
    if strip header.1 = "" then cells
    else setItem (normalizeSlotName mapping header.1) (strip (cellAt values header.2)) cells) []

/-- `normalized_roles.get(name, UNKNOWN)`, where later roles replace earlier ones. -/
def normalizedRole (roles : List PriceColumnRoleCandidate) (name : String) :
    PriceAcquisitionFieldRole :=
  ((roles.reverse.find? fun role => normalizeSlotName mapping role.columnName = name).map
    PriceColumnRoleCandidate.role).getD .unknown

/-- `_row_from_values`. -/
def rowFromValues (table : MarkdownTable) (roles : List PriceColumnRoleCandidate) (rowIndex : ℕ)
    (values : List String) : Except AcquisitionFault PriceAcquisitionRow := do
  let id := (rowId stableId table rowIndex).val
  let cells ← table.headers.zipIdx.mapM fun header =>
    priceAcquisitionCell id header.1 (cellAt values header.2) (strip (cellAt values header.2))
      (normalizedRole mapping roles (normalizeSlotName mapping header.1)) ⟨false, 8, -1⟩
  priceAcquisitionRow id table.unit.id rowIndex (rawCells table values) cells
    (normalizedCells mapping table values)

/-- The stripped text of a row under a column. -/
def columnText (row : PriceAcquisitionRow) (column : String) : String :=
  strip ((getItem row.rawCells column).getD "")

/-- The field of one role, unless its cell is blank. -/
def fieldCandidate (table : MarkdownTable) (row : PriceAcquisitionRow)
    (role : PriceColumnRoleCandidate) : Except AcquisitionFault (Option PriceFieldCandidate) :=
  let value := columnText row role.columnName
  if value = "" then .ok none
  else do
    let ref ← priceSourceRef table.unit.priceDocumentId table.unit.id (some row.id)
      (role.columnName ++ ": " ++ value)
    let field ← priceFieldCandidate role.role value [ref] (strip value) ⟨false, 8, -1⟩
    pure (some field)

/-- `_field_candidates_from_row`. -/
def fieldCandidatesFromRow (table : MarkdownTable) (row : PriceAcquisitionRow)
    (roles : List PriceColumnRoleCandidate) : Except AcquisitionFault (List PriceFieldCandidate) :=
  do
    let found ← roles.mapM (fieldCandidate table row)
    pure found.reduceOption

/-- `_row_quote`. -/
def rowQuote (headers values : List String) : String :=
  " | ".intercalate (headers.zipIdx.map fun header =>
    header.1 ++ ": " ++ cellAt values header.2)

/-- `_first_column_for_role`. -/
def firstColumnForRole (roles : List PriceColumnRoleCandidate)
    (wanted : List PriceAcquisitionFieldRole) : Option String :=
  (roles.find? fun candidate => candidate.role ∈ wanted).map PriceColumnRoleCandidate.columnName

def itemRoles : List PriceAcquisitionFieldRole := [.itemName]

def priceRoles : List PriceAcquisitionFieldRole := [.amount, .priceText]

def unitRoles : List PriceAcquisitionFieldRole := [.unit]

/-- The candidate for a price that was read. -/
def factCandidateFromPrice (table : MarkdownTable) (row : PriceAcquisitionRow)
    (itemName unit : String)
    (fields : List PriceFieldCandidate) (price : PriceValueKind × Option MoneyAmount × String) :
    Except AcquisitionFault (Option PriceFactCandidate) := do
  let ref ← priceSourceRef priceDocumentId table.unit.id (some row.id)
    (rowQuote table.headers (table.headers.map fun header => (getItem row.rawCells header).getD ""))
  let id := (stableId ("candidate:" ++ row.id)).val
  let make := fun amount priceText =>
    priceFactCandidate id projectId priceDocumentId itemName price.1
      (if unit = "" then "item" else unit) [ref] amount priceText fields ⟨false, 72, -2⟩
  match price with
  | (.exact, none, _) | (.startingFrom, none, _) => pure none
  | (.exact, some amount, _) | (.startingFrom, some amount, _) =>
    (make (some amount) "").map some
  | (.onRequest, _, priceText) => (make none priceText).map some
  | (.range, _, _) | (.unknown, _, _) => pure none

/-- `_fact_candidate_from_row`. -/
def factCandidateFromRow (table : MarkdownTable) (row : PriceAcquisitionRow)
    (roles : List PriceColumnRoleCandidate) (fields : List PriceFieldCandidate) :
    Except AcquisitionFault (Option PriceFactCandidate) :=
  match firstColumnForRole roles itemRoles, firstColumnForRole roles priceRoles with
  | some itemColumn, some priceColumn =>
    let itemName := columnText row itemColumn
    let priceText := columnText row priceColumn
    if itemName = "" ∨ priceText = "" then .ok none
    else do
      match ← parsePriceValue mapping priceText with
      | none => pure none
      | some price =>
        let unit := match firstColumnForRole roles unitRoles with
          | some unitColumn => columnText row unitColumn
          | none => unitFromPriceText mapping priceText
        factCandidateFromPrice stableId projectId priceDocumentId table row itemName unit fields
          price
  | _, _ => .ok none

/-! Issues. -/

/-- `_table_issue`. -/
def tableIssue (table : MarkdownTable) (code : PriceCompilationIssueCode) (message : String)
    (message_text : isBlank message = false) : Except AcquisitionFault PriceCompilationIssue := do
  let ref ← priceSourceRef table.unit.priceDocumentId table.unit.id none
    (" | ".intercalate table.headers)
  pure { severity := .warning, code := code, message := message, sourceRefs := [ref]
         metadata := [("source_unit_id", .text table.unit.id),
           ("start_line", .number table.startLine)]
         message_text := message_text }

/-- The issues of the columns that a table lacks. -/
def tableIssues (table : MarkdownTable) (roles : List PriceColumnRoleCandidate) :
    Except AcquisitionFault (List PriceCompilationIssue) := do
  let item ← if firstColumnForRole roles itemRoles = none then
      (tableIssue table .missingItemName
        "Markdown price table has no recognizable item/name column." (by decide)).map ([·])
    else pure []
  let price ← if firstColumnForRole roles priceRoles = none then
      (tableIssue table .missingPriceValue
        "Markdown price table has no recognizable price column." (by decide)).map ([·])
    else pure []
  pure (item ++ price)

/-- The issue of a row without a candidate. -/
def rowIssue (table : MarkdownTable) (row : PriceAcquisitionRow) (rowIndex : ℕ)
    (values : List String) : Except AcquisitionFault PriceCompilationIssue := do
  let ref ← priceSourceRef priceDocumentId table.unit.id (some row.id)
    (rowQuote table.headers values)
  pure { severity := .warning, code := .needsHumanReview
         message := "Markdown table row could not be converted to a price fact candidate."
         sourceRefs := [ref]
         metadata := [("source_unit_id", .text table.unit.id), ("row_index", .number rowIndex)]
         message_text := by decide }

/-! The loop over the tables and their rows. -/

/-- What has been acquired so far. -/
structure Acquired where
  rows : List PriceAcquisitionRow
  columnRoles : List PriceColumnRoleCandidate
  fieldCandidates : List PriceFieldCandidate
  factCandidates : List PriceFactCandidate
  issues : List PriceCompilationIssue

/-- One row of a table. -/
def acquireRow (table : MarkdownTable) (roles : List PriceColumnRoleCandidate)
    (acquired : Acquired) (values : List String × ℕ) : Except AcquisitionFault Acquired := do
  let row ← rowFromValues mapping stableId table roles values.2 values.1
  let fields ← fieldCandidatesFromRow table row roles
  let candidate ←
    factCandidateFromRow mapping stableId projectId priceDocumentId table row roles fields
  let next := { acquired with
    rows := acquired.rows ++ [row], fieldCandidates := acquired.fieldCandidates ++ fields }
  match candidate with
  | none => do
    let issue ← rowIssue priceDocumentId table row values.2 values.1
    pure { next with issues := next.issues ++ [issue] }
  | some candidate => pure { next with factCandidates := next.factCandidates ++ [candidate] }

/-- One table. -/
def acquireTable (acquired : Acquired) (table : MarkdownTable) :
    Except AcquisitionFault Acquired := do
  let roles ← columnRoles mapping table
  let issues ← tableIssues table roles
  table.rows.zipIdx.foldlM (acquireRow mapping stableId projectId priceDocumentId table roles)
    { acquired with
      issues := acquired.issues ++ issues, columnRoles := acquired.columnRoles ++ roles }

def noTableIssue : PriceCompilationIssue where
  severity := .warning
  code := .needsHumanReview
  message := "No Markdown price table was detected."
  sourceRefs := []
  metadata := []
  message_text := by decide

/-- `MarkdownPriceAcquisitionAdapter.acquire`. -/
def acquire (sourceFormat : PriceDocumentSourceFormat) (inputKind : PriceDocumentInputKind)
    (units : List PriceAcquisitionUnit) : Except AcquisitionFault PriceAcquisitionResult := do
  let tables := markdownTablesFromUnits units
  if tables = [] then
    priceAcquisitionResult priceDocumentId sourceFormat inputKind units [] [] [] [] [noTableIssue]
  else
    let acquired ← tables.foldlM (acquireTable mapping stableId projectId priceDocumentId)
      ⟨[], [], [], [], []⟩
    priceAcquisitionResult priceDocumentId sourceFormat inputKind units acquired.rows
      acquired.columnRoles acquired.fieldCandidates acquired.factCandidates acquired.issues

end CrmBot.Commercial
