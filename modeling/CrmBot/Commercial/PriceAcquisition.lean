import CrmBot.Commercial.PriceKnowledge
import Mathlib.Tactic.Positivity

/-! What an acquisition makes of a price document, before anything is published.

Every class keeps what its constructor checks, and the constructors raise as in
the source. Confidences are between zero and one. -/

namespace CrmBot.Commercial

open CrmBot.Python

inductive AcquisitionFault
  | valueError (message : String)
  /-- `decimal.InvalidOperation`. -/
  | invalidOperation
  deriving DecidableEq, Repr

inductive PriceDocumentSourceFormat
  | markdown
  | plainText
  | csv
  | xlsx
  | pdfText
  | pdfTable
  | unknown
  deriving DecidableEq, Repr

inductive PriceDocumentInputKind
  | table
  | structuredText
  | unstructuredText
  | mixed
  | unknown
  deriving DecidableEq, Repr

inductive PriceAcquisitionFieldRole
  | itemName
  | amount
  | minAmount
  | maxAmount
  | currency
  | unit
  | priceText
  | variant
  | condition
  | validity
  | category
  | description
  | unknown
  deriving DecidableEq, Repr

inductive PriceFactCandidateStatus
  | draft
  | needsReview
  | rejected
  deriving DecidableEq, Repr

inductive PriceCompilationIssueSeverity
  | info
  | warning
  | error
  deriving DecidableEq, Repr

inductive PriceCompilationIssueCode
  | unknownSourceFormat
  | emptySourceUnit
  | ambiguousTableHeader
  | ambiguousPriceValue
  | missingItemName
  | missingPriceValue
  | conflictingPriceValues
  | unsupportedPriceShape
  | needsHumanReview
  deriving DecidableEq, Repr

/-- `_validate_confidence`. -/
def IsConfidence (confidence : Decimal) : Prop := 0 ≤ confidence.value ∧ confidence.value ≤ 1

instance (confidence : Decimal) : Decidable (IsConfidence confidence) :=
  inferInstanceAs (Decidable (_ ∧ _))

theorem value_unsigned (coefficient places : ℕ) :
    Decimal.value ⟨false, coefficient, -places⟩ = coefficient / 10 ^ places := by
  simp [Decimal.value, zpow_neg, div_eq_mul_inv]

theorem isConfidence_unsigned {coefficient places : ℕ} (h : coefficient ≤ 10 ^ places) :
    IsConfidence ⟨false, coefficient, -places⟩ := by
  unfold IsConfidence
  rw [value_unsigned]
  refine ⟨by positivity, (div_le_one₀ (by positivity)).mpr ?_⟩
  exact_mod_cast h

/-! Source references. -/

@[ext]
structure PriceSourceRef where
  priceDocumentId : String
  sourceUnitId : String
  sourceRowId : Option String
  quote : String
  priceDocumentId_text : isBlank priceDocumentId = false
  sourceUnitId_text : isBlank sourceUnitId = false
  sourceRowId_text : ∀ rowId ∈ sourceRowId, isBlank rowId = false
  quote_text : isBlank quote = false

instance : DecidableEq PriceSourceRef := fun _ _ =>
  decidable_of_iff _ PriceSourceRef.ext_iff.symm

def priceSourceRef (priceDocumentId sourceUnitId : String) (sourceRowId : Option String)
    (quote : String) : Except AcquisitionFault PriceSourceRef :=
  if hdocument : isBlank priceDocumentId = true then
    .error (.valueError "price source ref price_document_id must not be empty")
  else if hunit : isBlank sourceUnitId = true then
    .error (.valueError "price source ref source_unit_id must not be empty")
  else if hrow : sourceRowId.any isBlank = true then
    .error (.valueError "price source ref source_row_id must not be blank")
  else if hquote : isBlank quote = true then
    .error (.valueError "price source ref quote must not be empty")
  else .ok { priceDocumentId, sourceUnitId, sourceRowId, quote
             priceDocumentId_text := isBlank_eq_false hdocument
             sourceUnitId_text := isBlank_eq_false hunit
             sourceRowId_text := by cases sourceRowId <;> simp_all
             quote_text := isBlank_eq_false hquote }

theorem priceSourceRef_eq_ok_iff {priceDocumentId sourceUnitId : String}
    {sourceRowId : Option String} {quote : String} {ref : PriceSourceRef} :
    priceSourceRef priceDocumentId sourceUnitId sourceRowId quote = .ok ref ↔
      ref.priceDocumentId = priceDocumentId ∧ ref.sourceUnitId = sourceUnitId ∧
        ref.sourceRowId = sourceRowId ∧ ref.quote = quote := by
  unfold priceSourceRef
  constructor
  · intro h
    split_ifs at h
    cases h
    exact ⟨rfl, rfl, rfl, rfl⟩
  · rintro ⟨rfl, rfl, rfl, rfl⟩
    have hrow : ¬ ref.sourceRowId.any isBlank = true := by
      rw [Option.any_eq_true]
      rintro ⟨rowId, hmem, hblank⟩
      exact absurd hblank (Bool.eq_false_iff.mp (ref.sourceRowId_text rowId hmem))
    rw [dif_neg (Bool.eq_false_iff.mp ref.priceDocumentId_text),
      dif_neg (Bool.eq_false_iff.mp ref.sourceUnitId_text), dif_neg hrow,
      dif_neg (Bool.eq_false_iff.mp ref.quote_text)]

/-! Units, rows and cells. -/

/-- A `PriceAcquisitionUnit`, with the fields that acquisition reads. -/
@[ext]
structure PriceAcquisitionUnit where
  id : String
  priceDocumentId : String
  rawText : String
  id_text : isBlank id = false
  priceDocumentId_text : isBlank priceDocumentId = false
  rawText_text : isBlank rawText = false

instance : DecidableEq PriceAcquisitionUnit := fun _ _ =>
  decidable_of_iff _ PriceAcquisitionUnit.ext_iff.symm

@[ext]
structure PriceAcquisitionCell where
  rowId : String
  columnName : String
  rawValue : String
  normalizedValue : String
  role : PriceAcquisitionFieldRole
  confidence : Decimal
  rowId_text : isBlank rowId = false
  columnName_text : isBlank columnName = false
  confidence_valid : IsConfidence confidence

instance : DecidableEq PriceAcquisitionCell := fun _ _ =>
  decidable_of_iff _ PriceAcquisitionCell.ext_iff.symm

def priceAcquisitionCell (rowId columnName rawValue normalizedValue : String)
    (role : PriceAcquisitionFieldRole) (confidence : Decimal) :
    Except AcquisitionFault PriceAcquisitionCell :=
  if hrow : isBlank rowId = true then
    .error (.valueError "price acquisition cell row_id must not be empty")
  else if hcolumn : isBlank columnName = true then
    .error (.valueError "price acquisition cell column_name must not be empty")
  else if hconfidence : ¬ IsConfidence confidence then
    .error (.valueError "price acquisition cell confidence must be between 0 and 1")
  else .ok { rowId, columnName, rawValue, normalizedValue, role, confidence
             rowId_text := isBlank_eq_false hrow
             columnName_text := isBlank_eq_false hcolumn
             confidence_valid := not_not.mp hconfidence }

theorem priceAcquisitionCell_eq_ok_iff {rowId columnName rawValue normalizedValue : String}
    {role : PriceAcquisitionFieldRole} {confidence : Decimal} {cell : PriceAcquisitionCell} :
    priceAcquisitionCell rowId columnName rawValue normalizedValue role confidence = .ok cell ↔
      cell.rowId = rowId ∧ cell.columnName = columnName ∧ cell.rawValue = rawValue ∧
        cell.normalizedValue = normalizedValue ∧ cell.role = role ∧
        cell.confidence = confidence := by
  unfold priceAcquisitionCell
  constructor
  · intro h
    split_ifs at h
    cases h
    exact ⟨rfl, rfl, rfl, rfl, rfl, rfl⟩
  · rintro ⟨rfl, rfl, rfl, rfl, rfl, rfl⟩
    rw [dif_neg (Bool.eq_false_iff.mp cell.rowId_text),
      dif_neg (Bool.eq_false_iff.mp cell.columnName_text),
      dif_neg (not_not.mpr cell.confidence_valid)]

@[ext]
structure PriceAcquisitionRow where
  id : String
  sourceUnitId : String
  rowIndex : ℕ
  rawCells : List (String × String)
  cells : List PriceAcquisitionCell
  normalizedCells : List (String × String)
  id_text : isBlank id = false
  sourceUnitId_text : isBlank sourceUnitId = false
  cells_some : ¬ (rawCells = [] ∧ cells = [])
  cells_row : ∀ cell ∈ cells, cell.rowId = id

instance : DecidableEq PriceAcquisitionRow := fun _ _ =>
  decidable_of_iff _ PriceAcquisitionRow.ext_iff.symm

def priceAcquisitionRow (id sourceUnitId : String) (rowIndex : ℕ)
    (rawCells : List (String × String)) (cells : List PriceAcquisitionCell)
    (normalizedCells : List (String × String)) : Except AcquisitionFault PriceAcquisitionRow :=
  if hid : isBlank id = true then
    .error (.valueError "price acquisition row id must not be empty")
  else if hunit : isBlank sourceUnitId = true then
    .error (.valueError "price acquisition row source_unit_id must not be empty")
  else if hsome : rawCells = [] ∧ cells = [] then
    .error (.valueError "price acquisition row must contain raw_cells or cells")
  else if hrow : ¬ ∀ cell ∈ cells, cell.rowId = id then
    .error (.valueError "price acquisition cell row_id must match row id")
  else .ok { id, sourceUnitId, rowIndex, rawCells, cells, normalizedCells
             id_text := isBlank_eq_false hid
             sourceUnitId_text := isBlank_eq_false hunit
             cells_some := hsome
             cells_row := not_not.mp hrow }

theorem priceAcquisitionRow_eq_ok_iff {id sourceUnitId : String} {rowIndex : ℕ}
    {rawCells : List (String × String)} {cells : List PriceAcquisitionCell}
    {normalizedCells : List (String × String)} {row : PriceAcquisitionRow} :
    priceAcquisitionRow id sourceUnitId rowIndex rawCells cells normalizedCells = .ok row ↔
      row.id = id ∧ row.sourceUnitId = sourceUnitId ∧ row.rowIndex = rowIndex ∧
        row.rawCells = rawCells ∧ row.cells = cells ∧ row.normalizedCells = normalizedCells := by
  unfold priceAcquisitionRow
  constructor
  · intro h
    split_ifs at h
    cases h
    exact ⟨rfl, rfl, rfl, rfl, rfl, rfl⟩
  · rintro ⟨rfl, rfl, rfl, rfl, rfl, rfl⟩
    rw [dif_neg (Bool.eq_false_iff.mp row.id_text),
      dif_neg (Bool.eq_false_iff.mp row.sourceUnitId_text), dif_neg row.cells_some,
      dif_neg (not_not.mpr row.cells_row)]

/-! Candidates. -/

@[ext]
structure PriceColumnRoleCandidate where
  sourceUnitId : String
  columnName : String
  role : PriceAcquisitionFieldRole
  confidence : Decimal
  sourceRefs : List PriceSourceRef
  sourceUnitId_text : isBlank sourceUnitId = false
  columnName_text : isBlank columnName = false
  role_explicit : role ≠ .unknown
  sourceRefs_some : sourceRefs ≠ []
  confidence_valid : IsConfidence confidence

instance : DecidableEq PriceColumnRoleCandidate := fun _ _ =>
  decidable_of_iff _ PriceColumnRoleCandidate.ext_iff.symm

def priceColumnRoleCandidate (sourceUnitId columnName : String) (role : PriceAcquisitionFieldRole)
    (confidence : Decimal) (sourceRefs : List PriceSourceRef) :
    Except AcquisitionFault PriceColumnRoleCandidate :=
  if hunit : isBlank sourceUnitId = true then
    .error (.valueError "price column role source_unit_id must not be empty")
  else if hcolumn : isBlank columnName = true then
    .error (.valueError "price column role column_name must not be empty")
  else if hrole : role = .unknown then
    .error (.valueError "price column role candidate role must be explicit")
  else if hrefs : sourceRefs = [] then
    .error (.valueError "price column role candidate must be source-grounded")
  else if hconfidence : ¬ IsConfidence confidence then
    .error (.valueError "price column role confidence must be between 0 and 1")
  else .ok { sourceUnitId, columnName, role, confidence, sourceRefs
             sourceUnitId_text := isBlank_eq_false hunit
             columnName_text := isBlank_eq_false hcolumn
             role_explicit := hrole
             sourceRefs_some := hrefs
             confidence_valid := not_not.mp hconfidence }

theorem priceColumnRoleCandidate_eq_ok_iff {sourceUnitId columnName : String}
    {role : PriceAcquisitionFieldRole} {confidence : Decimal} {sourceRefs : List PriceSourceRef}
    {candidate : PriceColumnRoleCandidate} :
    priceColumnRoleCandidate sourceUnitId columnName role confidence sourceRefs = .ok candidate ↔
      candidate.sourceUnitId = sourceUnitId ∧ candidate.columnName = columnName ∧
        candidate.role = role ∧ candidate.confidence = confidence ∧
        candidate.sourceRefs = sourceRefs := by
  unfold priceColumnRoleCandidate
  constructor
  · intro h
    split_ifs at h
    cases h
    exact ⟨rfl, rfl, rfl, rfl, rfl⟩
  · rintro ⟨rfl, rfl, rfl, rfl, rfl⟩
    rw [dif_neg (Bool.eq_false_iff.mp candidate.sourceUnitId_text),
      dif_neg (Bool.eq_false_iff.mp candidate.columnName_text), dif_neg candidate.role_explicit,
      dif_neg candidate.sourceRefs_some, dif_neg (not_not.mpr candidate.confidence_valid)]

@[ext]
structure PriceFieldCandidate where
  role : PriceAcquisitionFieldRole
  value : String
  sourceRefs : List PriceSourceRef
  normalizedValue : String
  confidence : Decimal
  role_explicit : role ≠ .unknown
  value_text : isBlank value = false
  sourceRefs_some : sourceRefs ≠ []
  confidence_valid : IsConfidence confidence

instance : DecidableEq PriceFieldCandidate := fun _ _ =>
  decidable_of_iff _ PriceFieldCandidate.ext_iff.symm

def priceFieldCandidate (role : PriceAcquisitionFieldRole) (value : String)
    (sourceRefs : List PriceSourceRef) (normalizedValue : String) (confidence : Decimal) :
    Except AcquisitionFault PriceFieldCandidate :=
  if hrole : role = .unknown then
    .error (.valueError "price field candidate role must be explicit")
  else if hvalue : isBlank value = true then
    .error (.valueError "price field candidate value must not be empty")
  else if hrefs : sourceRefs = [] then
    .error (.valueError "price field candidate must be source-grounded")
  else if hconfidence : ¬ IsConfidence confidence then
    .error (.valueError "price field confidence must be between 0 and 1")
  else .ok { role, value, sourceRefs, normalizedValue, confidence
             role_explicit := hrole
             value_text := isBlank_eq_false hvalue
             sourceRefs_some := hrefs
             confidence_valid := not_not.mp hconfidence }

theorem priceFieldCandidate_eq_ok_iff {role : PriceAcquisitionFieldRole} {value : String}
    {sourceRefs : List PriceSourceRef} {normalizedValue : String} {confidence : Decimal}
    {field : PriceFieldCandidate} :
    priceFieldCandidate role value sourceRefs normalizedValue confidence = .ok field ↔
      field.role = role ∧ field.value = value ∧ field.sourceRefs = sourceRefs ∧
        field.normalizedValue = normalizedValue ∧ field.confidence = confidence := by
  unfold priceFieldCandidate
  constructor
  · intro h
    split_ifs at h
    cases h
    exact ⟨rfl, rfl, rfl, rfl, rfl⟩
  · rintro ⟨rfl, rfl, rfl, rfl, rfl⟩
    rw [dif_neg field.role_explicit, dif_neg (Bool.eq_false_iff.mp field.value_text),
      dif_neg field.sourceRefs_some, dif_neg (not_not.mpr field.confidence_valid)]

/-- What `_validate_price_value_shape` finds wrong with a price. -/
def priceShapeFault (valueKind : PriceValueKind) (amount : Option MoneyAmount)
    (priceRange : Option PriceRange) (priceText : String) : Option String :=
  match valueKind with
  | .exact | .startingFrom =>
    if amount = none then some "numeric price fact candidate requires amount"
    else if priceRange ≠ none then
      some "exact/starting_from price fact candidate must not include price_range"
    else none
  | .range =>
    if priceRange = none then some "range price fact candidate requires price_range"
    else if amount ≠ none then some "range price fact candidate must not include amount"
    else none
  | .onRequest =>
    if amount ≠ none ∨ priceRange ≠ none then
      some "on_request price fact candidate must not include numeric price"
    else if isBlank priceText then some "on_request price fact candidate requires price_text"
    else none
  | .unknown => some "price fact candidate value_kind must be explicit"

theorem priceShapeFault_eq_none_iff {valueKind : PriceValueKind} {amount : Option MoneyAmount}
    {priceRange : Option PriceRange} {priceText : String} :
    priceShapeFault valueKind amount priceRange priceText = none ↔
      PriceShape priceRange priceText amount valueKind := by
  cases valueKind with
  | exact | startingFrom | range =>
    simp only [priceShapeFault, PriceShape]
    split_ifs <;> simp_all
  | onRequest =>
    simp only [priceShapeFault, PriceShape]
    split_ifs with hnumeric hblank
    · exact iff_of_false not_false fun hshape =>
        hnumeric.elim (absurd hshape.1) (absurd hshape.2.1)
    · simp [hblank]
    · simpa [not_or, hblank] using hnumeric
  | unknown => simp [priceShapeFault, PriceShape]

/-- A `PriceFactCandidate`, without the fields that keep their defaults. -/
@[ext]
structure PriceFactCandidate where
  id : String
  projectId : String
  priceDocumentId : String
  itemName : String
  valueKind : PriceValueKind
  unit : String
  sourceRefs : List PriceSourceRef
  status : PriceFactCandidateStatus
  amount : Option MoneyAmount
  priceRange : Option PriceRange
  priceText : String
  fieldCandidates : List PriceFieldCandidate
  confidence : Decimal
  id_text : isBlank id = false
  projectId_text : isBlank projectId = false
  priceDocumentId_text : isBlank priceDocumentId = false
  itemName_text : isBlank itemName = false
  unit_text : isBlank unit = false
  sourceRefs_some : sourceRefs ≠ []
  confidence_valid : IsConfidence confidence
  shape : PriceShape priceRange priceText amount valueKind

instance : DecidableEq PriceFactCandidate := fun _ _ =>
  decidable_of_iff _ PriceFactCandidate.ext_iff.symm

/-- The constructor, where the status and the price range are the defaults. -/
def priceFactCandidate (id projectId priceDocumentId itemName : String)
    (valueKind : PriceValueKind) (unit : String) (sourceRefs : List PriceSourceRef)
    (amount : Option MoneyAmount) (priceText : String)
    (fieldCandidates : List PriceFieldCandidate) (confidence : Decimal) :
    Except AcquisitionFault PriceFactCandidate :=
  if hid : isBlank id = true then
    .error (.valueError "price fact candidate id must not be empty")
  else if hproject : isBlank projectId = true then
    .error (.valueError "price fact candidate project_id must not be empty")
  else if hdocument : isBlank priceDocumentId = true then
    .error (.valueError "price fact candidate price_document_id must not be empty")
  else if hitem : isBlank itemName = true then
    .error (.valueError "price fact candidate item_name must not be empty")
  else if hunit : isBlank unit = true then
    .error (.valueError "price fact candidate unit must not be empty")
  else if hrefs : sourceRefs = [] then
    .error (.valueError "price fact candidate must be source-grounded")
  else if hconfidence : ¬ IsConfidence confidence then
    .error (.valueError "price fact candidate confidence must be between 0 and 1")
  else match hshape : priceShapeFault valueKind amount none priceText with
    | some message => .error (.valueError message)
    | none => .ok { id, projectId, priceDocumentId, itemName, valueKind, unit, sourceRefs
                    status := .needsReview, amount, priceRange := none, priceText
                    fieldCandidates, confidence
                    id_text := isBlank_eq_false hid
                    projectId_text := isBlank_eq_false hproject
                    priceDocumentId_text := isBlank_eq_false hdocument
                    itemName_text := isBlank_eq_false hitem
                    unit_text := isBlank_eq_false hunit
                    sourceRefs_some := hrefs
                    confidence_valid := not_not.mp hconfidence
                    shape := priceShapeFault_eq_none_iff.mp hshape }

/-- The constructor accepts the parts that the invariants of a candidate ask for. -/
theorem exists_priceFactCandidate {id projectId priceDocumentId itemName : String}
    {valueKind : PriceValueKind} {unit : String} {sourceRefs : List PriceSourceRef}
    {amount : Option MoneyAmount} {priceText : String} {confidence : Decimal}
    (hid : isBlank id = false) (hproject : isBlank projectId = false)
    (hdocument : isBlank priceDocumentId = false) (hitem : isBlank itemName = false)
    (hunit : isBlank unit = false) (hrefs : sourceRefs ≠ []) (hconfidence : IsConfidence confidence)
    (hshape : PriceShape none priceText amount valueKind)
    (fieldCandidates : List PriceFieldCandidate) :
    ∃ candidate, priceFactCandidate id projectId priceDocumentId itemName valueKind unit sourceRefs
      amount priceText fieldCandidates confidence = .ok candidate := by
  unfold priceFactCandidate
  rw [dif_neg (Bool.eq_false_iff.mp hid), dif_neg (Bool.eq_false_iff.mp hproject),
    dif_neg (Bool.eq_false_iff.mp hdocument), dif_neg (Bool.eq_false_iff.mp hitem),
    dif_neg (Bool.eq_false_iff.mp hunit), dif_neg hrefs, dif_neg (not_not.mpr hconfidence)]
  split
  · next message hfault =>
    rw [priceShapeFault_eq_none_iff.mpr hshape] at hfault
    cases hfault
  · exact ⟨_, rfl⟩

theorem priceFactCandidate_spec {id projectId priceDocumentId itemName : String}
    {valueKind : PriceValueKind} {unit : String} {sourceRefs : List PriceSourceRef}
    {amount : Option MoneyAmount} {priceText : String} {fieldCandidates : List PriceFieldCandidate}
    {confidence : Decimal} {candidate : PriceFactCandidate}
    (h : priceFactCandidate id projectId priceDocumentId itemName valueKind unit sourceRefs amount
      priceText fieldCandidates confidence = .ok candidate) :
    candidate.priceDocumentId = priceDocumentId ∧ candidate.sourceRefs = sourceRefs := by
  unfold priceFactCandidate at h
  split_ifs at h
  split at h
  · cases h
  · cases h
    exact ⟨rfl, rfl⟩

/-! Issues and results. -/

/-- A value in the metadata of an issue. -/
inductive IssueDatum
  | text (value : String)
  | number (value : ℕ)
  deriving DecidableEq, Repr

@[ext]
structure PriceCompilationIssue where
  severity : PriceCompilationIssueSeverity
  code : PriceCompilationIssueCode
  message : String
  sourceRefs : List PriceSourceRef
  metadata : List (String × IssueDatum)
  message_text : isBlank message = false

instance : DecidableEq PriceCompilationIssue := fun _ _ =>
  decidable_of_iff _ PriceCompilationIssue.ext_iff.symm

@[ext]
structure PriceAcquisitionResult where
  priceDocumentId : String
  sourceFormat : PriceDocumentSourceFormat
  inputKind : PriceDocumentInputKind
  units : List PriceAcquisitionUnit
  rows : List PriceAcquisitionRow
  columnRoles : List PriceColumnRoleCandidate
  fieldCandidates : List PriceFieldCandidate
  factCandidates : List PriceFactCandidate
  issues : List PriceCompilationIssue
  priceDocumentId_text : isBlank priceDocumentId = false
  units_document : ∀ unit ∈ units, unit.priceDocumentId = priceDocumentId
  rows_unit : ∀ row ∈ rows, row.sourceUnitId ∈ units.map PriceAcquisitionUnit.id
  columnRoles_unit : ∀ role ∈ columnRoles, role.sourceUnitId ∈ units.map PriceAcquisitionUnit.id
  factCandidates_document : ∀ candidate ∈ factCandidates,
    candidate.priceDocumentId = priceDocumentId

instance : DecidableEq PriceAcquisitionResult := fun _ _ =>
  decidable_of_iff _ PriceAcquisitionResult.ext_iff.symm

def priceAcquisitionResult (priceDocumentId : String) (sourceFormat : PriceDocumentSourceFormat)
    (inputKind : PriceDocumentInputKind) (units : List PriceAcquisitionUnit)
    (rows : List PriceAcquisitionRow) (columnRoles : List PriceColumnRoleCandidate)
    (fieldCandidates : List PriceFieldCandidate) (factCandidates : List PriceFactCandidate)
    (issues : List PriceCompilationIssue) : Except AcquisitionFault PriceAcquisitionResult :=
  if hdocument : isBlank priceDocumentId = true then
    .error (.valueError "price acquisition result price_document_id must not be empty")
  else if hunits : ¬ ∀ unit ∈ units, unit.priceDocumentId = priceDocumentId then
    .error (.valueError "price acquisition unit price_document_id must match result")
  else if hrows : ¬ ∀ row ∈ rows, row.sourceUnitId ∈ units.map PriceAcquisitionUnit.id then
    .error (.valueError "price acquisition row must reference a known unit")
  else if hroles : ¬ ∀ role ∈ columnRoles,
      role.sourceUnitId ∈ units.map PriceAcquisitionUnit.id then
    .error (.valueError "price column role must reference a known unit")
  else if hfacts : ¬ ∀ candidate ∈ factCandidates, candidate.priceDocumentId = priceDocumentId then
    .error (.valueError "price fact candidate price_document_id must match result")
  else .ok { priceDocumentId, sourceFormat, inputKind, units, rows, columnRoles, fieldCandidates
             factCandidates, issues
             priceDocumentId_text := isBlank_eq_false hdocument
             units_document := not_not.mp hunits
             rows_unit := not_not.mp hrows
             columnRoles_unit := not_not.mp hroles
             factCandidates_document := not_not.mp hfacts }

theorem priceAcquisitionResult_eq_ok_iff {priceDocumentId : String}
    {sourceFormat : PriceDocumentSourceFormat} {inputKind : PriceDocumentInputKind}
    {units : List PriceAcquisitionUnit} {rows : List PriceAcquisitionRow}
    {columnRoles : List PriceColumnRoleCandidate} {fieldCandidates : List PriceFieldCandidate}
    {factCandidates : List PriceFactCandidate} {issues : List PriceCompilationIssue}
    {result : PriceAcquisitionResult} :
    priceAcquisitionResult priceDocumentId sourceFormat inputKind units rows columnRoles
        fieldCandidates factCandidates issues = .ok result ↔
      result.priceDocumentId = priceDocumentId ∧ result.sourceFormat = sourceFormat ∧
        result.inputKind = inputKind ∧ result.units = units ∧ result.rows = rows ∧
        result.columnRoles = columnRoles ∧ result.fieldCandidates = fieldCandidates ∧
        result.factCandidates = factCandidates ∧ result.issues = issues := by
  unfold priceAcquisitionResult
  constructor
  · intro h
    split_ifs at h
    cases h
    exact ⟨rfl, rfl, rfl, rfl, rfl, rfl, rfl, rfl, rfl⟩
  · rintro ⟨rfl, rfl, rfl, rfl, rfl, rfl, rfl, rfl, rfl⟩
    rw [dif_neg (Bool.eq_false_iff.mp result.priceDocumentId_text),
      dif_neg (not_not.mpr result.units_document), dif_neg (not_not.mpr result.rows_unit),
      dif_neg (not_not.mpr result.columnRoles_unit),
      dif_neg (not_not.mpr result.factCandidates_document)]

end CrmBot.Commercial
