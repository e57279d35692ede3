import CrmBot.Commercial.MarkdownAcquisition
import CrmBot.Commercial.PublishedSurface
import CrmBot.Library.Fold
import Mathlib.Data.List.ReduceOption

/-! What an acquisition makes of every row of every table. -/

namespace CrmBot.Commercial

open CrmBot.Python FailingFold

/-! Prices that are read. -/

/-- The first amount of a text with a currency is a decimal, once the spaces are
out and commas are points. A price on request needs no amount. -/
def ReadableAmount (mapping : CaseMapping) (value : String) : Prop :=
  ∀ found, amountMatch? (mapping.lower (strip value)).toList = some found →
    onRequestMarkers.any (containsText · (mapping.lower (strip value))) = false →
    currencyFromText mapping (found.currency.elim value String.ofList) ≠ none →
    (decimalOf? (plainAmount found.amount)).isSome = true

/-- A price as the parser gives it: a text, or an amount. -/
def ParsedPrice (value : String) (price : PriceValueKind × Option MoneyAmount × String) : Prop :=
  price = (.onRequest, none, strip value) ∨
    ∃ amount, price = (.exact, some amount, strip value) ∨
      price = (.startingFrom, some amount, strip value)

variable {mapping : CaseMapping}

theorem currencyFromText_mem {value currency : String}
    (h : currencyFromText mapping value = some currency) : currency ∈ ["RUB", "USD", "EUR"] := by
  unfold currencyFromText at h
  simp only at h
  split_ifs at h <;> cases h <;> simp

/-- The parser gives a price or none for a readable amount. -/
theorem exists_parsePriceValue {value : String} (hread : ReadableAmount mapping value)
    (hupper : ∀ code ∈ ["RUB", "USD", "EUR"], mapping.upper code = code) :
    ∃ price, parsePriceValue mapping value = .ok price ∧
      ∀ found ∈ price, ParsedPrice value found := by
  unfold parsePriceValue
  simp only
  have hnone : ∀ found ∈ none, ParsedPrice value found := by
    intro found hfound
    cases hfound
  split
  · exact ⟨none, rfl, hnone⟩
  split
  · refine ⟨_, rfl, fun found hfound => ?_⟩
    obtain rfl := Option.some.inj hfound
    exact Or.inl rfl
  next hrequest =>
  split
  · exact ⟨none, rfl, hnone⟩
  next found hfound =>
    split
    · exact ⟨none, rfl, hnone⟩
    next currency hcurrency =>
      have hcode := currencyFromText_mem hcurrency
      have hknown : currencyFromText mapping (found.currency.elim value String.ofList) ≠ none := by
        rw [hcurrency]
        exact Option.some_ne_none currency
      obtain ⟨number, hnumber⟩ := Option.isSome_iff_exists.mp
        (hread found hfound (Bool.eq_false_iff.mpr hrequest) hknown)
      have hblank : ¬ isBlank (mapping.upper (strip currency)) = true := by
        have hcodes : ∀ code ∈ ["RUB", "USD", "EUR"], strip code = code ∧ isBlank code = false := by
          simp only [List.forall_mem_cons]
          exact ⟨by decide, by decide, by decide, List.forall_mem_nil _⟩
        obtain ⟨hstrip, htext⟩ := hcodes currency hcode
        rw [hstrip, hupper currency hcode, htext]
        exact Bool.false_ne_true
      have hamount : ∃ amount,
          moneyAmountFromText mapping (plainAmount found.amount) currency = .ok amount := by
        unfold moneyAmountFromText
        rw [hnumber]
        exact ⟨_, dif_neg hblank⟩
      obtain ⟨amount, hamount⟩ := hamount
      refine ⟨_, bind_eq_ok.mpr ⟨amount, hamount, rfl⟩, fun price hprice => ?_⟩
      obtain rfl := Option.some.inj hprice
      refine Or.inr ⟨amount, ?_⟩
      split
      · exact Or.inr rfl
      · exact Or.inl rfl

/-! The tables that are found in some lines. -/

/-- A table of some lines: its headers, a row of separators, and the rows of cells
that follow, at the width of the headers. A line of blank cells ends it, as a line
without cells does. -/
structure TableAt (lines : List (List Char)) (table : MarkdownTable) : Prop where
  headers : ∃ line, lines[table.startLine]? = some line ∧ parsePipeRow line = table.headers
  separator : ∃ line, lines[table.startLine + 1]? = some line ∧
    isSeparatorRow (parsePipeRow line) = true
  rows : table.rows = (rowsAt (lines.drop (table.startLine + 2))).map (fitRow table.headers.length)
  headers_some : table.headers ≠ []
  rows_some : table.rows ≠ []

theorem tableAt_of_mem_tablesFrom {unit : PriceAcquisitionUnit} {index skip : ℕ}
    {lines whole : List (List Char)} (hwhole : whole.drop index = lines) {table : MarkdownTable}
    (hmem : table ∈ tablesFrom unit index skip lines) :
    table.unit = unit ∧ TableAt whole table := by
  induction lines generalizing index skip with
  | nil => simp [tablesFrom] at hmem
  | cons line rest ih =>
    cases rest with
    | nil => simp [tablesFrom] at hmem
    | cons next rest =>
      have hrest : whole.drop (index + 1) = next :: rest := by
        rw [← List.drop_drop, hwhole]
        rfl
      cases skip with
      | succ skip => exact ih hrest hmem
      | zero =>
        simp only [tablesFrom] at hmem
        split at hmem
        · next hfound =>
          obtain ⟨hheaders, hseparator⟩ := hfound
          rcases List.mem_append.mp hmem with hhere | hlater
          · split at hhere
            · cases hhere
            · next hrows =>
              obtain rfl := List.mem_singleton.mp hhere
              have hline : whole[index]? = some line := by
                have hget := congrArg List.head? hwhole
                rwa [List.head?_drop] at hget
              have hnext : whole[index + 1]? = some next := by
                have hget := congrArg List.head? hrest
                rwa [List.head?_drop] at hget
              have hdrop : whole.drop (index + 2) = rest := by
                rw [← List.drop_drop, hwhole]
                rfl
              exact ⟨rfl, {
                headers := ⟨line, hline, rfl⟩
                separator := ⟨next, hnext, hseparator⟩
                rows := by rw [hdrop]
                headers_some := hheaders
                rows_some := hrows }⟩
          · exact ih hrest hlater
        · exact ih hrest hmem

theorem length_fitRow (width : ℕ) (cells : List String) : (fitRow width cells).length = width := by
  unfold fitRow
  rw [List.length_take, List.length_append, List.length_replicate]
  omega

theorem TableAt.length_row {lines : List (List Char)} {table : MarkdownTable}
    (h : TableAt lines table) : ∀ values ∈ table.rows, values.length = table.headers.length := by
  rw [h.rows]
  intro values hvalues
  obtain ⟨cells, -, rfl⟩ := List.mem_map.mp hvalues
  exact length_fitRow _ cells

theorem tableAt_of_mem {units : List PriceAcquisitionUnit} {table : MarkdownTable}
    (hmem : table ∈ markdownTablesFromUnits units) :
    table.unit ∈ units ∧ TableAt (splitlines table.unit.rawText) table := by
  obtain ⟨unit, hunit, htable⟩ := List.mem_flatMap.mp hmem
  obtain ⟨rfl, htableAt⟩ := tableAt_of_mem_tablesFrom (List.drop_zero) htable
  exact ⟨hunit, htableAt⟩

/-! What is kept of a row. -/

/-- A row of a table, with its index. -/
structure SourceRow where
  table : MarkdownTable
  values : List String
  rowIndex : ℕ

def sourceRows (table : MarkdownTable) : List SourceRow :=
  table.rows.zipIdx.map fun values => ⟨table, values.1, values.2⟩

variable (stableId : String → { id : String // isBlank id = false })

/-- A row keeps every cell of its source, under the header of its column. -/
structure KeepsCells (source : SourceRow) (row : PriceAcquisitionRow) : Prop where
  id : row.id = (rowId stableId source.table source.rowIndex).val
  sourceUnitId : row.sourceUnitId = source.table.unit.id
  rowIndex : row.rowIndex = source.rowIndex
  cells : row.cells.map (fun cell => (cell.columnName, cell.rawValue)) =
    source.table.headers.zip source.values

/-- What becomes of a row. -/
inductive RowOutcome
  | fact (candidate : PriceFactCandidate)
  | issue (issue : PriceCompilationIssue)

namespace RowOutcome

def fact? : RowOutcome → Option PriceFactCandidate
  | .fact candidate => some candidate
  | .issue _ => none

def issue? : RowOutcome → Option PriceCompilationIssue
  | .fact _ => none
  | .issue problem => some problem

def sourceRefs : RowOutcome → List PriceSourceRef
  | .fact candidate => candidate.sourceRefs
  | .issue problem => problem.sourceRefs

/-- The outcome refers to the row. -/
def IsFor (row : PriceAcquisitionRow) (outcome : RowOutcome) : Prop :=
  ∃ ref ∈ outcome.sourceRefs, ref.sourceRowId = some row.id ∧ ref.sourceUnitId = row.sourceUnitId

end RowOutcome

/-- The rows are kept in order, and each has an outcome among the facts and the
issues. -/
def RowsAccounted (sources : List SourceRow) (rows : List PriceAcquisitionRow)
    (facts : List PriceFactCandidate) (issues : List PriceCompilationIssue) : Prop :=
  List.Forall₂ (KeepsCells stableId) sources rows ∧
    ∃ outcomes, List.Forall₂ RowOutcome.IsFor rows outcomes ∧
      outcomes.filterMap RowOutcome.fact? = facts ∧
      (outcomes.filterMap RowOutcome.issue?).Sublist issues

variable {stableId}

theorem RowsAccounted.concat {sources : List SourceRow} {rows : List PriceAcquisitionRow}
    {facts : List PriceFactCandidate} {issues : List PriceCompilationIssue}
    (h : RowsAccounted stableId sources rows facts issues) {source : SourceRow}
    {row : PriceAcquisitionRow} (hrow : KeepsCells stableId source row) {outcome : RowOutcome}
    (houtcome : outcome.IsFor row) :
    RowsAccounted stableId (sources ++ [source]) (rows ++ [row]) (facts ++ outcome.fact?.toList)
      (issues ++ outcome.issue?.toList) := by
  obtain ⟨hkeeps, outcomes, hall, rfl, hissues⟩ := h
  refine ⟨List.rel_append hkeeps (.cons hrow .nil), outcomes ++ [outcome],
    List.rel_append hall (.cons houtcome .nil), ?_, ?_⟩
  · rw [List.filterMap_append]
    cases outcome <;> rfl
  · rw [List.filterMap_append]
    refine hissues.append ?_
    cases outcome <;> exact List.Sublist.refl _

theorem RowsAccounted.append_issues {sources : List SourceRow} {rows : List PriceAcquisitionRow}
    {facts : List PriceFactCandidate} {issues : List PriceCompilationIssue}
    (h : RowsAccounted stableId sources rows facts issues) (more : List PriceCompilationIssue) :
    RowsAccounted stableId sources rows facts (issues ++ more) := by
  obtain ⟨hkeeps, outcomes, hall, hfacts, hissues⟩ := h
  exact ⟨hkeeps, outcomes, hall, hfacts, hissues.trans (List.sublist_append_left _ _)⟩

/-! One row. -/

variable {projectId priceDocumentId : String} {table : MarkdownTable}
  {roles : List PriceColumnRoleCandidate}

theorem zipIdx_cellAt {headers values : List String} (hlength : values.length = headers.length) :
    (headers.zipIdx.map fun header => (header.1, cellAt values header.2)) = headers.zip values := by
  apply List.ext_getElem
  · simp [hlength]
  · intro index hleft hright
    have hindex : index < values.length := by
      simp only [List.length_zip] at hright
      omega
    simp [cellAt, hindex]

theorem keepsCells_of_rowFromValues {rowIndex : ℕ} {values : List String}
    (hlength : values.length = table.headers.length) {row : PriceAcquisitionRow}
    (h : rowFromValues mapping stableId table roles rowIndex values = .ok row) :
    KeepsCells stableId ⟨table, values, rowIndex⟩ row := by
  obtain ⟨cells, hcells, hrow⟩ := bind_eq_ok.mp h
  obtain ⟨hid, hunit, hindex, -, rfl, -⟩ := priceAcquisitionRow_eq_ok_iff.mp hrow
  refine ⟨hid, hunit, hindex, ?_⟩
  rw [← zipIdx_cellAt hlength]
  refine map_eq_of_mapM _ _ (fun header cell hcell => ?_) hcells
  obtain ⟨-, hname, hraw, -⟩ := priceAcquisitionCell_eq_ok_iff.mp hcell
  rw [hname, hraw]

theorem factCandidateFromPrice_spec {row : PriceAcquisitionRow} {itemName unit : String}
    {fields : List PriceFieldCandidate} {price : PriceValueKind × Option MoneyAmount × String}
    {candidate : PriceFactCandidate}
    (h : factCandidateFromPrice stableId projectId priceDocumentId table row itemName unit fields
      price = .ok (some candidate)) :
    candidate.priceDocumentId = priceDocumentId ∧
      ∃ ref ∈ candidate.sourceRefs, ref.sourceRowId = some row.id ∧
        ref.sourceUnitId = table.unit.id := by
  obtain ⟨ref, href, hmade⟩ := bind_eq_ok.mp h
  obtain ⟨-, hunit, hrow, -⟩ := priceSourceRef_eq_ok_iff.mp href
  have hcandidate {kind : PriceValueKind} {amount : Option MoneyAmount} {priceText : String}
      (hmap : (priceFactCandidate (stableId ("candidate:" ++ row.id)).val projectId priceDocumentId
        itemName kind (if unit = "" then "item" else unit) [ref] amount priceText fields
        ⟨false, 72, -2⟩).map some = .ok (some candidate)) :
      candidate.priceDocumentId = priceDocumentId ∧ candidate.sourceRefs = [ref] := by
    obtain ⟨made, hfact, heq⟩ := map_eq_ok.mp hmap
    rw [← Option.some.inj heq]
    exact priceFactCandidate_spec hfact
  obtain ⟨kind, amount, priceText⟩ := price
  have hrefs : candidate.priceDocumentId = priceDocumentId ∧ candidate.sourceRefs = [ref] := by
    cases kind with
    | exact | startingFrom =>
      cases amount with
      | none => cases hmade
      | some amount => exact hcandidate hmade
    | onRequest => exact hcandidate hmade
    | range | unknown => cases hmade
  exact ⟨hrefs.1, ref, by rw [hrefs.2]; exact List.mem_singleton_self ref, hrow, hunit⟩

/-- A candidate of a row refers to the row and to the document. -/
theorem factCandidateFromRow_spec {row : PriceAcquisitionRow} {fields : List PriceFieldCandidate}
    {candidate : PriceFactCandidate}
    (h : factCandidateFromRow mapping stableId projectId priceDocumentId table row roles fields =
      .ok (some candidate)) :
    candidate.priceDocumentId = priceDocumentId ∧
      ∃ ref ∈ candidate.sourceRefs, ref.sourceRowId = some row.id ∧
        ref.sourceUnitId = table.unit.id := by
  unfold factCandidateFromRow at h
  cases hitem : firstColumnForRole roles itemRoles with
  | none => rw [hitem] at h; cases h
  | some itemColumn =>
    cases hprice : firstColumnForRole roles priceRoles with
    | none => rw [hitem, hprice] at h; cases h
    | some priceColumn =>
      rw [hitem, hprice] at h
      by_cases hblank : columnText row itemColumn = "" ∨ columnText row priceColumn = ""
      · simp only [if_pos hblank] at h
        cases h
      · simp only [if_neg hblank] at h
        obtain ⟨price, -, hmade⟩ := bind_eq_ok.mp h
        cases price with
        | none => cases hmade
        | some price => exact factCandidateFromPrice_spec hmade

theorem rowIssue_spec {row : PriceAcquisitionRow} {rowIndex : ℕ} {values : List String}
    {issue : PriceCompilationIssue}
    (h : rowIssue priceDocumentId table row rowIndex values = .ok issue) :
    ∃ ref ∈ issue.sourceRefs, ref.sourceRowId = some row.id ∧
      ref.sourceUnitId = table.unit.id := by
  obtain ⟨ref, href, hmade⟩ := bind_eq_ok.mp h
  obtain ⟨-, hunit, hrow, -⟩ := priceSourceRef_eq_ok_iff.mp href
  rw [← Except.ok.inj hmade]
  exact ⟨ref, List.mem_singleton_self ref, hrow, hunit⟩

/-- One row adds itself, its fields, and a fact or an issue. -/
theorem acquireRow_spec {values : List String} {rowIndex : ℕ}
    (hlength : values.length = table.headers.length) {acquired next : Acquired}
    (h : acquireRow mapping stableId projectId priceDocumentId table roles acquired
      (values, rowIndex) = .ok next) :
    ∃ (row : PriceAcquisitionRow) (fields : List PriceFieldCandidate) (outcome : RowOutcome),
      KeepsCells stableId ⟨table, values, rowIndex⟩ row ∧ outcome.IsFor row ∧
      (∀ fact ∈ outcome.fact?, fact.priceDocumentId = priceDocumentId) ∧
      next = { acquired with
        rows := acquired.rows ++ [row]
        fieldCandidates := acquired.fieldCandidates ++ fields
        factCandidates := acquired.factCandidates ++ outcome.fact?.toList
        issues := acquired.issues ++ outcome.issue?.toList } := by
  obtain ⟨row, hrow, h⟩ := bind_eq_ok.mp h
  obtain ⟨fields, -, h⟩ := bind_eq_ok.mp h
  obtain ⟨candidate, hcandidate, h⟩ := bind_eq_ok.mp h
  have hkeeps := keepsCells_of_rowFromValues hlength hrow
  cases candidate with
  | none =>
    obtain ⟨issue, hissue, hnext⟩ := bind_eq_ok.mp h
    obtain ⟨ref, href, hrowRef, hunit⟩ := rowIssue_spec hissue
    refine ⟨row, fields, .issue issue, hkeeps, ⟨ref, href, hrowRef, ?_⟩, ?_, ?_⟩
    · exact hunit.trans hkeeps.sourceUnitId.symm
    · simp [RowOutcome.fact?]
    · rw [← Except.ok.inj hnext]
      simp [RowOutcome.fact?, RowOutcome.issue?]
  | some candidate =>
    obtain ⟨hdocument, ref, href, hrowRef, hunit⟩ := factCandidateFromRow_spec hcandidate
    refine ⟨row, fields, .fact candidate, hkeeps, ⟨ref, href, hrowRef, ?_⟩, ?_, ?_⟩
    · exact hunit.trans hkeeps.sourceUnitId.symm
    · intro fact hfact
      obtain rfl := Option.some.inj hfact
      exact hdocument
    · rw [← Except.ok.inj h]
      simp [RowOutcome.fact?, RowOutcome.issue?]

/-! Roles. -/

/-- The first header with one of some roles. -/
def headerForRole (mapping : CaseMapping) (table : MarkdownTable)
    (wanted : List PriceAcquisitionFieldRole) : Option String :=
  table.headers.find? fun header => roleForHeader mapping header ∈ wanted

/-- The stripped text of a row under a header. -/
def cellText (table : MarkdownTable) (values : List String) (header : String) : String :=
  strip ((getItem (rawCells table values) header).getD "")

/-- The price that is read of a row: the text under the first header of a price,
where the row names an item. -/
def PriceCell (mapping : CaseMapping) (table : MarkdownTable) (values : List String)
    (price : String) : Prop :=
  (∃ header, headerForRole mapping table itemRoles = some header ∧
      cellText table values header ≠ "") ∧
    ∃ header, headerForRole mapping table priceRoles = some header ∧
      cellText table values header = price

theorem columnRole_spec {header : String} {found : Option PriceColumnRoleCandidate}
    (h : columnRole mapping table header = .ok found) :
    (found = none ∧ roleForHeader mapping header = .unknown) ∨
      ∃ role, found = some role ∧ role.sourceUnitId = table.unit.id ∧ role.columnName = header ∧
        role.role = roleForHeader mapping header := by
  unfold columnRole at h
  simp only at h
  split at h
  · next hunknown =>
    cases h
    exact Or.inl ⟨rfl, hunknown⟩
  · obtain ⟨ref, -, h⟩ := bind_eq_ok.mp h
    obtain ⟨role, hrole, h⟩ := bind_eq_ok.mp h
    cases h
    obtain ⟨hunit, hname, hsame, -⟩ := priceColumnRoleCandidate_eq_ok_iff.mp hrole
    exact Or.inr ⟨role, rfl, hunit, hname, hsame⟩

theorem sourceUnitId_of_columnRoles (h : columnRoles mapping table = .ok roles) :
    ∀ role ∈ roles, role.sourceUnitId = table.unit.id := by
  obtain ⟨found, hfound, h⟩ := bind_eq_ok.mp h
  cases h
  intro role hrole
  rw [List.reduceOption_mem_iff] at hrole
  obtain ⟨header, -, hread⟩ := exists_of_mem_forall₂ (forall₂_of_mapM hfound).flip hrole
  rcases columnRole_spec hread with ⟨hnone, -⟩ | ⟨other, hsome, hunit, -⟩
  · cases hnone
  · rwa [Option.some.inj hsome]

/-- The first column of a role is the first header that has it. -/
theorem firstColumnForRole_columnRoles (h : columnRoles mapping table = .ok roles)
    {wanted : List PriceAcquisitionFieldRole} (hunknown : .unknown ∉ wanted) :
    firstColumnForRole roles wanted = headerForRole mapping table wanted := by
  obtain ⟨found, hfound, hroles⟩ := bind_eq_ok.mp h
  clear h
  cases hroles
  have hall := forall₂_of_mapM hfound
  clear hfound
  unfold firstColumnForRole headerForRole
  generalize table.headers = headers at hall
  induction hall with
  | nil => rfl
  | @cons header candidate headers found hread _ ih =>
    rcases columnRole_spec hread with ⟨rfl, hrole⟩ | ⟨role, rfl, -, hname, hrole⟩
    · rw [List.reduceOption_cons_of_none, ih, List.find?_cons_of_neg]
      simpa [hrole] using hunknown
    · rw [List.reduceOption_cons_of_some]
      by_cases hwanted : roleForHeader mapping header ∈ wanted
      · rw [List.find?_cons_of_pos (by simpa [hrole] using hwanted),
          List.find?_cons_of_pos (by simpa using hwanted), Option.map_some, hname]
      · rw [List.find?_cons_of_neg (by simpa [hrole] using hwanted),
          List.find?_cons_of_neg (by simpa using hwanted), ih]

/-! The loops. -/

/-- What the constructor of a result asks of the things that were acquired. -/
structure Grounded (priceDocumentId : String) (units : List PriceAcquisitionUnit)
    (acquired : Acquired) : Prop where
  rows_unit : ∀ row ∈ acquired.rows, row.sourceUnitId ∈ units.map PriceAcquisitionUnit.id
  columnRoles_unit : ∀ role ∈ acquired.columnRoles,
    role.sourceUnitId ∈ units.map PriceAcquisitionUnit.id
  factCandidates_document : ∀ fact ∈ acquired.factCandidates,
    fact.priceDocumentId = priceDocumentId

section Loops

variable {units : List PriceAcquisitionUnit} {acquired next : Acquired}

theorem grounded_acquireRow {values : List String × ℕ}
    (hlength : values.1.length = table.headers.length) (hunit : table.unit ∈ units)
    (h : acquireRow mapping stableId projectId priceDocumentId table roles acquired values =
      .ok next) (hgrounded : Grounded priceDocumentId units acquired) :
    Grounded priceDocumentId units next := by
  obtain ⟨row, fields, outcome, hkeeps, -, hfact, rfl⟩ := acquireRow_spec hlength h
  refine ⟨?_, hgrounded.columnRoles_unit, ?_⟩
  · intro other hother
    rcases List.mem_append.mp hother with hold | hnew
    · exact hgrounded.rows_unit other hold
    · obtain rfl := List.mem_singleton.mp hnew
      rw [hkeeps.sourceUnitId]
      exact List.mem_map_of_mem hunit
  · intro fact hmem
    rcases List.mem_append.mp hmem with hold | hnew
    · exact hgrounded.factCandidates_document fact hold
    · exact hfact fact (Option.mem_toList.mp hnew)

theorem grounded_acquireTable (hlength : ∀ values ∈ table.rows,
    values.length = table.headers.length) (hunit : table.unit ∈ units)
    (h : acquireTable mapping stableId projectId priceDocumentId acquired table = .ok next)
    (hgrounded : Grounded priceDocumentId units acquired) :
    Grounded priceDocumentId units next := by
  obtain ⟨roles, hroles, h⟩ := bind_eq_ok.mp h
  obtain ⟨issues, -, hrun⟩ := bind_eq_ok.mp h
  refine invariant_foldlM (Grounded priceDocumentId units)
    (fun values hvalues before after hstep hbefore => ?_) hrun ?_
  · have hwidth := hlength values.1 (List.fst_mem_of_mem_zipIdx hvalues)
    exact grounded_acquireRow hwidth hunit hstep hbefore
  · refine ⟨hgrounded.rows_unit, ?_, hgrounded.factCandidates_document⟩
    intro role hrole
    rcases List.mem_append.mp hrole with hold | hnew
    · exact hgrounded.columnRoles_unit role hold
    · rw [sourceUnitId_of_columnRoles hroles role hnew]
      exact List.mem_map_of_mem hunit

/-- After some tables, their rows are accounted for. -/
def Accounted (stableId : String → { id : String // isBlank id = false })
    (sources : List SourceRow) (acquired : Acquired) : Prop :=
  RowsAccounted stableId sources acquired.rows acquired.factCandidates acquired.issues

theorem accounted_acquireTable {sources : List SourceRow}
    (hlength : ∀ values ∈ table.rows, values.length = table.headers.length)
    (h : acquireTable mapping stableId projectId priceDocumentId acquired table = .ok next)
    (haccounted : Accounted stableId sources acquired) :
    Accounted stableId (sources ++ sourceRows table) next := by
  obtain ⟨roles, -, h⟩ := bind_eq_ok.mp h
  obtain ⟨issues, -, hrun⟩ := bind_eq_ok.mp h
  -- the rows of the table that are done stand after those of the tables before
  refine prefix_foldlM (fun (done : List (List String × ℕ)) acquired => Accounted stableId
    (sources ++ done.map fun values => ⟨table, values.1, values.2⟩) acquired)
    (fun values hvalues done before after hstep hbefore => ?_) hrun (?_ : Accounted stableId
      (sources ++ ([] : List (List String × ℕ)).map fun values => ⟨table, values.1, values.2⟩) _)
  · have hwidth := hlength values.1 (List.fst_mem_of_mem_zipIdx hvalues)
    obtain ⟨row, fields, outcome, hkeeps, hfor, -, rfl⟩ := acquireRow_spec hwidth hstep
    have hconcat := RowsAccounted.concat hbefore hkeeps hfor
    rw [List.map_append, ← List.append_assoc]
    exact hconcat
  · rw [List.map_nil, List.append_nil]
    exact haccounted.append_issues issues

end Loops

/-! Acquisitions that do not raise. -/

theorem isBlank_intercalate_of_mem (separator : String) {texts : List String} {text : String}
    (hmem : text ∈ texts) (htext : isBlank text = false) :
    isBlank (separator.intercalate texts) = false := by
  induction texts with
  | nil => cases hmem
  | cons first rest ih =>
    cases rest with
    | nil =>
      obtain rfl := List.mem_singleton.mp hmem
      rwa [String.intercalate_singleton]
    | cons second rest =>
      rw [String.intercalate_cons_cons, isBlank_append, isBlank_append]
      rcases List.mem_cons.mp hmem with rfl | hlater
      · rw [htext, Bool.false_and, Bool.false_and]
      · rw [ih hlater, Bool.and_false]

theorem isBlank_rowQuote {headers : List String} (hsome : headers ≠ []) (values : List String) :
    isBlank (rowQuote headers values) = false := by
  obtain ⟨header, rest, rfl⟩ := List.exists_cons_of_ne_nil hsome
  have hcolon : isBlank ": " = false := by decide
  refine isBlank_intercalate_of_mem _ List.mem_cons_self ?_
  rw [isBlank_append, isBlank_append, hcolon, Bool.and_false, Bool.false_and]

theorem exists_priceSourceRef {documentId unitId quote : String} {sourceRowId : Option String}
    (hdocument : isBlank documentId = false) (hunit : isBlank unitId = false)
    (hrow : ∀ id ∈ sourceRowId, isBlank id = false) (hquote : isBlank quote = false) :
    ∃ ref, priceSourceRef documentId unitId sourceRowId quote = .ok ref :=
  ⟨⟨documentId, unitId, sourceRowId, quote, hdocument, hunit, hrow, hquote⟩,
    priceSourceRef_eq_ok_iff.mpr ⟨rfl, rfl, rfl, rfl⟩⟩

theorem isBlank_columnText {row : PriceAcquisitionRow} {column : String}
    (h : columnText row column ≠ "") : isBlank (columnText row column) = false := by
  rw [← Bool.not_eq_true, ← strip_eq_empty_iff, columnText, strip_strip]
  exact h

theorem isBlank_unitFromPriceText (value : String) :
    isBlank (unitFromPriceText mapping value) = false := by
  unfold unitFromPriceText
  simp only
  split_ifs <;> decide

/-- The role of a header that is not blank. -/
theorem exists_columnRole {header : String} (hheader : isBlank header = false) :
    ∃ found, columnRole mapping table header = .ok found := by
  unfold columnRole
  generalize roleForHeader mapping header = role
  simp only
  split
  · exact ⟨none, rfl⟩
  · next hrole =>
    obtain ⟨ref, href⟩ := exists_priceSourceRef table.unit.priceDocumentId_text table.unit.id_text
      (nofun : ∀ id ∈ (none : Option String), isBlank id = false) hheader
    have hconfidence : IsConfidence ⟨false, 85, -2⟩ := isConfidence_unsigned (by decide)
    let candidate : PriceColumnRoleCandidate :=
      { sourceUnitId := table.unit.id, columnName := header, role := role
        confidence := ⟨false, 85, -2⟩, sourceRefs := [ref], sourceUnitId_text := table.unit.id_text
        columnName_text := hheader, role_explicit := hrole, sourceRefs_some := List.cons_ne_nil _ _
        confidence_valid := hconfidence }
    have hcandidate : priceColumnRoleCandidate table.unit.id header role ⟨false, 85, -2⟩ [ref] =
        .ok candidate :=
      priceColumnRoleCandidate_eq_ok_iff.mpr ⟨rfl, rfl, rfl, rfl, rfl⟩
    exact ⟨some candidate, bind_eq_ok.mpr ⟨ref, href, bind_eq_ok.mpr ⟨candidate, hcandidate, rfl⟩⟩⟩

theorem exists_columnRoles (hheaders : ∀ header ∈ table.headers, isBlank header = false) :
    ∃ roles, columnRoles mapping table = .ok roles := by
  have hread : ∀ header ∈ table.headers,
      ∃ found, columnRole mapping table header = .ok found ∧ True := by
    intro header hheader
    obtain ⟨found, hfound⟩ := exists_columnRole (hheaders header hheader)
    exact ⟨found, hfound, trivial⟩
  obtain ⟨found, hfound, -⟩ := exists_mapM_eq_ok hread
  exact ⟨found.reduceOption, bind_eq_ok.mpr ⟨found, hfound, rfl⟩⟩

theorem exists_rowFromValues (hheaders : ∀ header ∈ table.headers, isBlank header = false)
    (hsome : table.headers ≠ []) (rowIndex : ℕ) (values : List String) :
    ∃ row, rowFromValues mapping stableId table roles rowIndex values = .ok row ∧
      row.rawCells = rawCells table values := by
  have hid := (rowId stableId table rowIndex).property
  have hconfidence : IsConfidence ⟨false, 8, -1⟩ := isConfidence_unsigned (by decide)
  have hread : ∀ header ∈ table.headers.zipIdx, ∃ cell,
      priceAcquisitionCell (rowId stableId table rowIndex).val header.1 (cellAt values header.2)
          (strip (cellAt values header.2))
          (normalizedRole mapping roles (normalizeSlotName mapping header.1)) ⟨false, 8, -1⟩ =
        .ok cell ∧ cell.rowId = (rowId stableId table rowIndex).val := by
    intro header hheader
    have hname := hheaders header.1 (List.fst_mem_of_mem_zipIdx hheader)
    exact ⟨⟨_, _, _, _, _, _, hid, hname, hconfidence⟩,
      priceAcquisitionCell_eq_ok_iff.mpr ⟨rfl, rfl, rfl, rfl, rfl, rfl⟩, rfl⟩
  obtain ⟨cells, hcells, hall⟩ := exists_mapM_eq_ok hread
  have hcellsSome : cells ≠ [] := by
    intro hnil
    have hlength := hall.length_eq
    rw [hnil, List.length_zipIdx, List.length_nil] at hlength
    exact hsome (List.length_eq_zero_iff.mp hlength)
  have hrow : ∀ cell ∈ cells, cell.rowId = (rowId stableId table rowIndex).val := by
    intro cell hcell
    obtain ⟨header, -, hsame⟩ := exists_of_mem_forall₂ hall.flip hcell
    exact hsame
  let row : PriceAcquisitionRow :=
    { id := (rowId stableId table rowIndex).val, sourceUnitId := table.unit.id, rowIndex := rowIndex
      rawCells := rawCells table values, cells := cells
      normalizedCells := normalizedCells mapping table values, id_text := hid
      sourceUnitId_text := table.unit.id_text, cells_some := fun hnone => hcellsSome hnone.2
      cells_row := hrow }
  have hmade : priceAcquisitionRow (rowId stableId table rowIndex).val table.unit.id rowIndex
      (rawCells table values) cells (normalizedCells mapping table values) = .ok row :=
    priceAcquisitionRow_eq_ok_iff.mpr ⟨rfl, rfl, rfl, rfl, rfl, rfl⟩
  exact ⟨row, bind_eq_ok.mpr ⟨cells, hcells, hmade⟩, rfl⟩

theorem exists_fieldCandidate (row : PriceAcquisitionRow) (role : PriceColumnRoleCandidate) :
    ∃ found, fieldCandidate table row role = .ok found := by
  unfold fieldCandidate
  simp only
  split
  · exact ⟨none, rfl⟩
  · next hvalue =>
    have htext := isBlank_columnText hvalue
    have hquote : isBlank (role.columnName ++ ": " ++ columnText row role.columnName) = false := by
      rw [isBlank_append, htext, Bool.and_false]
    have hrow : ∀ id ∈ some row.id, isBlank id = false :=
      fun id hid => Option.some.inj hid ▸ row.id_text
    obtain ⟨ref, href⟩ := exists_priceSourceRef table.unit.priceDocumentId_text table.unit.id_text
      hrow hquote
    have hconfidence : IsConfidence ⟨false, 8, -1⟩ := isConfidence_unsigned (by decide)
    let field : PriceFieldCandidate :=
      { role := role.role, value := columnText row role.columnName, sourceRefs := [ref]
        normalizedValue := strip (columnText row role.columnName), confidence := ⟨false, 8, -1⟩
        role_explicit := role.role_explicit, value_text := htext
        sourceRefs_some := List.cons_ne_nil _ _, confidence_valid := hconfidence }
    have hfield : priceFieldCandidate role.role (columnText row role.columnName) [ref]
        (strip (columnText row role.columnName)) ⟨false, 8, -1⟩ = .ok field :=
      priceFieldCandidate_eq_ok_iff.mpr ⟨rfl, rfl, rfl, rfl, rfl⟩
    exact ⟨some field, bind_eq_ok.mpr ⟨ref, href, bind_eq_ok.mpr ⟨field, hfield, rfl⟩⟩⟩

theorem exists_fieldCandidatesFromRow (row : PriceAcquisitionRow)
    (roles : List PriceColumnRoleCandidate) :
    ∃ fields, fieldCandidatesFromRow table row roles = .ok fields := by
  have hread : ∀ role ∈ roles, ∃ found, fieldCandidate table row role = .ok found ∧ True := by
    intro role _
    obtain ⟨found, hfound⟩ := exists_fieldCandidate row role
    exact ⟨found, hfound, trivial⟩
  obtain ⟨found, hfound, -⟩ := exists_mapM_eq_ok hread
  exact ⟨found.reduceOption, bind_eq_ok.mpr ⟨found, hfound, rfl⟩⟩

theorem exists_rowIssue (hdocument : isBlank priceDocumentId = false)
    (hsome : table.headers ≠ []) (row : PriceAcquisitionRow) (rowIndex : ℕ)
    (values : List String) :
    ∃ issue, rowIssue priceDocumentId table row rowIndex values = .ok issue := by
  have hrow : ∀ id ∈ some row.id, isBlank id = false :=
    fun id hid => Option.some.inj hid ▸ row.id_text
  obtain ⟨ref, href⟩ := exists_priceSourceRef hdocument table.unit.id_text hrow
    (isBlank_rowQuote hsome values)
  exact ⟨_, bind_eq_ok.mpr ⟨ref, href, rfl⟩⟩

section Accepted

variable (hproject : isBlank projectId = false) (hdocument : isBlank priceDocumentId = false)
  (hsome : table.headers ≠ [])

include hproject hdocument hsome

/-- A price that was read makes a candidate, or none. -/
theorem exists_factCandidateFromPrice (row : PriceAcquisitionRow) {itemName unit value : String}
    (hitem : isBlank itemName = false) (hvalue : isBlank (strip value) = false)
    (hunit : unit = "" ∨ isBlank unit = false) (fields : List PriceFieldCandidate)
    {price : PriceValueKind × Option MoneyAmount × String} (hprice : ParsedPrice value price) :
    ∃ candidate, factCandidateFromPrice stableId projectId priceDocumentId table row itemName unit
      fields price = .ok candidate := by
  have hrow : ∀ id ∈ some row.id, isBlank id = false :=
    fun id hid => Option.some.inj hid ▸ row.id_text
  obtain ⟨ref, href⟩ := exists_priceSourceRef hdocument table.unit.id_text hrow
    (isBlank_rowQuote hsome (table.headers.map fun header => (getItem row.rawCells header).getD ""))
  have hunitText : isBlank (if unit = "" then "item" else unit) = false := by
    split
    · decide
    · next hne => exact hunit.resolve_left hne
  have hmade {kind : PriceValueKind} {amount : Option MoneyAmount} {priceText : String}
      (hshape : PriceShape none priceText amount kind) :
      ∃ candidate, priceFactCandidate (stableId ("candidate:" ++ row.id)).val projectId
        priceDocumentId itemName kind (if unit = "" then "item" else unit) [ref] amount priceText
        fields ⟨false, 72, -2⟩ = .ok candidate :=
    exists_priceFactCandidate (stableId _).property hproject hdocument hitem hunitText
      (List.cons_ne_nil _ _) (isConfidence_unsigned (by decide)) hshape fields
  have hmake : ∃ candidate : PriceFactCandidate, factCandidateFromPrice stableId projectId
      priceDocumentId table row itemName unit fields price = .ok (some candidate) := by
    rcases hprice with rfl | ⟨amount, rfl | rfl⟩
    · have hshape : PriceShape none (strip value) none .onRequest := ⟨rfl, rfl, hvalue⟩
      obtain ⟨candidate, hcandidate⟩ := hmade hshape
      exact ⟨candidate, bind_eq_ok.mpr ⟨ref, href, map_eq_ok.mpr ⟨candidate, hcandidate, rfl⟩⟩⟩
    · have hshape : PriceShape none "" (some amount) .exact := ⟨Option.some_ne_none amount, rfl⟩
      obtain ⟨candidate, hcandidate⟩ := hmade hshape
      exact ⟨candidate, bind_eq_ok.mpr ⟨ref, href, map_eq_ok.mpr ⟨candidate, hcandidate, rfl⟩⟩⟩
    · have hshape : PriceShape none "" (some amount) .startingFrom :=
        ⟨Option.some_ne_none amount, rfl⟩
      obtain ⟨candidate, hcandidate⟩ := hmade hshape
      exact ⟨candidate, bind_eq_ok.mpr ⟨ref, href, map_eq_ok.mpr ⟨candidate, hcandidate, rfl⟩⟩⟩
  obtain ⟨candidate, hcandidate⟩ := hmake
  exact ⟨some candidate, hcandidate⟩

/-- A row whose price is readable, where the columns of the item and the price
are the first of their roles. -/
theorem exists_factCandidateFromRow (hroles : columnRoles mapping table = .ok roles)
    (hupper : ∀ code ∈ ["RUB", "USD", "EUR"], mapping.upper code = code)
    {values : List String} (hread : ∀ price, PriceCell mapping table values price →
      ReadableAmount mapping price)
    {row : PriceAcquisitionRow} (hcells : row.rawCells = rawCells table values)
    (fields : List PriceFieldCandidate) :
    ∃ candidate, factCandidateFromRow mapping stableId projectId priceDocumentId table row roles
      fields = .ok candidate := by
  have hitemColumn := firstColumnForRole_columnRoles hroles
    (by decide : PriceAcquisitionFieldRole.unknown ∉ itemRoles)
  have hpriceColumn := firstColumnForRole_columnRoles hroles
    (by decide : PriceAcquisitionFieldRole.unknown ∉ priceRoles)
  unfold factCandidateFromRow
  cases hitem : firstColumnForRole roles itemRoles with
  | none => exact ⟨none, rfl⟩
  | some itemColumn =>
    cases hprice : firstColumnForRole roles priceRoles with
    | none => exact ⟨none, rfl⟩
    | some priceColumn =>
      simp only
      split
      · exact ⟨none, rfl⟩
      · next hblank =>
        obtain ⟨hitemText, hpriceText⟩ := not_or.mp hblank
        have htext (column : String) : columnText row column = cellText table values column := by
          rw [columnText, hcells, cellText]
        have hcell : PriceCell mapping table values (columnText row priceColumn) :=
          ⟨⟨itemColumn, hitemColumn ▸ hitem, htext itemColumn ▸ hitemText⟩,
            priceColumn, hpriceColumn ▸ hprice, (htext priceColumn).symm⟩
        obtain ⟨price, hparse, hprices⟩ := exists_parsePriceValue (hread _ hcell) hupper
        cases price with
        | none => exact ⟨none, bind_eq_ok.mpr ⟨none, hparse, rfl⟩⟩
        | some price =>
          have hstrip : isBlank (strip (columnText row priceColumn)) = false := by
            rw [columnText, strip_strip]
            exact isBlank_columnText hpriceText
          cases firstColumnForRole roles unitRoles with
          | some unitColumn =>
            have hunit := or_iff_not_imp_left.mpr (@isBlank_columnText row unitColumn)
            obtain ⟨candidate, hcandidate⟩ := exists_factCandidateFromPrice hproject hdocument hsome
              row (isBlank_columnText hitemText) hstrip hunit fields (hprices price rfl)
            exact ⟨candidate, bind_eq_ok.mpr ⟨some price, hparse, hcandidate⟩⟩
          | none =>
            have hunit := @isBlank_unitFromPriceText mapping (columnText row priceColumn)
            obtain ⟨candidate, hcandidate⟩ := exists_factCandidateFromPrice hproject hdocument hsome
              row (isBlank_columnText hitemText) hstrip (.inr hunit) fields (hprices price rfl)
            exact ⟨candidate, bind_eq_ok.mpr ⟨some price, hparse, hcandidate⟩⟩

theorem exists_acquireRow (hheaders : ∀ header ∈ table.headers, isBlank header = false)
    (hroles : columnRoles mapping table = .ok roles)
    (hupper : ∀ code ∈ ["RUB", "USD", "EUR"], mapping.upper code = code)
    {values : List String × ℕ} (hread : ∀ price, PriceCell mapping table values.1 price →
      ReadableAmount mapping price) (acquired : Acquired) :
    ∃ next, acquireRow mapping stableId projectId priceDocumentId table roles acquired values =
      .ok next := by
  obtain ⟨row, hrow, hcells⟩ := exists_rowFromValues hheaders hsome values.2 values.1
  obtain ⟨fields, hfields⟩ := exists_fieldCandidatesFromRow row roles
  obtain ⟨candidate, hcandidate⟩ := exists_factCandidateFromRow hproject hdocument hsome hroles
    hupper hread hcells fields
  cases candidate with
  | none =>
    obtain ⟨issue, hissue⟩ := exists_rowIssue hdocument hsome row values.2 values.1
    exact ⟨_, bind_eq_ok.mpr ⟨row, hrow, bind_eq_ok.mpr ⟨fields, hfields, bind_eq_ok.mpr
      ⟨none, hcandidate, bind_eq_ok.mpr ⟨issue, hissue, rfl⟩⟩⟩⟩⟩
  | some candidate =>
    exact ⟨_, bind_eq_ok.mpr ⟨row, hrow, bind_eq_ok.mpr ⟨fields, hfields, bind_eq_ok.mpr
      ⟨some candidate, hcandidate, rfl⟩⟩⟩⟩

end Accepted

theorem exists_tableIssue (hheaders : ∀ header ∈ table.headers, isBlank header = false)
    (hsome : table.headers ≠ []) (code : PriceCompilationIssueCode) {message : String}
    (hmessage : isBlank message = false) :
    ∃ issue, tableIssue table code message hmessage = .ok issue := by
  obtain ⟨header, hheader⟩ := List.exists_mem_of_ne_nil _ hsome
  obtain ⟨ref, href⟩ := exists_priceSourceRef table.unit.priceDocumentId_text table.unit.id_text
    (nofun : ∀ id ∈ (none : Option String), isBlank id = false)
    (isBlank_intercalate_of_mem " | " hheader (hheaders header hheader))
  exact ⟨_, bind_eq_ok.mpr ⟨ref, href, rfl⟩⟩

theorem exists_tableIssues (hheaders : ∀ header ∈ table.headers, isBlank header = false)
    (hsome : table.headers ≠ []) (roles : List PriceColumnRoleCandidate) :
    ∃ issues, tableIssues table roles = .ok issues := by
  have hitemText :
      isBlank "Markdown price table has no recognizable item/name column." = false := by decide
  have hpriceText :
      isBlank "Markdown price table has no recognizable price column." = false := by decide
  obtain ⟨item, hitem⟩ := exists_tableIssue hheaders hsome .missingItemName hitemText
  obtain ⟨price, hprice⟩ := exists_tableIssue hheaders hsome .missingPriceValue hpriceText
  unfold tableIssues
  rw [hitem, hprice]
  split <;> split <;> exact ⟨_, rfl⟩

/-- No header is blank, and the prices are readable. -/
structure Acquirable (mapping : CaseMapping) (table : MarkdownTable) : Prop where
  headers : ∀ header ∈ table.headers, isBlank header = false
  prices : ∀ values ∈ table.rows, ∀ price, PriceCell mapping table values price →
    ReadableAmount mapping price

theorem exists_acquireTable (hproject : isBlank projectId = false)
    (hdocument : isBlank priceDocumentId = false)
    (hupper : ∀ code ∈ ["RUB", "USD", "EUR"], mapping.upper code = code)
    (hsome : table.headers ≠ []) (htable : Acquirable mapping table) (acquired : Acquired) :
    ∃ next, acquireTable mapping stableId projectId priceDocumentId acquired table = .ok next := by
  obtain ⟨roles, hroles⟩ := exists_columnRoles htable.headers
  obtain ⟨issues, hissues⟩ := exists_tableIssues htable.headers hsome roles
  have hstep : ∀ values ∈ table.rows.zipIdx, ∀ before, ∃ after,
      acquireRow mapping stableId projectId priceDocumentId table roles before values =
        .ok after := by
    intro values hvalues before
    have hread := htable.prices values.1 (List.fst_mem_of_mem_zipIdx hvalues)
    exact exists_acquireRow hproject hdocument hsome htable.headers hroles hupper hread before
  obtain ⟨next, hnext⟩ := exists_foldlM_eq_ok hstep
    { acquired with
      issues := acquired.issues ++ issues, columnRoles := acquired.columnRoles ++ roles }
  unfold acquireTable
  exact ⟨next, bind_eq_ok.mpr ⟨roles, hroles, bind_eq_ok.mpr ⟨issues, hissues, hnext⟩⟩⟩

/-! The acquisition. -/

variable {sourceFormat : PriceDocumentSourceFormat} {inputKind : PriceDocumentInputKind}
  {units : List PriceAcquisitionUnit}

theorem rowsAccounted_of_acquire {result : PriceAcquisitionResult}
    (h : acquire mapping stableId projectId priceDocumentId sourceFormat inputKind units =
      .ok result) :
    RowsAccounted stableId ((markdownTablesFromUnits units).flatMap sourceRows) result.rows
      result.factCandidates result.issues := by
  have hnone : Accounted stableId [] ⟨[], [], [], [], []⟩ :=
    ⟨.nil, [], .nil, rfl, List.Sublist.refl _⟩
  unfold acquire at h
  simp only at h
  split at h
  · next htables =>
    obtain ⟨-, -, -, -, hrows, -, -, hfacts, hissues⟩ := priceAcquisitionResult_eq_ok_iff.mp h
    rw [htables, hrows, hfacts]
    have hall := hnone.append_issues result.issues
    exact hall
  · obtain ⟨acquired, hrun, hresult⟩ := bind_eq_ok.mp h
    obtain ⟨-, -, -, -, hrows, -, -, hfacts, hissues⟩ := priceAcquisitionResult_eq_ok_iff.mp hresult
    rw [hrows, hfacts, hissues]
    refine prefix_foldlM (fun (done : List MarkdownTable) acquired =>
      Accounted stableId (done.flatMap sourceRows) acquired)
      (fun table htable done before after hstep hbefore => ?_) hrun
      (?_ : Accounted stableId (([] : List MarkdownTable).flatMap sourceRows) _)
    · have haccounted := accounted_acquireTable (tableAt_of_mem htable).2.length_row hstep hbefore
      rw [List.flatMap_append, List.flatMap_singleton]
      exact haccounted
    · rw [List.flatMap_nil]
      exact hnone

theorem exists_priceAcquisitionResult (hdocument : isBlank priceDocumentId = false)
    (hunits : ∀ unit ∈ units, unit.priceDocumentId = priceDocumentId) {acquired : Acquired}
    (hgrounded : Grounded priceDocumentId units acquired) :
    ∃ result, priceAcquisitionResult priceDocumentId sourceFormat inputKind units acquired.rows
      acquired.columnRoles acquired.fieldCandidates acquired.factCandidates acquired.issues =
      .ok result := by
  unfold priceAcquisitionResult
  rw [dif_neg (Bool.eq_false_iff.mp hdocument), dif_neg (not_not.mpr hunits),
    dif_neg (not_not.mpr hgrounded.rows_unit), dif_neg (not_not.mpr hgrounded.columnRoles_unit),
    dif_neg (not_not.mpr hgrounded.factCandidates_document)]
  exact ⟨_, rfl⟩

theorem exists_acquire (hproject : isBlank projectId = false)
    (hdocument : isBlank priceDocumentId = false)
    (hupper : ∀ code ∈ ["RUB", "USD", "EUR"], mapping.upper code = code)
    (hunits : ∀ unit ∈ units, unit.priceDocumentId = priceDocumentId)
    (htables : ∀ table ∈ markdownTablesFromUnits units, Acquirable mapping table) :
    ∃ result, acquire mapping stableId projectId priceDocumentId sourceFormat inputKind units =
      .ok result := by
  have hnone (issues : List PriceCompilationIssue) :
      Grounded priceDocumentId units ⟨[], [], [], [], issues⟩ :=
    ⟨List.forall_mem_nil _, List.forall_mem_nil _, List.forall_mem_nil _⟩
  unfold acquire
  simp only
  split
  · exact exists_priceAcquisitionResult hdocument hunits (hnone [noTableIssue])
  · have hstep : ∀ table ∈ markdownTablesFromUnits units, ∀ before, ∃ after,
        acquireTable mapping stableId projectId priceDocumentId before table = .ok after := by
      intro table htable before
      have hsome := (tableAt_of_mem htable).2.headers_some
      exact exists_acquireTable hproject hdocument hupper hsome (htables table htable) before
    obtain ⟨acquired, hrun⟩ := exists_foldlM_eq_ok hstep ⟨[], [], [], [], []⟩
    have hgrounded : Grounded priceDocumentId units acquired := by
      refine invariant_foldlM (Grounded priceDocumentId units)
        (fun table htable before after hstep hbefore => ?_) hrun (hnone [])
      obtain ⟨hunit, htableAt⟩ := tableAt_of_mem htable
      exact grounded_acquireTable htableAt.length_row hunit hstep hbefore
    obtain ⟨result, hmade⟩ := exists_priceAcquisitionResult hdocument hunits hgrounded
    exact ⟨result, bind_eq_ok.mpr ⟨acquired, hrun, hmade⟩⟩

/-- The tables are found with the rows that follow their headers up to a line without
cells or of blank cells, cut or filled up to the width of the headers. An acquisition
that returns keeps all cells of every row of every table, and has a fact or an issue
for the row; it returns for tables with proper headers and readable prices. -/
theorem acquire_accounts_for_rows (mapping : CaseMapping)
    (stableId : String → { id : String // isBlank id = false }) (projectId priceDocumentId : String)
    (sourceFormat : PriceDocumentSourceFormat) (inputKind : PriceDocumentInputKind)
    (units : List PriceAcquisitionUnit)
    (hupper : ∀ code ∈ ["RUB", "USD", "EUR"], mapping.upper code = code) :
    (∀ table ∈ markdownTablesFromUnits units, TableAt (splitlines table.unit.rawText) table) ∧
      (∀ result, acquire mapping stableId projectId priceDocumentId sourceFormat inputKind units =
          .ok result →
        RowsAccounted stableId ((markdownTablesFromUnits units).flatMap sourceRows) result.rows
          result.factCandidates result.issues) ∧
      (isBlank projectId = false → isBlank priceDocumentId = false →
        (∀ unit ∈ units, unit.priceDocumentId = priceDocumentId) →
        (∀ table ∈ markdownTablesFromUnits units, Acquirable mapping table) →
        ∃ result, acquire mapping stableId projectId priceDocumentId sourceFormat inputKind units =
          .ok result) :=
  ⟨fun _ htable => (tableAt_of_mem htable).2, fun _ => rowsAccounted_of_acquire,
    fun hproject hdocument => exists_acquire hproject hdocument hupper⟩

/-! A table of two rows. -/

/-- The ids that `uuid5` makes for the two rows of a table, and for the first of
them as a candidate. -/
def plainRowIds (text : String) : { id : String // isBlank id = false } :=
  if text = "row:unit-1:0:0" then ⟨"8ee6f905-0ebd-5a8b-9608-3dd728b6706b", by decide⟩
  else if text = "candidate:8ee6f905-0ebd-5a8b-9608-3dd728b6706b" then
    ⟨"45435ee4-1b81-5d27-9825-6b876ca74adc", by decide⟩
  else ⟨"6553f7d8-cb72-5359-8e1a-ea90948a4c5d", by decide⟩

def plainUnit (rawText : String) (rawText_text : isBlank rawText = false) :
    PriceAcquisitionUnit where
  id := "unit-1"
  priceDocumentId := "document-1"
  rawText := rawText
  id_text := Eq.refl false
  priceDocumentId_text := Eq.refl false
  rawText_text := rawText_text

/-- One price in roubles, and one that is no price. -/
def askUnit : PriceAcquisitionUnit :=
  plainUnit "| name | price |\n| --- | --- |\n| pro | 5 rub |\n| basic | ask |" (by decide)

def askTable : MarkdownTable where
  unit := askUnit
  startLine := 0
  headers := ["name", "price"]
  rows := [["pro", "5 rub"], ["basic", "ask"]]

theorem acquirable_askTable : Acquirable plainCase askTable where
  headers := by
    have hname : isBlank "name" = false := by decide
    have hprice : isBlank "price" = false := by decide
    exact List.forall_mem_cons.mpr ⟨hname, List.forall_mem_singleton.mpr hprice⟩
  prices := by
    have hheader : headerForRole plainCase askTable priceRoles = some "price" := by decide +kernel
    have hread (values : List String) {text : String}
        (htext : cellText askTable values "price" = text) (hamount : ReadableAmount plainCase text)
        (price : String) (hprice : PriceCell plainCase askTable values price) :
        ReadableAmount plainCase price := by
      obtain ⟨-, header, hfound, rfl⟩ := hprice
      rw [hheader] at hfound
      obtain rfl := Option.some.inj hfound
      rwa [htext]
    have hfive : ReadableAmount plainCase "5 rub" := by
      intro found hfound _ _
      have hmatch : amountMatch? (plainCase.lower (strip "5 rub")).toList =
          some ⟨false, ['5', ' '], some ['r', 'u', 'b']⟩ := by decide +kernel
      obtain rfl := Option.some.inj (hmatch.symm.trans hfound)
      decide +kernel
    have hask : ReadableAmount plainCase "ask" := by
      intro found hfound
      have hmatch : amountMatch? (plainCase.lower (strip "ask")).toList = none := by decide +kernel
      exact absurd (hmatch.symm.trans hfound) nofun
    exact List.forall_mem_cons.mpr ⟨hread _ (by decide +kernel) hfive,
      List.forall_mem_singleton.mpr (hread _ (by decide +kernel) hask)⟩

theorem askTable_acquired : ∃ result,
    acquire plainCase plainRowIds "project-1" "document-1" .markdown .table [askUnit] = .ok result ∧
      RowsAccounted plainRowIds
        [⟨askTable, ["pro", "5 rub"], 0⟩, ⟨askTable, ["basic", "ask"], 1⟩] result.rows
        result.factCandidates result.issues := by
  have htables : markdownTablesFromUnits [askUnit] = [askTable] := by decide +kernel
  obtain ⟨-, haccounted, hreturns⟩ := acquire_accounts_for_rows plainCase plainRowIds "project-1"
    "document-1" .markdown .table [askUnit] (fun _ _ => rfl)
  obtain ⟨result, hresult⟩ := hreturns (by decide) (by decide)
    (List.forall_mem_singleton.mpr rfl)
    (htables ▸ List.forall_mem_singleton.mpr acquirable_askTable)
  have hrows := haccounted result hresult
  rw [htables] at hrows
  exact ⟨result, hresult, hrows⟩

/-- A blank header and an amount with two points raise. A cell beyond the headers is
lost, and so are the rows below a line of blank cells. -/
theorem tables_raise_or_lose_cells :
    acquire plainCase plainRowIds "project-1" "document-1" .markdown .table
        [plainUnit "| name | |\n| --- | --- |\n| pro | 5 rub |" (by decide)] =
      .error (.valueError "price source ref quote must not be empty") ∧
    acquire plainCase plainRowIds "project-1" "document-1" .markdown .table
        [plainUnit "| name | price |\n| --- | --- |\n| pro | 1.234,56 rub |" (by decide)] =
      .error .invalidOperation ∧
    parsePipeRow "| pro | 5 rub | extra |".toList = ["pro", "5 rub", "extra"] ∧
    (acquire plainCase plainRowIds "project-1" "document-1" .markdown .table
        [plainUnit "| name | price |\n| --- | --- |\n| pro | 5 rub | extra |" (by decide)]).map
      (fun result => result.rows.map fun row => row.cells.map PriceAcquisitionCell.rawValue) =
      .ok [["pro", "5 rub"]] ∧
    (acquire plainCase plainRowIds "project-1" "document-1" .markdown .table
        [plainUnit ("| name | price |\n| --- | --- |\n| pro | 5 rub |\n| | |\n" ++
          "| basic | 6 rub |\n| max | 7 rub |") (by decide)]).map
      (fun result => (result.factCandidates.map PriceFactCandidate.itemName,
        result.issues.length)) =
      .ok (["pro"], 0) := by
  refine ⟨?_, ?_, ?_, ?_, ?_⟩ <;> decide +kernel

end CrmBot.Commercial
