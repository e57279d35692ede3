import CrmBot.Commercial.PriceAcquisition
import CrmBot.Python.Text

/-! The tables of a Markdown document.

A table is a row of headers, a row of separators and the rows of cells below
them. Its rows have as many cells as there are headers. -/

namespace CrmBot.Commercial

open CrmBot.Python

/-- `_parse_pipe_row`. -/
def parsePipeRow (line : List Char) : List String :=
  let stripped := Ink.trim isSpace line
  if '|' ∉ stripped then []
  else
    let opened := if stripped.head? = some '|' then stripped.drop 1 else stripped
    let closed := if opened.getLast? = some '|' then opened.dropLast else opened
    let cells := (closed.splitOn '|').map fun cell => String.ofList (Ink.trim isSpace cell)
    if cells.any (fun cell => cell ≠ "") then cells else []

/-- `:?-{3,}:?`. -/
def isSeparatorCell (cell : List Char) : Bool :=
  let opened := if cell.head? = some ':' then cell.drop 1 else cell
  let closed := if opened.getLast? = some ':' then opened.dropLast else opened
  3 ≤ closed.length && closed.all fun c => c = '-'

/-- `_is_separator_row`. -/
def isSeparatorRow (cells : List String) : Bool :=
  !cells.isEmpty && cells.all fun cell => isSeparatorCell (strip cell).toList

structure MarkdownTable where
  unit : PriceAcquisitionUnit
  startLine : ℕ
  headers : List String
  rows : List (List String)
  deriving DecidableEq

/-- A row is filled up with empty cells, and cells beyond the headers are cut. -/
def fitRow (width : ℕ) (cells : List String) : List String :=
  (cells ++ List.replicate (width - cells.length) "").take width

/-- The rows of cells at the front of some lines. A line of blank cells is none, and
what stands below it is not read. -/
def rowsAt (lines : List (List Char)) : List (List String) :=
  (lines.map parsePipeRow).takeWhile fun cells => cells ≠ []

/-- The loop over the lines from an index on. The lines of a table that was
found are skipped. -/
def tablesFrom (unit : PriceAcquisitionUnit) (index skip : ℕ) :
    List (List Char) → List MarkdownTable
  | [] | [_] => []
  | line :: next :: rest =>
    match skip with
    | skip + 1 => tablesFrom unit (index + 1) skip (next :: rest)
    | 0 =>
      let headers := parsePipeRow line
      let separator := parsePipeRow next
      if headers ≠ [] ∧ isSeparatorRow separator = true then
        let rows := (rowsAt rest).map (fitRow headers.length)
        let found := if rows = [] then [] else
          [{ unit := unit, startLine := index, headers := headers, rows := rows }]
        -- the separator and the rows do not begin another table
        found ++ tablesFrom unit (index + 1) (rows.length + 1) (next :: rest)
      else tablesFrom unit (index + 1) 0 (next :: rest)

/-- `_markdown_tables_from_unit`. -/
def markdownTablesFromUnit (unit : PriceAcquisitionUnit) : List MarkdownTable :=
  tablesFrom unit 0 0 (splitlines unit.rawText)

/-- `_markdown_tables_from_units`. -/
def markdownTablesFromUnits (units : List PriceAcquisitionUnit) : List MarkdownTable :=
  units.flatMap markdownTablesFromUnit

end CrmBot.Commercial
