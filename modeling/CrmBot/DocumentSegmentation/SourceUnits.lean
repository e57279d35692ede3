import CrmBot.DocumentSegmentation.MarkdownSegmentationPolicy

/-! `build_source_units_from_text`: from the text of a document to source units.

A markdown document is cut at the headings of one level first, and a section
over the limit goes to the segmentation policy. Another document is cut into
groups of adjacent paragraphs. -/

namespace CrmBot.DocumentSegmentation

open CrmBot.Python Ink FailingFold

inductive SourceFormat
  | markdown
  | pdf
  | excel
  | html
  | plainText
  deriving DecidableEq

/-- The part of a `SourceDocument` that ingestion reads. -/
@[ext]
structure SourceDocument where
  documentRef : String
  projectId : String
  sourceFormat : SourceFormat
  documentRef_nonblank : isBlank documentRef = false
  projectId_nonblank : isBlank projectId = false

instance : DecidableEq SourceDocument := fun _ _ =>
  decidable_of_iff _ SourceDocument.ext_iff.symm

inductive SourceUnitKind
  | «section»
  | subsection
  | paragraphGroup
  | splitFragment
  deriving DecidableEq

@[ext]
structure SourceUnit where
  unitRef : String
  documentRef : String
  unitKind : SourceUnitKind
  text : Text
  headingPath : List Text
  parentRefs : List String
  ordinal : ℕ
  createdAt : Int
  text_nonblank : text.blank = false
  headingPath_nonblank : ∀ heading ∈ headingPath, heading.blank = false

instance : DecidableEq SourceUnit := fun _ _ =>
  decidable_of_iff _ SourceUnit.ext_iff.symm

/-! The headings at which a document is cut. -/

structure Heading where
  index : ℕ
  level : ℕ
  title : Text
  deriving DecidableEq

/-- The level and the title of a heading line, as the heading-first splitter
reads it: it may be indented, and needs no title. -/
def headingOfLine (line : Text) : Option (ℕ × Text) :=
  let stripped := line.lstrip
  let marker := stripped.takeWhile (· ≠ ' ')
  if marker.head? = some '#' ∧ marker.all (· = '#') ∧ marker.length ≤ 6 then
    let title := Text.strip (stripped.drop marker.length)
    some (marker.length, if title.isEmpty then stripped else title)
  else none

def headingsOf (lines : List Text) : List Heading :=
  lines.zipIdx.filterMap fun (line, index) =>
    (headingOfLine line).map fun (level, title) => { index, level, title }

/-- `_markdown_primary_split_level`. -/
def markdownPrimarySplitLevel (headings : List Heading) : ℕ :=
  if headings.any (·.level = 2) then 2
  else (headings.map Heading.level).min?.getD 0

/-- `_heading_path_before_index`. -/
def headingPathBeforeIndex (headings : List Heading) (headingIndex splitLevel : ℕ) : List Text :=
  ((headings.takeWhile fun heading => heading.index < headingIndex).filter
    fun heading => heading.level < splitLevel).foldl
      (fun stack heading => stack.take (heading.level - 1) ++ [heading.title]) []

/-- The sections from the given headings on. The preamble stands in front of the
first one. -/
def sectionsFrom (lines : List Text) (parentPath : List Text) :
    (preamble : Text) → List Heading → List (List Text × Text)
  | _, [] => []
  | preamble, heading :: rest =>
    let stop := match rest with
      | [] => lines.length
      | next :: _ => next.index
    let ownLines := (lines.take stop).drop heading.index
    let sectionLines := if preamble.isEmpty then ownLines else preamble :: [] :: ownLines
    let sectionText := (Text.joinLines sectionLines).strip
    let others := sectionsFrom lines parentPath [] rest
    if sectionText.isEmpty then others
    else (parentPath ++ [heading.title], sectionText) :: others

/-- `_split_markdown_by_atx_headings`. -/
def splitMarkdownByAtxHeadings (rawText : Text) : List (List Text × Text) :=
  let lines := Text.normalizeLines rawText
  let headings := headingsOf lines
  let splitLevel := markdownPrimarySplitLevel headings
  match headings.filter fun heading => heading.level = splitLevel with
  | [] => []
  | first :: rest =>
    let preamble := (Text.joinLines (lines.take first.index)).strip
    let parentPath := headingPathBeforeIndex headings first.index splitLevel
    sectionsFrom lines parentPath preamble (first :: rest)

/-! Paragraph groups. -/

/-- `_split_paragraphs`. -/
def splitParagraphs (rawText : Text) : List Text :=
  (paragraphsFrom [] (Text.normalizeLines rawText)).filter (! ·.isEmpty)

variable (budget : DocumentSegmentationBudget)

/-- The loop of `_pack_adjacent_paragraphs`, with the paragraphs of the current group. -/
def packFrom (current : List Text) : List Text → List Text
  | [] => if current.isEmpty then [] else [(Text.joinBlocks current).strip]
  | paragraph :: rest =>
    let candidate := (Text.joinBlocks (current ++ [paragraph])).strip
    if ¬ current.isEmpty ∧ budget.maxSourceSegmentTokens < budget.estimateTokens candidate then
      (Text.joinBlocks current).strip :: packFrom [paragraph] rest
    else packFrom (current ++ [paragraph]) rest

/-- `_pack_adjacent_paragraphs`, for the limit of the budget, which is positive. -/
def packAdjacentParagraphs (paragraphs : List Text) : List Text :=
  (packFrom budget [] paragraphs).filter (! ·.isEmpty)

/-! Segments. -/

variable (hexdigest : String → String) (document : SourceDocument)

/-- A section within the limit is one segment. -/
def wholeSectionSegment (headingPath : List Text) (sectionText : Text) (ordinal : ℕ) :
    Except Fault DocumentSegment :=
  documentSegment (segmentKey hexdigest document.documentRef ordinal .section sectionText)
    .section sectionText headingPath ordinal (budget.estimateTokens sectionText)

/-- What the policy made of a section gets the heading path of the section. -/
def nestedSegment (headingPath : List Text) (nested : DocumentSegment × ℕ) :
    Except Fault DocumentSegment :=
  documentSegment nested.1.segmentKey .splitFragment nested.1.text headingPath nested.2
    nested.1.estimatedTokens

/-- The segments of a section, from the given ordinal on. -/
def sectionSegments (headingPath : List Text) (sectionText : Text) (ordinal : ℕ) :
    Except Fault (List DocumentSegment) :=
  if budget.estimateTokens sectionText ≤ budget.maxSourceSegmentTokens then do
    let whole ← wholeSectionSegment budget hexdigest document headingPath sectionText ordinal
    return [whole]
  else do
    let command ← markdownSegmentationCommand
      (document.documentRef ++ ":" ++ toString ordinal) sectionText budget
    let nestedSegments ← segment hexdigest command
    (nestedSegments.zipIdx ordinal).mapM (nestedSegment headingPath)

def segmentsFrom (ordinal : ℕ) : List (List Text × Text) → Except Fault (List DocumentSegment)
  | [] => .ok []
  | (headingPath, sectionText) :: rest => do
    let segments ← sectionSegments budget hexdigest document headingPath sectionText ordinal
    let others ← segmentsFrom (ordinal + segments.length) rest
    return segments ++ others

/-- `_markdown_heading_first_segments`. -/
def markdownHeadingFirstSegments (rawText : Text) : Except Fault (List DocumentSegment) :=
  if document.sourceFormat ≠ .markdown then .ok []
  else segmentsFrom budget hexdigest document 0 (splitMarkdownByAtxHeadings rawText)

/-- `_build_fallback_document_segment`. -/
def buildFallbackDocumentSegment (group : Text × ℕ) : Except Fault DocumentSegment :=
  documentSegment (segmentKey hexdigest document.documentRef group.2 .paragraphGroup group.1)
    .paragraphGroup group.1 [] group.2 (budget.estimateTokens group.1)

/-- `_fallback_non_markdown_segments`. -/
def fallbackNonMarkdownSegments (rawText : Text) : Except Fault (List DocumentSegment) :=
  match splitParagraphs rawText with
  | [] => .error (.valueError "raw_text must contain at least one paragraph")
  | paragraph :: rest =>
    (packAdjacentParagraphs budget (paragraph :: rest)).zipIdx.mapM
      (buildFallbackDocumentSegment budget hexdigest document)

/-- `_segment_document_text`. -/
def segmentDocumentText (rawText : Text) : Except Fault (List DocumentSegment) :=
  if document.sourceFormat = .markdown then do
    let command ← markdownSegmentationCommand document.documentRef rawText budget
    segment hexdigest command
  else fallbackNonMarkdownSegments budget hexdigest document rawText

/-! Source units. -/

/-- `_source_unit_kind_from_segment_kind`. -/
def sourceUnitKindFromSegmentKind : DocumentSegmentKind → SourceUnitKind
  | .documentPreamble => .paragraphGroup
  | .section => .section
  | .subsection => .subsection
  | .splitFragment => .splitFragment
  | .paragraphGroup => .paragraphGroup

/-- `_build_source_unit_from_segment`. -/
def buildSourceUnitFromSegment (occurredAt : Int) (segment : DocumentSegment) : SourceUnit where
  unitRef := "source-unit:" ++ document.documentRef ++ ":" ++ toString segment.ordinal ++ ":" ++
    hexdigest segment.segmentKey
  documentRef := document.documentRef
  unitKind := sourceUnitKindFromSegmentKind segment.kind
  text := segment.text
  headingPath := segment.headingPath
  parentRefs := []
  ordinal := segment.ordinal
  createdAt := occurredAt
  text_nonblank := segment.text_nonblank
  headingPath_nonblank := segment.headingPath_nonblank

/-- `build_source_units_from_segments`. -/
def buildSourceUnitsFromSegments (segments : List DocumentSegment) (occurredAt : Int) :
    Except Fault (List SourceUnit) :=
  if segments.isEmpty then .error (.valueError "segments must be non-empty")
  else .ok (segments.map (buildSourceUnitFromSegment hexdigest document occurredAt))

/-- The segments of a document, by its headings where it has any. -/
def documentSegments (rawText : Text) : Except Fault (List DocumentSegment) := do
  let headingFirst ← markdownHeadingFirstSegments budget hexdigest document rawText
  if headingFirst.isEmpty then segmentDocumentText budget hexdigest document rawText
  else .ok headingFirst

/-- `default_source_ingestion_segmentation_budget`, for the model of the claim
builder. -/
def defaultSourceIngestionSegmentationBudget : DocumentSegmentationBudget where
  prompt :=
    { promptName := "claim_builder_section_extraction", promptTokenCount := 1953
      promptName_nonblank := by decide }
  model :=
    { profileName := "claim_builder_primary_model", maxRequestInputTokens := 6000
      segmentationInputSafetyGapTokens := 300, charToTokenMultiplier := 33 / 10
      profileName_nonblank := by decide, maxRequestInputTokens_pos := by decide
      gap_lt := by decide, multiplier_pos := by norm_num }
  max_pos := by decide

/-- `build_source_units_from_text`. -/
def buildSourceUnitsFromText (rawText : Text) (occurredAt : Int) :
    Except Fault (List SourceUnit) :=
  if rawText.blank then .error (.valueError "raw_text must be non-empty")
  else do
    let segments ← documentSegments budget hexdigest document rawText
    buildSourceUnitsFromSegments hexdigest document segments occurredAt

end CrmBot.DocumentSegmentation
