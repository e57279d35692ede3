import CrmBot.DocumentSegmentation.SegmentationBudget
import CrmBot.Library.Fold

/-! `MarkdownSegmentationPolicy`: a markdown text, cut into segments.

The text is cut at its H1 headings. A part over the limit is cut at its lower
headings, and where the parts of that do not all fit, at its paragraphs, and
where it has only one, between its words or inside them. The policy estimates
tokens with its budget, as all its callers have it. The hash of texts is a
parameter. -/

namespace CrmBot.DocumentSegmentation

open CrmBot.Python Ink FailingFold

inductive DocumentSegmentKind
  | documentPreamble
  | «section»
  | subsection
  | splitFragment
  | paragraphGroup
  deriving DecidableEq

def DocumentSegmentKind.value : DocumentSegmentKind → String
  | .documentPreamble => "DOCUMENT_PREAMBLE"
  | .section => "SECTION"
  | .subsection => "SUBSECTION"
  | .splitFragment => "SPLIT_FRAGMENT"
  | .paragraphGroup => "PARAGRAPH_GROUP"

structure DocumentSegment where
  segmentKey : String
  kind : DocumentSegmentKind
  text : Text
  headingPath : List Text
  ordinal : ℕ
  estimatedTokens : ℕ
  segmentKey_nonblank : isBlank segmentKey = false
  text_nonblank : text.blank = false
  headingPath_nonblank : ∀ heading ∈ headingPath, heading.blank = false
  estimatedTokens_pos : 0 < estimatedTokens

/-- The constructor, with the checks of `__post_init__`. -/
def documentSegment (segmentKey : String) (kind : DocumentSegmentKind) (text : Text)
    (headingPath : List Text) (ordinal estimatedTokens : ℕ) : Except Fault DocumentSegment :=
  if hkey : isBlank segmentKey = true then
    .error (.valueError "segment_key must be non-empty")
  else if htext : text.blank = true then .error (.valueError "text must be non-empty")
  else if hpath : ∃ heading ∈ headingPath, heading.blank = true then
    .error (.valueError "heading_path must not contain empty headings")
  else if htokens : estimatedTokens = 0 then
    .error (.valueError "estimated_tokens must be > 0")
  else .ok { segmentKey, kind, text, headingPath, ordinal, estimatedTokens
             segmentKey_nonblank := isBlank_eq_false hkey
             text_nonblank := by simpa using htext
             headingPath_nonblank := by simpa using hpath
             estimatedTokens_pos := by omega }

structure MarkdownSegmentationCommand where
  documentKey : String
  markdownText : Text
  budget : DocumentSegmentationBudget
  documentKey_nonblank : isBlank documentKey = false
  markdownText_nonblank : markdownText.blank = false

def markdownSegmentationCommand (documentKey : String) (markdownText : Text)
    (budget : DocumentSegmentationBudget) : Except Fault MarkdownSegmentationCommand :=
  if hkey : isBlank documentKey = true then .error (.valueError "document_key must be non-empty")
  else if htext : markdownText.blank = true then
    .error (.valueError "markdown_text must be non-empty")
  else .ok { documentKey, markdownText, budget
             documentKey_nonblank := by simpa using hkey
             markdownText_nonblank := by simpa using htext }

/-- `_Candidate`. -/
structure Candidate where
  text : Text
  kind : DocumentSegmentKind
  headingPath : List Text
  deriving DecidableEq

/-- `_SegmentDraft`. -/
structure SegmentDraft where
  text : Text
  kind : DocumentSegmentKind
  headingPath : List Text
  deriving DecidableEq

/-! Headings and paragraphs. -/

/-- `_parse_atx_heading`: the level of a heading line and its title. -/
def parseAtxHeading (line : Text) : Option (ℕ × Text) :=
  let markerCount := (line.takeWhile (· = '#')).length
  if markerCount < 1 ∨ 6 < markerCount then none
  else match line.drop markerCount with
    | ' ' :: rest => if Text.blank rest then none else some (markerCount, Text.strip rest)
    | _ => none

/-- The loop of `_split_top_level_h1_candidates`. -/
structure H1Scan where
  candidates : List Candidate
  preambleLines : List Text
  currentLines : List Text
  currentHeading : Option Text
  foundH1 : Bool

/-- The preamble as a candidate, where it has content. -/
def preambleCandidate (kind : DocumentSegmentKind) (preambleLines : List Text) : List Candidate :=
  let text := (Text.joinLines preambleLines).strip
  if text.blank then [] else [{ text, kind, headingPath := [] }]

def sectionCandidate (lines : List Text) (heading : Text) : Candidate :=
  { text := (Text.joinLines lines).strip, kind := .section, headingPath := [heading] }

/-- The candidates that end where an H1 heading stands. -/
def H1Scan.flushed (scan : H1Scan) (lastKind : DocumentSegmentKind) : List Candidate :=
  match scan.currentLines, scan.currentHeading with
  | line :: lines, some heading => scan.candidates ++ [sectionCandidate (line :: lines) heading]
  | _, _ => scan.candidates ++ preambleCandidate lastKind scan.preambleLines

def H1Scan.step (scan : H1Scan) (line : Text) : H1Scan :=
  match parseAtxHeading line with
  | some (1, title) =>
    { candidates := scan.flushed .documentPreamble, preambleLines := [], currentLines := [line]
      currentHeading := some title, foundH1 := true }
  | _ =>
    if scan.foundH1 then { scan with currentLines := scan.currentLines ++ [line] }
    else { scan with preambleLines := scan.preambleLines ++ [line] }

/-- `_split_top_level_h1_candidates`. -/
def splitTopLevelH1Candidates (markdownText : Text) : List Candidate :=
  let start : H1Scan := ⟨[], [], [], none, false⟩
  ((Text.normalizeLines markdownText).foldl H1Scan.step start).flushed .paragraphGroup

/-- The lines of a text, without an H1 heading at their head. -/
def linesAfterH1 (text : Text) : List Text :=
  match Text.normalizeLines text with
  | [] => []
  | first :: rest =>
    match parseAtxHeading first with
    | some (1, _) => rest
    | _ => first :: rest

/-- Lines joined to a block, where they have content. -/
def blockOf (lines : List Text) : List Text :=
  let block := (Text.joinLines lines).strip
  if block.blank then [] else [block]

def isLowerHeading (line : Text) : Bool :=
  match parseAtxHeading line with
  | some (level, _) => 1 < level
  | none => false

/-- The loop of `_split_lower_heading_blocks`, with the lines of the current block. -/
def lowerHeadingBlocksFrom (currentLines : List Text) : List Text → List Text
  | [] => blockOf currentLines
  | line :: rest =>
    if isLowerHeading line && ! currentLines.isEmpty then
      blockOf currentLines ++ lowerHeadingBlocksFrom [line] rest
    else lowerHeadingBlocksFrom (currentLines ++ [line]) rest

/-- `_split_lower_heading_blocks`. -/
def splitLowerHeadingBlocks (text : Text) : List Text :=
  lowerHeadingBlocksFrom [] (linesAfterH1 text)

/-- `_strip_leading_h1`. -/
def stripLeadingH1 (text : Text) : Text :=
  match Text.normalizeLines text with
  | [] => text.strip
  | first :: rest =>
    match parseAtxHeading first with
    | some (1, _) => (Text.joinLines rest).strip
    | _ => text.strip

/-- The loop that both paragraph splitters run, with the lines of the current one. -/
def paragraphsFrom (currentLines : List Text) : List Text → List Text
  | [] => if currentLines.isEmpty then [] else [(Text.joinLines currentLines).strip]
  | line :: rest =>
    if line.blank then
      if currentLines.isEmpty then paragraphsFrom [] rest
      else (Text.joinLines currentLines).strip :: paragraphsFrom [] rest
    else paragraphsFrom (currentLines ++ [line.rstrip]) rest

/-- `_split_paragraph_blocks`. -/
def splitParagraphBlocks (text : Text) : List Text :=
  (paragraphsFrom [] (Text.normalizeLines text)).filter (! ·.blank)

/-! Balanced parts. -/

variable (budget : DocumentSegmentationBudget)

/-- `max(1, token_estimator(block))`. -/
def blockTokens (block : Text) : ℕ := max 1 (budget.estimateTokens block)

/-- The loop of `split_marker_blocks_balanced`, once `done` parts are cut. A part
ends with the block that reaches its share of the tokens, when enough blocks are
left for the parts after it. -/
def balancedFrom (totalTokens targetPartCount : ℕ) :
    (done : ℕ) → (currentBlocks : List Text) → (accumulatedTokens : ℕ) → List Text → List Text
  | _, currentBlocks, _, [] =>
    if currentBlocks.isEmpty then [] else [(Text.joinBlocks currentBlocks).strip]
  | done, currentBlocks, accumulatedTokens, block :: rest =>
    let blocks := currentBlocks ++ [block]
    let accumulated := accumulatedTokens + blockTokens budget block
    if targetPartCount - 1 ≤ done then
      balancedFrom totalTokens targetPartCount done blocks accumulated rest
    else if totalTokens * (done + 1) ≤ accumulated * targetPartCount ∧
        targetPartCount - done - 1 ≤ rest.length then
      (Text.joinBlocks blocks).strip ::
        balancedFrom totalTokens targetPartCount (done + 1) [] accumulated rest
    else balancedFrom totalTokens targetPartCount done blocks accumulated rest

def balancedParts (blocks : List Text) (targetPartCount : ℕ) : List Text :=
  let cleanBlocks := (blocks.filter (! ·.blank)).map Text.strip
  if cleanBlocks.length ≤ targetPartCount then cleanBlocks
  else
    let totalTokens := (cleanBlocks.map (blockTokens budget)).sum
    (balancedFrom budget totalTokens targetPartCount 0 [] 0 cleanBlocks).filter (! ·.blank)

/-- `split_marker_blocks_balanced`. -/
def splitMarkerBlocksBalanced (blocks : List Text) (targetPartCount : ℕ) :
    Except Fault (List Text) :=
  if targetPartCount < 2 then .error (.valueError "target_part_count must be >= 2")
  else .ok (balancedParts budget blocks targetPartCount)

/-- `_split_text_balanced`: between words, or where there are too few, inside them. -/
def splitTextBalanced (text : Text) (targetPartCount : ℕ) : List Text :=
  let cleanText := text.strip
  if targetPartCount ≤ 1 then [cleanText]
  else
    let words := cleanText.split
    if targetPartCount ≤ words.length then
      let wordsPerChunk := (words.length + targetPartCount - 1) / targetPartCount
      ((slices wordsPerChunk words).map fun chunk => Text.strip ([' '].intercalate chunk)).filter
        (! ·.blank)
    else
      let chunkSize := (cleanText.length + targetPartCount - 1) / targetPartCount
      ((slices chunkSize cleanText).map Text.strip).filter (! ·.blank)

/-! Candidates over the limit. -/

/-- `_fallback_text_drafts`. -/
def fallbackTextDrafts (text : Text) (headingPath : List Text) :
    Except Fault (List SegmentDraft) := do
  let targetCount ← budget.requiredSegmentCount (max 1 (budget.estimateTokens text))
  let chunks := (splitTextBalanced text targetCount).filter (! ·.blank)
  return chunks.map fun chunk => ⟨chunk, .splitFragment, headingPath⟩

/-- What `_split_by_paragraph_or_text` cuts: the text below the heading. -/
def paragraphSource (candidate : Candidate) : Text :=
  if candidate.headingPath.isEmpty then candidate.text else stripLeadingH1 candidate.text

/-- `_split_by_paragraph_or_text`. -/
def splitByParagraphOrText (candidate : Candidate) (targetCount : ℕ) :
    Except Fault (List SegmentDraft) :=
  let source := paragraphSource candidate
  let blocks := splitParagraphBlocks source
  if 2 ≤ blocks.length then do
    let chunks ← splitMarkerBlocksBalanced budget blocks (max 2 targetCount)
    return chunks.map fun chunk => ⟨chunk, .splitFragment, candidate.headingPath⟩
  else fallbackTextDrafts budget (if source.blank then candidate.text else source)
    candidate.headingPath

/-- The title of a lower heading. -/
def lowerTitle? (line : Text) : Option Text :=
  match parseAtxHeading line with
  | some (level, title) => if 1 < level then some title else none
  | none => none

/-- `_lower_heading_path`. -/
def lowerHeadingPath (parentPath : List Text) (chunk : Text) : List Text :=
  match (Text.normalizeLines chunk).filterMap lowerTitle? with
  | [] => parentPath
  | [title] => parentPath ++ [title]
  | _ => parentPath ++ ["mixed".toList]

/-- The lower headings are where a candidate is cut when the parts all fit. -/
def lowerHeadingDrafts (candidate : Candidate) (targetCount : ℕ) :
    Except Fault (Option (List SegmentDraft)) :=
  let blocks := splitLowerHeadingBlocks candidate.text
  if ¬ candidate.headingPath.isEmpty ∧ 2 ≤ blocks.length then do
    let chunks ← splitMarkerBlocksBalanced budget blocks targetCount
    if ¬ chunks.isEmpty ∧ chunks.all budget.textFits then
      return some (chunks.map fun chunk =>
        ⟨chunk, .subsection, lowerHeadingPath candidate.headingPath chunk⟩)
    else return none
  else .ok none

/-- `_split_oversized_candidate`. -/
def splitOversizedCandidate (candidate : Candidate) : Except Fault (List SegmentDraft) := do
  let targetCount ← budget.requiredSegmentCount (budget.estimateTokens candidate.text)
  match ← lowerHeadingDrafts budget candidate targetCount with
  | some drafts => return drafts
  | none => splitByParagraphOrText budget candidate targetCount

/-- The drafts of one candidate. -/
def candidateDrafts (candidate : Candidate) : Except Fault (List SegmentDraft) :=
  if budget.textFits candidate.text then
    .ok [⟨candidate.text, candidate.kind, candidate.headingPath⟩]
  else splitOversizedCandidate budget candidate

/-- `segment_key`, where `hexdigest` hashes the text. -/
def segmentKey (hexdigest : String → String) (documentKey : String) (ordinal : ℕ)
    (kind : DocumentSegmentKind) (text : Text) : String :=
  "segment:" ++ documentKey ++ ":" ++ toString ordinal ++ ":" ++ kind.value ++ ":" ++
    hexdigest (String.ofList text)

/-- `_build_segment`. -/
def buildSegment (hexdigest : String → String) (documentKey : String)
    (draft : SegmentDraft × ℕ) : Except Fault DocumentSegment :=
  documentSegment (segmentKey hexdigest documentKey draft.2 draft.1.kind draft.1.text)
    draft.1.kind draft.1.text draft.1.headingPath draft.2
      (max 1 (budget.estimateTokens draft.1.text))

/-- `segment`. -/
def segment (hexdigest : String → String) (command : MarkdownSegmentationCommand) :
    Except Fault (List DocumentSegment) := do
  let drafts ← (splitTopLevelH1Candidates command.markdownText).mapM
    (candidateDrafts command.budget)
  drafts.flatten.zipIdx.mapM (buildSegment command.budget hexdigest command.documentKey)

end CrmBot.DocumentSegmentation
