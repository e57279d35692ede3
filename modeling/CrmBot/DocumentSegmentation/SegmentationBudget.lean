import CrmBot.Library.Ink
import CrmBot.Library.SignificantDigits
import CrmBot.Python.Builtins

/-! Texts and the budget that document segmentation keeps them in.

A text is the list of its code points. Its tokens are estimated from its length
alone. -/

namespace CrmBot.DocumentSegmentation

open CrmBot.Python Ink

abbrev Text := List Char

namespace Text

/-- `not text.strip()`. -/
def blank (text : Text) : Bool := text.all isSpace

/-- `text.strip()`. -/
def strip (text : Text) : Text := trim isSpace text

/-- `text.rstrip()`. -/
def rstrip (text : Text) : Text := text.rdropWhile isSpace

/-- `text.lstrip()`. -/
def lstrip (text : Text) : Text := text.dropWhile isSpace

/-- `text.split()`. -/
def split (text : Text) : List Text := words isSpace text

/-- `"\n".join(lines)`. -/
def joinLines (lines : List Text) : Text := List.intercalate ['\n'] lines

/-- `"\n\n".join(blocks)`. -/
def joinBlocks (blocks : List Text) : Text := List.intercalate ['\n', '\n'] blocks

/-- `text.replace("\r\n", "\n")`. -/
def replaceCrLf : Text → Text
  | '\r' :: '\n' :: rest => '\n' :: replaceCrLf rest
  | c :: rest => c :: replaceCrLf rest
  | [] => []

/-- `text.replace("\r", "\n")`. -/
def replaceCr (text : Text) : Text := text.map fun c => if c = '\r' then '\n' else c

/-- `_normalize_lines`. -/
def normalizeLines (text : Text) : List Text := (replaceCr (replaceCrLf text)).splitOn '\n'

/-- What a text has besides white space. -/
def content (text : Text) : Text := ink isSpace text

variable {text : Text}

theorem blank_iff_content : blank text = true ↔ content text = [] := by
  rw [content, ink_eq_nil_iff, blank, List.all_eq_true]

theorem blank_eq_false_iff : blank text = false ↔ content text ≠ [] := by
  rw [← Bool.not_eq_true, blank_iff_content]

@[simp] theorem content_nil : content [] = [] := rfl

@[simp] theorem content_strip (text : Text) : content (strip text) = content text :=
  ink_trim isSpace text

@[simp] theorem content_rstrip (text : Text) : content (rstrip text) = content text :=
  ink_rdropWhile isSpace text

@[simp] theorem blank_strip (text : Text) : blank (strip text) = blank text := by
  rw [Bool.eq_iff_iff, blank_iff_content, blank_iff_content, content_strip]

@[simp] theorem content_joinLines (lines : List Text) :
    content (joinLines lines) = lines.flatMap content :=
  ink_intercalate (by simp [isSpace]) lines

@[simp] theorem content_joinBlocks (blocks : List Text) :
    content (joinBlocks blocks) = blocks.flatMap content :=
  ink_intercalate (by simp [isSpace]) blocks

theorem content_replaceCrLf (text : Text) : content (replaceCrLf text) = content text := by
  fun_induction replaceCrLf text with
  | case1 rest ih =>
    simp only [content, ink_cons] at ih ⊢
    rw [ih]
    rfl
  | case2 c rest _ ih =>
    simp only [content, ink_cons] at ih ⊢
    rw [ih]
  | case3 => rfl

theorem content_replaceCr (text : Text) : content (replaceCr text) = content text := by
  induction text with
  | nil => rfl
  | cons c rest ih =>
    simp only [content, replaceCr, List.map_cons, ink_cons] at ih ⊢
    rw [ih]
    split
    · next hc =>
      rw [hc]
      rfl
    · rfl

theorem content_normalizeLines (text : Text) :
    (normalizeLines text).flatMap content = content text := by
  rw [← content_replaceCrLf, ← content_replaceCr]
  refine flatMap_ink_splitOnP (fun c hc => ?_) _
  rw [beq_iff_eq.mp hc]
  rfl

theorem content_split (text : Text) : (split text).flatMap content = content text := by
  have hwords : content (split text).flatten = (split text).flatMap content :=
    ink_flatten isSpace (split text)
  rw [← hwords, split, flatten_words, content, content, ink, ink, List.filter_filter]
  simp

end Text

/-! The budget. -/

structure SegmentationPromptProfile where
  promptName : String
  promptTokenCount : ℕ
  promptName_nonblank : isBlank promptName = false

/-- The multiplier is a decimal, of which the value matters. -/
structure SegmentationModelBudgetProfile where
  profileName : String
  maxRequestInputTokens : ℕ
  segmentationInputSafetyGapTokens : ℕ
  charToTokenMultiplier : ℚ
  profileName_nonblank : isBlank profileName = false
  maxRequestInputTokens_pos : 0 < maxRequestInputTokens
  gap_lt : segmentationInputSafetyGapTokens < maxRequestInputTokens
  multiplier_pos : 0 < charToTokenMultiplier

/-- `max_source_segment_tokens`, for the profiles of a budget. -/
def maxSourceSegmentTokens (prompt : SegmentationPromptProfile)
    (model : SegmentationModelBudgetProfile) : ℤ :=
  ((model.maxRequestInputTokens : ℤ) - prompt.promptTokenCount -
    model.segmentationInputSafetyGapTokens) / 2

structure DocumentSegmentationBudget where
  prompt : SegmentationPromptProfile
  model : SegmentationModelBudgetProfile
  max_pos : 0 < maxSourceSegmentTokens prompt model

/-- The precision of decimal arithmetic, in significant digits. -/
def decimalPrecision : ℕ := 28

namespace DocumentSegmentationBudget

def maxSourceSegmentTokens (budget : DocumentSegmentationBudget) : ℕ :=
  (DocumentSegmentation.maxSourceSegmentTokens budget.prompt budget.model).toNat

/-- `Decimal(length) / multiplier`, rounded up to a whole number. -/
def tokensOfLength (budget : DocumentSegmentationBudget) (length : ℕ) : ℕ :=
  ⌈SignificantDigits.toDigits decimalPrecision
    ((length : ℚ) / budget.model.charToTokenMultiplier)⌉.toNat

def estimateTokens (budget : DocumentSegmentationBudget) (text : Text) : ℕ :=
  if text.blank then 0 else max 1 (budget.tokensOfLength text.length)

/-- `text_fits_segmentation_budget`. -/
def textFits (budget : DocumentSegmentationBudget) (text : Text) : Bool :=
  budget.estimateTokens text ≤ budget.maxSourceSegmentTokens

/-- `required_segment_count`. -/
def requiredSegmentCount (budget : DocumentSegmentationBudget) (estimatedTokens : ℕ) :
    Except Fault ℕ :=
  if estimatedTokens = 0 then .error (.valueError "estimated_tokens must be > 0")
  else .ok ((estimatedTokens + budget.maxSourceSegmentTokens - 1) / budget.maxSourceSegmentTokens)

variable (budget : DocumentSegmentationBudget)

theorem maxSourceSegmentTokens_pos : 0 < budget.maxSourceSegmentTokens := by
  have hpos := budget.max_pos
  unfold maxSourceSegmentTokens
  omega

theorem estimateTokens_pos {text : Text} (h : text.blank = false) :
    0 < budget.estimateTokens text := by
  unfold estimateTokens
  rw [h]
  simp only [Bool.false_eq_true, if_false]
  omega

/-- A text over the limit is cut in two parts at least. -/
theorem requiredSegmentCount_of_not_fits {text : Text} (h : budget.textFits text = false) :
    ∃ count, budget.requiredSegmentCount (budget.estimateTokens text) = .ok count ∧ 2 ≤ count := by
  have hmax := budget.maxSourceSegmentTokens_pos
  have hover : budget.maxSourceSegmentTokens < budget.estimateTokens text := by
    simpa [textFits] using h
  refine ⟨_, if_neg (by omega), ?_⟩
  rw [Nat.le_div_iff_mul_le hmax]
  omega

end DocumentSegmentationBudget

end CrmBot.DocumentSegmentation
