import CrmBot.DocumentSegmentation.SourceUnits

/-! What the splitters make of a text: parts that are not blank and hold its
content in order. -/

namespace CrmBot.DocumentSegmentation

open CrmBot.Python Ink FailingFold Text

/-- Texts that are not blank, and hold the content in order. -/
structure Cuts (parts : List Text) (whole : Text) : Prop where
  nonblank : ∀ part ∈ parts, blank part = false
  content : parts.flatMap content = whole

namespace Cuts

variable {parts others : List Text} {whole rest : Text}

theorem nil : Cuts [] [] := ⟨nofun, rfl⟩

theorem append (hparts : Cuts parts whole) (hothers : Cuts others rest) :
    Cuts (parts ++ others) (whole ++ rest) where
  nonblank part hpart := by
    rcases List.mem_append.mp hpart with h | h
    · exact hparts.nonblank part h
    · exact hothers.nonblank part h
  content := by rw [List.flatMap_append, hparts.content, hothers.content]

/-- A text that is not blank is all of its content. -/
theorem singleton {text : Text} (h : blank text = false) : Cuts [text] (Text.content text) where
  nonblank part hpart := by
    rw [List.mem_singleton.mp hpart]
    exact h
  content := by simp

/-- Blank texts can be left out. -/
theorem filter_nonblank (texts : List Text) :
    Cuts (texts.filter (! blank ·)) (texts.flatMap Text.content) where
  nonblank part hpart := by simpa using (List.mem_filter.mp hpart).2
  content := by
    induction texts with
    | nil => rfl
    | cons text texts ih =>
      rw [List.filter_cons, List.flatMap_cons]
      split
      · rw [List.flatMap_cons, ih]
      · next hblank =>
        rw [blank_iff_content.mp (by simpa using hblank), ih, List.nil_append]

theorem map_strip (h : Cuts parts whole) : Cuts (parts.map strip) whole where
  nonblank part hpart := by
    obtain ⟨source, hsource, rfl⟩ := List.mem_map.mp hpart
    rw [blank_strip]
    exact h.nonblank source hsource
  content := by
    rw [List.flatMap_map, ← h.content]
    simp

/-- Where there is content, there is a part. -/
theorem ne_nil (h : Cuts parts whole) (hwhole : whole ≠ []) : parts ≠ [] := by
  rintro rfl
  exact hwhole h.content.symm

/-- Parts that leave out blank texts only can be filtered once more. -/
theorem filter_isEmpty (h : Cuts parts whole) : parts.filter (! List.isEmpty ·) = parts := by
  refine List.filter_eq_self.mpr fun part hpart => ?_
  cases part with
  | nil => exact absurd (h.nonblank [] hpart) (by decide)
  | cons c rest => rfl

theorem filter_blank (h : Cuts parts whole) : parts.filter (! blank ·) = parts :=
  List.filter_eq_self.mpr fun part hpart => by simp [h.nonblank part hpart]

end Cuts

theorem isEmpty_eq_false_of_nonblank {text : Text} (h : blank text = false) :
    text.isEmpty = false := by
  cases text with
  | nil => exact absurd h (by decide)
  | cons c rest => rfl

/-! Paragraphs. -/

theorem paragraphsFrom_cuts (currentLines lines : List Text)
    (hcurrent : currentLines ≠ [] → blank (joinLines currentLines) = false) :
    Cuts (paragraphsFrom currentLines lines)
      (currentLines.flatMap content ++ lines.flatMap content) := by
  have hjoined : currentLines ≠ [] →
      Cuts [(joinLines currentLines).strip] (currentLines.flatMap content) := by
    intro hne
    have hblock : blank (joinLines currentLines).strip = false := by
      rw [blank_strip]
      exact hcurrent hne
    have hcuts := Cuts.singleton hblock
    rwa [content_strip, content_joinLines] at hcuts
  induction lines generalizing currentLines with
  | nil =>
    unfold paragraphsFrom
    split
    · next hempty =>
      rw [List.isEmpty_iff.mp hempty]
      exact Cuts.nil
    · next hne =>
      rw [List.flatMap_nil, List.append_nil]
      exact hjoined (by simpa using hne)
  | cons line rest ih =>
    unfold paragraphsFrom
    split
    · next hblank =>
      rw [List.flatMap_cons, blank_iff_content.mp hblank, List.nil_append]
      have hrest := ih [] (fun h => absurd rfl h) (fun h => absurd rfl h)
      rw [List.flatMap_nil, List.nil_append] at hrest
      split
      · next hempty =>
        rw [List.isEmpty_iff.mp hempty]
        exact hrest
      · next hne => exact (hjoined (by simpa using hne)).append hrest
    · next hline =>
      have hline : blank line = false := by simpa using hline
      have hgrown : blank (joinLines (currentLines ++ [line.rstrip])) = false := by
        rw [blank_eq_false_iff] at hline ⊢
        simp [hline]
      have hblock : blank (joinLines (currentLines ++ [line.rstrip])).strip = false := by
        rw [blank_strip]
        exact hgrown
      have hcuts := Cuts.singleton hblock
      rw [content_strip, content_joinLines] at hcuts
      have hrest := ih (currentLines ++ [line.rstrip]) (fun _ => hgrown) (fun _ => hcuts)
      simpa using hrest

theorem paragraphsFrom_normalizeLines_cuts (text : Text) :
    Cuts (paragraphsFrom [] (normalizeLines text)) (content text) := by
  have hcuts := paragraphsFrom_cuts [] (normalizeLines text) (fun h => absurd rfl h)
  rwa [content_normalizeLines] at hcuts

theorem splitParagraphBlocks_cuts (text : Text) :
    Cuts (splitParagraphBlocks text) (content text) := by
  have hcuts := paragraphsFrom_normalizeLines_cuts text
  rwa [← hcuts.filter_blank] at hcuts

theorem splitParagraphs_cuts (text : Text) : Cuts (splitParagraphs text) (content text) := by
  have hcuts := paragraphsFrom_normalizeLines_cuts text
  rwa [← hcuts.filter_isEmpty] at hcuts

/-! Lower headings. -/

theorem blockOf_cuts (lines : List Text) : Cuts (blockOf lines) (lines.flatMap content) := by
  unfold blockOf
  simp only [blank_strip]
  split
  · next hblank =>
    rw [← content_joinLines, blank_iff_content.mp hblank]
    exact Cuts.nil
  · next hblank =>
    have hblock : blank (joinLines lines).strip = false := by simpa using hblank
    have hcuts := Cuts.singleton hblock
    rwa [content_strip, content_joinLines] at hcuts

theorem lowerHeadingBlocksFrom_cuts (currentLines lines : List Text) :
    Cuts (lowerHeadingBlocksFrom currentLines lines)
      (currentLines.flatMap content ++ lines.flatMap content) := by
  induction lines generalizing currentLines with
  | nil =>
    rw [lowerHeadingBlocksFrom, List.flatMap_nil, List.append_nil]
    exact blockOf_cuts currentLines
  | cons line rest ih =>
    unfold lowerHeadingBlocksFrom
    split
    · exact (blockOf_cuts currentLines).append (by simpa using ih [line])
    · simpa using ih (currentLines ++ [line])

theorem content_stripLeadingH1 (text : Text) :
    content (stripLeadingH1 text) = (linesAfterH1 text).flatMap content := by
  have hlines := content_normalizeLines text
  unfold stripLeadingH1 linesAfterH1
  split
  · next hnil =>
    rw [hnil] at hlines
    rw [content_strip, ← hlines]
  · next first rest hcons =>
    rw [hcons] at hlines
    split
    · rw [content_strip, content_joinLines]
    · rw [content_strip, ← hlines]

theorem splitLowerHeadingBlocks_cuts (text : Text) :
    Cuts (splitLowerHeadingBlocks text) (content (stripLeadingH1 text)) := by
  rw [content_stripLeadingH1]
  exact lowerHeadingBlocksFrom_cuts [] (linesAfterH1 text)

/-! Balanced parts. -/

variable (budget : DocumentSegmentationBudget)

theorem content_balancedFrom (totalTokens targetPartCount done : ℕ) (currentBlocks : List Text)
    (accumulatedTokens : ℕ) (blocks : List Text) :
    (balancedFrom budget totalTokens targetPartCount done currentBlocks accumulatedTokens
      blocks).flatMap content = currentBlocks.flatMap content ++ blocks.flatMap content := by
  induction blocks generalizing done currentBlocks accumulatedTokens with
  | nil =>
    unfold balancedFrom
    split
    · next hempty =>
      rw [List.isEmpty_iff.mp hempty]
      rfl
    · simp
  | cons block rest ih =>
    unfold balancedFrom
    simp only
    split_ifs with hdone hboundary
    · rw [ih]
      simp
    · rw [List.flatMap_cons, ih]
      simp
    · rw [ih]
      simp

theorem balancedParts_cuts {blocks : List Text} {whole : Text} (h : Cuts blocks whole)
    (targetPartCount : ℕ) : Cuts (balancedParts budget blocks targetPartCount) whole := by
  have hclean : Cuts ((blocks.filter (! blank ·)).map strip) whole := by
    rw [h.filter_blank]
    exact h.map_strip
  unfold balancedParts
  simp only
  split
  · exact hclean
  · have hcuts := Cuts.filter_nonblank (balancedFrom budget
      (((blocks.filter (! blank ·)).map strip).map (blockTokens budget)).sum targetPartCount 0 [] 0
      ((blocks.filter (! blank ·)).map strip))
    rwa [content_balancedFrom, List.flatMap_nil, List.nil_append, hclean.content] at hcuts

/-- Rounding up the share of one part gives at least one for each. -/
theorem share_pos {count length : ℕ} (hcount : 0 < count) (hlength : 0 < length) :
    0 < (length + count - 1) / count := by
  apply Nat.div_pos <;> omega

/-- Slices, stripped, keep the content. -/
theorem slices_cuts {α : Type} (toText : List α → Text) (items : List α) {step : ℕ}
    (hstep : 0 < step) (htoText : ∀ chunks : List (List α),
      (chunks.map toText).flatMap content = content (toText chunks.flatten)) :
    Cuts (((slices step items).map toText).filter (! blank ·)) (content (toText items)) := by
  have hcuts := Cuts.filter_nonblank ((slices step items).map toText)
  rwa [htoText, flatten_slices hstep] at hcuts

theorem splitTextBalanced_cuts {text : Text} (h : blank text = false) (targetPartCount : ℕ) :
    Cuts (splitTextBalanced text targetPartCount) (content text) := by
  have hstrip : blank text.strip = false := by rwa [blank_strip]
  unfold splitTextBalanced
  simp only
  split_ifs with hone hwords
  · have hcuts := Cuts.singleton hstrip
    rwa [content_strip] at hcuts
  · have hjoin : ∀ words : List Text,
        content (Text.strip ([' '].intercalate words)) = words.flatMap content := by
      intro words
      rw [content_strip]
      exact ink_intercalate (by simp [isSpace]) words
    have hstep : 0 < (text.strip.split.length + targetPartCount - 1) / targetPartCount :=
      share_pos (by omega) (by omega)
    have hcuts := slices_cuts (fun words => Text.strip ([' '].intercalate words))
      text.strip.split hstep (fun chunks => by
        simp only [List.flatMap_map, hjoin]
        induction chunks with
        | nil => rfl
        | cons chunk rest ih =>
          rw [List.flatMap_cons, ih, List.flatten_cons, List.flatMap_append])
    simp only [hjoin] at hcuts
    rwa [content_split, content_strip] at hcuts
  · have hlength : 0 < text.strip.length := by
      rw [List.length_pos_iff]
      intro hnil
      rw [hnil] at hstrip
      cases hstrip
    have hstep : 0 < (text.strip.length + targetPartCount - 1) / targetPartCount :=
      share_pos (by omega) hlength
    have hcuts := slices_cuts Text.strip text.strip hstep (fun chunks => by
        rw [content_strip, List.flatMap_map]
        simp only [content_strip]
        exact (ink_flatten isSpace chunks).symm)
    rwa [content_strip, content_strip] at hcuts

end CrmBot.DocumentSegmentation
