import CrmBot.DocumentSegmentation.BlockContent

/-! Ingestion returns source units for every text that is not blank, and their
texts are the parts into which its sections and candidates are cut. -/

namespace CrmBot.DocumentSegmentation

open CrmBot.Python Ink FailingFold Text

/-! Headings. -/

theorem parseAtxHeading_eq_some {line title : Text} {level : ℕ}
    (h : parseAtxHeading line = some (level, title)) :
    1 ≤ level ∧ level ≤ 6 ∧ blank title = false ∧
      ∃ rest, title = strip rest ∧ line = List.replicate level '#' ++ ' ' :: rest := by
  unfold parseAtxHeading at h
  simp only at h
  split at h
  · cases h
  · next hcount =>
    split at h
    · next rest hdrop =>
      split at h
      · cases h
      · next hblank =>
        cases h
        refine ⟨by omega, by omega, by rw [blank_strip]; simpa using hblank, rest, rfl, ?_⟩
        have hmarker : line.takeWhile (· = '#') =
            List.replicate (line.takeWhile (· = '#')).length '#' := by
          refine List.eq_replicate_iff.mpr ⟨rfl, fun c hc => ?_⟩
          simpa using List.mem_takeWhile_imp hc
        rw [← hmarker, ← hdrop]
        have hdropped := @List.drop_left _ (line.takeWhile (· = '#')) (line.dropWhile (· = '#'))
        rw [List.takeWhile_append_dropWhile] at hdropped
        rw [hdropped, List.takeWhile_append_dropWhile]
    · cases h

/-! The candidates that the H1 headings delimit. -/

structure Candidate.Valid (candidate : Candidate) : Prop where
  text_nonblank : blank candidate.text = false
  headingPath_nonblank : ∀ heading ∈ candidate.headingPath, blank heading = false

/-- What the scan has done with the lines it has read. -/
structure H1Scan.Reads (scan : H1Scan) (lines : List Text) : Prop where
  content : (scan.candidates.map Candidate.text).flatMap Text.content ++
    (scan.preambleLines ++ scan.currentLines).flatMap Text.content = lines.flatMap Text.content
  valid : ∀ candidate ∈ scan.candidates, candidate.Valid
  found : scan.foundH1 = true ↔ scan.currentLines ≠ []
  -- the preamble is flushed when the first heading is found
  preamble : scan.currentLines ≠ [] → scan.preambleLines = []
  current : scan.currentLines ≠ [] → ∃ heading, scan.currentHeading = some heading ∧
    blank heading = false ∧ blank (joinLines scan.currentLines) = false

theorem preambleCandidate_cuts (kind : DocumentSegmentKind) (lines : List Text) :
    Cuts ((preambleCandidate kind lines).map Candidate.text) (lines.flatMap content) ∧
      ∀ candidate ∈ preambleCandidate kind lines, candidate.headingPath = [] := by
  have hblock : (preambleCandidate kind lines).map Candidate.text = blockOf lines := by
    unfold preambleCandidate blockOf
    simp only
    split <;> rfl
  refine ⟨hblock ▸ blockOf_cuts lines, fun candidate hcandidate => ?_⟩
  unfold preambleCandidate at hcandidate
  simp only at hcandidate
  split at hcandidate
  · cases hcandidate
  · rw [List.mem_singleton.mp hcandidate]

/-- Flushing turns the open lines into a candidate. -/
theorem H1Scan.Reads.flushed {scan : H1Scan} {lines : List Text} (h : scan.Reads lines)
    (kind : DocumentSegmentKind) :
    ((scan.flushed kind).map Candidate.text).flatMap Text.content = lines.flatMap Text.content ∧
      ∀ candidate ∈ scan.flushed kind, candidate.Valid := by
  have hcontent := h.content
  unfold H1Scan.flushed
  split
  · next line rest heading hlines hheading =>
    obtain ⟨found, hfound, hblank, hjoined⟩ := h.current (by rw [hlines]; exact nofun)
    rw [hheading] at hfound
    cases hfound
    have hpreamble := h.preamble (by rw [hlines]; exact nofun)
    rw [hpreamble, hlines, List.nil_append] at hcontent
    constructor
    · rw [← hcontent, List.map_append, List.flatMap_append]
      simp [sectionCandidate]
    · intro candidate hcandidate
      rcases List.mem_append.mp hcandidate with hold | hnew
      · exact h.valid candidate hold
      · rw [List.mem_singleton.mp hnew]
        refine ⟨?_, ?_⟩
        · rw [sectionCandidate, blank_strip, ← hlines]
          exact hjoined
        · simpa [sectionCandidate] using hblank
  · next hnone =>
    have hlines : scan.currentLines = [] := by
      cases hcurrent : scan.currentLines with
      | nil => rfl
      | cons line rest =>
        obtain ⟨heading, hheading, -⟩ := h.current (by rw [hcurrent]; exact nofun)
        exact absurd hheading (hnone line rest heading hcurrent)
    obtain ⟨hcuts, hpath⟩ := preambleCandidate_cuts kind scan.preambleLines
    rw [hlines, List.append_nil] at hcontent
    constructor
    · rw [← hcontent, List.map_append, List.flatMap_append, hcuts.content]
    · intro candidate hcandidate
      rcases List.mem_append.mp hcandidate with hold | hnew
      · exact h.valid candidate hold
      · refine ⟨hcuts.nonblank _ (List.mem_map_of_mem hnew), ?_⟩
        rw [hpath candidate hnew]
        exact nofun

theorem blank_joinLines_append {lines : List Text} (h : blank (joinLines lines) = false)
    (line : Text) : blank (joinLines (lines ++ [line])) = false := by
  rw [blank_eq_false_iff] at h ⊢
  simp only [content_joinLines, List.flatMap_append] at h ⊢
  simp [h]

/-- Reading one more line. -/
theorem H1Scan.Reads.step {scan : H1Scan} {lines : List Text} (h : scan.Reads lines)
    (line : Text) : (scan.step line).Reads (lines ++ [line]) := by
  have hcontent := h.content
  have hgrown : (lines ++ [line]).flatMap Text.content =
      lines.flatMap Text.content ++ Text.content line := by simp
  unfold H1Scan.step
  split
  · next title hheading =>
    obtain ⟨hflushed, hvalid⟩ := h.flushed .documentPreamble
    obtain ⟨-, -, htitle, rest, rfl, hline⟩ := parseAtxHeading_eq_some hheading
    refine ⟨by simp [hflushed], hvalid, by simp, fun _ => rfl, fun _ => ⟨_, rfl, htitle, ?_⟩⟩
    rw [blank_eq_false_iff, content_joinLines, hline]
    simp [Text.content, ink_cons, isSpace]
  · split
    · next hfound =>
      have hlines := h.found.mp hfound
      obtain ⟨heading, hheading, hblank, hjoined⟩ := h.current hlines
      refine ⟨?_, h.valid, by simp [hfound], fun _ => h.preamble hlines,
        fun _ => ⟨heading, hheading, hblank, blank_joinLines_append hjoined line⟩⟩
      rw [hgrown, ← hcontent]
      simp
    · next hfound =>
      have hlines : scan.currentLines = [] := by
        by_contra hne
        exact hfound (h.found.mpr hne)
      refine ⟨?_, h.valid, h.found, fun hne => absurd hlines hne, fun hne => absurd hlines hne⟩
      rw [hgrown, ← hcontent]
      simp [hlines]

theorem H1Scan.Reads.foldl (lines : List Text) {scan : H1Scan} {seen : List Text}
    (h : scan.Reads seen) : (lines.foldl H1Scan.step scan).Reads (seen ++ lines) := by
  induction lines generalizing scan seen with
  | nil => simpa using h
  | cons line rest ih => simpa using ih (h.step line)

/-- The candidates of a text hold its content in order. -/
theorem splitTopLevelH1Candidates_spec (text : Text) :
    Cuts ((splitTopLevelH1Candidates text).map Candidate.text) (content text) ∧
      ∀ candidate ∈ splitTopLevelH1Candidates text, candidate.Valid := by
  have hstart : H1Scan.Reads ⟨[], [], [], none, false⟩ [] :=
    ⟨rfl, nofun, by simp, fun hne => absurd rfl hne, fun hne => absurd rfl hne⟩
  obtain ⟨hcontent, hvalid⟩ := (hstart.foldl (normalizeLines text)).flushed .paragraphGroup
  rw [List.nil_append, content_normalizeLines] at hcontent
  refine ⟨⟨fun part hpart => ?_, hcontent⟩, hvalid⟩
  obtain ⟨candidate, hcandidate, rfl⟩ := List.mem_map.mp hpart
  exact (hvalid candidate hcandidate).text_nonblank

/-! The parts of a candidate. -/

section

variable (budget : DocumentSegmentationBudget)

/-- How many parts a text of so many tokens needs. -/
def segmentCount (tokens : ℕ) : ℕ :=
  (tokens + budget.maxSourceSegmentTokens - 1) / budget.maxSourceSegmentTokens

variable (candidate : Candidate)

/-- The parts that the lower headings of a candidate give. -/
def lowerHeadingParts : List Text :=
  balancedParts budget (splitLowerHeadingBlocks candidate.text)
    (segmentCount budget (budget.estimateTokens candidate.text))

/-- The lower headings of a candidate cut it into parts within the limit. -/
def CutsAtLowerHeadings : Prop :=
  candidate.headingPath ≠ [] ∧ 2 ≤ (splitLowerHeadingBlocks candidate.text).length ∧
    ∀ part ∈ lowerHeadingParts budget candidate, budget.textFits part = true

instance : Decidable (CutsAtLowerHeadings budget candidate) := by
  unfold CutsAtLowerHeadings
  infer_instance

/-- What is left of a candidate to cut at paragraphs or between words. -/
def fallbackSource : Text :=
  if blank (paragraphSource candidate) then candidate.text else paragraphSource candidate

/-- The parts that the paragraphs of a candidate give, or the words of its only one. -/
def fallbackParts : List Text :=
  if 2 ≤ (splitParagraphBlocks (paragraphSource candidate)).length then
    balancedParts budget (splitParagraphBlocks (paragraphSource candidate))
      (max 2 (segmentCount budget (budget.estimateTokens candidate.text)))
  else splitTextBalanced (fallbackSource candidate)
    (segmentCount budget (max 1 (budget.estimateTokens (fallbackSource candidate))))

/-- The texts of the drafts of a candidate. -/
def candidateParts : List Text :=
  if budget.textFits candidate.text then [candidate.text]
  else if CutsAtLowerHeadings budget candidate then lowerHeadingParts budget candidate
  else fallbackParts budget candidate

/-- The text that the parts of a candidate are cut from. -/
def cutSource : Text :=
  if budget.textFits candidate.text then candidate.text else fallbackSource candidate

variable {candidate}

/-- A text with a part that is not blank is not blank itself. -/
theorem blank_of_cuts {parts : List Text} {text : Text} (h : Cuts parts (content text))
    (hne : parts ≠ []) : blank text = false := by
  obtain ⟨part, rest, rfl⟩ := List.exists_cons_of_ne_nil hne
  have hpart := blank_eq_false_iff.mp (h.nonblank part List.mem_cons_self)
  rw [blank_eq_false_iff, ← h.content, List.flatMap_cons]
  simp [hpart]

theorem candidateParts_cuts (h : candidate.Valid) :
    Cuts (candidateParts budget candidate) (content (cutSource budget candidate)) := by
  unfold candidateParts cutSource
  split_ifs with hfits hlower
  · exact Cuts.singleton h.text_nonblank
  · obtain ⟨hpath, hcount, -⟩ := hlower
    have hblocks := splitLowerHeadingBlocks_cuts candidate.text
    have hsource : paragraphSource candidate = stripLeadingH1 candidate.text :=
      if_neg (by simpa using hpath)
    have hne : splitLowerHeadingBlocks candidate.text ≠ [] := by
      intro hnil
      simp [hnil] at hcount
    have hblank := blank_of_cuts hblocks hne
    rw [fallbackSource, hsource, if_neg (by simp [hblank])]
    exact balancedParts_cuts budget hblocks _
  · have hparagraphs := splitParagraphBlocks_cuts (paragraphSource candidate)
    unfold fallbackParts
    split
    · next hcount =>
      have hne : splitParagraphBlocks (paragraphSource candidate) ≠ [] := by
        intro hnil
        simp [hnil] at hcount
      have hblank := blank_of_cuts hparagraphs hne
      rw [fallbackSource, if_neg (by simp [hblank])]
      exact balancedParts_cuts budget hparagraphs _
    · apply splitTextBalanced_cuts
      unfold fallbackSource
      split
      · exact h.text_nonblank
      · next hblank => simpa using hblank

theorem lowerHeadingPath_nonblank {parentPath : List Text}
    (h : ∀ heading ∈ parentPath, blank heading = false) (chunk : Text) :
    ∀ heading ∈ lowerHeadingPath parentPath chunk, blank heading = false := by
  have htitles : ∀ title ∈ (normalizeLines chunk).filterMap lowerTitle?,
      blank title = false := by
    intro title htitle
    obtain ⟨line, -, hline⟩ := List.mem_filterMap.mp htitle
    unfold lowerTitle? at hline
    split at hline
    · next level found hfound =>
      split at hline
      · cases hline
        exact (parseAtxHeading_eq_some hfound).2.2.1
      · cases hline
    · cases hline
  have hgrown : ∀ title, blank title = false →
      ∀ heading ∈ parentPath ++ [title], blank heading = false := by
    intro title htitle heading hheading
    rcases List.mem_append.mp hheading with hparent | hnew
    · exact h heading hparent
    · rw [List.mem_singleton.mp hnew]
      exact htitle
  unfold lowerHeadingPath
  split
  · exact h
  · next title hone =>
    refine hgrown title (htitles title ?_)
    rw [hone]
    exact List.mem_singleton_self title
  · exact hgrown _ (by decide)

theorem requiredSegmentCount_eq_ok {tokens : ℕ} (h : 0 < tokens) :
    budget.requiredSegmentCount tokens = .ok (segmentCount budget tokens) :=
  if_neg (by omega)

theorem splitMarkerBlocksBalanced_eq_ok (blocks : List Text) {count : ℕ} (h : 2 ≤ count) :
    splitMarkerBlocksBalanced budget blocks count = .ok (balancedParts budget blocks count) :=
  if_neg (by omega)

/-- What the drafts of a candidate are. -/
structure DraftsOf (drafts : List SegmentDraft) (candidate : Candidate) : Prop where
  texts : drafts.map SegmentDraft.text = candidateParts budget candidate
  paths : ∀ draft ∈ drafts, ∀ heading ∈ draft.headingPath, blank heading = false

variable {budget} in
/-- Parts that all get one heading path. -/
theorem DraftsOf.of_map {kind : DocumentSegmentKind} {parts : List Text} (h : candidate.Valid)
    (hparts : parts = candidateParts budget candidate) :
    DraftsOf budget (parts.map fun part => ⟨part, kind, candidate.headingPath⟩) candidate where
  texts := by
    rw [← hparts, List.map_map]
    exact List.map_id parts
  paths draft hdraft := by
    obtain ⟨part, -, rfl⟩ := List.mem_map.mp hdraft
    exact h.headingPath_nonblank

theorem lowerHeadingDrafts_spec (h : candidate.Valid)
    (hfits : budget.textFits candidate.text = false) {count : ℕ} (hcount : 2 ≤ count)
    (hcountEq : count = segmentCount budget (budget.estimateTokens candidate.text)) :
    (CutsAtLowerHeadings budget candidate → ∃ drafts,
      lowerHeadingDrafts budget candidate count = .ok (some drafts) ∧
        DraftsOf budget drafts candidate) ∧
    (¬ CutsAtLowerHeadings budget candidate →
      lowerHeadingDrafts budget candidate count = .ok none) := by
  have hsplit := splitMarkerBlocksBalanced_eq_ok budget
    (splitLowerHeadingBlocks candidate.text) hcount
  have hchunks : balancedParts budget (splitLowerHeadingBlocks candidate.text) count =
      lowerHeadingParts budget candidate := by rw [hcountEq, lowerHeadingParts]
  rw [hchunks] at hsplit
  constructor
  · intro hlower
    have hparts : candidateParts budget candidate = lowerHeadingParts budget candidate := by
      unfold candidateParts
      rw [if_neg (by simp [hfits]), if_pos hlower]
    have hcuts := candidateParts_cuts budget h
    obtain ⟨hpath, hblocks, hall⟩ := hlower
    have hne : lowerHeadingParts budget candidate ≠ [] := by
      have hsource := splitLowerHeadingBlocks_cuts candidate.text
      have hblank : blank (stripLeadingH1 candidate.text) = false :=
        blank_of_cuts hsource (by intro hnil; simp [hnil] at hblocks)
      exact (balancedParts_cuts budget hsource _).ne_nil (blank_eq_false_iff.mp hblank)
    refine ⟨(lowerHeadingParts budget candidate).map fun chunk =>
      ⟨chunk, .subsection, lowerHeadingPath candidate.headingPath chunk⟩, ?_, ?_⟩
    · unfold lowerHeadingDrafts
      simp only
      rw [if_pos ⟨by simpa using hpath, hblocks⟩, hsplit]
      simp only [bind, Except.bind]
      rw [if_pos ⟨by simpa using hne, List.all_eq_true.mpr hall⟩]
      rfl
    · refine ⟨?_, fun draft hdraft => ?_⟩
      · rw [hparts, List.map_map]
        exact List.map_id _
      obtain ⟨part, -, rfl⟩ := List.mem_map.mp hdraft
      exact lowerHeadingPath_nonblank h.headingPath_nonblank part
  · intro hlower
    unfold lowerHeadingDrafts
    simp only
    split
    · next hcond =>
      rw [hsplit]
      simp only [bind, Except.bind]
      rw [if_neg]
      · rfl
      · rintro ⟨-, hall⟩
        exact hlower ⟨by simpa using hcond.1, hcond.2, List.all_eq_true.mp hall⟩
    · rfl

theorem splitByParagraphOrText_spec (h : candidate.Valid)
    (hfits : budget.textFits candidate.text = false)
    (hlower : ¬ CutsAtLowerHeadings budget candidate) :
    ∃ drafts, splitByParagraphOrText budget candidate
        (segmentCount budget (budget.estimateTokens candidate.text)) = .ok drafts ∧
      DraftsOf budget drafts candidate := by
  have hparts : candidateParts budget candidate = fallbackParts budget candidate := by
    unfold candidateParts
    rw [if_neg (by simp [hfits]), if_neg hlower]
  have hcuts := candidateParts_cuts budget h
  rw [hparts] at hcuts
  unfold splitByParagraphOrText
  simp only
  split
  · next hcount =>
    rw [splitMarkerBlocksBalanced_eq_ok budget _ (by omega)]
    refine ⟨_, rfl, DraftsOf.of_map h ?_⟩
    rw [hparts, fallbackParts, if_pos hcount]
  · next hcount =>
    have htext : fallbackParts budget candidate = splitTextBalanced (fallbackSource candidate)
        (segmentCount budget (max 1 (budget.estimateTokens (fallbackSource candidate)))) := by
      rw [fallbackParts, if_neg hcount]
    unfold fallbackTextDrafts
    rw [← fallbackSource, requiredSegmentCount_eq_ok budget (by omega)]
    refine ⟨_, rfl, DraftsOf.of_map h ?_⟩
    rw [hparts, htext]
    rw [htext] at hcuts
    exact hcuts.filter_blank

/-- A candidate always gives drafts. -/
theorem candidateDrafts_eq_ok (h : candidate.Valid) :
    ∃ drafts, candidateDrafts budget candidate = .ok drafts ∧ DraftsOf budget drafts candidate := by
  unfold candidateDrafts
  split
  · next hfits =>
    refine ⟨_, rfl, by simp [candidateParts, hfits], fun draft hdraft => ?_⟩
    rw [List.mem_singleton.mp hdraft]
    exact h.headingPath_nonblank
  · next hfits =>
    have hfits : budget.textFits candidate.text = false := by simpa using hfits
    obtain ⟨count, hrequired, hcount⟩ := budget.requiredSegmentCount_of_not_fits hfits
    have hpos := budget.estimateTokens_pos h.text_nonblank
    have hcountEq := hrequired
    rw [requiredSegmentCount_eq_ok budget hpos] at hcountEq
    have hcountEq := (Except.ok.inj hcountEq).symm
    obtain ⟨hyes, hno⟩ := lowerHeadingDrafts_spec budget h hfits hcount hcountEq
    unfold splitOversizedCandidate
    rw [hrequired]
    simp only [bind, Except.bind]
    by_cases hlower : CutsAtLowerHeadings budget candidate
    · obtain ⟨drafts, hdrafts, hof⟩ := hyes hlower
      rw [hdrafts]
      exact ⟨drafts, rfl, hof⟩
    · rw [hno hlower, hcountEq]
      exact splitByParagraphOrText_spec budget h hfits hlower

end

end CrmBot.DocumentSegmentation
