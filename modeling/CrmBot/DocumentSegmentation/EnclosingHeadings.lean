import CrmBot.DocumentSegmentation.CandidateOutline
import Mathlib.Data.List.Flatten

/-! Heading paths and the headings that enclose a part.

The document is cut at the headings of one level, and what is cut from a section
gets the titles of the headings down to that level. The text before the first cut
goes with the first section. The policy cuts at the top level, and adds to the
path of a section the lower heading in a part that it cut at lower headings. -/

namespace CrmBot.DocumentSegmentation

open CrmBot.Python Ink FailingFold Text Outline

/-- Parts that are cut from a stretch, in its order. -/
structure CutFrom (lines : List Text) (span : ℕ × ℕ) (parts : List (List Text × Text)) : Prop where
  ne_nil : parts ≠ []
  content : (parts.flatMap fun part => content part.2).Sublist
    ((stretch lines span).flatMap Text.content)

/-- The headings above the level that cuts are all before the first cut. -/
def KeepsOuter (lines : List Text) (first : Heading) (line : ℕ) : Prop :=
  ∀ other ∈ headingsOf lines, other.level < markdownPrimarySplitLevel (headingsOf lines) →
    other.index ≤ line → other.index < first.index

/-- The parts of a section, under the titles that enclose its lines. -/
def SectionParts (lines : List Text) (first : Heading) (span : Heading × ℕ × ℕ)
    (parts : List (List Text × Text)) : Prop :=
  CutFrom lines span.2 parts ∧ ∀ line, span.1.index ≤ line → line < span.2.2 →
    KeepsOuter lines first line → ∀ part ∈ parts,
      part.1 =
        enclosingTitles (headingsOf lines) (markdownPrimarySplitLevel (headingsOf lines)) line

/-- A document without headings has no heading paths, and another one is a sequence of
sections. -/
def PathsOfSections (lines : List Text) (parts : List (List Text × Text)) : Prop :=
  (headingsOf lines = [] ∧ ∀ part ∈ parts, part.1 = []) ∨
    ∃ first groups, (splitHeadings lines).head? = some first ∧ parts = groups.flatten ∧
      List.Forall₂ (SectionParts lines first)
        (sectionSpans lines.length 0 (splitHeadings lines)) groups

/-- The parts of a candidate, under the title of the top-level heading that encloses it. -/
def CandidateParts (budget : DocumentSegmentationBudget) (lines : List Text) (span : ℕ × ℕ)
    (parts : List (List Text × Text)) : Prop :=
  CutFrom lines span parts ∧ ∀ line, span.1 ≤ line → line < span.2 → ∀ part ∈ parts,
    part.1 = partPath budget (enclosingTitles (atxHeadingsOf lines) 1 line)
      (strip (joinLines (stretch lines span))) part.2

/-- The candidates follow one another, from the first line with content. -/
def PathsOfCandidates (budget : DocumentSegmentationBudget) (lines : List Text)
    (parts : List (List Text × Text)) : Prop :=
  ∃ start spans groups, (∀ line ∈ lines.take start, blank line = true) ∧
    Tiles start lines.length spans ∧ parts = groups.flatten ∧
      List.Forall₂ (CandidateParts budget lines) spans groups

section Paths

variable (budget : DocumentSegmentationBudget)

/-! Sections. -/

theorem path_of_mem_sectionCuts {section_ : List Text × Text} {part : List Text × Text}
    (h : part ∈ (sectionCuts budget section_).flatMap Cut.parts) : part.1 = section_.1 := by
  unfold sectionCuts at h
  split at h
  · have hpart : part = section_ := by simpa using h
    rw [hpart]
  · obtain ⟨cut, hcut, hpart⟩ := List.mem_flatMap.mp h
    obtain ⟨candidate, -, rfl⟩ := List.mem_map.mp hcut
    obtain ⟨draft, -, rfl⟩ := List.mem_map.mp hpart
    rfl

theorem content_sectionParts (section_ : List Text × Text) :
    (((sectionCuts budget section_).flatMap Cut.parts).flatMap fun part => content part.2).Sublist
      (content section_.2) := by
  unfold sectionCuts
  split
  · simp
  · obtain ⟨hcuts, hvalid⟩ := splitTopLevelH1Candidates_spec section_.2
    have hall := List.Sublist.flatMap_right (splitTopLevelH1Candidates section_.2)
      fun candidate hcandidate => content_draftList budget (hvalid candidate hcandidate)
    rw [← hcuts.content, List.flatMap_map]
    simpa [candidateCut, List.flatMap_map, List.flatMap_assoc] using hall

theorem le_stop_of_mem_sectionSpans {last start : ℕ} {headings : List Heading}
    (hordered : Ordered Heading.index headings) {span : Heading × ℕ × ℕ}
    (h : span ∈ sectionSpans last start headings) :
    span.1 ∈ headings ∧
      ∀ other ∈ headings, span.1.index < other.index → span.2.2 ≤ other.index := by
  induction headings generalizing start with
  | nil => cases h
  | cons heading rest ih =>
    obtain ⟨hbefore, hrest⟩ := List.pairwise_cons.mp hordered
    rcases List.mem_cons.mp h with rfl | htail
    · refine ⟨List.mem_cons_self, fun other hother hlt => ?_⟩
      rcases List.mem_cons.mp hother with rfl | hother
      · exact absurd hlt (lt_irrefl _)
      cases rest with
      | nil => cases hother
      | cons next others =>
        rcases List.mem_cons.mp hother with rfl | hother
        · exact le_rfl
        · exact ((List.pairwise_cons.mp hrest).1 other hother).le
    · obtain ⟨hmem, hstop⟩ := ih hrest htail
      refine ⟨List.mem_cons_of_mem _ hmem, fun other hother hlt => ?_⟩
      rcases List.mem_cons.mp hother with rfl | hother
      · have := hbefore span.1 hmem
        omega
      · exact hstop other hother hlt

theorem pathsOfSections (document : SourceDocument) {rawText : Text}
    (hformat : document.sourceFormat = .markdown) :
    PathsOfSections (normalizeLines rawText)
      ((documentCuts budget document rawText).flatMap Cut.parts) := by
  unfold documentCuts
  rw [if_pos hformat]
  by_cases hnone : headingsOf (normalizeLines rawText) = []
  · refine .inl ⟨hnone, ?_⟩
    have hsections : splitMarkdownByAtxHeadings rawText = [] := by
      simp [splitMarkdownByAtxHeadings, hnone]
    have hlines : ∀ line ∈ normalizeLines rawText, headingOfLine line = none := by
      intro line hline
      obtain ⟨index, hindex⟩ := List.mem_iff_getElem?.mp hline
      have := List.filterMap_eq_nil_iff.mp hnone (line, index)
        (List.mem_zipIdx_iff_getElem?.mpr hindex)
      simpa using this
    have hpaths := headingPath_eq_nil hlines
    rw [hsections]
    intro part hpart
    obtain ⟨cut, hcut, hpart⟩ := List.mem_flatMap.mp hpart
    obtain ⟨candidate, hcandidate, rfl⟩ := List.mem_map.mp hcut
    obtain ⟨draft, hdraft, rfl⟩ := List.mem_map.mp hpart
    have hvalid := (splitTopLevelH1Candidates_spec rawText).2 candidate hcandidate
    dsimp only
    rw [headingPath_draftList budget hvalid draft hdraft, hpaths candidate hcandidate, partPath,
      if_neg fun hboth => hboth.2.1 rfl]
  · right
    have hordered : Ordered Heading.index (splitHeadings (normalizeLines rawText)) :=
      (pairwise_headingsOf (normalizeLines rawText)).filter _
    obtain ⟨first, rest, hsplit⟩ : ∃ first rest,
        splitHeadings (normalizeLines rawText) = first :: rest := by
      obtain ⟨heading, hheading, hlevel⟩ := exists_level_eq hnone
      exact List.exists_cons_of_ne_nil
        (List.ne_nil_of_mem (List.mem_filter.mpr ⟨hheading, by simpa using hlevel⟩))
    have hspans := splitMarkdownByAtxHeadings_spans hsplit
    have hne : splitMarkdownByAtxHeadings rawText ≠ [] := by
      intro hnil
      rw [hnil, hsplit] at hspans
      cases hspans
    have hvalid := (splitMarkdownByAtxHeadings_spec hne).2
    refine ⟨first, (splitMarkdownByAtxHeadings rawText).map
      fun section_ => (sectionCuts budget section_).flatMap Cut.parts, by rw [hsplit]; rfl, ?_, ?_⟩
    · obtain ⟨section_, others, hsections⟩ := List.exists_cons_of_ne_nil hne
      rw [hsections]
      dsimp only
      rw [List.flatMap_assoc, List.flatMap_def]
    · rw [List.forall₂_map_right_iff]
      have hmem := forall₂_and_right.mpr ⟨(forall₂_and_right.mpr ⟨hspans, hvalid⟩).flip,
        fun span hspan => le_stop_of_mem_sectionSpans hordered hspan⟩
      refine hmem.flip.imp fun span section_ hboth => ?_
      obtain ⟨⟨⟨hpath, hcontent⟩, hsection⟩, hheading, hstop⟩ := hboth
      refine ⟨⟨sectionCuts_parts_ne_nil budget hsection, ?_⟩, ?_⟩
      · rw [← hcontent]
        exact content_sectionParts budget section_
      · intro line hstart hline houter part hpart
        have hfirst : first.index ≤ span.1.index := by
          rw [hsplit] at hheading hordered
          rcases List.mem_cons.mp hheading with heq | hrest
          · rw [heq]
          · exact ((List.pairwise_cons.mp hordered).1 _ hrest).le
        rw [path_of_mem_sectionCuts budget hpart, hpath]
        symm
        apply enclosingTitles_section hheading hfirst hstart _ houter
        exact fun other hother hlt => hline.trans_le (hstop other hother hlt)

/-! Candidates. -/

theorem pathsOfCandidates (text : Text) :
    PathsOfCandidates budget (normalizeLines text)
      (((splitTopLevelH1Candidates text).flatMap (draftList budget)).map
        fun draft => (draft.headingPath, draft.text)) := by
  obtain ⟨start, spans, hblank, htiles, hcandidates⟩ := splitTopLevelH1Candidates_outlined text
  have hvalid := (splitTopLevelH1Candidates_spec text).2
  refine ⟨start, spans, (splitTopLevelH1Candidates text).map fun candidate =>
    (draftList budget candidate).map fun draft => (draft.headingPath, draft.text),
    hblank, htiles, ?_, ?_⟩
  · rw [List.map_flatMap, List.flatMap_def]
  · rw [List.forall₂_map_right_iff]
    refine (forall₂_and_right.mpr ⟨hcandidates, hvalid⟩).imp fun span candidate hboth => ?_
    obtain ⟨hat, hcandidate⟩ := hboth
    refine ⟨⟨by simpa using draftList_ne_nil budget hcandidate, ?_⟩, ?_⟩
    · have hcontent := content_draftList budget hcandidate
      rw [hat.text, content_strip, content_joinLines] at hcontent
      rwa [List.flatMap_map]
    · intro line hstart hstop part hpart
      obtain ⟨draft, hdraft, rfl⟩ := List.mem_map.mp hpart
      rw [enclosingTitles_atxHeadingsOf, hat.path line hstart hstop, ← hat.text]
      exact headingPath_draftList budget hcandidate draft hdraft

end Paths

/-- Every source unit has the titles of the headings that enclose its section, down to the
level that cuts the document, and every segment of the policy that of the top-level
heading, with the lower heading of its part. -/
theorem headingPaths_enclose (budget : DocumentSegmentationBudget) (hexdigest : String → String)
    (document : SourceDocument) (rawText : Text) (occurredAt : Int)
    (hformat : document.sourceFormat = .markdown) (hraw : blank rawText = false) :
    (∃ segments units, documentSegments budget hexdigest document rawText = .ok segments ∧
      buildSourceUnitsFromText budget hexdigest document rawText occurredAt = .ok units ∧
        units.map (fun unit => (unit.headingPath, unit.text)) =
          segments.map (fun segment => (segment.headingPath, segment.text)) ∧
        PathsOfSections (normalizeLines rawText)
          (units.map fun unit => (unit.headingPath, unit.text))) ∧
    ∀ command : MarkdownSegmentationCommand, ∃ segments,
      segment hexdigest command = .ok segments ∧
        PathsOfCandidates command.budget (normalizeLines command.markdownText)
          (segments.map fun segment => (segment.headingPath, segment.text)) := by
  constructor
  · obtain ⟨segments, hsegments, hparts⟩ := documentSegments_eq_ok budget hexdigest document hraw
    obtain ⟨units, hunits, hunitParts, -⟩ :=
      buildSourceUnitsFromText_eq_ok budget hexdigest document hraw occurredAt
    have hfirst := congrArg (List.map Prod.fst) hparts
    rw [List.zipIdx_map_fst, List.map_map] at hfirst
    refine ⟨segments, units, hsegments, hunits, hunitParts.trans hfirst.symm, ?_⟩
    rw [hunitParts]
    exact pathsOfSections budget document hformat
  · intro command
    obtain ⟨segments, hsegments, hparts⟩ := segment_eq_ok hexdigest command
    have hfirst := congrArg (List.map Prod.fst) hparts
    rw [List.zipIdx_map_fst, List.map_map] at hfirst
    refine ⟨segments, hsegments, ?_⟩
    have hpaths := pathsOfCandidates command.budget command.markdownText
    rwa [← hfirst] at hpaths

/-! A title above its chapters. -/

def chaptersText : Text := "# Guide\n\n## Setup\n\n### Tools\n\n## Use".toList

theorem chapters_paths :
    ∃ segments units,
      documentSegments defaultSourceIngestionSegmentationBudget id handbook chaptersText =
        .ok segments ∧
      buildSourceUnitsFromText defaultSourceIngestionSegmentationBudget id handbook chaptersText 0 =
        .ok units ∧
      units.map (fun unit => (unit.headingPath, unit.text)) =
        segments.map (fun segment => (segment.headingPath, segment.text)) ∧
      PathsOfSections (normalizeLines chaptersText)
        (units.map fun unit => (unit.headingPath, unit.text)) :=
  (headingPaths_enclose defaultSourceIngestionSegmentationBudget id handbook chaptersText 0 rfl
    (by decide)).1

/-- The path of a unit is the titles of all the headings that enclose a line where its
first line can stand. -/
def EnclosedAtFirstLine (lines : List Text) (unit : SourceUnit) : Prop :=
  ∃ index < lines.length, ∃ first ∈ (normalizeLines unit.text).head?,
    first <:+: (lines[index]?).getD [] ∧
      unit.headingPath = (enclosing Heading.index Heading.level (headingsOf lines) index).map
        Heading.title

/-- The first unit begins with the title, and has the path of the first chapter. -/
theorem title_under_chapter :
    ¬ ∀ (budget : DocumentSegmentationBudget) (document : SourceDocument) (rawText : Text)
        (units : List SourceUnit), document.sourceFormat = .markdown →
      buildSourceUnitsFromText budget id document rawText 0 = .ok units →
        ∀ unit ∈ units, EnclosedAtFirstLine (normalizeLines rawText) unit := by
  intro hall
  have hraw : blank chaptersText = false := by decide
  obtain ⟨units, hunits, hparts, -⟩ := buildSourceUnitsFromText_eq_ok
    defaultSourceIngestionSegmentationBudget id handbook hraw 0
  have hcuts : (documentCuts defaultSourceIngestionSegmentationBudget handbook
      chaptersText).flatMap Cut.parts =
        [(["Guide".toList, "Setup".toList], "# Guide\n\n## Setup\n\n### Tools".toList),
          (["Guide".toList, "Use".toList], "## Use".toList)] := by
    decide +kernel
  obtain ⟨unit, rest, rfl, hunit, -⟩ := List.map_eq_cons_iff.mp (hparts.trans hcuts)
  obtain ⟨hpath, htext⟩ := Prod.mk.inj hunit
  obtain ⟨index, hindex, first, hfirst, hinfix, htitles⟩ :=
    hall _ _ _ _ rfl hunits unit List.mem_cons_self
  -- the line of the title is the only one with its text
  have hnone : ∀ index < (normalizeLines chaptersText).length,
      "# Guide".toList <:+: ((normalizeLines chaptersText)[index]?).getD [] →
        ["Guide".toList, "Setup".toList] ≠ (enclosing Heading.index Heading.level
          (headingsOf (normalizeLines chaptersText)) index).map Heading.title := by
    decide +kernel
  have hline : (normalizeLines "# Guide\n\n## Setup\n\n### Tools".toList).head? =
      some "# Guide".toList := by
    decide +kernel
  rw [htext, hline] at hfirst
  rw [← Option.some.inj hfirst] at hinfix
  exact hnone index hindex hinfix (hpath.symm.trans htitles)

end CrmBot.DocumentSegmentation
