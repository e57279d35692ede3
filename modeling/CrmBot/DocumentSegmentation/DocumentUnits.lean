import CrmBot.DocumentSegmentation.CandidateHeading

/-! The source units of a document.

A text that is not blank always gives source units, numbered from zero. Their
texts hold its content, but for the H1 headings that `_strip_leading_h1` takes
away. The policy puts those in the heading path. Where it cuts a section of the
heading-first splitter, its heading paths are replaced by that of the section. -/

namespace CrmBot.DocumentSegmentation

open CrmBot.Python Ink FailingFold Text

/-- Without headings there is one candidate, and it has no heading path. -/
theorem headingPath_eq_nil {rawText : Text}
    (h : ∀ line ∈ normalizeLines rawText, headingOfLine line = none) :
    ∀ candidate ∈ splitTopLevelH1Candidates rawText, candidate.headingPath = [] := by
  have hscan : ∀ (lines seen : List Text), (∀ line ∈ lines, headingOfLine line = none) →
      lines.foldl H1Scan.step ⟨[], seen, [], none, false⟩ =
        ⟨[], seen ++ lines, [], none, false⟩ := by
    intro lines
    induction lines with
    | nil =>
      intro seen _
      simp
    | cons line rest ih =>
      intro seen hlines
      have hstep : H1Scan.step ⟨[], seen, [], none, false⟩ line =
          ⟨[], seen ++ [line], [], none, false⟩ := by
        unfold H1Scan.step
        split
        · next title hparse =>
          have hsome := headingOfLine_isSome hparse
          rw [hlines line List.mem_cons_self] at hsome
          cases hsome
        · rfl
      rw [List.foldl_cons, hstep,
        ih _ fun other hother => hlines other (List.mem_cons_of_mem line hother),
        List.append_assoc]
      rfl
  unfold splitTopLevelH1Candidates
  dsimp only
  rw [hscan _ [] h]
  exact (preambleCandidate_cuts .paragraphGroup _).2

/-! What a document is cut into. -/

section Pieces

variable (budget : DocumentSegmentationBudget)

/-- The drafts of a candidate, which there always are. -/
def draftList (candidate : Candidate) : List SegmentDraft :=
  match candidateDrafts budget candidate with
  | .ok drafts => drafts
  | .error _ => []

theorem candidateDrafts_eq {candidate : Candidate} (h : candidate.Valid) :
    candidateDrafts budget candidate = .ok (draftList budget candidate) ∧
      DraftsOf budget (draftList budget candidate) candidate := by
  obtain ⟨drafts, hdrafts, hof⟩ := candidateDrafts_eq_ok budget h
  have heq : draftList budget candidate = drafts := by
    unfold draftList
    rw [hdrafts]
  rw [heq]
  exact ⟨hdrafts, hof⟩

/-- The heading line that `_strip_leading_h1` takes away from a candidate over the
limit, with its title. -/
def removedHeading (candidate : Candidate) : Option (Text × Text) :=
  if budget.textFits candidate.text ∨ candidate.headingPath = [] ∨
      blank (paragraphSource candidate) then none
  else match normalizeLines candidate.text with
    | [] => none
    | first :: _ => match parseAtxHeading first with
      | some (1, title) => some (first, title)
      | _ => none

/-- Parts that are cut out together, each under its heading path, and the heading that
is taken away in front of them. -/
structure Cut where
  removed : Option (Text × Text)
  parts : List (List Text × Text)

/-- The heading of a cut that is in the heading path of all its parts. -/
def Cut.moved (cut : Cut) : Option (Text × Text) :=
  cut.removed.filter fun heading => cut.parts.all fun part => part.1.contains heading.2

/-- The content of the parts, with that of the heading that is moved to their paths. -/
def Cut.content (cut : Cut) : Text :=
  (cut.moved.toList.flatMap fun heading => Text.content heading.1) ++
    cut.parts.flatMap fun part => Text.content part.2

/-- The heading that is taken away is in the heading path of every part. -/
def Cut.TitleKept (cut : Cut) : Prop :=
  ∀ heading, cut.removed = some heading → ∀ part ∈ cut.parts, heading.2 ∈ part.1

def candidateCut (path : SegmentDraft → List Text) (candidate : Candidate) : Cut where
  removed := removedHeading budget candidate
  parts := (draftList budget candidate).map fun draft => (path draft, draft.text)

/-- The parts of a section over the limit get the heading path of the section. -/
def sectionCuts (section_ : List Text × Text) : List Cut :=
  if budget.textFits section_.2 then [⟨none, [section_]⟩]
  else (splitTopLevelH1Candidates section_.2).map (candidateCut budget fun _ => section_.1)

def documentCuts (document : SourceDocument) (rawText : Text) : List Cut :=
  if document.sourceFormat = .markdown then
    match splitMarkdownByAtxHeadings rawText with
    | [] => (splitTopLevelH1Candidates rawText).map (candidateCut budget SegmentDraft.headingPath)
    | first :: rest => (first :: rest).flatMap (sectionCuts budget)
  else [⟨none, (packAdjacentParagraphs budget (splitParagraphs rawText)).map fun group =>
    ([], group)⟩]

theorem content_removedHeading (candidate : Candidate) :
    ((removedHeading budget candidate).toList.flatMap fun heading => content heading.1) ++
      content (cutSource budget candidate) = content candidate.text := by
  unfold removedHeading cutSource fallbackSource
  by_cases hfits : budget.textFits candidate.text = true
  · rw [if_pos (.inl hfits), if_pos hfits]
    rfl
  rw [if_neg hfits]
  by_cases hblank : blank (paragraphSource candidate) = true
  · rw [if_pos (.inr (.inr hblank)), if_pos hblank]
    rfl
  rw [if_neg hblank]
  by_cases hpath : candidate.headingPath = []
  · rw [if_pos (.inr (.inl hpath)), paragraphSource, hpath]
    rfl
  rw [if_neg (by simp [hfits, hblank, hpath])]
  have hsource : paragraphSource candidate = stripLeadingH1 candidate.text :=
    if_neg (by simpa using hpath)
  have hlines := content_normalizeLines candidate.text
  rw [hsource, content_stripLeadingH1, linesAfterH1]
  split
  · next hnil =>
    rw [← hlines, hnil]
    rfl
  · next first rest hcons =>
    rw [← hlines, hcons]
    by_cases htitle : ∃ title, parseAtxHeading first = some (1, title)
    · obtain ⟨title, hparse⟩ := htitle
      simp [hparse]
    · split
      · next title hparse => exact absurd ⟨title, hparse⟩ htitle
      · simp

/-- The title of the heading that is taken away is the one of the candidate. -/
theorem removedHeading_eq_some_iff {candidate : Candidate} (h : candidate.Titled) (title : Text) :
    (∃ line, removedHeading budget candidate = some (line, title)) ↔
      budget.textFits candidate.text = false ∧ blank (stripLeadingH1 candidate.text) = false ∧
        title ∈ candidate.headingPath := by
  unfold removedHeading
  rcases h with hpath | ⟨own, first, others, hpath, hlines, hparse⟩
  · rw [if_pos (.inr (.inl hpath)), hpath]
    simp
  · have hsource : paragraphSource candidate = stripLeadingH1 candidate.text :=
      if_neg (by simp [hpath])
    rw [hsource, hlines, hpath]
    simp only [hparse, List.mem_singleton]
    cases budget.textFits candidate.text <;>
      cases blank (stripLeadingH1 candidate.text) <;> simp [eq_comm]

theorem moved_eq_removed {cut : Cut} (h : cut.TitleKept) : cut.moved = cut.removed := by
  unfold Cut.moved
  cases hremoved : cut.removed with
  | none => rfl
  | some heading =>
    rw [Option.filter_some, if_pos]
    exact List.all_eq_true.mpr fun part hpart => by simpa using h heading hremoved part hpart

theorem content_candidateCut (path : SegmentDraft → List Text) {candidate : Candidate}
    (h : candidate.Valid) (hkept : (candidateCut budget path candidate).TitleKept) :
    (candidateCut budget path candidate).content = content candidate.text := by
  have htexts := (candidateDrafts_eq budget h).2.texts
  have hparts := (candidateParts_cuts budget h).content
  rw [← htexts, List.flatMap_map] at hparts
  rw [Cut.content, moved_eq_removed hkept, candidateCut,
    ← content_removedHeading budget candidate, ← hparts, List.flatMap_map]

theorem content_candidateCuts (path : SegmentDraft → List Text) (text : Text)
    (hkept : ∀ cut ∈ (splitTopLevelH1Candidates text).map (candidateCut budget path),
      cut.TitleKept) :
    ((splitTopLevelH1Candidates text).map (candidateCut budget path)).flatMap Cut.content =
      content text := by
  obtain ⟨hcuts, hvalid⟩ := splitTopLevelH1Candidates_spec text
  rw [← hcuts.content, List.flatMap_map, List.flatMap_map, List.flatMap_def, List.flatMap_def]
  congr 1
  exact List.map_congr_left fun candidate hcandidate =>
    content_candidateCut budget path (hvalid candidate hcandidate)
      (hkept _ (List.mem_map_of_mem hcandidate))

theorem content_sectionCuts (section_ : List Text × Text)
    (hkept : ∀ cut ∈ sectionCuts budget section_, cut.TitleKept) :
    (sectionCuts budget section_).flatMap Cut.content = content section_.2 := by
  unfold sectionCuts at hkept ⊢
  split
  · simp [Cut.content, Cut.moved]
  · next hfits =>
    rw [if_neg hfits] at hkept
    exact content_candidateCuts budget _ _ hkept

theorem joinBlocks_cuts {blocks : List Text} (h : ∀ block ∈ blocks, blank block = false)
    (hne : blocks ≠ []) : Cuts [(joinBlocks blocks).strip] (blocks.flatMap content) := by
  obtain ⟨first, others, rfl⟩ := List.exists_cons_of_ne_nil hne
  have hfirst := blank_eq_false_iff.mp (h first List.mem_cons_self)
  have hblock : blank (joinBlocks (first :: others)).strip = false := by
    rw [blank_eq_false_iff, content_strip, content_joinBlocks, List.flatMap_cons]
    simp [hfirst]
  have hcuts := Cuts.singleton hblock
  rwa [content_strip, content_joinBlocks] at hcuts

/-- The groups of adjacent paragraphs hold their content. -/
theorem packFrom_cuts (current paragraphs : List Text)
    (hcurrent : ∀ paragraph ∈ current, blank paragraph = false)
    (hparagraphs : ∀ paragraph ∈ paragraphs, blank paragraph = false) :
    Cuts (packFrom budget current paragraphs)
      (current.flatMap content ++ paragraphs.flatMap content) := by
  induction paragraphs generalizing current with
  | nil =>
    rw [List.flatMap_nil, List.append_nil]
    unfold packFrom
    split
    · next hempty =>
      rw [List.isEmpty_iff.mp hempty]
      exact Cuts.nil
    · next hne => exact joinBlocks_cuts hcurrent (by simpa using hne)
  | cons paragraph rest ih =>
    have hparagraph := hparagraphs paragraph List.mem_cons_self
    have hrest : ∀ other ∈ rest, blank other = false :=
      fun other hother => hparagraphs other (List.mem_cons_of_mem paragraph hother)
    unfold packFrom
    dsimp only
    split
    · next hfull =>
      have hothers := ih [paragraph] (by simpa using hparagraph) hrest
      exact (joinBlocks_cuts hcurrent (by simpa using hfull.1)).append (by simpa using hothers)
    · have hgrown : ∀ other ∈ current ++ [paragraph], blank other = false := by
        intro other hother
        rcases List.mem_append.mp hother with hold | hnew
        · exact hcurrent other hold
        · rw [List.mem_singleton.mp hnew]
          exact hparagraph
      simpa using ih (current ++ [paragraph]) hgrown hrest

theorem packAdjacentParagraphs_cuts (text : Text) :
    Cuts (packAdjacentParagraphs budget (splitParagraphs text)) (content text) := by
  have hparagraphs := splitParagraphs_cuts text
  have hcuts := packFrom_cuts budget [] (splitParagraphs text) nofun hparagraphs.nonblank
  rw [List.flatMap_nil, List.nil_append, hparagraphs.content] at hcuts
  rwa [packAdjacentParagraphs, hcuts.filter_isEmpty]

/-- What a document is cut into holds its content when the headings are kept. -/
theorem content_documentCuts (document : SourceDocument) (rawText : Text)
    (hkept : ∀ cut ∈ documentCuts budget document rawText, cut.TitleKept) :
    (documentCuts budget document rawText).flatMap Cut.content = content rawText := by
  unfold documentCuts at hkept ⊢
  split
  · next hformat =>
    rw [if_pos hformat] at hkept
    cases hsections : splitMarkdownByAtxHeadings rawText with
    | nil =>
      rw [hsections] at hkept
      exact content_candidateCuts budget _ _ hkept
    | cons first rest =>
      rw [hsections] at hkept
      have hwhole := (splitMarkdownByAtxHeadings_spec (by rw [hsections]; exact nofun)).1
      rw [hsections] at hwhole
      dsimp only at hkept ⊢
      rw [List.flatMap_assoc, ← hwhole, List.flatMap_def, List.flatMap_def]
      congr 1
      exact List.map_congr_left fun section_ hsection => content_sectionCuts budget section_
        fun cut hcut => hkept cut (List.mem_flatMap.mpr ⟨section_, hsection, hcut⟩)
  · rw [← (packAdjacentParagraphs_cuts budget rawText).content]
    simp [Cut.content, Cut.moved, List.flatMap_map]

/-! Something is left of every text that is not blank. -/

theorem blank_cutSource {candidate : Candidate} (h : candidate.Valid) :
    blank (cutSource budget candidate) = false := by
  unfold cutSource fallbackSource
  split_ifs with hfits hblank
  · exact h.text_nonblank
  · exact h.text_nonblank
  · simpa using hblank

theorem draftList_ne_nil {candidate : Candidate} (h : candidate.Valid) :
    draftList budget candidate ≠ [] := by
  have hparts := (candidateParts_cuts budget h).ne_nil
    (blank_eq_false_iff.mp (blank_cutSource budget h))
  rw [← (candidateDrafts_eq budget h).2.texts] at hparts
  simpa using hparts

theorem candidateCuts_parts_ne_nil (path : SegmentDraft → List Text) {text : Text}
    (h : blank text = false) :
    ((splitTopLevelH1Candidates text).map (candidateCut budget path)).flatMap Cut.parts ≠ [] := by
  obtain ⟨hcuts, hvalid⟩ := splitTopLevelH1Candidates_spec text
  have hne := hcuts.ne_nil (blank_eq_false_iff.mp h)
  obtain ⟨first, others, hfirst⟩ := List.exists_cons_of_ne_nil hne
  obtain ⟨candidate, rest, hcandidates, -, -⟩ := List.map_eq_cons_iff.mp hfirst
  have hcandidate := hvalid candidate (by rw [hcandidates]; exact List.mem_cons_self)
  have hdrafts := draftList_ne_nil budget hcandidate
  rw [hcandidates]
  simp [candidateCut, hdrafts]

theorem sectionCuts_parts_ne_nil {section_ : List Text × Text} (h : SectionValid section_) :
    (sectionCuts budget section_).flatMap Cut.parts ≠ [] := by
  unfold sectionCuts
  split
  · simp
  · exact candidateCuts_parts_ne_nil budget _ h.text_nonblank

theorem documentCuts_parts_ne_nil (document : SourceDocument) {rawText : Text}
    (h : blank rawText = false) :
    (documentCuts budget document rawText).flatMap Cut.parts ≠ [] := by
  unfold documentCuts
  split
  · cases hsections : splitMarkdownByAtxHeadings rawText with
    | nil => exact candidateCuts_parts_ne_nil budget _ h
    | cons first rest =>
      have hvalid := (splitMarkdownByAtxHeadings_spec (by rw [hsections]; exact nofun)).2 first
        (by rw [hsections]; exact List.mem_cons_self)
      have hparts := sectionCuts_parts_ne_nil budget hvalid
      dsimp only
      rw [List.flatMap_cons, List.flatMap_append]
      exact List.append_ne_nil_of_left_ne_nil hparts _
  · have hgroups := (packAdjacentParagraphs_cuts budget rawText).ne_nil (blank_eq_false_iff.mp h)
    simpa using hgroups

end Pieces

/-! Segments. -/

/-- The heading path and the text of a segment, with its number. -/
def DocumentSegment.part (segment : DocumentSegment) : (List Text × Text) × ℕ :=
  ((segment.headingPath, segment.text), segment.ordinal)

theorem documentSegment_eq_ok {segmentKey : String} {kind : DocumentSegmentKind} {text : Text}
    {headingPath : List Text} {ordinal estimatedTokens : ℕ} (hkey : isBlank segmentKey = false)
    (htext : blank text = false) (hpath : ∀ heading ∈ headingPath, blank heading = false)
    (htokens : 0 < estimatedTokens) :
    ∃ segment, documentSegment segmentKey kind text headingPath ordinal estimatedTokens =
      .ok segment ∧ segment.part = ((headingPath, text), ordinal) := by
  unfold documentSegment
  rw [dif_neg (by simp [hkey]), dif_neg (by simp [htext]), dif_neg (by simpa using hpath),
    dif_neg (by omega)]
  exact ⟨_, rfl, rfl⟩

theorem isBlank_segmentKey (hexdigest : String → String) (documentKey : String) (ordinal : ℕ)
    (kind : DocumentSegmentKind) (text : Text) :
    isBlank (segmentKey hexdigest documentKey ordinal kind text) = false := by
  simp [isBlank, segmentKey, String.toList_append, isSpace]

/-- Items that each become a segment, numbered from `start` on. -/
theorem exists_mapM_zipIdx {Item : Type} (read : Item × ℕ → Except Fault DocumentSegment)
    (part : Item → List Text × Text) (items : List Item) (start : ℕ)
    (hread : ∀ item ∈ items, ∀ ordinal, ∃ segment,
      read (item, ordinal) = .ok segment ∧ segment.part = (part item, ordinal)) :
    ∃ segments, (items.zipIdx start).mapM read = .ok segments ∧
      segments.map DocumentSegment.part = (items.map part).zipIdx start := by
  induction items generalizing start with
  | nil => exact ⟨[], rfl, rfl⟩
  | cons item rest ih =>
    obtain ⟨segment, hsegment, hpart⟩ := hread item List.mem_cons_self start
    obtain ⟨segments, hsegments, hparts⟩ := ih (start + 1) fun other hother =>
      hread other (List.mem_cons_of_mem item hother)
    refine ⟨segment :: segments, ?_, ?_⟩
    · rw [List.zipIdx_cons, List.mapM_cons, hsegment, hsegments]
      rfl
    · rw [List.map_cons, List.map_cons, List.zipIdx_cons, hpart, hparts]

section Segments

variable (budget : DocumentSegmentationBudget) (hexdigest : String → String)

/-- The policy makes a segment of every draft. -/
theorem segment_eq_ok (command : MarkdownSegmentationCommand) :
    ∃ segments, segment hexdigest command = .ok segments ∧
      segments.map DocumentSegment.part = (((splitTopLevelH1Candidates command.markdownText).flatMap
        (draftList command.budget)).map fun draft => (draft.headingPath, draft.text)).zipIdx := by
  obtain ⟨-, hvalid⟩ := splitTopLevelH1Candidates_spec command.markdownText
  have hdrafts : (splitTopLevelH1Candidates command.markdownText).mapM
      (candidateDrafts command.budget) =
      .ok ((splitTopLevelH1Candidates command.markdownText).map (draftList command.budget)) :=
    mapM_eq_ok_iff.mpr (List.forall₂_map_right_iff.mpr (List.forall₂_same.mpr
      fun candidate hcandidate =>
        (candidateDrafts_eq command.budget (hvalid candidate hcandidate)).1))
  have hall := exists_mapM_zipIdx (buildSegment command.budget hexdigest command.documentKey)
    (fun draft => (draft.headingPath, draft.text))
    ((splitTopLevelH1Candidates command.markdownText).map (draftList command.budget)).flatten 0 ?_
  · obtain ⟨segments, hsegments, hparts⟩ := hall
    refine ⟨segments, ?_, by rw [hparts, List.flatMap_def]⟩
    unfold segment
    rw [hdrafts]
    exact hsegments
  · intro draft hdraft ordinal
    obtain ⟨drafts, hmem, hdraft⟩ := List.mem_flatten.mp hdraft
    obtain ⟨candidate, hcandidate, rfl⟩ := List.mem_map.mp hmem
    have hcandidate := hvalid candidate hcandidate
    have hof := (candidateDrafts_eq command.budget hcandidate).2
    have htext := (candidateParts_cuts command.budget hcandidate).nonblank draft.text
      (hof.texts ▸ List.mem_map_of_mem hdraft)
    exact documentSegment_eq_ok (isBlank_segmentKey _ _ _ _ _) htext (hof.paths draft hdraft)
      (by omega)

variable (document : SourceDocument)

theorem sectionSegments_eq_ok {section_ : List Text × Text} (h : SectionValid section_)
    (ordinal : ℕ) : ∃ segments,
      sectionSegments budget hexdigest document section_.1 section_.2 ordinal = .ok segments ∧
        segments.map DocumentSegment.part =
          ((sectionCuts budget section_).flatMap Cut.parts).zipIdx ordinal := by
  unfold sectionSegments sectionCuts
  by_cases hfits : budget.textFits section_.2 = true
  · obtain ⟨whole, hwhole, hpart⟩ := documentSegment_eq_ok
      (isBlank_segmentKey hexdigest document.documentRef ordinal .section section_.2)
      h.text_nonblank h.headingPath_nonblank (budget.estimateTokens_pos h.text_nonblank)
    refine ⟨[whole], ?_, ?_⟩
    · rw [if_pos (of_decide_eq_true hfits), wholeSectionSegment, hwhole]
      rfl
    · rw [if_pos hfits, List.map_singleton, hpart]
      rfl
  · have hkey : isBlank (document.documentRef ++ ":" ++ toString ordinal) = false := by
      simp [isBlank, String.toList_append, isSpace]
    obtain ⟨nested, hnested, hparts⟩ := segment_eq_ok hexdigest
      ⟨document.documentRef ++ ":" ++ toString ordinal, section_.2, budget, hkey, h.text_nonblank⟩
    obtain ⟨segments, hsegments, hrenumbered⟩ := exists_mapM_zipIdx
      (nestedSegment section_.1) (fun segment => (section_.1, segment.text)) nested ordinal
      fun segment _ ordinal => documentSegment_eq_ok segment.segmentKey_nonblank
        segment.text_nonblank h.headingPath_nonblank segment.estimatedTokens_pos
    refine ⟨segments, ?_, ?_⟩
    · rw [if_neg fun hle => hfits (decide_eq_true hle), markdownSegmentationCommand,
        dif_neg (ne_true_of_eq_false hkey), dif_neg (ne_true_of_eq_false h.text_nonblank)]
      simp only [bind, Except.bind]
      rw [hnested]
      exact hsegments
    · have htexts : nested.map DocumentSegment.text =
          ((splitTopLevelH1Candidates section_.2).flatMap (draftList budget)).map
            SegmentDraft.text := by
        have hboth := congrArg (List.map Prod.snd ∘ List.map Prod.fst) hparts
        simp only [Function.comp_apply, List.zipIdx_map_fst, List.map_map] at hboth
        exact hboth
      have hnestedParts : nested.map (fun segment => (section_.1, segment.text)) =
          (nested.map DocumentSegment.text).map (Prod.mk section_.1) := by
        rw [List.map_map]
        rfl
      rw [hrenumbered, if_neg hfits, hnestedParts, htexts, List.flatMap_map, List.map_map,
        List.map_flatMap]
      rfl

theorem segmentsFrom_eq_ok {sections : List (List Text × Text)}
    (h : ∀ section_ ∈ sections, SectionValid section_) (ordinal : ℕ) : ∃ segments,
      segmentsFrom budget hexdigest document ordinal sections = .ok segments ∧
        segments.map DocumentSegment.part =
          ((sections.flatMap (sectionCuts budget)).flatMap Cut.parts).zipIdx ordinal := by
  induction sections generalizing ordinal with
  | nil => exact ⟨[], rfl, rfl⟩
  | cons section_ rest ih =>
    obtain ⟨segments, hsegments, hparts⟩ := sectionSegments_eq_ok budget hexdigest document
      (h section_ List.mem_cons_self) ordinal
    obtain ⟨others, hothers, hrest⟩ := ih
      (fun other hother => h other (List.mem_cons_of_mem section_ hother))
      (ordinal + segments.length)
    have hlength := congrArg List.length hparts
    rw [List.length_map, List.length_zipIdx] at hlength
    refine ⟨segments ++ others, ?_, ?_⟩
    · rw [segmentsFrom, hsegments]
      simp only [bind, Except.bind]
      rw [hothers]
      rfl
    · rw [List.map_append, hparts, hrest, List.flatMap_cons, List.flatMap_append,
        List.zipIdx_append, hlength]

theorem documentSegments_eq_ok {rawText : Text} (h : blank rawText = false) : ∃ segments,
    documentSegments budget hexdigest document rawText = .ok segments ∧
      segments.map DocumentSegment.part =
        ((documentCuts budget document rawText).flatMap Cut.parts).zipIdx := by
  have hne := documentCuts_parts_ne_nil budget document h
  unfold documentSegments markdownHeadingFirstSegments segmentDocumentText
  unfold documentCuts at hne ⊢
  by_cases hformat : document.sourceFormat = .markdown
  · rw [if_neg (not_not.mpr hformat), if_pos hformat, if_pos hformat]
    rw [if_pos hformat] at hne
    cases hsections : splitMarkdownByAtxHeadings rawText with
    | nil =>
      obtain ⟨segments, hsegments, hparts⟩ := segment_eq_ok hexdigest
        ⟨document.documentRef, rawText, budget, document.documentRef_nonblank, h⟩
      refine ⟨segments, ?_, ?_⟩
      · rw [segmentsFrom, markdownSegmentationCommand,
          dif_neg (ne_true_of_eq_false document.documentRef_nonblank),
          dif_neg (ne_true_of_eq_false h)]
        exact hsegments
      · rw [hparts, List.flatMap_map, List.map_flatMap]
        rfl
    | cons first rest =>
      rw [hsections] at hne
      have hvalid := (splitMarkdownByAtxHeadings_spec (by rw [hsections]; exact nofun)).2
      rw [hsections] at hvalid
      obtain ⟨segments, hsegments, hparts⟩ :=
        segmentsFrom_eq_ok budget hexdigest document hvalid 0
      have hsome : segments.isEmpty = false := by
        cases segments with
        | nil => exact absurd (List.zipIdx_eq_nil_iff.mp hparts.symm) hne
        | cons segment others => rfl
      refine ⟨segments, ?_, hparts⟩
      rw [hsegments]
      simp only [bind, Except.bind]
      rw [hsome]
      rfl
  · rw [if_pos hformat, if_neg hformat, if_neg hformat]
    have hgroups := packAdjacentParagraphs_cuts budget rawText
    obtain ⟨segments, hsegments, hparts⟩ := exists_mapM_zipIdx
      (buildFallbackDocumentSegment budget hexdigest document) (Prod.mk [])
      (packAdjacentParagraphs budget (splitParagraphs rawText)) 0
      fun group hgroup ordinal => documentSegment_eq_ok (isBlank_segmentKey _ _ _ _ _)
        (hgroups.nonblank group hgroup) nofun
        (budget.estimateTokens_pos (hgroups.nonblank group hgroup))
    refine ⟨segments, ?_, by rw [hparts, List.flatMap_singleton]⟩
    unfold fallbackNonMarkdownSegments
    cases hparagraphs : splitParagraphs rawText with
    | nil =>
      have hcontent := (splitParagraphs_cuts rawText).content
      rw [hparagraphs] at hcontent
      exact absurd hcontent.symm (blank_eq_false_iff.mp h)
    | cons paragraph others =>
      rw [hparagraphs] at hsegments
      exact hsegments

/-- A text that is not blank gives the source units that it is cut into. -/
theorem buildSourceUnitsFromText_eq_ok {rawText : Text} (h : blank rawText = false)
    (occurredAt : Int) : ∃ units,
      buildSourceUnitsFromText budget hexdigest document rawText occurredAt = .ok units ∧
        units.map (fun unit => (unit.headingPath, unit.text)) =
          (documentCuts budget document rawText).flatMap Cut.parts ∧
        units.map SourceUnit.ordinal = List.range units.length := by
  obtain ⟨segments, hsegments, hparts⟩ := documentSegments_eq_ok budget hexdigest document h
  have hsome : segments.isEmpty = false := by
    cases segments with
    | nil =>
      exact absurd (List.zipIdx_eq_nil_iff.mp hparts.symm)
        (documentCuts_parts_ne_nil budget document h)
    | cons segment others => rfl
  refine ⟨segments.map (buildSourceUnitFromSegment hexdigest document occurredAt), ?_, ?_, ?_⟩
  · unfold buildSourceUnitsFromText buildSourceUnitsFromSegments
    rw [if_neg (ne_true_of_eq_false h), hsegments]
    simp only [bind, Except.bind]
    rw [hsome]
    rfl
  · have hfirst := congrArg (List.map Prod.fst) hparts
    rw [List.zipIdx_map_fst, List.map_map] at hfirst
    rw [List.map_map, ← hfirst]
    rfl
  · have hsecond := congrArg (List.map Prod.snd) hparts
    have hlength := congrArg List.length hparts
    rw [List.length_map, List.length_zipIdx] at hlength
    rw [List.zipIdx_map_snd, List.map_map, ← hlength, ← List.range_eq_range'] at hsecond
    rw [List.map_map, List.length_map, ← hsecond]
    rfl

end Segments

/-! Which headings are kept. -/

section Kept

variable (budget : DocumentSegmentationBudget)

/-- Every top-level heading over the limit, in a section over the limit, is one of the
heading path of that section, unless there is nothing below it. -/
def TitlesKept (document : SourceDocument) (rawText : Text) : Prop :=
  document.sourceFormat = .markdown →
    ∀ section_ ∈ splitMarkdownByAtxHeadings rawText, budget.textFits section_.2 = false →
      ∀ candidate ∈ splitTopLevelH1Candidates section_.2,
        budget.textFits candidate.text = false → blank (stripLeadingH1 candidate.text) = false →
          ∀ title ∈ candidate.headingPath, title ∈ section_.1

theorem titleKept_candidateCut_iff {candidate : Candidate} (hvalid : candidate.Valid)
    (htitled : candidate.Titled) (path : List Text) :
    (candidateCut budget (fun _ => path) candidate).TitleKept ↔
      (budget.textFits candidate.text = false → blank (stripLeadingH1 candidate.text) = false →
        ∀ title ∈ candidate.headingPath, title ∈ path) := by
  have hremoved := removedHeading_eq_some_iff budget htitled
  constructor
  · intro hkept hfits hblank title htitle
    obtain ⟨line, hline⟩ := (hremoved title).mpr ⟨hfits, hblank, htitle⟩
    obtain ⟨draft, others, hdrafts⟩ :=
      List.exists_cons_of_ne_nil (draftList_ne_nil budget hvalid)
    exact hkept (line, title) hline (path, draft.text)
      (List.mem_map_of_mem (by rw [hdrafts]; exact List.mem_cons_self))
  · rintro hkept ⟨line, title⟩ hline part hpart
    obtain ⟨hfits, hblank, htitle⟩ := (hremoved title).mp ⟨line, hline⟩
    obtain ⟨draft, -, rfl⟩ := List.mem_map.mp hpart
    exact hkept hfits hblank title htitle

theorem titleKept_iff {document : SourceDocument} {rawText : Text} (h : blank rawText = false) :
    (∀ cut ∈ documentCuts budget document rawText, cut.TitleKept) ↔
      TitlesKept budget document rawText := by
  have hnone : ∀ parts : List (List Text × Text), (Cut.mk none parts).TitleKept :=
    fun _ _ hremoved => nomatch hremoved
  unfold documentCuts TitlesKept
  by_cases hformat : document.sourceFormat = .markdown
  · rw [if_pos hformat]
    simp only [hformat, true_imp_iff]
    cases hsections : splitMarkdownByAtxHeadings rawText with
    | nil =>
      refine iff_of_true (fun cut hcut heading hremoved => ?_) nofun
      obtain ⟨candidate, hcandidate, rfl⟩ := List.mem_map.mp hcut
      have hpath := headingPath_eq_nil (headingOfLine_eq_none h hsections) candidate hcandidate
      have hnever : removedHeading budget candidate = none := if_pos (.inr (.inl hpath))
      cases hnever.symm.trans hremoved
    | cons first rest =>
      simp only [List.forall_mem_flatMap]
      refine forall₂_congr fun section_ _ => ?_
      unfold sectionCuts
      cases hfits : budget.textFits section_.2 with
      | true => simp [hnone]
      | false =>
        rw [if_neg nofun]
        simp only [true_imp_iff, List.forall_mem_map]
        exact forall₂_congr fun candidate hcandidate => titleKept_candidateCut_iff budget
          ((splitTopLevelH1Candidates_spec section_.2).2 candidate hcandidate)
          (splitTopLevelH1Candidates_titled section_.2 candidate hcandidate) section_.1
  · rw [if_neg hformat]
    simp [hformat, hnone]

/-- The source units of a text hold its content in order, numbered from zero, and the
headings that are taken away are in the heading paths of what stood below them. -/
structure KeepsContent (cuts : List Cut) (rawText : Text) (units : List SourceUnit) : Prop where
  parts : units.map (fun unit => (unit.headingPath, unit.text)) = cuts.flatMap Cut.parts
  content : cuts.flatMap Cut.content = content rawText
  titles : ∀ cut ∈ cuts, cut.TitleKept
  ordinals : units.map SourceUnit.ordinal = List.range units.length
  text_nonblank : ∀ unit ∈ units, blank unit.text = false

/-- Ingestion keeps what a document says exactly when it keeps its headings. -/
theorem keepsContent_iff_titlesKept (hexdigest : String → String) (document : SourceDocument)
    (rawText : Text) (occurredAt : Int) (hraw : blank rawText = false) :
    (∃ units, buildSourceUnitsFromText budget hexdigest document rawText occurredAt = .ok units ∧
        KeepsContent (documentCuts budget document rawText) rawText units) ↔
      TitlesKept budget document rawText := by
  rw [← titleKept_iff budget hraw]
  constructor
  · rintro ⟨units, -, hkeeps⟩
    exact hkeeps.titles
  · intro htitles
    obtain ⟨units, hunits, hparts, hordinals⟩ :=
      buildSourceUnitsFromText_eq_ok budget hexdigest document hraw occurredAt
    exact ⟨units, hunits, hparts, content_documentCuts budget document rawText htitles, htitles,
      hordinals, fun unit _ => unit.text_nonblank⟩

end Kept

/-! A top-level heading that is lost, in a section that a lower heading begins. -/

def twelveTokens : DocumentSegmentationBudget where
  prompt :=
    { promptName := "claim_builder_section_extraction", promptTokenCount := 1
      promptName_nonblank := Eq.refl false }
  model :=
    { profileName := "claim_builder_primary_model", maxRequestInputTokens := 25
      segmentationInputSafetyGapTokens := 0, charToTokenMultiplier := 1
      profileName_nonblank := Eq.refl false, maxRequestInputTokens_pos := by decide
      gap_lt := by decide, multiplier_pos := by norm_num }
  max_pos := by decide

def handbook : SourceDocument where
  documentRef := "document-1"
  projectId := "project-1"
  sourceFormat := .markdown
  documentRef_nonblank := by decide
  projectId_nonblank := by decide

def handbookText : Text := "## a\nxx\n# B\nmore stuff\n\nmoreeee".toList

theorem keepsContent_iff_titlesKept_handbook :
    (∃ units, buildSourceUnitsFromText twelveTokens id handbook handbookText 0 = .ok units ∧
        KeepsContent (documentCuts twelveTokens handbook handbookText) handbookText units) ↔
      TitlesKept twelveTokens handbook handbookText :=
  keepsContent_iff_titlesKept twelveTokens id handbook handbookText 0 (by decide)

/-- The heading `B` is in no source unit and in no heading path. -/
theorem handbook_heading_lost :
    ¬ ∃ units, buildSourceUnitsFromText twelveTokens id handbook handbookText 0 = .ok units ∧
      KeepsContent (documentCuts twelveTokens handbook handbookText) handbookText units := by
  rintro ⟨units, -, hkeeps⟩
  have hkept := (titleKept_iff twelveTokens (by decide)).mp hkeeps.titles
  have hsections : splitMarkdownByAtxHeadings handbookText = [([['a']], handbookText)] := by
    decide +kernel
  have hcandidates : splitTopLevelH1Candidates handbookText =
      [⟨"## a\nxx".toList, .documentPreamble, []⟩,
        ⟨"# B\nmore stuff\n\nmoreeee".toList, .section, [['B']]⟩] := by
    decide +kernel
  have htitle := hkept rfl ([['a']], handbookText) (by simp [hsections]) (by decide +kernel)
    ⟨"# B\nmore stuff\n\nmoreeee".toList, .section, [['B']]⟩ (by simp [hcandidates])
    (by decide +kernel) (by decide +kernel) ['B'] (by decide)
  exact absurd htitle (by decide)

end CrmBot.DocumentSegmentation
