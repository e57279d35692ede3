import CrmBot.DocumentSegmentation.SectionOutline

/-! The heading paths of the policy, by the top-level headings that enclose its lines.

The candidates are stretches of the document, one after the other. All lines of a
candidate have the same top-level heading, and its title is the path. -/

namespace CrmBot.DocumentSegmentation

open CrmBot.Python Ink FailingFold Text Outline

/-- The headings that the policy reads. -/
def atxHeadingsOf (lines : List Text) : List Heading :=
  lines.zipIdx.filterMap fun (line, index) =>
    (parseAtxHeading line).map fun (level, title) => { index, level, title }

/-- The title of the last top-level heading. -/
def h1Path (lines : List Text) : List Text :=
  lines.foldl (fun path line =>
    match parseAtxHeading line with
    | some (1, title) => [title]
    | _ => path) []

/-- Consecutive stretches from `start` to `stop`. -/
def Tiles (start stop : ℕ) : List (ℕ × ℕ) → Prop
  | [] => start = stop
  | span :: rest => span.1 = start ∧ span.1 < span.2 ∧ Tiles span.2 stop rest

theorem Tiles.concat {start stop next : ℕ} {spans : List (ℕ × ℕ)} (h : Tiles start stop spans)
    (hnext : stop < next) : Tiles start next (spans ++ [(stop, next)]) := by
  induction spans generalizing start with
  | nil => exact ⟨h.symm, hnext, rfl⟩
  | cons span rest ih => exact ⟨h.1, h.2.1, ih h.2.2⟩

theorem Tiles.le {start stop : ℕ} {spans : List (ℕ × ℕ)} (h : Tiles start stop spans) :
    start ≤ stop := by
  induction spans generalizing start with
  | nil => exact Nat.le_of_eq h
  | cons span rest ih =>
    have := ih h.2.2
    have := h.1
    have := h.2.1
    omega

/-! Top-level headings. -/

theorem atxHeadingsOf_concat (lines : List Text) (line : Text) :
    atxHeadingsOf (lines ++ [line]) = atxHeadingsOf lines ++
      ((parseAtxHeading line).map fun (level, title) =>
        ({ index := lines.length, level, title } : Heading)).toList := by
  unfold atxHeadingsOf
  rw [List.zipIdx_append, List.filterMap_append]
  congr 1
  cases hparse : parseAtxHeading line <;> simp [hparse]

theorem pairwise_atxHeadingsOf (lines : List Text) :
    Ordered Heading.index (atxHeadingsOf lines) :=
  pairwise_headings parseAtxHeading lines

theorem atxHeadingsOf_take (lines : List Text) (count : ℕ) :
    atxHeadingsOf (lines.take count) =
      (atxHeadingsOf lines).filter fun heading => heading.index < count := by
  induction lines using List.reverseRec with
  | nil => simp [atxHeadingsOf]
  | append_singleton lines line ih =>
    rw [atxHeadingsOf_concat, List.filter_append, ← ih]
    by_cases hcount : count ≤ lines.length
    · rw [List.take_append_of_le_length hcount]
      cases hparse : parseAtxHeading line <;> simp [hcount]
    · rw [List.take_of_length_le (by simp; omega), atxHeadingsOf_concat,
        List.take_of_length_le (by omega)]
      congr 1
      cases hparse : parseAtxHeading line <;> simp [Nat.lt_of_not_le hcount]

theorem level_pos_of_mem_atxHeadingsOf {lines : List Text} {heading : Heading}
    (h : heading ∈ atxHeadingsOf lines) : 1 ≤ heading.level := by
  obtain ⟨⟨line, index⟩, -, hheading⟩ := List.mem_filterMap.mp h
  obtain ⟨⟨level, title⟩, htitle, rfl⟩ := Option.map_eq_some_iff.mp hheading
  exact (parseAtxHeading_eq_some htitle).1

theorem h1Path_concat (lines : List Text) (line : Text) :
    h1Path (lines ++ [line]) = match parseAtxHeading line with
      | some (1, title) => [title]
      | _ => h1Path lines := by
  unfold h1Path
  rw [List.foldl_append]
  rfl

theorem foldl_topLevel (lines : List Text) :
    ((atxHeadingsOf lines).filter fun heading => heading.level < 1 + 1).foldl
      (fun stack heading => stack.take (heading.level - 1) ++ [heading.title]) [] =
        h1Path lines := by
  induction lines using List.reverseRec with
  | nil => rfl
  | append_singleton lines line ih =>
    rw [h1Path_concat, atxHeadingsOf_concat, List.filter_append, List.foldl_append, ih]
    split
    · next title hparse => simp [hparse]
    · next hparse =>
      cases hsome : parseAtxHeading line with
      | none => simp
      | some heading =>
        obtain ⟨level, title⟩ := heading
        have hpos := (parseAtxHeading_eq_some hsome).1
        have hne : level ≠ 1 := by
          rintro rfl
          exact hparse title hsome
        have hlower : [(⟨lines.length, level, title⟩ : Heading)].filter
            (fun heading => heading.level < 1 + 1) = [] := by
          apply List.filter_eq_nil_iff.mpr
          intro heading hheading
          rw [List.mem_singleton.mp hheading, decide_eq_true_eq]
          dsimp only
          omega
        rw [Option.map_some, Option.toList_some]
        exact congrArg (List.foldl _ (h1Path lines)) hlower

/-- The title of the top-level heading that encloses a line is that of the last one. -/
theorem enclosingTitles_atxHeadingsOf (lines : List Text) (line : ℕ) :
    enclosingTitles (atxHeadingsOf lines) 1 line = h1Path (lines.take (line + 1)) := by
  have hswap : ((atxHeadingsOf lines).filter fun heading => heading.level < 1 + 1).filter
      (fun heading => heading.index ≤ line) =
        (atxHeadingsOf (lines.take (line + 1))).filter fun heading => heading.level < 1 + 1 := by
    rw [atxHeadingsOf_take, List.filter_filter, List.filter_filter]
    apply List.filter_congr
    intro heading _
    rw [Bool.and_comm]
    congr 1
    simp only [decide_eq_decide]
    omega
  unfold enclosingTitles
  rw [filter_enclosing, enclosing_eq_filter, hswap, map_title_enclosing, foldl_topLevel]
  · exact (pairwise_atxHeadingsOf _).filter _
  · intro heading hheading
    rw [atxHeadingsOf_take, List.filter_filter] at hheading
    have hindex := (List.mem_filter.mp hheading).2
    simp only [Bool.and_eq_true, decide_eq_true_eq] at hindex
    omega
  · intro heading hheading
    obtain ⟨hmem, hlevel⟩ := List.mem_filter.mp hheading
    have := level_pos_of_mem_atxHeadingsOf hmem
    rw [decide_eq_true_eq] at hlevel
    omega

/-! Candidates. -/

/-- A candidate holds the lines of a stretch, and its path is that of each of them. -/
structure CandidateAt (lines : List Text) (span : ℕ × ℕ) (candidate : Candidate) : Prop where
  stop_le : span.2 ≤ lines.length
  text : candidate.text = strip (joinLines (stretch lines span))
  path : ∀ line, span.1 ≤ line → line < span.2 →
    h1Path (lines.take (line + 1)) = candidate.headingPath

/-- The candidates hold a text from its first line with content to its end. -/
def CandidatesOf (lines : List Text) (candidates : List Candidate) : Prop :=
  ∃ start spans, (∀ line ∈ lines.take start, blank line = true) ∧
    Tiles start lines.length spans ∧ List.Forall₂ (CandidateAt lines) spans candidates

/-- Where the scan is after the lines it has seen: before the first top-level heading, or
in the section of one. -/
inductive H1Scan.Outlined (seen : List Text) : H1Scan → Prop
  | preamble (hpath : ∀ count, h1Path (seen.take count) = []) :
    Outlined seen ⟨[], seen, [], none, false⟩
  | «section» {candidates : List Candidate} {start stop : ℕ} {spans : List (ℕ × ℕ)} {title : Text}
    (hblank : ∀ line ∈ seen.take start, blank line = true) (htiles : Tiles start stop spans)
    (hcandidates : List.Forall₂ (CandidateAt seen) spans candidates) (hstop : stop < seen.length)
    (hpath : ∀ line, stop ≤ line → line < seen.length → h1Path (seen.take (line + 1)) = [title]) :
    Outlined seen ⟨candidates, [], seen.drop stop, some title, true⟩

theorem CandidateAt.concat {lines : List Text} {span : ℕ × ℕ} {candidate : Candidate}
    (h : CandidateAt lines span candidate) (line : Text) :
    CandidateAt (lines ++ [line]) span candidate where
  stop_le := by
    have := h.stop_le
    simp only [List.length_append]
    omega
  text := by
    rw [h.text, stretch, stretch, List.take_append_of_le_length h.stop_le]
  path other hstart hstop := by
    have := h.stop_le
    rw [List.take_append_of_le_length (by omega), h.path other hstart hstop]

/-- The flushed candidates hold all the lines that were seen. -/
theorem H1Scan.Outlined.flushed {seen : List Text} {scan : H1Scan} (h : scan.Outlined seen)
    (kind : DocumentSegmentKind) : CandidatesOf seen (scan.flushed kind) := by
  cases h with
  | preamble hpath =>
    unfold H1Scan.flushed preambleCandidate
    dsimp only
    split
    · next hblank =>
      rw [blank_strip, blank_iff_content, content_joinLines, List.flatMap_eq_nil_iff] at hblank
      refine ⟨seen.length, [], ?_, rfl, .nil⟩
      rw [List.take_length]
      exact fun line hline => blank_iff_content.mpr (hblank line hline)
    · next hblank =>
      have hpos : 0 < seen.length := by
        rw [List.length_pos_iff]
        rintro rfl
        exact hblank rfl
      refine ⟨0, [(0, seen.length)], nofun, ⟨rfl, hpos, rfl⟩, .cons ?_ .nil⟩
      refine ⟨le_rfl, ?_, fun line _ _ => hpath _⟩
      simp [stretch]
  | «section» hblank htiles hcandidates hstop hpath =>
    rename_i candidates start stop spans title
    have hcurrent : seen.drop stop ≠ [] := by simpa using hstop
    obtain ⟨line, lines, hlines⟩ := List.exists_cons_of_ne_nil hcurrent
    unfold H1Scan.flushed
    rw [hlines]
    dsimp only
    refine ⟨start, spans ++ [(stop, seen.length)], hblank, htiles.concat hstop, ?_⟩
    apply List.rel_append hcandidates (.cons ?_ .nil)
    refine ⟨le_rfl, ?_, fun other hstart hother => hpath other hstart hother⟩
    simp [sectionCandidate, stretch, hlines]

theorem H1Scan.Outlined.step {seen : List Text} {scan : H1Scan} (h : scan.Outlined seen)
    (line : Text) : (scan.step line).Outlined (seen ++ [line]) := by
  unfold H1Scan.step
  have hpath := h1Path_concat seen line
  split
  · next title hparse =>
    obtain ⟨start, spans, hblank, htiles, hcandidates⟩ := h.flushed .documentPreamble
    simp only [hparse] at hpath
    have hstart := htiles.le
    have hlength : (seen ++ [line]).length = seen.length + 1 := List.length_append
    have hsection : H1Scan.Outlined (seen ++ [line]) ⟨scan.flushed .documentPreamble, [],
        (seen ++ [line]).drop seen.length, some title, true⟩ := by
      refine .section ?_ htiles ?_ (by omega) ?_
      · rwa [List.take_append_of_le_length hstart]
      · exact hcandidates.imp fun _ _ hcandidate => hcandidate.concat line
      · intro other hother hlt
        rw [List.take_of_length_le (by omega), hpath]
    rwa [List.drop_left] at hsection
  · next hparse =>
    have hpath : h1Path (seen ++ [line]) = h1Path seen := by
      rw [hpath]
      split
      · next title hsome => exact absurd hsome (hparse title)
      · rfl
    cases h with
    | preamble hnone =>
      rw [if_neg Bool.false_ne_true]
      refine .preamble fun count => ?_
      by_cases hcount : count ≤ seen.length
      · rw [List.take_append_of_le_length hcount, hnone]
      · rw [List.take_of_length_le (by simp; omega), hpath, ← hnone seen.length, List.take_length]
    | «section» hblank htiles hcandidates hstop htitle =>
      rename_i candidates start stop spans title
      rw [if_pos rfl]
      dsimp only
      rw [← List.drop_append_of_le_length hstop.le]
      have hstart := htiles.le.trans hstop.le
      refine .section ?_ htiles ?_ (by simp; omega) ?_
      · rwa [List.take_append_of_le_length hstart]
      · exact hcandidates.imp fun _ _ hcandidate => hcandidate.concat line
      · intro other hother hlt
        by_cases hlast : other < seen.length
        · rw [List.take_append_of_le_length (by omega), htitle other hother hlast]
        · rw [List.take_of_length_le (by simp; omega), hpath, ← List.take_length (l := seen)]
          have := htitle (seen.length - 1) (by omega) (by omega)
          rwa [Nat.sub_add_cancel (by omega)] at this

theorem splitTopLevelH1Candidates_outlined (text : Text) :
    CandidatesOf (normalizeLines text) (splitTopLevelH1Candidates text) := by
  have hscan : ∀ lines : List Text,
      (lines.foldl H1Scan.step ⟨[], [], [], none, false⟩).Outlined lines := by
    intro lines
    induction lines using List.reverseRec with
    | nil => exact .preamble fun count => by simp [h1Path]
    | append_singleton lines line ih =>
      rw [List.foldl_append]
      exact ih.step line
  exact (hscan _).flushed .paragraphGroup

/-! Drafts. -/

section Drafts

variable (budget : DocumentSegmentationBudget)

/-- The path of a part of a candidate: where the candidate is cut at its lower headings,
the one in the part is added. -/
def partPath (path : List Text) (text part : Text) : List Text :=
  if budget.textFits text = false ∧ CutsAtLowerHeadings budget ⟨text, .section, path⟩ then
    lowerHeadingPath path part
  else path

theorem headingPath_lowerHeadingDrafts {candidate : Candidate} {count : ℕ}
    {drafts : List SegmentDraft}
    (h : lowerHeadingDrafts budget candidate count = .ok (some drafts)) :
    ∀ draft ∈ drafts, draft.headingPath = lowerHeadingPath candidate.headingPath draft.text := by
  unfold lowerHeadingDrafts at h
  dsimp only at h
  split at h
  · obtain ⟨chunks, -, hchunks⟩ := bind_eq_ok.mp h
    split at hchunks
    · cases hchunks
      intro draft hdraft
      obtain ⟨chunk, -, rfl⟩ := List.mem_map.mp hdraft
      rfl
    · cases hchunks
  · cases h

theorem headingPath_splitByParagraphOrText {candidate : Candidate} {count : ℕ}
    {drafts : List SegmentDraft} (h : splitByParagraphOrText budget candidate count = .ok drafts) :
    ∀ draft ∈ drafts, draft.headingPath = candidate.headingPath := by
  unfold splitByParagraphOrText fallbackTextDrafts at h
  dsimp only at h
  split at h
  all_goals
    obtain ⟨_, -, hdrafts⟩ := bind_eq_ok.mp h
    cases hdrafts
    intro draft hdraft
    obtain ⟨part, -, rfl⟩ := List.mem_map.mp hdraft
    rfl

/-- Every draft of a candidate has its path, or one that goes on from it. -/
theorem headingPath_draftList {candidate : Candidate} (h : candidate.Valid) :
    ∀ draft ∈ draftList budget candidate,
      draft.headingPath = partPath budget candidate.headingPath candidate.text draft.text := by
  have hdrafts := (candidateDrafts_eq budget h).1
  unfold candidateDrafts at hdrafts
  split at hdrafts
  · next hfits =>
    rw [← Except.ok.inj hdrafts]
    simp [partPath, hfits]
  · next hfits =>
    have hfits : budget.textFits candidate.text = false := by simpa using hfits
    obtain ⟨count, hrequired, hcount⟩ := budget.requiredSegmentCount_of_not_fits hfits
    have hcountEq := hrequired
    rw [requiredSegmentCount_eq_ok budget (budget.estimateTokens_pos h.text_nonblank)] at hcountEq
    obtain ⟨hyes, hno⟩ :=
      lowerHeadingDrafts_spec budget h hfits hcount (Except.ok.inj hcountEq).symm
    unfold splitOversizedCandidate at hdrafts
    rw [hrequired] at hdrafts
    simp only [bind, Except.bind] at hdrafts
    by_cases hlower : CutsAtLowerHeadings budget candidate
    · obtain ⟨drafts, hlowerDrafts, -⟩ := hyes hlower
      rw [hlowerDrafts] at hdrafts
      have hpath : ∀ part, partPath budget candidate.headingPath candidate.text part =
        lowerHeadingPath candidate.headingPath part := fun part => if_pos ⟨hfits, hlower⟩
      rw [← Except.ok.inj hdrafts]
      intro draft hdraft
      rw [hpath]
      exact headingPath_lowerHeadingDrafts budget hlowerDrafts draft hdraft
    · rw [hno hlower] at hdrafts
      have hpath : ∀ part, partPath budget candidate.headingPath candidate.text part =
        candidate.headingPath := fun part => if_neg fun hboth => hlower hboth.2
      intro draft hdraft
      rw [hpath]
      exact headingPath_splitByParagraphOrText budget hdrafts draft hdraft

/-- The drafts of a candidate have the content of its text, less that of a heading that is
taken away. -/
theorem content_draftList {candidate : Candidate} (h : candidate.Valid) :
    ((draftList budget candidate).flatMap fun draft => content draft.text).Sublist
      (content candidate.text) := by
  have htexts := (candidateDrafts_eq budget h).2.texts
  have hparts := (candidateParts_cuts budget h).content
  rw [← htexts, List.flatMap_map] at hparts
  rw [hparts, ← content_removedHeading budget candidate]
  exact List.sublist_append_right _ _

end Drafts

end CrmBot.DocumentSegmentation
