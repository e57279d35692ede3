import CrmBot.DocumentSegmentation.DocumentUnits
import CrmBot.Library.Outline
import Mathlib.Data.List.Induction

/-! The heading paths of the sections, by the headings that enclose their lines.

A document is cut at the headings of one level. While no higher heading comes
after the first of them, the headings that enclose a line of a section, down to
that level, are the higher ones before the first cut and the one that begins the
section. -/

namespace CrmBot.DocumentSegmentation

open CrmBot.Python Ink FailingFold Text Outline

/-- The titles of the headings that enclose a line, down to the level `depth`, the
outermost first. -/
def enclosingTitles (headings : List Heading) (depth line : ℕ) : List Text :=
  ((enclosing Heading.index Heading.level headings line).filter
    fun heading => heading.level < depth + 1).map Heading.title

/-- The lines of a stretch, from its first to the one before its last. -/
def stretch (lines : List Text) (span : ℕ × ℕ) : List Text := (lines.take span.2).drop span.1

/-- The headings at which the document is cut. -/
def splitHeadings (lines : List Text) : List Heading :=
  (headingsOf lines).filter fun heading =>
    heading.level = markdownPrimarySplitLevel (headingsOf lines)

/-- The sections that begin with the given headings, the first of them at `start`. -/
def sectionSpans (last : ℕ) : (start : ℕ) → List Heading → List (Heading × ℕ × ℕ)
  | _, [] => []
  | start, heading :: rest =>
    let stop := match rest with
      | [] => last
      | next :: _ => next.index
    (heading, start, stop) :: sectionSpans last stop rest

/-! Levels. -/

theorem headingOfLine_marker {line title : Text} {level : ℕ}
    (h : headingOfLine line = some (level, title)) :
    1 ≤ level ∧ blank line = false := by
  unfold headingOfLine at h
  simp only at h
  split at h
  · next hmarker =>
    cases h
    cases hstripped : line.lstrip with
    | nil => simp [hstripped] at hmarker
    | cons c rest =>
      have hhead := hmarker.1
      rw [hstripped, List.takeWhile_cons] at hhead
      rw [List.takeWhile_cons]
      split at hhead
      · next hc =>
        have hink : isSpace c = false := by
          rw [List.head?_cons, Option.some.injEq] at hhead
          rw [hhead]
          decide
        have hmem : c ∈ line := by
          have hc : c ∈ line.lstrip := by simp [hstripped]
          exact (List.dropWhile_sublist _).mem hc
        refine ⟨by simp [hc], ?_⟩
        rw [blank, List.all_eq_false]
        exact ⟨c, hmem, by simp [hink]⟩
      · cases hhead
  · cases h

theorem mem_headingsOf {lines : List Text} {heading : Heading} (h : heading ∈ headingsOf lines) :
    ∃ line, lines[heading.index]? = some line ∧
      headingOfLine line = some (heading.level, heading.title) := by
  obtain ⟨⟨line, index⟩, hline, hheading⟩ := List.mem_filterMap.mp h
  obtain ⟨⟨level, title⟩, htitle, rfl⟩ := Option.map_eq_some_iff.mp hheading
  exact ⟨line, List.mem_zipIdx_iff_getElem?.mp hline, htitle⟩

theorem level_pos_of_mem_headingsOf {lines : List Text} {heading : Heading}
    (h : heading ∈ headingsOf lines) : 1 ≤ heading.level := by
  obtain ⟨line, -, htitle⟩ := mem_headingsOf h
  exact (headingOfLine_marker htitle).1

theorem index_lt_of_mem_headingsOf {lines : List Text} {heading : Heading}
    (h : heading ∈ headingsOf lines) : heading.index < lines.length := by
  obtain ⟨line, hline, -⟩ := mem_headingsOf h
  exact (List.getElem?_eq_some_iff.mp hline).1

/-- Above the level that cuts there is at most one more. -/
theorem level_eq_one_of_lt {lines : List Text} {heading : Heading}
    (h : heading ∈ headingsOf lines)
    (hlevel : heading.level < markdownPrimarySplitLevel (headingsOf lines)) :
    heading.level = 1 := by
  have hpos := level_pos_of_mem_headingsOf h
  unfold markdownPrimarySplitLevel at hlevel
  split at hlevel
  · omega
  · have hmem : heading.level ∈ (headingsOf lines).map Heading.level := List.mem_map_of_mem h
    have hle := List.min?_getD_le_of_mem (k := 0) hmem
    omega

/-- Of headings on the first level the last one is open. -/
theorem map_title_enclosing {headings : List Heading} {line : ℕ}
    (hordered : Ordered Heading.index headings) (hline : ∀ heading ∈ headings, heading.index ≤ line)
    (hlevel : ∀ heading ∈ headings, heading.level = 1) :
    (enclosing Heading.index Heading.level headings line).map Heading.title =
      headings.foldl
        (fun stack heading => stack.take (heading.level - 1) ++ [heading.title]) [] := by
  induction headings using List.reverseRec with
  | nil => rfl
  | append_singleton front heading _ =>
    have hlast := hlevel heading (by simp)
    have hnone : (enclosing Heading.index Heading.level front line).filter
        (fun other => other.level < heading.level) = [] := by
      apply List.filter_eq_nil_iff.mpr
      intro other hother
      have := hlevel other (List.mem_append_left _ (List.mem_filter.mp hother).1)
      simp only [decide_eq_true_eq]
      omega
    rw [enclosing_concat hordered (hline heading (by simp)), push, hnone, List.foldl_append]
    simp [hlast]

/-- The path of a section is the titles that enclose its lines, down to the level that
cuts, as long as the higher headings are all before the first cut. -/
theorem enclosingTitles_section {lines : List Text} {first heading : Heading} {line : ℕ}
    (hheading : heading ∈ splitHeadings lines) (hfirst : first.index ≤ heading.index)
    (hline : heading.index ≤ line)
    (hlast : ∀ other ∈ splitHeadings lines, heading.index < other.index → line < other.index)
    (habove : ∀ other ∈ headingsOf lines,
      other.level < markdownPrimarySplitLevel (headingsOf lines) → other.index ≤ line →
        other.index < first.index) :
    enclosingTitles (headingsOf lines) (markdownPrimarySplitLevel (headingsOf lines)) line =
      headingPathBeforeIndex (headingsOf lines) first.index
        (markdownPrimarySplitLevel (headingsOf lines)) ++ [heading.title] := by
  have hordered : Ordered Heading.index (headingsOf lines) := pairwise_headingsOf lines
  obtain ⟨hmem, hsplit⟩ := List.mem_filter.mp hheading
  rw [decide_eq_true_eq] at hsplit
  set level := markdownPrimarySplitLevel (headingsOf lines) with hlevelEq
  -- down to the level that cuts, `heading` is the last one up to the line
  have hcut : ((headingsOf lines).filter fun other => other.level < level + 1).filter
      (fun other => other.index ≤ line) =
        ((headingsOf lines).filter fun other => other.level < level + 1).filter
          (fun other => other.index < heading.index) ++ [heading] := by
    apply filter_eq_concat (hordered.filter _) (by simp [hmem, hsplit]) hline
    intro other hother hlt
    obtain ⟨hother, hdepth⟩ := List.mem_filter.mp hother
    rw [decide_eq_true_eq] at hdepth
    by_cases hsame : other.level = level
    · exact hlast other (by simp [splitHeadings, hother, hsame, hlevelEq]) hlt
    · by_contra hle
      have := habove other hother (by omega) (by omega)
      omega
  -- the higher ones are all before the first cut
  have habove' : (((headingsOf lines).filter fun other => other.level < level + 1).filter
      fun other => other.index < heading.index).filter (fun other => other.level < level) =
        ((headingsOf lines).takeWhile fun other => other.index < first.index).filter
          fun other => other.level < level := by
    rw [takeWhile_eq_filter hordered, List.filter_filter, List.filter_filter, List.filter_filter]
    apply List.filter_congr
    intro other hother
    simp only [← Bool.decide_and, decide_eq_decide]
    constructor
    · intro hboth
      have := habove other hother (by omega) (by omega)
      omega
    · intro hboth
      omega
  have hconcat := hcut ▸ (hordered.filter fun other => other.level < level + 1).filter
    fun other => other.index ≤ line
  unfold enclosingTitles headingPathBeforeIndex
  rw [filter_enclosing, enclosing_eq_filter, hcut, enclosing_concat hconcat hline, push, hsplit,
    filter_enclosing, habove', List.map_append, map_title_enclosing]
  · rfl
  · exact (hordered.sublist (List.takeWhile_sublist _)).filter _
  · intro other hother
    have hother := List.mem_takeWhile_imp (List.mem_filter.mp hother).1
    rw [decide_eq_true_eq] at hother
    omega
  · intro other hother
    obtain ⟨hother, hlt⟩ := List.mem_filter.mp hother
    exact level_eq_one_of_lt ((List.takeWhile_sublist _).mem hother) (of_decide_eq_true hlt)

/-! Sections and their lines. -/

/-- A heading of the document is a line with content. -/
theorem content_stretch_ne_nil {lines : List Text} {heading : Heading} {start stop : ℕ}
    (h : heading ∈ headingsOf lines) (hstart : start ≤ heading.index)
    (hstop : heading.index < stop) : (stretch lines (start, stop)).flatMap content ≠ [] := by
  obtain ⟨line, hline, htitle⟩ := mem_headingsOf h
  have hmem : line ∈ stretch lines (start, stop) := by
    apply List.mem_of_getElem? (i := heading.index - start)
    rw [stretch, List.getElem?_drop, List.getElem?_take, if_pos (by omega), ← hline]
    congr 1
    omega
  obtain ⟨c, hc⟩ := List.exists_mem_of_ne_nil _
    (blank_eq_false_iff.mp (headingOfLine_marker htitle).2)
  exact List.ne_nil_of_mem (List.mem_flatMap.mpr ⟨line, hmem, hc⟩)

/-- A section has the title of its heading at the end of its path, and the content of its
lines. -/
def SectionOf (lines : List Text) (parentPath : List Text) (span : Heading × ℕ × ℕ)
    (section_ : List Text × Text) : Prop :=
  section_.1 = parentPath ++ [span.1.title] ∧
    content section_.2 = (stretch lines span.2).flatMap content

theorem sectionsFrom_spans {lines parentPath : List Text} {headings : List Heading} {start : ℕ}
    {preamble : Text} (hmem : ∀ heading ∈ headings, heading ∈ headingsOf lines)
    (hordered : Ordered Heading.index headings)
    (hpreamble : ∀ heading ∈ headings.head?, start ≤ heading.index ∧
      content preamble = ((lines.take heading.index).drop start).flatMap content) :
    List.Forall₂ (SectionOf lines parentPath) (sectionSpans lines.length start headings)
      (sectionsFrom lines parentPath preamble headings) := by
  induction headings generalizing start preamble with
  | nil => exact .nil
  | cons heading rest ih =>
    obtain ⟨hstart, hcontent⟩ := hpreamble heading rfl
    obtain ⟨hbefore, hrest⟩ := List.pairwise_cons.mp hordered
    have hheading := hmem heading List.mem_cons_self
    rw [sectionsFrom_cons]
    unfold sectionSpans
    obtain ⟨stop, hstopEq⟩ : ∃ stop, (match rest with
      | [] => lines.length
      | next :: _ => next.index) = stop := ⟨_, rfl⟩
    have hstop : heading.index < stop := by
      cases rest with
      | nil =>
        rw [← hstopEq]
        exact index_lt_of_mem_headingsOf hheading
      | cons next others =>
        rw [← hstopEq]
        exact hbefore next List.mem_cons_self
    have hsection : (sectionLines lines preamble heading rest).flatMap content =
        (stretch lines (start, stop)).flatMap content := by
      have hjoined := drop_take_append_drop (lines.take stop) hstart
      rw [List.take_take, min_eq_left hstop.le] at hjoined
      rw [content_sectionLines lines preamble heading rest hstopEq, hcontent, stretch, ← hjoined,
        List.flatMap_append]
    have hblank : blank (joinLines (sectionLines lines preamble heading rest)) = false := by
      rw [blank_eq_false_iff, content_joinLines, hsection]
      exact content_stretch_ne_nil hheading hstart hstop
    rw [hblank, hstopEq]
    refine .cons ⟨rfl, ?_⟩ (ih (fun other hother => hmem other (List.mem_cons_of_mem _ hother))
      hrest ?_)
    · rw [content_strip, content_joinLines, hsection]
    · intro next hnext
      obtain ⟨others, rfl⟩ := List.head?_eq_some_iff.mp hnext
      subst hstopEq
      refine ⟨le_rfl, ?_⟩
      simp

/-- The sections of a document, with the titles above the first cut. -/
theorem splitMarkdownByAtxHeadings_spans {rawText : Text} {first : Heading} {rest : List Heading}
    (h : splitHeadings (normalizeLines rawText) = first :: rest) :
    List.Forall₂ (SectionOf (normalizeLines rawText)
        (headingPathBeforeIndex (headingsOf (normalizeLines rawText)) first.index
          (markdownPrimarySplitLevel (headingsOf (normalizeLines rawText)))))
      (sectionSpans (normalizeLines rawText).length 0 (splitHeadings (normalizeLines rawText)))
      (splitMarkdownByAtxHeadings rawText) := by
  have hcuts := h
  unfold splitHeadings at hcuts
  unfold splitMarkdownByAtxHeadings
  dsimp only
  rw [hcuts, h]
  apply sectionsFrom_spans
  · intro heading hheading
    exact (List.mem_filter.mp (hcuts ▸ hheading)).1
  · exact hcuts ▸ (pairwise_headingsOf (normalizeLines rawText)).filter _
  · intro heading hheading
    cases hheading
    refine ⟨Nat.zero_le _, ?_⟩
    rw [content_strip, content_joinLines, List.drop_zero]

end CrmBot.DocumentSegmentation
