import CrmBot.DocumentSegmentation.UnitParts

/-! The sections of a markdown document: the heading-first splitter loses nothing
of a text that has headings. -/

namespace CrmBot.DocumentSegmentation

open CrmBot.Python Ink FailingFold Text

/-! Headings of a document. -/

/-- Stripping leaves nothing of a blank text alone. -/
theorem isEmpty_strip (text : Text) : (strip text).isEmpty = blank text := by
  cases hblank : blank text with
  | false =>
    rw [← blank_strip] at hblank
    exact isEmpty_eq_false_of_nonblank hblank
  | true =>
    have hall : ∀ c ∈ text, isSpace c = true := by simpa [blank] using hblank
    rw [strip, trim, List.dropWhile_eq_nil_iff.mpr hall]
    rfl

theorem headingOfLine_nonblank {line title : Text} {level : ℕ}
    (h : headingOfLine line = some (level, title)) : blank title = false := by
  unfold headingOfLine at h
  simp only at h
  split at h
  · next hmarker =>
    cases h
    split
    · cases hstripped : line.lstrip with
      | nil => simp [hstripped] at hmarker
      | cons c rest =>
        have hc : c = '#' := by
          have hhead := hmarker.1
          rw [hstripped, List.takeWhile_cons] at hhead
          split at hhead
          · simpa using hhead
          · cases hhead
        rw [hc, blank_eq_false_iff]
        simp [content, ink_cons, isSpace]
    · next hempty =>
      rw [isEmpty_strip] at hempty
      rw [blank_strip]
      simpa using hempty
  · cases h

/-- A heading of the policy is a heading of the heading-first splitter. -/
theorem headingOfLine_isSome {line title : Text} {level : ℕ}
    (h : parseAtxHeading line = some (level, title)) : (headingOfLine line).isSome = true := by
  obtain ⟨hpos, hle, -, rest, -, hline⟩ := parseAtxHeading_eq_some h
  obtain ⟨more, rfl⟩ : ∃ more, level = more + 1 := ⟨level - 1, by omega⟩
  have hstripped : line.lstrip = line := by
    rw [hline, lstrip, List.replicate_succ, List.cons_append]
    exact List.dropWhile_cons_of_neg (by simp [isSpace])
  have hmarker : line.takeWhile (· ≠ ' ') = List.replicate (more + 1) '#' := by
    rw [hline, List.takeWhile_append_of_pos]
    · simp
    · intro c hc
      rw [List.eq_of_mem_replicate hc]
      decide
  unfold headingOfLine
  simp only [hstripped, hmarker]
  rw [if_pos]
  · rfl
  · simp only [List.replicate_succ, List.head?_cons, List.all_cons, List.length_cons,
      List.length_replicate]
    simp
    omega

/-- Headings are found in the order of their lines. -/
theorem pairwise_headings (read : Text → Option (ℕ × Text)) (lines : List Text) :
    (lines.zipIdx.filterMap fun (line, index) => (read line).map fun (level, title) =>
      ({ index, level, title } : Heading)).Pairwise
        fun first second => first.index < second.index := by
  have hindices : lines.zipIdx.Pairwise fun first second => first.2 < second.2 := by
    rw [← List.pairwise_map (f := Prod.snd), List.zipIdx_map_snd]
    exact List.pairwise_lt_range'
  refine hindices.filterMap _ fun first second hlt heading hheading other hother => ?_
  obtain ⟨_, -, rfl⟩ := Option.map_eq_some_iff.mp hheading
  obtain ⟨_, -, rfl⟩ := Option.map_eq_some_iff.mp hother
  exact hlt

theorem pairwise_headingsOf (lines : List Text) :
    (headingsOf lines).Pairwise fun first second => first.index < second.index :=
  pairwise_headings headingOfLine lines

theorem title_nonblank_of_mem_headingsOf {lines : List Text} {heading : Heading}
    (h : heading ∈ headingsOf lines) : blank heading.title = false := by
  obtain ⟨⟨line, index⟩, -, hheading⟩ := List.mem_filterMap.mp h
  obtain ⟨⟨level, title⟩, htitle, rfl⟩ := Option.map_eq_some_iff.mp hheading
  exact headingOfLine_nonblank htitle

/-- Where there are headings, some of them are of the level that cuts. -/
theorem exists_level_eq {headings : List Heading} (h : headings ≠ []) :
    ∃ heading ∈ headings, heading.level = markdownPrimarySplitLevel headings := by
  unfold markdownPrimarySplitLevel
  split
  · next htwo =>
    obtain ⟨heading, hheading, hlevel⟩ := List.any_eq_true.mp htwo
    exact ⟨heading, hheading, by simpa using hlevel⟩
  · have hne : headings.map Heading.level ≠ [] := by simpa using h
    obtain ⟨least, hleast⟩ := Option.isSome_iff_exists.mp (List.isSome_min?_of_ne_nil hne)
    obtain ⟨heading, hheading, hlevel⟩ := List.mem_map.mp (List.min?_mem hleast)
    rw [hleast]
    exact ⟨heading, hheading, hlevel⟩

theorem headingPathBeforeIndex_nonblank {headings : List Heading}
    (h : ∀ heading ∈ headings, blank heading.title = false) (headingIndex splitLevel : ℕ) :
    ∀ title ∈ headingPathBeforeIndex headings headingIndex splitLevel, blank title = false := by
  have hfold : ∀ (above : List Heading) (stack : List Text),
      (∀ heading ∈ above, blank heading.title = false) →
      (∀ title ∈ stack, blank title = false) →
      ∀ title ∈ above.foldl (fun stack heading => stack.take (heading.level - 1) ++
        [heading.title]) stack, blank title = false := by
    intro above
    induction above with
    | nil => exact fun _ _ hstack => hstack
    | cons heading rest ih =>
      intro stack habove hstack
      refine ih _ (fun other hother => habove other (List.mem_cons_of_mem heading hother)) ?_
      intro title htitle
      rcases List.mem_append.mp htitle with hold | hnew
      · exact hstack title (List.mem_of_mem_take hold)
      · rw [List.mem_singleton.mp hnew]
        exact habove heading List.mem_cons_self
  refine hfold _ [] (fun heading hheading => h heading ?_) nofun
  exact (List.takeWhile_sublist _).mem (List.mem_of_mem_filter hheading)

/-! Sections. -/

/-- A section has content, and no blank heading. -/
structure SectionValid (section_ : List Text × Text) : Prop where
  headingPath_nonblank : ∀ heading ∈ section_.1, blank heading = false
  text_nonblank : blank section_.2 = false

/-- The lines of a section, with the preamble in front of those of the first one. -/
def sectionLines (lines : List Text) (preamble : Text) (heading : Heading)
    (rest : List Heading) : List Text :=
  let stop := match rest with
    | [] => lines.length
    | next :: _ => next.index
  let ownLines := (lines.take stop).drop heading.index
  if preamble.isEmpty then ownLines else preamble :: [] :: ownLines

theorem sectionsFrom_cons (lines parentPath : List Text) (preamble : Text) (heading : Heading)
    (rest : List Heading) :
    sectionsFrom lines parentPath preamble (heading :: rest) =
      (if blank (joinLines (sectionLines lines preamble heading rest)) then []
        else [(parentPath ++ [heading.title],
          strip (joinLines (sectionLines lines preamble heading rest)))]) ++
        sectionsFrom lines parentPath [] rest := by
  conv_lhs => rw [sectionsFrom.eq_def]
  dsimp only
  rw [isEmpty_strip]
  change (if blank (joinLines (sectionLines lines preamble heading rest)) then _ else _) = _
  split
  · rfl
  · rfl

theorem sectionsFrom_valid {lines parentPath : List Text}
    (hparent : ∀ title ∈ parentPath, blank title = false) {headings : List Heading}
    (htitles : ∀ heading ∈ headings, blank heading.title = false) (preamble : Text) :
    ∀ section_ ∈ sectionsFrom lines parentPath preamble headings, SectionValid section_ := by
  induction headings generalizing preamble with
  | nil => exact nofun
  | cons heading rest ih =>
    have hrest := ih (fun other hother => htitles other (List.mem_cons_of_mem heading hother)) []
    intro section_ hsection
    rw [sectionsFrom_cons] at hsection
    rcases List.mem_append.mp hsection with hfirst | hold
    · split at hfirst
      · cases hfirst
      · next hblank =>
        rw [List.mem_singleton.mp hfirst]
        constructor
        · intro title htitle
          rcases List.mem_append.mp htitle with habove | hown
          · exact hparent title habove
          · rw [List.mem_singleton.mp hown]
            exact htitles heading List.mem_cons_self
        · rw [blank_strip]
          simpa using hblank
    · exact hrest section_ hold

/-- The lines between two positions, and those after the second one. -/
theorem drop_take_append_drop {α : Type} (items : List α) {first second : ℕ}
    (h : first ≤ second) : (items.take second).drop first ++ items.drop second =
      items.drop first := by
  rw [List.drop_take, ← List.take_append_drop (second - first) (items.drop first),
    List.drop_drop]
  congr 2
  · simp
  · omega

theorem content_sectionLines (lines : List Text) (preamble : Text) (heading : Heading)
    (rest : List Heading) {stop : ℕ}
    (hstop : (match rest with | [] => lines.length | next :: _ => next.index) = stop) :
    (sectionLines lines preamble heading rest).flatMap content =
      content preamble ++ ((lines.take stop).drop heading.index).flatMap content := by
  unfold sectionLines
  rw [hstop]
  dsimp only
  split
  · next hempty =>
    rw [List.isEmpty_iff.mp hempty]
    rfl
  · simp

/-- A section that is left out has no content. -/
theorem content_section (path : List Text) (texts : List Text) :
    (if blank (joinLines texts) then [] else [(path, strip (joinLines texts))]).flatMap
      (fun section_ => content section_.2) = texts.flatMap content := by
  split
  · next hblank =>
    rw [← content_joinLines, blank_iff_content.mp hblank]
    rfl
  · simp

theorem content_sectionsFrom {lines parentPath : List Text} {first : Heading}
    {rest : List Heading}
    (hordered : (first :: rest).Pairwise fun first second => first.index < second.index)
    (preamble : Text) :
    (sectionsFrom lines parentPath preamble (first :: rest)).flatMap
        (fun section_ => content section_.2) =
      content preamble ++ (lines.drop first.index).flatMap content := by
  induction rest generalizing first preamble with
  | nil =>
    rw [sectionsFrom_cons, List.flatMap_append, content_section, content_sectionLines _ _ _ _ rfl,
      List.take_length]
    simp [sectionsFrom]
  | cons next others ih =>
    have hlt : first.index < next.index :=
      List.rel_of_pairwise_cons hordered List.mem_cons_self
    have hnext := ih hordered.of_cons []
    rw [sectionsFrom_cons, List.flatMap_append, content_section,
      content_sectionLines _ _ _ _ rfl, hnext,
      ← drop_take_append_drop lines (Nat.le_of_lt hlt), List.flatMap_append]
    simp

/-- The sections of a text with headings hold its content in order. -/
theorem splitMarkdownByAtxHeadings_spec {rawText : Text}
    (hne : splitMarkdownByAtxHeadings rawText ≠ []) :
    (splitMarkdownByAtxHeadings rawText).flatMap (fun section_ => content section_.2) =
      content rawText ∧
      ∀ section_ ∈ splitMarkdownByAtxHeadings rawText, SectionValid section_ := by
  unfold splitMarkdownByAtxHeadings at hne ⊢
  dsimp only at hne ⊢
  split at hne
  · exact absurd rfl hne
  · next first rest hheadings =>
    have hmem : ∀ heading ∈ first :: rest,
        heading ∈ headingsOf (normalizeLines rawText) := by
      rw [← hheadings]
      exact fun heading hheading => List.mem_of_mem_filter hheading
    have htitles := fun heading hheading =>
      title_nonblank_of_mem_headingsOf (hmem heading hheading)
    have hordered : (first :: rest).Pairwise fun first second => first.index < second.index := by
      rw [← hheadings]
      exact (pairwise_headingsOf _).filter _
    constructor
    · rw [content_sectionsFrom hordered, content_strip, content_joinLines, ← List.flatMap_append,
        List.take_append_drop, content_normalizeLines]
    · exact sectionsFrom_valid (headingPathBeforeIndex_nonblank
        (fun heading hheading => title_nonblank_of_mem_headingsOf hheading) _ _) htitles _

/-- A text without sections has no headings. -/
theorem headingOfLine_eq_none {rawText : Text} (hraw : blank rawText = false)
    (hnil : splitMarkdownByAtxHeadings rawText = []) :
    ∀ line ∈ normalizeLines rawText, headingOfLine line = none := by
  have hnone : headingsOf (normalizeLines rawText) = [] := by
    by_contra hne
    obtain ⟨heading, hheading, hlevel⟩ := exists_level_eq hne
    unfold splitMarkdownByAtxHeadings at hnil
    dsimp only at hnil
    split at hnil
    · next hfilter =>
      exact List.filter_eq_nil_iff.mp hfilter heading hheading (decide_eq_true hlevel)
    · next first rest hheadings =>
      have hordered : (first :: rest).Pairwise
          fun first second => first.index < second.index := by
        rw [← hheadings]
        exact (pairwise_headingsOf _).filter _
      have hcontent := hnil ▸ content_sectionsFrom hordered
        (joinLines ((normalizeLines rawText).take first.index)).strip
      rw [content_strip, content_joinLines, ← List.flatMap_append, List.take_append_drop,
        content_normalizeLines] at hcontent
      exact blank_eq_false_iff.mp hraw hcontent.symm
  intro line hline
  obtain ⟨index, hindex⟩ := List.mem_iff_getElem?.mp hline
  have hheading := List.filterMap_eq_nil_iff.mp hnone (line, index)
    (List.mk_mem_zipIdx_iff_getElem?.mpr hindex)
  exact Option.map_eq_none_iff.mp hheading

end CrmBot.DocumentSegmentation
