import CrmBot.DocumentSegmentation.SectionContent

/-! The heading of a candidate is the title of its first line.

The lines of a candidate are stripped together, which leaves the heading line
at the front of its text. -/

namespace CrmBot.DocumentSegmentation

open CrmBot.Python Ink FailingFold Text

/-- A text on one line. -/
def OneLine (text : Text) : Prop := '\n' ∉ text ∧ '\r' ∉ text

theorem oneLine_of_mem_normalizeLines {text line : Text} (h : line ∈ normalizeLines text) :
    OneLine line := by
  constructor
  · intro hc
    have hsep := notMem_of_mem_splitOnP h '\n' hc
    simp at hsep
  · intro hc
    obtain ⟨c, -, hchanged⟩ := List.mem_map.mp (mem_of_mem_splitOnP h hc)
    split at hchanged
    · cases hchanged
    · next hne => exact hne hchanged

theorem replaceCrLf_eq_self {text : Text} (h : '\r' ∉ text) : replaceCrLf text = text := by
  fun_induction replaceCrLf text with
  | case1 rest ih => simp at h
  | case2 c rest _ ih => rw [ih (List.not_mem_of_not_mem_cons h)]
  | case3 => rfl

theorem normalizeLines_eq_splitOn {text : Text} (h : '\r' ∉ text) :
    normalizeLines text = text.splitOn '\n' := by
  have hcr : replaceCr text = text := by
    conv_rhs => rw [← List.map_id text]
    refine List.map_congr_left fun c hc => if_neg ?_
    rintro rfl
    exact h hc
  rw [normalizeLines, replaceCrLf_eq_self h, hcr]

/-- A text begins with the line that stands before its first line break. -/
theorem normalizeLines_line {line : Text} (h : OneLine line) : normalizeLines line = [line] := by
  rw [normalizeLines_eq_splitOn h.2, List.splitOn_eq_singleton h.1]

theorem normalizeLines_append {line more : Text} (h : OneLine line) (hmore : '\r' ∉ more) :
    normalizeLines (line ++ '\n' :: more) = line :: more.splitOn '\n' := by
  have hcr : '\r' ∉ line ++ '\n' :: more := by simpa [h.2] using hmore
  rw [normalizeLines_eq_splitOn hcr, List.splitOn_append_cons_self,
    List.splitOn_eq_singleton h.1, List.singleton_append]

/-! Heading lines. -/

theorem parseAtxHeading_h1 {rest : Text} (h : blank rest = false) :
    parseAtxHeading ('#' :: ' ' :: rest) = some (1, strip rest) := by
  simp [parseAtxHeading, h]

theorem eq_of_parseAtxHeading {line title : Text} (h : parseAtxHeading line = some (1, title)) :
    ∃ rest : Text, line = '#' :: ' ' :: rest ∧ blank rest = false ∧ title = strip rest := by
  obtain ⟨-, -, htitle, rest, rfl, rfl⟩ := parseAtxHeading_eq_some h
  exact ⟨rest, rfl, by rwa [blank_strip] at htitle, rfl⟩

/-- An H1 heading line keeps its title when the white space after it is taken away. -/
theorem parseAtxHeading_rstrip {line title : Text} (h : parseAtxHeading line = some (1, title)) :
    parseAtxHeading line.rstrip = some (1, title) := by
  obtain ⟨rest, rfl, hblank, rfl⟩ := eq_of_parseAtxHeading h
  have hink := blank_eq_false_iff.mp hblank
  have hrest : rstrip ('#' :: ' ' :: rest) = '#' :: ' ' :: rest.rstrip :=
    rdropWhile_append_of_ink hink ['#', ' ']
  have hkept : blank rest.rstrip = false := by
    rw [blank_eq_false_iff, content_rstrip]
    exact hink
  rw [hrest, parseAtxHeading_h1 hkept, strip, rstrip, trim_rdropWhile hink, strip]

theorem oneLine_rstrip {line : Text} (h : OneLine line) : OneLine line.rstrip := by
  have hsub := (List.rdropWhile_prefix isSpace line).subset
  exact ⟨fun hc => h.1 (hsub hc), fun hc => h.2 (hsub hc)⟩

theorem notMem_joinLines {lines : List Text} (h : ∀ line ∈ lines, OneLine line) :
    '\r' ∉ joinLines lines := by
  induction lines with
  | nil => exact List.not_mem_nil
  | cons line rest ih =>
    have hline := (h line List.mem_cons_self).2
    have hrest := ih fun other hother => h other (List.mem_cons_of_mem line hother)
    cases rest with
    | nil => simpa [joinLines] using hline
    | cons next others =>
      rw [joinLines, List.intercalate_cons_cons]
      simp only [List.mem_append, not_or]
      exact ⟨⟨hline, by decide⟩, hrest⟩

/-- Lines that begin with an H1 heading, joined and stripped, still begin with it. -/
theorem normalizeLines_strip_joinLines {line title : Text} {rest : List Text}
    (hline : parseAtxHeading line = some (1, title))
    (hlines : ∀ other ∈ line :: rest, OneLine other) :
    ∃ first others, normalizeLines (strip (joinLines (line :: rest))) = first :: others ∧
      parseAtxHeading first = some (1, title) := by
  have hone := hlines line List.mem_cons_self
  have hstripped : ∀ more : Text, strip (line ++ more) = rstrip (line ++ more) := by
    obtain ⟨after, rfl, -⟩ := eq_of_parseAtxHeading hline
    intro more
    rw [strip, trim, List.cons_append, List.dropWhile_cons_of_neg (by simp [isSpace]), rstrip]
  cases rest with
  | nil =>
    have hjoined : joinLines [line] = line ++ [] := by simp [joinLines]
    rw [hjoined, hstripped, List.append_nil]
    exact ⟨_, [], normalizeLines_line (oneLine_rstrip hone), parseAtxHeading_rstrip hline⟩
  | cons next others =>
    have hmore := notMem_joinLines fun other hother =>
      hlines other (List.mem_cons_of_mem line hother)
    have hjoined : joinLines (line :: next :: others) =
        line ++ '\n' :: joinLines (next :: others) := by
      rw [joinLines, List.intercalate_cons_cons]
      simp [joinLines]
    rw [hjoined, hstripped]
    by_cases hink : content (joinLines (next :: others)) = []
    · -- nothing but white space after the heading
      have hblank : ∀ c ∈ '\n' :: joinLines (next :: others), isSpace c = true := by
        intro c hc
        rcases List.mem_cons.mp hc with rfl | hc
        · rfl
        · exact ink_eq_nil_iff.mp hink c hc
      rw [rstrip, rdropWhile_append_of_blank hblank]
      exact ⟨_, [], normalizeLines_line (oneLine_rstrip hone), parseAtxHeading_rstrip hline⟩
    · have hkept := rdropWhile_append_of_ink hink (line ++ ['\n'])
      rw [List.append_assoc, List.append_assoc, List.singleton_append, List.singleton_append]
        at hkept
      rw [rstrip, hkept]
      refine ⟨line, _, normalizeLines_append hone fun hc => hmore ?_, hline⟩
      exact (List.rdropWhile_prefix isSpace _).subset hc

/-! The heading path of a candidate. -/

/-- A candidate has no heading, or the title of the H1 heading on its first line. -/
def Candidate.Titled (candidate : Candidate) : Prop :=
  candidate.headingPath = [] ∨ ∃ title first others, candidate.headingPath = [title] ∧
    normalizeLines candidate.text = first :: others ∧ parseAtxHeading first = some (1, title)

/-- The scan keeps the lines below a heading with it. -/
structure H1Scan.Titled (scan : H1Scan) : Prop where
  candidates : ∀ candidate ∈ scan.candidates, candidate.Titled
  current : ∀ line rest title, scan.currentLines = line :: rest →
    scan.currentHeading = some title → parseAtxHeading line = some (1, title) ∧
      ∀ other ∈ line :: rest, OneLine other

theorem H1Scan.Titled.flushed {scan : H1Scan} (h : scan.Titled) (kind : DocumentSegmentKind) :
    ∀ candidate ∈ scan.flushed kind, candidate.Titled := by
  unfold H1Scan.flushed
  intro candidate hcandidate
  split at hcandidate
  · next line rest title hlines hheading =>
    obtain ⟨hline, hone⟩ := h.current line rest title hlines hheading
    rcases List.mem_append.mp hcandidate with hold | hnew
    · exact h.candidates candidate hold
    · obtain ⟨first, others, hfirst, htitle⟩ := normalizeLines_strip_joinLines hline hone
      rw [List.mem_singleton.mp hnew]
      exact .inr ⟨title, first, others, rfl, hfirst, htitle⟩
  · rcases List.mem_append.mp hcandidate with hold | hnew
    · exact h.candidates candidate hold
    · exact .inl ((preambleCandidate_cuts kind scan.preambleLines).2 candidate hnew)

theorem H1Scan.Titled.step {scan : H1Scan} (h : scan.Titled) {line : Text}
    (hone : OneLine line) (hstarted : scan.currentLines = [] → scan.foundH1 = false) :
    (scan.step line).Titled := by
  unfold H1Scan.step
  split
  · next title hheading =>
    refine ⟨h.flushed .documentPreamble, fun first rest found hlines hfound => ?_⟩
    cases hlines
    cases hfound
    refine ⟨hheading, fun other hother => ?_⟩
    rw [List.mem_singleton.mp hother]
    exact hone
  · split
    · next hfound =>
      refine ⟨h.candidates, fun first rest title hlines hheading => ?_⟩
      cases hcurrent : scan.currentLines with
      | nil => simp [hstarted hcurrent] at hfound
      | cons start more =>
        simp only [hcurrent, List.cons_append] at hlines
        cases hlines
        obtain ⟨hline, hones⟩ := h.current first more title hcurrent hheading
        refine ⟨hline, fun other hother => ?_⟩
        rw [← List.cons_append] at hother
        rcases List.mem_append.mp hother with hold | hnew
        · exact hones other hold
        · rw [List.mem_singleton.mp hnew]
          exact hone
    · exact ⟨h.candidates, h.current⟩

theorem splitTopLevelH1Candidates_titled (text : Text) :
    ∀ candidate ∈ splitTopLevelH1Candidates text, candidate.Titled := by
  have hscan : ∀ (lines seen : List Text) (scan : H1Scan), scan.Reads seen → scan.Titled →
      (∀ line ∈ lines, OneLine line) → (lines.foldl H1Scan.step scan).Titled := by
    intro lines
    induction lines with
    | nil => exact fun _ _ _ h _ => h
    | cons line rest ih =>
      intro seen scan hreads htitled hones
      have hstarted : scan.currentLines = [] → scan.foundH1 = false := by
        intro hnil
        rw [Bool.eq_false_iff, Ne, hreads.found]
        exact fun hne => hne hnil
      exact ih _ _ (hreads.step line) (htitled.step (hones line List.mem_cons_self) hstarted)
        fun other hother => hones other (List.mem_cons_of_mem line hother)
  have hreads : H1Scan.Reads ⟨[], [], [], none, false⟩ [] :=
    ⟨rfl, nofun, by simp, fun hne => absurd rfl hne, fun hne => absurd rfl hne⟩
  exact (hscan _ [] _ hreads ⟨nofun, nofun⟩ fun line hline =>
    oneLine_of_mem_normalizeLines hline).flushed .paragraphGroup

end CrmBot.DocumentSegmentation
