import CrmBot.Commercial.PublishedSurface

/-! Unpublished facts and the surface.

Conflicts are detected and resolved over the snapshots of every status; only the
fact a conflict ends with is asked whether it is published. The two surfaces
agree where the published snapshots prevail in the conflicts. -/

namespace CrmBot.Commercial

open CrmBot.Python Grouping

variable {mapping : CaseMapping} {policy : CommercialTruthResolutionPolicy}
  {snapshots : List CommercialFactSnapshot}

def publishedSnapshots (snapshots : List CommercialFactSnapshot) : List CommercialFactSnapshot :=
  snapshots.filter fun snapshot => snapshot.fact.status = .published

/-- The surface of all snapshots has the identities and values of the surface
of the published ones. -/
def UnpublishedIgnored (mapping : CaseMapping) (policy : CommercialTruthResolutionPolicy)
    (snapshots : List CommercialFactSnapshot) : Prop :=
  ∀ identity value, SurfacedValue mapping policy snapshots identity value ↔
    SurfacedValue mapping policy (publishedSnapshots snapshots) identity value

/-- The snapshots of one identity state one value, or the policy's winners
among them do. -/
def Settled (mapping : CaseMapping) (policy : CommercialTruthResolutionPolicy)
    (group : List CommercialFactSnapshot) : Prop :=
  group ≠ [] ∧ (¬ Disagree mapping group ∨
    (∃ snapshot ∈ group, Wins policy group snapshot) ∧ WinnersAgree mapping policy group)

/-- Where the snapshots of an identity disagree although the published ones are
settled, the winners among all of them agree, and the first of them is
published. -/
def PublishedPrevail (mapping : CaseMapping) (policy : CommercialTruthResolutionPolicy)
    (snapshots : List CommercialFactSnapshot) : Prop :=
  ∀ identity, Disagree mapping (snapshotsOf mapping snapshots identity) →
    Settled mapping policy (snapshotsOf mapping (publishedSnapshots snapshots) identity) →
    WinnersAgree mapping policy (snapshotsOf mapping snapshots identity) ∧
      ∃ snapshot, FirstWinner policy (snapshotsOf mapping snapshots identity) snapshot ∧
        snapshot.fact.status = .published

/-! Winners among the published. -/

theorem mem_publishedOf {identity : CommercialFactIdentity} {snapshot : CommercialFactSnapshot} :
    snapshot ∈ snapshotsOf mapping (publishedSnapshots snapshots) identity ↔
      snapshot ∈ snapshotsOf mapping snapshots identity ∧ snapshot.fact.status = .published := by
  simp only [mem_snapshotsOf, publishedSnapshots, List.mem_filter, decide_eq_true_eq]
  exact and_right_comm

theorem publishedOf_subset (identity : CommercialFactIdentity) :
    snapshotsOf mapping (publishedSnapshots snapshots) identity ⊆
      snapshotsOf mapping snapshots identity :=
  fun _ hmem => (mem_publishedOf.mp hmem).1

/-- A winner of a group wins in every part of it. -/
theorem Wins.of_subset {group part : List CommercialFactSnapshot} (hsubset : part ⊆ group)
    {snapshot : CommercialFactSnapshot} (h : Wins policy group snapshot) :
    Wins policy part snapshot := by
  cases policy with
  | manualReview => exact h
  | higherAuthorityWins => exact fun other hother => h other (hsubset hother)
  | newerSourceWins =>
    obtain ⟨date, hdate, hall⟩ := h
    exact ⟨date, hdate, fun other hother => hall other (hsubset hother)⟩

/-- In a part that holds a winner of the group, the winners are winners of the
group. -/
theorem Wins.of_part {group part : List CommercialFactSnapshot}
    {first second : CommercialFactSnapshot} (hfirst : Wins policy group first)
    (hmem : first ∈ part) (hsecond : Wins policy part second) : Wins policy group second := by
  cases policy with
  | manualReview => exact hsecond
  | higherAuthorityWins =>
    exact fun other hother => (hfirst other hother).trans (hsecond first hmem)
  | newerSourceWins =>
    obtain ⟨firstDate, hfirstDate, hall⟩ := hfirst
    obtain ⟨date, hdate, hpart⟩ := hsecond
    refine ⟨date, hdate, fun other hother otherDate hother_date => ?_⟩
    exact (hall other hother otherDate hother_date).trans (hpart first hmem firstDate hfirstDate)

theorem Disagree.of_subset {group part : List CommercialFactSnapshot} (hsubset : part ⊆ group)
    (h : Disagree mapping part) : Disagree mapping group := by
  obtain ⟨first, hfirst, second, hsecond, hne⟩ := h
  exact ⟨first, hsubset hfirst, second, hsubset hsecond, hne⟩

/-! The two surfaces. -/

theorem idsNameFacts_published (hids : IdsNameFacts snapshots) :
    IdsNameFacts (publishedSnapshots snapshots) := by
  intro first hfirst second hsecond
  exact hids first (List.mem_of_mem_filter hfirst) second (List.mem_of_mem_filter hsecond)

theorem status_of_mem_published {snapshot : CommercialFactSnapshot}
    (h : snapshot ∈ publishedSnapshots snapshots) : snapshot.fact.status = .published := by
  simpa using List.of_mem_filter h

/-- The surface of all snapshots, value by value. -/
theorem surfacedValue_all_iff (hids : IdsNameFacts snapshots) {identity : CommercialFactIdentity}
    {value : CommercialFactValueSignature} :
    SurfacedValue mapping policy snapshots identity value ↔
      ∃ snapshot ∈ snapshotsOf mapping snapshots identity,
        snapshot.fact.status = .published ∧ snapshot.valueSignature mapping = value ∧
          (¬ Conflicted mapping snapshots identity ∨
            FirstWinner policy (snapshotsOf mapping snapshots identity) snapshot ∧
              WinnersAgree mapping policy (snapshotsOf mapping snapshots identity)) := by
  constructor
  · rintro ⟨fact, hfact, rfl, rfl⟩
    obtain ⟨heligible, snapshot, hmem, rfl, hcase⟩ := (mem_surface_iff hids).mp hfact
    refine ⟨snapshot, mem_snapshotsOf.mpr ⟨hmem, rfl⟩, of_decide_eq_true heligible, rfl, ?_⟩
    rcases hcase with hfree | ⟨_, hselected⟩
    · exact .inl hfree
    · exact .inr hselected
  · rintro ⟨snapshot, hmem, hstatus, rfl, hcase⟩
    obtain ⟨hsnapshot, rfl⟩ := mem_snapshotsOf.mp hmem
    refine ⟨snapshot.fact, (mem_surface_iff hids).mpr ⟨?_, snapshot, hsnapshot, rfl, ?_⟩, rfl, rfl⟩
    · exact isRuntimeEligible_of_published hstatus
    · by_cases hconflicted : Conflicted mapping snapshots (snapshot.identity mapping)
      · exact .inr ⟨hconflicted, hcase.resolve_left (not_not_intro hconflicted)⟩
      · exact .inl hconflicted

/-- The published snapshots surface something for a settled identity. -/
theorem exists_surfacedValue_published (hids : IdsNameFacts snapshots)
    {identity : CommercialFactIdentity}
    (hsettled : Settled mapping policy
      (snapshotsOf mapping (publishedSnapshots snapshots) identity)) :
    ∃ value, SurfacedValue mapping policy (publishedSnapshots snapshots) identity value := by
  have hvalue := fun value => @surfacedValue_iff mapping policy (publishedSnapshots snapshots)
    (idsNameFacts_published hids) (fun _ => status_of_mem_published) identity value
  obtain ⟨hne, hcase⟩ := hsettled
  obtain ⟨member, hmember⟩ := List.exists_mem_of_ne_nil _ hne
  by_cases hconflicted : Conflicted mapping (publishedSnapshots snapshots) identity
  · obtain ⟨⟨winner, hwinner, hwins⟩, hagree⟩ := hcase.resolve_left (not_not_intro hconflicted)
    exact ⟨_, (hvalue _).mpr ⟨winner, hwinner, rfl, .inr ⟨hconflicted, hwins, hagree⟩⟩⟩
  · exact ⟨_, (hvalue _).mpr ⟨member, hmember, rfl, .inl hconflicted⟩⟩

theorem unpublishedIgnored_iff (hids : IdsNameFacts snapshots) :
    UnpublishedIgnored mapping policy snapshots ↔ PublishedPrevail mapping policy snapshots := by
  have hpublished := fun identity value =>
    @surfacedValue_iff mapping policy (publishedSnapshots snapshots)
      (idsNameFacts_published hids) (fun _ => status_of_mem_published) identity value
  constructor
  · intro hignored identity hdisagree hsettled
    obtain ⟨value, hvalue⟩ := exists_surfacedValue_published hids hsettled
    obtain ⟨snapshot, _, hstatus, _, hcase⟩ :=
      (surfacedValue_all_iff hids).mp ((hignored identity value).mpr hvalue)
    obtain ⟨hwinner, hagree⟩ := hcase.resolve_left (not_not_intro hdisagree)
    exact ⟨hagree, snapshot, hwinner, hstatus⟩
  · intro hprevail identity value
    rw [surfacedValue_all_iff hids, hpublished]
    constructor
    · rintro ⟨snapshot, hmem, hstatus, hvalue, hcase⟩
      have hpart := mem_publishedOf.mpr ⟨hmem, hstatus⟩
      refine ⟨snapshot, hpart, hvalue, ?_⟩
      by_cases hconflicted : Conflicted mapping (publishedSnapshots snapshots) identity
      · right
        have hall : Conflicted mapping snapshots identity :=
          hconflicted.of_subset (publishedOf_subset identity)
        obtain ⟨⟨hwins, _⟩, hagree⟩ := hcase.resolve_left (not_not_intro hall)
        refine ⟨hconflicted, hwins.of_subset (publishedOf_subset identity), ?_⟩
        -- the published winners are winners among all snapshots
        intro first hfirst second hsecond hfirstWins hsecondWins
        exact hagree first (publishedOf_subset identity hfirst) second
          (publishedOf_subset identity hsecond) (hwins.of_part hpart hfirstWins)
          (hwins.of_part hpart hsecondWins)
      · exact .inl hconflicted
    · rintro ⟨snapshot, hmem, hvalue, hcase⟩
      obtain ⟨hgroup, hstatus⟩ := mem_publishedOf.mp hmem
      by_cases hconflicted : Conflicted mapping snapshots identity
      · have hsettled : Settled mapping policy
            (snapshotsOf mapping (publishedSnapshots snapshots) identity) := by
          refine ⟨List.ne_nil_of_mem hmem, ?_⟩
          rcases hcase with hfree | ⟨_, hwins, hagree⟩
          · exact .inl hfree
          · exact .inr ⟨⟨snapshot, hmem, hwins⟩, hagree⟩
        obtain ⟨hagree, first, hfirst, hfirstStatus⟩ := hprevail identity hconflicted hsettled
        have hfirstPart := mem_publishedOf.mpr ⟨hfirst.mem, hfirstStatus⟩
        refine ⟨first, hfirst.mem, hfirstStatus, ?_, .inr ⟨hfirst, hagree⟩⟩
        rw [← hvalue]
        rcases hcase with hfree | ⟨_, hwins, hpartAgree⟩
        · by_contra hne
          exact hfree ⟨first, hfirstPart, snapshot, hmem, hne⟩
        · exact hpartAgree first hfirstPart snapshot hmem
            (hfirst.1.of_subset (publishedOf_subset identity)) hwins
      · exact ⟨snapshot, hgroup, hstatus, hvalue, .inl hconflicted⟩

/-! A draft beside a published price. -/

def draftBesidePublished : List CommercialFactSnapshot :=
  [⟨proFact "fact-1" (proAmount 2490 0) .published (Eq.refl false), priceList⟩,
    ⟨proFact "fact-2" (proAmount 2990 0) .draft (Eq.refl false), faq⟩]

theorem draftBesidePublished_ids : IdsNameFacts draftBesidePublished :=
  idsNameFacts_of_nodup (by decide)

theorem draftBesidePublished_iff :
    UnpublishedIgnored plainCase .higherAuthorityWins draftBesidePublished ↔
      PublishedPrevail plainCase .higherAuthorityWins draftBesidePublished :=
  unpublishedIgnored_iff draftBesidePublished_ids

/-- Under manual review the draft hides the published price. -/
theorem draftBesidePublished_hidden :
    IdsNameFacts draftBesidePublished ∧
      ¬ UnpublishedIgnored plainCase .manualReview draftBesidePublished := by
  have hall : commercialRetrievalSurfaceFacts plainCase draftBesidePublished .manualReview =
      [] := by
    decide +kernel
  have hpublished : commercialRetrievalSurfaceFacts plainCase
      (publishedSnapshots draftBesidePublished) .manualReview =
        [proFact "fact-1" (proAmount 2490 0) .published (by decide)] := by
    decide +kernel
  refine ⟨draftBesidePublished_ids, fun hignored => ?_⟩
  obtain ⟨fact, hfact, _⟩ := (hignored _ _).mpr
    ⟨_, by rw [hpublished]; exact List.mem_singleton_self _, rfl, rfl⟩
  rw [hall] at hfact
  cases hfact

end CrmBot.Commercial
