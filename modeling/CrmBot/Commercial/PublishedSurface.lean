import CrmBot.Commercial.SurfaceFacts

/-! The surface of published snapshots.

Without other statuses the surface has one value for each identity, the policy
chooses it, and the order of the snapshots does not matter. -/

namespace CrmBot.Commercial

open CrmBot.Python Grouping

variable {mapping : CaseMapping} {policy : CommercialTruthResolutionPolicy}
  {snapshots : List CommercialFactSnapshot}

/-- What the surface says of published snapshots. -/
structure SurfaceByPolicy (mapping : CaseMapping) (policy : CommercialTruthResolutionPolicy)
    (snapshots : List CommercialFactSnapshot) : Prop where
  /-- Facts of one identity have one value signature. -/
  one_value : ∀ first ∈ commercialRetrievalSurfaceFacts mapping snapshots policy,
    ∀ second ∈ commercialRetrievalSurfaceFacts mapping snapshots policy,
      CommercialFactIdentity.fromPriceFact mapping first = .fromPriceFact mapping second →
      CommercialFactValueSignature.fromPriceFact mapping first = .fromPriceFact mapping second
  /-- The fact of an identity in conflict comes from a winner of the policy. -/
  winner : ∀ identity, Conflicted mapping snapshots identity →
    ∀ fact ∈ commercialRetrievalSurfaceFacts mapping snapshots policy,
      CommercialFactIdentity.fromPriceFact mapping fact = identity →
      ∃ snapshot ∈ snapshotsOf mapping snapshots identity, snapshot.fact = fact ∧
        Wins policy (snapshotsOf mapping snapshots identity) snapshot
  /-- Nothing is surfaced for it exactly when there are no winners or they
  disagree. -/
  nothing_iff : ∀ identity, Conflicted mapping snapshots identity →
    ((∀ fact ∈ commercialRetrievalSurfaceFacts mapping snapshots policy,
        CommercialFactIdentity.fromPriceFact mapping fact ≠ identity) ↔
      policy = .manualReview ∨
        (policy = .newerSourceWins ∧
          ∀ snapshot ∈ snapshotsOf mapping snapshots identity,
            snapshot.source.observedAt = none) ∨
        ¬ WinnersAgree mapping policy (snapshotsOf mapping snapshots identity))
  /-- An identity without conflict surfaces all its facts. -/
  complete : ∀ identity, ¬ Conflicted mapping snapshots identity →
    ∀ snapshot ∈ snapshotsOf mapping snapshots identity,
      snapshot.fact ∈ commercialRetrievalSurfaceFacts mapping snapshots policy
  /-- The surfaced values do not depend on the order. -/
  order_independent : ∀ other, other.Perm snapshots → ∀ identity value,
    (∃ fact ∈ commercialRetrievalSurfaceFacts mapping other policy,
        CommercialFactIdentity.fromPriceFact mapping fact = identity ∧
          CommercialFactValueSignature.fromPriceFact mapping fact = value) ↔
      ∃ fact ∈ commercialRetrievalSurfaceFacts mapping snapshots policy,
        CommercialFactIdentity.fromPriceFact mapping fact = identity ∧
          CommercialFactValueSignature.fromPriceFact mapping fact = value

/-! Values instead of facts. -/

/-- The surface has a fact of the identity with the value. -/
def SurfacedValue (mapping : CaseMapping) (policy : CommercialTruthResolutionPolicy)
    (snapshots : List CommercialFactSnapshot) (identity : CommercialFactIdentity)
    (value : CommercialFactValueSignature) : Prop :=
  ∃ fact ∈ commercialRetrievalSurfaceFacts mapping snapshots policy,
    CommercialFactIdentity.fromPriceFact mapping fact = identity ∧
      CommercialFactValueSignature.fromPriceFact mapping fact = value

/-- Distinct fact ids name one fact each. -/
theorem idsNameFacts_of_nodup (hids : (snapshots.map fun snapshot => snapshot.fact.id).Nodup) :
    IdsNameFacts snapshots := by
  intro first hfirst second hsecond hid
  rw [List.inj_on_of_nodup_map hids hfirst hsecond hid]

theorem isRuntimeEligible_of_published {fact : PublishedPriceFact}
    (h : fact.status = .published) : fact.isRuntimeEligible = true := by
  simp [PublishedPriceFact.isRuntimeEligible, h]

section Published

variable (hids : IdsNameFacts snapshots)
  (hpublished : ∀ snapshot ∈ snapshots, snapshot.fact.status = .published)

include hids

/-- The fact of an unconflicted identity, or of a conflict the winners agree on. -/
theorem surface_cases {fact : PublishedPriceFact}
    (h : fact ∈ commercialRetrievalSurfaceFacts mapping snapshots policy) :
    ∃ snapshot ∈ snapshotsOf mapping snapshots (.fromPriceFact mapping fact),
      snapshot.fact = fact ∧
        (¬ Conflicted mapping snapshots (.fromPriceFact mapping fact) ∨
          FirstWinner policy (snapshotsOf mapping snapshots (.fromPriceFact mapping fact))
              snapshot ∧
            WinnersAgree mapping policy
              (snapshotsOf mapping snapshots (.fromPriceFact mapping fact))) := by
  obtain ⟨_, snapshot, hmem, rfl, hcase⟩ := (mem_surface_iff hids).mp h
  refine ⟨snapshot, mem_snapshotsOf.mpr ⟨hmem, rfl⟩, rfl, ?_⟩
  rcases hcase with hfree | ⟨_, hselected⟩
  · exact .inl hfree
  · exact .inr hselected

include hpublished

theorem surfacedValue_iff {identity : CommercialFactIdentity}
    {value : CommercialFactValueSignature} :
    SurfacedValue mapping policy snapshots identity value ↔
      ∃ snapshot ∈ snapshotsOf mapping snapshots identity,
        snapshot.valueSignature mapping = value ∧
          (¬ Conflicted mapping snapshots identity ∨
            Conflicted mapping snapshots identity ∧
              Wins policy (snapshotsOf mapping snapshots identity) snapshot ∧
              WinnersAgree mapping policy (snapshotsOf mapping snapshots identity)) := by
  constructor
  · rintro ⟨fact, hfact, rfl, rfl⟩
    obtain ⟨_, snapshot, hmem, rfl, hcase⟩ := (mem_surface_iff hids).mp hfact
    refine ⟨snapshot, mem_snapshotsOf.mpr ⟨hmem, rfl⟩, rfl, ?_⟩
    rcases hcase with hfree | ⟨hconflicted, hwinner, hagree⟩
    · exact .inl hfree
    · exact .inr ⟨hconflicted, hwinner.1, hagree⟩
  · rintro ⟨snapshot, hmem, rfl, hcase⟩
    obtain ⟨hsnapshot, rfl⟩ := mem_snapshotsOf.mp hmem
    rcases hcase with hfree | ⟨hconflicted, hwins, hagree⟩
    · refine ⟨snapshot.fact, (mem_surface_iff hids).mpr ⟨?_, snapshot, hsnapshot, rfl, .inl hfree⟩,
        rfl, rfl⟩
      exact isRuntimeEligible_of_published (hpublished snapshot hsnapshot)
    · -- the first winner has the value of this one
      obtain ⟨first, hfirst⟩ := exists_firstWinner hmem hwins
      obtain ⟨hfirstMem, hidentity⟩ := mem_snapshotsOf.mp hfirst.mem
      refine ⟨first.fact, (mem_surface_iff hids).mpr ⟨?_, first, hfirstMem, rfl, .inr ?_⟩,
        hidentity, hagree _ hfirst.mem _ hmem hfirst.1 hwins⟩
      · exact isRuntimeEligible_of_published (hpublished first hfirstMem)
      · unfold Selected
        rw [hidentity]
        exact ⟨hconflicted, hfirst, hagree⟩

end Published

/-! What does not depend on the order. -/

section Perm

variable {group other : List CommercialFactSnapshot} (hperm : other.Perm group)

include hperm

theorem Disagree.perm_iff : Disagree mapping other ↔ Disagree mapping group := by
  simp only [Disagree, hperm.mem_iff]

theorem Wins.perm_iff {snapshot : CommercialFactSnapshot} :
    Wins policy other snapshot ↔ Wins policy group snapshot := by
  cases policy <;> simp only [Wins, hperm.mem_iff]

theorem WinnersAgree.perm_iff :
    WinnersAgree mapping policy other ↔ WinnersAgree mapping policy group := by
  simp only [WinnersAgree, hperm.mem_iff, Wins.perm_iff hperm]

end Perm

theorem snapshotsOf_perm {other : List CommercialFactSnapshot} (hperm : other.Perm snapshots)
    (identity : CommercialFactIdentity) :
    (snapshotsOf mapping other identity).Perm (snapshotsOf mapping snapshots identity) :=
  hperm.filter _

theorem surfacedValue_perm {other : List CommercialFactSnapshot} (hperm : other.Perm snapshots)
    (hids : IdsNameFacts snapshots)
    (hpublished : ∀ snapshot ∈ snapshots, snapshot.fact.status = .published)
    {identity : CommercialFactIdentity} {value : CommercialFactValueSignature} :
    SurfacedValue mapping policy other identity value ↔
      SurfacedValue mapping policy snapshots identity value := by
  have hotherIds : IdsNameFacts other := by
    intro first hfirst second hsecond
    exact hids first (hperm.mem_iff.mp hfirst) second (hperm.mem_iff.mp hsecond)
  have hotherPublished : ∀ snapshot ∈ other, snapshot.fact.status = .published :=
    fun snapshot hmem => hpublished snapshot (hperm.mem_iff.mp hmem)
  have hgroup := @snapshotsOf_perm mapping snapshots other hperm identity
  rw [surfacedValue_iff hotherIds hotherPublished, surfacedValue_iff hids hpublished]
  simp only [Conflicted, hgroup.mem_iff, Disagree.perm_iff hgroup, Wins.perm_iff hgroup,
    WinnersAgree.perm_iff hgroup]

/-! Groups without a winner. -/

/-- Some value of a list that is not empty is the greatest. -/
theorem exists_greatest {α : Type*} [LinearOrder α] {values : List α} (hne : values ≠ []) :
    ∃ greatest ∈ values, ∀ value ∈ values, value ≤ greatest := by
  cases hmax : values.max? with
  | none => exact absurd (List.max?_eq_none_iff.mp hmax) hne
  | some greatest => exact ⟨greatest, List.max?_eq_some_iff.mp hmax⟩

/-- A conflict has no winner under manual review, or when the policy asks for
dates and there are none. -/
theorem no_winner_iff {group : List CommercialFactSnapshot} (hne : group ≠ []) :
    (∀ snapshot ∈ group, ¬ Wins policy group snapshot) ↔
      policy = .manualReview ∨ policy = .newerSourceWins ∧
        ∀ snapshot ∈ group, snapshot.source.observedAt = none := by
  cases policy with
  | manualReview => simp [Wins]
  | higherAuthorityWins =>
    have hranks : group.map (·.source.authorityRank) ≠ [] := by simpa using hne
    obtain ⟨rank, hrank, hall⟩ := exists_greatest hranks
    obtain ⟨winner, hwinner, rfl⟩ := List.mem_map.mp hrank
    constructor
    · intro hnone
      exact absurd (fun other hother => hall _ (List.mem_map_of_mem hother)) (hnone winner hwinner)
    · rintro (h | ⟨h, _⟩) <;> cases h
  | newerSourceWins =>
    constructor
    · intro hnone
      refine .inr ⟨rfl, ?_⟩
      by_contra hdated
      push Not at hdated
      obtain ⟨dated, hmem, hdate⟩ := hdated
      obtain ⟨date, hsome⟩ := Option.ne_none_iff_exists'.mp hdate
      have hdates : group.filterMap (·.source.observedAt) ≠ [] :=
        List.ne_nil_of_mem (List.mem_filterMap.mpr ⟨dated, hmem, hsome⟩)
      obtain ⟨latest, hlatest, hall⟩ := exists_greatest hdates
      obtain ⟨winner, hwinner, hwinnerDate⟩ := List.mem_filterMap.mp hlatest
      refine hnone winner hwinner ⟨latest, hwinnerDate, fun other hother otherDate hother_date =>
          ?_⟩
      exact hall otherDate (List.mem_filterMap.mpr ⟨other, hother, hother_date⟩)
    · rintro (h | ⟨_, hundated⟩)
      · cases h
      · rintro snapshot hmem ⟨date, hdate, _⟩
        rw [hundated snapshot hmem] at hdate
        cases hdate

/-- Published snapshots with distinct fact ids surface one value for each
identity, chosen by the policy. -/
theorem publishedSurface_byPolicy
    (hids : (snapshots.map fun snapshot => snapshot.fact.id).Nodup)
    (hpublished : ∀ snapshot ∈ snapshots, snapshot.fact.status = .published) :
    SurfaceByPolicy mapping policy snapshots := by
  have hnames := idsNameFacts_of_nodup hids
  have hvalue := fun identity value =>
    @surfacedValue_iff mapping policy snapshots hnames hpublished identity value
  constructor
  case one_value =>
    intro first hfirst second hsecond hidentity
    have hfirstValue := (hvalue _ _).mp ⟨first, hfirst, hidentity, rfl⟩
    have hsecondValue := (hvalue _ _).mp ⟨second, hsecond, rfl, rfl⟩
    obtain ⟨one, hone, honeValue, honeCase⟩ := hfirstValue
    obtain ⟨two, htwo, htwoValue, htwoCase⟩ := hsecondValue
    rw [← honeValue, ← htwoValue]
    rcases honeCase with hfree | ⟨hconflicted, honeWins, hagree⟩
    · by_contra hne
      exact hfree ⟨one, hone, two, htwo, hne⟩
    · rcases htwoCase with hfree | ⟨_, htwoWins, _⟩
      · exact absurd hconflicted hfree
      · exact hagree one hone two htwo honeWins htwoWins
  case winner =>
    rintro identity hconflicted fact hfact rfl
    obtain ⟨snapshot, hmem, rfl, hcase⟩ := surface_cases hnames hfact
    rcases hcase with hfree | ⟨hwinner, _⟩
    · exact absurd hconflicted hfree
    · exact ⟨snapshot, hmem, rfl, hwinner.1⟩
  case nothing_iff =>
    intro identity hconflicted
    have hne : snapshotsOf mapping snapshots identity ≠ [] := by
      obtain ⟨first, hfirst, _⟩ := hconflicted
      exact List.ne_nil_of_mem hfirst
    rw [← or_assoc, ← no_winner_iff hne]
    constructor
    · intro hnothing
      by_contra hsome
      push Not at hsome
      obtain ⟨⟨snapshot, hmem, hwins⟩, hagree⟩ := hsome
      obtain ⟨fact, hfact, hidentity, _⟩ := (hvalue identity _).mpr
        ⟨snapshot, hmem, rfl, .inr ⟨hconflicted, hwins, hagree⟩⟩
      exact hnothing fact hfact hidentity
    · intro hcase fact hfact hidentity
      obtain ⟨snapshot, hmem, _, hfree | ⟨_, hwins, hagree⟩⟩ :=
        (hvalue identity _).mp ⟨fact, hfact, hidentity, rfl⟩
      · exact hfree hconflicted
      · rcases hcase with hnone | hdisagree
        · exact hnone snapshot hmem hwins
        · exact hdisagree hagree
  case complete =>
    intro identity hfree snapshot hmem
    obtain ⟨hsnapshot, rfl⟩ := mem_snapshotsOf.mp hmem
    refine (mem_surface_iff hnames).mpr ⟨?_, snapshot, hsnapshot, rfl, .inl hfree⟩
    exact isRuntimeEligible_of_published (hpublished snapshot hsnapshot)
  case order_independent =>
    intro other hperm identity value
    exact surfacedValue_perm hperm hnames hpublished

/-! Snapshots of one item. -/

/-- The case mappings on texts that are in the case asked for. -/
def plainCase : CaseMapping where
  lower := id
  upper := id

def proAmount (coefficient : ℕ) (exponent : ℤ) : MoneyAmount where
  amount := { negative := false, coefficient := coefficient, exponent := exponent }
  currency := "RUB"
  currency_text := Eq.refl false

def proFact (id : String) (amount : MoneyAmount) (status : PriceFactStatus)
    (id_text : isBlank id = false) : PublishedPriceFact where
  id := id
  projectId := "project-1"
  itemName := "pro"
  valueKind := .exact
  unit := "month"
  status := status
  amount := some amount
  priceRange := none
  priceText := ""
  variant := []
  aliases := []
  conditions := []
  id_text := id_text
  projectId_text := Eq.refl false
  itemName_text := Eq.refl false
  unit_text := Eq.refl false
  variant_keys := by decide
  shape := ⟨Option.some_ne_none _, rfl⟩

def priceList : CommercialSourceDescriptor where
  id := "prices"
  kind := .structuredPriceList
  id_text := by decide

def faq : CommercialSourceDescriptor where
  id := "faq"
  kind := .faq
  id_text := by decide

/-- Two published prices of one item. -/
def publishedPrices : List CommercialFactSnapshot :=
  [⟨proFact "fact-1" (proAmount 2490 0) .published (Eq.refl false), priceList⟩,
    ⟨proFact "fact-2" (proAmount 2990 0) .published (Eq.refl false), faq⟩]

theorem publishedPrices_byPolicy :
    SurfaceByPolicy plainCase .higherAuthorityWins publishedPrices :=
  publishedSurface_byPolicy (by decide) (by decide)

end CrmBot.Commercial
