import CrmBot.Commercial.CommercialTruth
import Mathlib.Data.Finset.Card

/-! What the retrieval surface holds.

The grouping, the exclusion by fact id, the resolution and the removal of
repeated ids come down to one statement about each fact, as long as a fact id
names one fact. -/

namespace CrmBot.Commercial

open CrmBot.Python Grouping

variable {mapping : CaseMapping} {policy : CommercialTruthResolutionPolicy}
  {snapshots : List CommercialFactSnapshot}

/-- The snapshots of one identity, in their order. -/
def snapshotsOf (mapping : CaseMapping) (snapshots : List CommercialFactSnapshot)
    (identity : CommercialFactIdentity) : List CommercialFactSnapshot :=
  snapshots.filter fun snapshot => snapshot.identity mapping = identity

@[simp] theorem mem_snapshotsOf {identity : CommercialFactIdentity}
    {snapshot : CommercialFactSnapshot} :
    snapshot ∈ snapshotsOf mapping snapshots identity ↔
      snapshot ∈ snapshots ∧ snapshot.identity mapping = identity := by
  simp [snapshotsOf]

/-! Conflicts. -/

/-- Two of the snapshots have different value signatures. -/
def Disagree (mapping : CaseMapping) (group : List CommercialFactSnapshot) : Prop :=
  ∃ first ∈ group, ∃ second ∈ group,
    first.valueSignature mapping ≠ second.valueSignature mapping

/-- The snapshots of the identity disagree. -/
def Conflicted (mapping : CaseMapping) (snapshots : List CommercialFactSnapshot)
    (identity : CommercialFactIdentity) : Prop :=
  Disagree mapping (snapshotsOf mapping snapshots identity)

theorem one_lt_signaturesOf_iff {group : List CommercialFactSnapshot} :
    1 < (signaturesOf mapping group).length ↔ Disagree mapping group := by
  unfold signaturesOf
  rw [← List.card_toFinset, Finset.one_lt_card]
  simp [Disagree]

/-- The conflicts are the groups of the identities whose snapshots disagree. -/
theorem mem_detectCommercialFactConflicts {group : CommercialConflictGroup} :
    group ∈ detectCommercialFactConflicts mapping snapshots ↔
      Conflicted mapping snapshots group.identity ∧
        group.snapshots = snapshotsOf mapping snapshots group.identity := by
  simp only [detectCommercialFactConflicts, List.mem_map, List.mem_filter, decide_eq_true_eq,
    one_lt_signaturesOf_iff, Prod.exists, mem_groupBy]
  constructor
  · rintro ⟨identity, _, ⟨⟨_, rfl⟩, hdisagree⟩, rfl⟩
    exact ⟨hdisagree, rfl⟩
  · rintro ⟨hconflicted, hsnapshots⟩
    have hdisagree : Disagree mapping group.snapshots := by
      rw [hsnapshots]
      exact hconflicted
    obtain ⟨first, hfirst, _⟩ := hconflicted
    exact ⟨group.identity, group.snapshots, ⟨⟨⟨first, mem_snapshotsOf.mp hfirst⟩, hsnapshots⟩,
      hdisagree⟩, rfl⟩

/-! Winners. -/

/-- The snapshot is among the winners that the policy finds in a group. -/
def Wins : CommercialTruthResolutionPolicy → List CommercialFactSnapshot →
    CommercialFactSnapshot → Prop
  | .manualReview, _, _ => False
  | .higherAuthorityWins, group, snapshot =>
    ∀ other ∈ group, other.source.authorityRank ≤ snapshot.source.authorityRank
  | .newerSourceWins, group, snapshot =>
    ∃ observedAt, snapshot.source.observedAt = some observedAt ∧
      ∀ other ∈ group, ∀ date, other.source.observedAt = some date → date ≤ observedAt

/-- The first winner of a group, in the order of the snapshots. -/
def FirstWinner (policy : CommercialTruthResolutionPolicy) (group : List CommercialFactSnapshot)
    (snapshot : CommercialFactSnapshot) : Prop :=
  Wins policy group snapshot ∧ ∃ earlier later, group = earlier ++ snapshot :: later ∧
    ∀ other ∈ earlier, ¬ Wins policy group other

/-- All winners have one value signature. -/
def WinnersAgree (mapping : CaseMapping) (policy : CommercialTruthResolutionPolicy)
    (group : List CommercialFactSnapshot) : Prop :=
  ∀ first ∈ group, ∀ second ∈ group, Wins policy group first → Wins policy group second →
    first.valueSignature mapping = second.valueSignature mapping

theorem FirstWinner.mem {group : List CommercialFactSnapshot} {snapshot : CommercialFactSnapshot}
    (h : FirstWinner policy group snapshot) : snapshot ∈ group := by
  obtain ⟨_, earlier, later, rfl, _⟩ := h
  exact List.mem_append_right _ List.mem_cons_self

/-- The winners of a policy, as the code filters them. -/
def winnersBy : CommercialTruthResolutionPolicy → List CommercialFactSnapshot →
    List CommercialFactSnapshot
  | .manualReview, _ => []
  | .higherAuthorityWins, group => authorityWinners group
  | .newerSourceWins, group => newestWinners group

open Classical in
theorem winnersBy_eq (policy : CommercialTruthResolutionPolicy)
    (group : List CommercialFactSnapshot) :
    winnersBy policy group = group.filter fun snapshot => Wins policy group snapshot := by
  cases policy with
  | manualReview =>
    apply Eq.symm
    apply List.filter_eq_nil_iff.mpr
    intro snapshot _ hwins
    exact @of_decide_eq_true _ (_) hwins
  | higherAuthorityWins =>
    apply List.filter_congr
    intro snapshot hmem
    apply decide_eq_decide.mpr
    rw [List.max?_eq_some_iff]
    constructor
    · rintro ⟨_, hall⟩ other hother
      exact hall _ (List.mem_map_of_mem hother)
    · intro hwins
      refine ⟨List.mem_map_of_mem hmem, fun rank hrank => ?_⟩
      obtain ⟨other, hother, rfl⟩ := List.mem_map.mp hrank
      exact hwins other hother
  | newerSourceWins =>
    apply List.filter_congr
    intro snapshot hmem
    rw [← Bool.decide_and]
    apply decide_eq_decide.mpr
    cases hdate : snapshot.source.observedAt with
    | none => simp [Wins, hdate]
    | some observedAt =>
      rw [List.max?_eq_some_iff]
      constructor
      · rintro ⟨_, _, hall⟩
        refine ⟨observedAt, hdate, fun other hother date hother_date => ?_⟩
        exact hall date (List.mem_filterMap.mpr ⟨other, hother, hother_date⟩)
      · rintro ⟨latest, hlatest, hall⟩
        rw [hdate, Option.some.injEq] at hlatest
        subst hlatest
        refine ⟨Option.some_ne_none _, List.mem_filterMap.mpr ⟨snapshot, hmem, hdate⟩,
          fun date hmem_date => ?_⟩
        obtain ⟨other, hother, hother_date⟩ := List.mem_filterMap.mp hmem_date
        exact hall other hother date hother_date

theorem mem_winnersBy {group : List CommercialFactSnapshot} {snapshot : CommercialFactSnapshot} :
    snapshot ∈ winnersBy policy group ↔ snapshot ∈ group ∧ Wins policy group snapshot := by
  simp [winnersBy_eq]

theorem head?_winnersBy {group : List CommercialFactSnapshot} {snapshot : CommercialFactSnapshot} :
    (winnersBy policy group).head? = some snapshot ↔ FirstWinner policy group snapshot := by
  rw [winnersBy_eq, List.head?_filter, List.find?_eq_some_iff_append]
  simp [FirstWinner]

/-- A group with a winner has a first one. -/
theorem exists_firstWinner {group : List CommercialFactSnapshot} {snapshot : CommercialFactSnapshot}
    (hmem : snapshot ∈ group) (hwins : Wins policy group snapshot) :
    ∃ first, FirstWinner policy group first := by
  have hwinner : snapshot ∈ winnersBy policy group := mem_winnersBy.mpr ⟨hmem, hwins⟩
  cases hwinners : winnersBy policy group with
  | nil =>
    rw [hwinners] at hwinner
    cases hwinner
  | cons first rest =>
    refine ⟨first, head?_winnersBy.mp ?_⟩
    rw [hwinners, List.head?_cons]

/-! Resolution. -/

theorem signaturesOf_length_eq_one_iff {group : List CommercialFactSnapshot}
    {snapshot : CommercialFactSnapshot} (hmem : snapshot ∈ group) :
    (signaturesOf mapping group).length = 1 ↔ ¬ Disagree mapping group := by
  have hpos : 0 < (signaturesOf mapping group).length := by
    apply List.length_pos_of_mem
    exact List.mem_dedup.mpr (List.mem_map_of_mem hmem)
  rw [← one_lt_signaturesOf_iff]
  omega

/-- The winners' value is taken from the first of them. -/
theorem selectIfWinnersShareSingleValue_eq_some {group : List CommercialFactSnapshot}
    {snapshot : CommercialFactSnapshot} :
    selectIfWinnersShareSingleValue mapping (winnersBy policy group) = some snapshot ↔
      FirstWinner policy group snapshot ∧ WinnersAgree mapping policy group := by
  have hagree : ¬ Disagree mapping (winnersBy policy group) ↔
      WinnersAgree mapping policy group := by
    simp only [Disagree, mem_winnersBy, not_exists, not_and, not_not, WinnersAgree]
    constructor
    · intro h first hfirst second hsecond hfirstWins hsecondWins
      exact h first ⟨hfirst, hfirstWins⟩ second ⟨hsecond, hsecondWins⟩
    · intro h first hfirst second hsecond
      exact h first hfirst.1 second hsecond.1 hfirst.2 hsecond.2
  simp only [selectIfWinnersShareSingleValue, Option.ite_none_right_eq_some, head?_winnersBy,
    ← hagree]
  rw [and_comm]
  apply and_congr_right
  intro hfirst
  exact signaturesOf_length_eq_one_iff (mem_winnersBy.mpr ⟨hfirst.mem, hfirst.1⟩)

theorem resolveByWinners_selected (conflict : CommercialConflictGroup)
    (winners : List CommercialFactSnapshot) (tieReason selectedReason : String) :
    (resolveByWinners mapping conflict policy winners tieReason selectedReason).selectedSnapshot =
        selectIfWinnersShareSingleValue mapping winners ∧
      ((resolveByWinners mapping conflict policy winners tieReason selectedReason).isResolved =
        (selectIfWinnersShareSingleValue mapping winners).isSome) := by
  unfold resolveByWinners
  cases selectIfWinnersShareSingleValue mapping winners with
  | none => exact ⟨rfl, rfl⟩
  | some selected => exact ⟨rfl, rfl⟩

/-- A conflict is resolved by its first winner, when the winners agree. -/
theorem resolve_spec (conflict : CommercialConflictGroup) :
    (resolveCommercialConflictByPolicy mapping conflict policy).selectedSnapshot =
        selectIfWinnersShareSingleValue mapping (winnersBy policy conflict.snapshots) ∧
      (resolveCommercialConflictByPolicy mapping conflict policy).isResolved =
        (selectIfWinnersShareSingleValue mapping
          (winnersBy policy conflict.snapshots)).isSome := by
  cases policy with
  | manualReview => exact ⟨rfl, rfl⟩
  | higherAuthorityWins => exact resolveByWinners_selected _ _ _ _
  | newerSourceWins =>
    simp only [resolveCommercialConflictByPolicy, resolveByNewerSource]
    split
    · next hdates =>
      have hnone : winnersBy .newerSourceWins conflict.snapshots = [] := by
        apply List.filter_eq_nil_iff.mpr
        intro snapshot _
        rw [hdates, List.max?_nil]
        cases snapshot.source.observedAt <;> simp
      rw [hnone]
      exact ⟨rfl, rfl⟩
    · exact resolveByWinners_selected _ _ _ _

theorem surfacedFact?_eq_some {conflict : CommercialConflictGroup} {fact : PublishedPriceFact} :
    surfacedFact? mapping policy conflict = some fact ↔
      fact.isRuntimeEligible = true ∧ ∃ snapshot, FirstWinner policy conflict.snapshots snapshot ∧
        WinnersAgree mapping policy conflict.snapshots ∧ snapshot.fact = fact := by
  obtain ⟨hselected, hresolved⟩ := @resolve_spec mapping policy conflict
  simp only [surfacedFact?, hselected, hresolved]
  constructor
  · intro h
    rw [Option.ite_none_right_eq_some] at h
    obtain ⟨_, hfact⟩ := h
    rw [Option.filter_eq_some_iff, Option.map_eq_some_iff] at hfact
    obtain ⟨⟨snapshot, hsnapshot, rfl⟩, heligible⟩ := hfact
    obtain ⟨hfirst, hagree⟩ := selectIfWinnersShareSingleValue_eq_some.mp hsnapshot
    exact ⟨heligible, snapshot, hfirst, hagree, rfl⟩
  · rintro ⟨heligible, snapshot, hfirst, hagree, rfl⟩
    rw [selectIfWinnersShareSingleValue_eq_some.mpr ⟨hfirst, hagree⟩]
    simp [heligible]

/-! The surface. -/

/-- A fact id names one fact. -/
def IdsNameFacts (snapshots : List CommercialFactSnapshot) : Prop :=
  ∀ first ∈ snapshots, ∀ second ∈ snapshots, first.fact.id = second.fact.id →
    first.fact = second.fact

/-- The snapshot is the one that the conflict of its identity is resolved by. -/
def Selected (mapping : CaseMapping) (policy : CommercialTruthResolutionPolicy)
    (snapshots : List CommercialFactSnapshot) (snapshot : CommercialFactSnapshot) : Prop :=
  let group := snapshotsOf mapping snapshots (snapshot.identity mapping)
  FirstWinner policy group snapshot ∧ WinnersAgree mapping policy group

theorem identity_eq_of_fact_eq {first second : CommercialFactSnapshot}
    (h : first.fact = second.fact) : first.identity mapping = second.identity mapping := by
  unfold CommercialFactSnapshot.identity
  rw [h]

/-- A fact id is excluded exactly when the identity of its fact is in conflict. -/
theorem mem_conflictedFactIds (hids : IdsNameFacts snapshots) {snapshot : CommercialFactSnapshot}
    (hmem : snapshot ∈ snapshots) :
    snapshot.fact.id ∈ (detectCommercialFactConflicts mapping snapshots).flatMap
        CommercialConflictGroup.factIds ↔
      Conflicted mapping snapshots (snapshot.identity mapping) := by
  simp only [List.mem_flatMap, mem_detectCommercialFactConflicts, CommercialConflictGroup.factIds,
    List.mem_map]
  constructor
  · rintro ⟨group, ⟨hconflicted, hsnapshots⟩, other, hother, hid⟩
    rw [hsnapshots, mem_snapshotsOf] at hother
    rw [← identity_eq_of_fact_eq (hids other hother.1 snapshot hmem hid), hother.2]
    exact hconflicted
  · intro hconflicted
    exact ⟨⟨snapshot.identity mapping, snapshotsOf mapping snapshots (snapshot.identity mapping)⟩,
      ⟨hconflicted, rfl⟩, snapshot, mem_snapshotsOf.mpr ⟨hmem, rfl⟩, rfl⟩

/-- The published facts whose ids are in no conflict. -/
def unconflictedFacts (mapping : CaseMapping) (snapshots : List CommercialFactSnapshot) :
    List PublishedPriceFact :=
  (snapshots.filter fun snapshot =>
    !((detectCommercialFactConflicts mapping snapshots).flatMap
      CommercialConflictGroup.factIds).contains snapshot.fact.id &&
        snapshot.fact.isRuntimeEligible).map (·.fact)

/-- The facts that the conflicts contribute. -/
def resolvedFacts (mapping : CaseMapping) (policy : CommercialTruthResolutionPolicy)
    (snapshots : List CommercialFactSnapshot) : List PublishedPriceFact :=
  (detectCommercialFactConflicts mapping snapshots).filterMap (surfacedFact? mapping policy)

theorem surface_eq (mapping : CaseMapping) (policy : CommercialTruthResolutionPolicy)
    (snapshots : List CommercialFactSnapshot) :
    commercialRetrievalSurfaceFacts mapping snapshots policy =
      keepFirst (·.id) (unconflictedFacts mapping snapshots ++
        resolvedFacts mapping policy snapshots) := rfl

theorem mem_unconflictedFacts (hids : IdsNameFacts snapshots) {fact : PublishedPriceFact} :
    fact ∈ unconflictedFacts mapping snapshots ↔ fact.isRuntimeEligible = true ∧
      ∃ snapshot ∈ snapshots, snapshot.fact = fact ∧
        ¬ Conflicted mapping snapshots (snapshot.identity mapping) := by
  simp only [unconflictedFacts, List.mem_map, List.mem_filter, Bool.and_eq_true, Bool.not_eq_true',
    ← Bool.not_eq_true, List.contains_iff_mem]
  constructor
  · rintro ⟨snapshot, ⟨hmem, hid, heligible⟩, rfl⟩
    rw [mem_conflictedFactIds hids hmem] at hid
    exact ⟨heligible, snapshot, hmem, rfl, hid⟩
  · rintro ⟨heligible, snapshot, hmem, rfl, hid⟩
    rw [← mem_conflictedFactIds hids hmem] at hid
    exact ⟨snapshot, ⟨hmem, hid, heligible⟩, rfl⟩

theorem mem_resolvedFacts {fact : PublishedPriceFact} :
    fact ∈ resolvedFacts mapping policy snapshots ↔ fact.isRuntimeEligible = true ∧
      ∃ snapshot ∈ snapshots, snapshot.fact = fact ∧
        Conflicted mapping snapshots (snapshot.identity mapping) ∧
          Selected mapping policy snapshots snapshot := by
  simp only [resolvedFacts, List.mem_filterMap, surfacedFact?_eq_some,
    mem_detectCommercialFactConflicts]
  constructor
  · rintro ⟨conflict, ⟨hconflicted, hsnapshots⟩, heligible, snapshot, hwinner, hagree, rfl⟩
    rw [hsnapshots] at hwinner hagree
    obtain ⟨hmem, hidentity⟩ := mem_snapshotsOf.mp hwinner.mem
    rw [← hidentity] at hconflicted hwinner hagree
    exact ⟨heligible, snapshot, hmem, rfl, hconflicted, hwinner, hagree⟩
  · rintro ⟨heligible, snapshot, hmem, rfl, hconflicted, hwinner, hagree⟩
    exact ⟨⟨snapshot.identity mapping, snapshotsOf mapping snapshots (snapshot.identity mapping)⟩,
      ⟨hconflicted, rfl⟩, heligible, snapshot, hwinner, hagree, rfl⟩

/-- The surface holds the published facts of the identities without conflict,
and the published facts that conflicts are resolved by. -/
theorem mem_surface_iff (hids : IdsNameFacts snapshots) {fact : PublishedPriceFact} :
    fact ∈ commercialRetrievalSurfaceFacts mapping snapshots policy ↔
      fact.isRuntimeEligible = true ∧ ∃ snapshot ∈ snapshots, snapshot.fact = fact ∧
        (¬ Conflicted mapping snapshots (snapshot.identity mapping) ∨
          Conflicted mapping snapshots (snapshot.identity mapping) ∧
            Selected mapping policy snapshots snapshot) := by
  have hall : ∀ {fact}, fact ∈ unconflictedFacts mapping snapshots ++
      resolvedFacts mapping policy snapshots ↔ fact.isRuntimeEligible = true ∧
      ∃ snapshot ∈ snapshots, snapshot.fact = fact ∧
        (¬ Conflicted mapping snapshots (snapshot.identity mapping) ∨
          Conflicted mapping snapshots (snapshot.identity mapping) ∧
            Selected mapping policy snapshots snapshot) := by
    intro fact
    rw [List.mem_append, mem_unconflictedFacts hids, mem_resolvedFacts]
    constructor
    · rintro (⟨heligible, snapshot, hmem, hfact, h⟩ | ⟨heligible, snapshot, hmem, hfact, h⟩)
      · exact ⟨heligible, snapshot, hmem, hfact, .inl h⟩
      · exact ⟨heligible, snapshot, hmem, hfact, .inr h⟩
    · rintro ⟨heligible, snapshot, hmem, hfact, h | h⟩
      · exact .inl ⟨heligible, snapshot, hmem, hfact, h⟩
      · exact .inr ⟨heligible, snapshot, hmem, hfact, h⟩
  rw [surface_eq, ← hall]
  constructor
  · exact mem_of_mem_keepFirst
  · intro hmem
    -- the kept fact of this id is the fact itself
    obtain ⟨kept, hkept, hid⟩ :=
      exists_mem_keepFirst (fun fact : PublishedPriceFact => fact.id) hmem
    obtain ⟨_, first, hfirst, rfl, _⟩ := hall.mp (mem_of_mem_keepFirst hkept)
    obtain ⟨_, second, hsecond, rfl, _⟩ := hall.mp hmem
    rwa [hids first hfirst second hsecond hid] at hkept

end CrmBot.Commercial
