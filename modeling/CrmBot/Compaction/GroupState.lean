import CrmBot.Compaction.GroupNames

/-! One group in the tables.

The rows of a group are called as the group calls them, and no other row is. A
merged comparison supersedes its nodes, and one that did not merge is about
compacted nodes. -/

namespace CrmBot.Compaction

open Relational CrmBot.Python FailingFold

/-! Growing tables. -/

/-- The nodes are there with their claims, and what is superseded stays so. -/
def NodesPersist (before after : Table NodeRow.nodeRef) : Prop :=
  ∀ row ∈ before.rows, ∃ later ∈ after.rows, later.nodeRef = row.nodeRef ∧
    later.group = row.group ∧ later.sourceClaimRefs = row.sourceClaimRefs ∧
    (row.active = false → later.active = false)

/-- A node that is there and not active. -/
def Superseded (nodes : Table NodeRow.nodeRef) (nodeRef : String) : Prop :=
  ∃ row ∈ nodes.rows, row.nodeRef = nodeRef ∧ row.active = false

namespace NodesPersist

variable {before middle after : Table NodeRow.nodeRef}

theorem refl (nodes : Table NodeRow.nodeRef) : NodesPersist nodes nodes :=
  fun row hrow => ⟨row, hrow, rfl, rfl, rfl, id⟩

theorem trans (hfirst : NodesPersist before middle) (hsecond : NodesPersist middle after) :
    NodesPersist before after := by
  intro row hrow
  obtain ⟨later, hlater, href, hgroup, hclaims, hactive⟩ := hfirst row hrow
  obtain ⟨last, hlast, href', hgroup', hclaims', hactive'⟩ := hsecond later hlater
  exact ⟨last, hlast, href'.trans href, hgroup'.trans hgroup, hclaims'.trans hclaims,
    hactive' ∘ hactive⟩

theorem keys_subset (h : NodesPersist before after) : before.keys ⊆ after.keys := by
  intro key hkey
  obtain ⟨row, hrow, rfl⟩ := Table.mem_keys.mp hkey
  obtain ⟨later, hlater, href, -⟩ := h row hrow
  exact Table.mem_keys.mpr ⟨later, hlater, href⟩

theorem superseded (h : NodesPersist before after) {nodeRef : String}
    (hsuperseded : Superseded before nodeRef) : Superseded after nodeRef := by
  obtain ⟨row, hrow, rfl, hactive⟩ := hsuperseded
  obtain ⟨later, hlater, href, -, -, hkept⟩ := h row hrow
  exact ⟨later, hlater, href, hkept hactive⟩

theorem insertOrIgnore (nodes : Table NodeRow.nodeRef) (row : NodeRow) :
    NodesPersist nodes (nodes.insertOrIgnore row) :=
  fun old hold => ⟨old, Table.mem_insertOrIgnore.mpr (.inl hold), rfl, rfl, rfl, id⟩

theorem deactivateNodes (nodes : Table NodeRow.nodeRef) (nodeRefs : List String) (now : Int) :
    NodesPersist nodes (deactivateNodes nodes nodeRefs now) := by
  intro row hrow
  refine ⟨deactivated nodeRefs now row, ?_, deactivated_nodeRef .., deactivated_group ..,
    deactivated_sourceClaimRefs .., fun hactive => ?_⟩
  · rw [rows_deactivateNodes]
    exact List.mem_map_of_mem hrow
  · rw [← Bool.not_eq_true, deactivated_active, hactive]
    simp

end NodesPersist

theorem superseded_deactivateNodes {nodes : Table NodeRow.nodeRef} {nodeRefs : List String}
    {now : Int} {nodeRef : String} (hkey : nodeRef ∈ nodes.keys) (hmem : nodeRef ∈ nodeRefs) :
    Superseded (deactivateNodes nodes nodeRefs now) nodeRef := by
  obtain ⟨row, hrow, rfl⟩ := Table.mem_keys.mp hkey
  refine ⟨deactivated nodeRefs now row, ?_, deactivated_nodeRef .., ?_⟩
  · rw [rows_deactivateNodes]
    exact List.mem_map_of_mem hrow
  · rw [← Bool.not_eq_true, deactivated_active]
    exact fun h => h.2 hmem

/-- Nodes persist and comparisons stay. -/
structure Grows (before after : ReductionState) : Prop where
  nodes : NodesPersist before.nodes after.nodes
  comparisons : before.comparisons.rows ⊆ after.comparisons.rows

theorem Grows.refl (state : ReductionState) : Grows state state :=
  ⟨.refl _, List.Subset.refl _⟩

theorem Grows.trans {before middle after : ReductionState} (hfirst : Grows before middle)
    (hsecond : Grows middle after) : Grows before after :=
  ⟨hfirst.nodes.trans hsecond.nodes, List.Subset.trans hfirst.comparisons hsecond.comparisons⟩

/-! Rows of a group. -/

section Group

variable (env : CompactionEnv) (group : GroupKey) (claims : List String)

/-- A node of the group that stands for some of its claims. -/
def NamesClaims (nodeRef : String) (refs : List String) : Prop :=
  (∃ ref ∈ claims, nodeRef = rawClaimNodeRef group ref ∧ refs = [ref]) ∨
    (refs ≠ [] ∧ refs.Nodup ∧ refs ⊆ claims ∧ nodeRef = compactedClaimNodeRef env group refs)

/-- A node of the group that is there. -/
def IsNodeIn (nodes : Table NodeRow.nodeRef) (nodeRef : String) : Prop :=
  IsGroupNode env group claims nodeRef ∧ nodeRef ∈ nodes.keys

def IsCompactedName (nodeRef : String) : Prop :=
  ∃ refs, refs ⊆ claims ∧ nodeRef = compactedClaimNodeRef env group refs

/-- A comparison of two nodes of the group. -/
structure GroupComparison (nodes : Table NodeRow.nodeRef) (row : ComparisonRow) : Prop where
  group_eq : row.group = group
  ref_eq : row.comparisonRef =
    comparisonRef group row.roundIndex row.leftNodeRef row.rightNodeRef
  left : IsNodeIn env group claims nodes row.leftNodeRef
  right : IsNodeIn env group claims nodes row.rightNodeRef
  result : ∀ result ∈ row.resultNodeRef, IsNodeIn env group claims nodes result
  ne : row.leftNodeRef ≠ row.rightNodeRef
  status :
    (row.status = .merged ∧ Superseded nodes row.leftNodeRef ∧ Superseded nodes row.rightNodeRef) ∨
      (row.status = .notMerged ∧ IsCompactedName env group claims row.leftNodeRef ∧
        IsCompactedName env group claims row.rightNodeRef)

/-- A separation of two claims of the group. -/
structure GroupSeparation (row : SeparationEdgeRow) : Prop where
  group_eq : row.group = group
  ref_eq : row.separationRef = originSeparationRef group row.originRefA row.originRefB
  originRefA : row.originRefA ∈ claims
  originRefB : row.originRefB ∈ claims
  lt : row.originRefA < row.originRefB

def IsComparisonName (ref : String) : Prop :=
  ∃ round left right, IsGroupNode env group claims left ∧ IsGroupNode env group claims right ∧
    ref = comparisonRef group round left right

def IsSeparationName (ref : String) : Prop :=
  ∃ first ∈ claims, ∃ second ∈ claims, ref = originSeparationRef group first second

/-- No row of the tables is of the group, or is called as the group calls one. -/
structure FreshGroup (state : ReductionState) : Prop where
  nodes : ∀ row ∈ state.nodes.rows,
    ¬ (row.group = group ∨ IsGroupNode env group claims row.nodeRef)
  comparisons : ∀ row ∈ state.comparisons.rows,
    ¬ (row.group = group ∨ IsComparisonName env group claims row.comparisonRef)
  separationEdges : ∀ row ∈ state.separationEdges.rows,
    ¬ (row.group = group ∨ IsSeparationName group claims row.separationRef)
  incompatibilities : ∀ row ∈ state.incompatibilities.rows, row.group ≠ group

/-- The rows of the group are as it writes them, and no other rows have their
names. -/
structure GroupState (state : ReductionState) : Prop where
  nodes : ∀ row ∈ state.nodes.rows, row.group = group ∨ IsGroupNode env group claims row.nodeRef →
    row.group = group ∧ NamesClaims env group claims row.nodeRef row.sourceClaimRefs
  raw_mem : ∀ ref ∈ claims, rawClaimNodeRef group ref ∈ state.nodes.keys
  comparisons : ∀ row ∈ state.comparisons.rows,
    row.group = group ∨ IsComparisonName env group claims row.comparisonRef →
      GroupComparison env group claims state.nodes row
  separationEdges : ∀ row ∈ state.separationEdges.rows,
    row.group = group ∨ IsSeparationName group claims row.separationRef →
      GroupSeparation group claims row
  incompatibilities : ∀ row ∈ state.incompatibilities.rows, row.group ≠ group

end Group

variable {env : CompactionEnv} {group : GroupKey} {claims : List String}

namespace NamesClaims

variable {nodeRef : String} {refs : List String}

theorem isGroupNode (h : NamesClaims env group claims nodeRef refs) :
    IsGroupNode env group claims nodeRef := by
  rcases h with ⟨ref, href, hname, -⟩ | ⟨-, -, hrefs, hname⟩
  · exact .inl ⟨ref, href, hname⟩
  · exact .inr ⟨refs, hrefs, hname⟩

theorem ne_nil (h : NamesClaims env group claims nodeRef refs) : refs ≠ [] := by
  rcases h with ⟨ref, -, -, rfl⟩ | ⟨hne, -⟩
  · exact List.cons_ne_nil _ _
  · exact hne

theorem nodup (h : NamesClaims env group claims nodeRef refs) : refs.Nodup := by
  rcases h with ⟨ref, -, -, rfl⟩ | ⟨-, hnodup, -⟩
  · exact List.nodup_singleton ref
  · exact hnodup

theorem subset (h : NamesClaims env group claims nodeRef refs) : refs ⊆ claims := by
  rcases h with ⟨ref, href, -, rfl⟩ | ⟨-, -, hrefs, -⟩
  · exact List.cons_subset.mpr ⟨href, List.nil_subset _⟩
  · exact hrefs

end NamesClaims

theorem IsNodeIn.mono {before after : Table NodeRow.nodeRef} (hkeys : before.keys ⊆ after.keys)
    {nodeRef : String} (h : IsNodeIn env group claims before nodeRef) :
    IsNodeIn env group claims after nodeRef :=
  ⟨h.1, hkeys h.2⟩

theorem GroupComparison.mono {before after : Table NodeRow.nodeRef}
    (hgrow : NodesPersist before after) {row : ComparisonRow}
    (h : GroupComparison env group claims before row) :
    GroupComparison env group claims after row where
  group_eq := h.group_eq
  ref_eq := h.ref_eq
  left := h.left.mono hgrow.keys_subset
  right := h.right.mono hgrow.keys_subset
  result := fun result hresult => (h.result result hresult).mono hgrow.keys_subset
  ne := h.ne
  status := by
    rcases h.status with ⟨hstatus, hleft, hright⟩ | hnotMerged
    · exact .inl ⟨hstatus, hgrow.superseded hleft, hgrow.superseded hright⟩
    · exact .inr hnotMerged

namespace GroupState

variable {state : ReductionState}

theorem names (h : GroupState env group claims state) {row : NodeRow}
    (hrow : row ∈ state.nodes.rows) (hgroup : row.group = group) :
    NamesClaims env group claims row.nodeRef row.sourceClaimRefs :=
  (h.nodes row hrow (.inl hgroup)).2

theorem isNodeIn (h : GroupState env group claims state) {row : NodeRow}
    (hrow : row ∈ state.nodes.rows) (hgroup : row.group = group) :
    IsNodeIn env group claims state.nodes row.nodeRef :=
  ⟨(h.names hrow hgroup).isGroupNode, Table.mem_keys.mpr ⟨row, hrow, rfl⟩⟩

theorem isNodeIn_raw (h : GroupState env group claims state) {ref : String} (href : ref ∈ claims) :
    IsNodeIn env group claims state.nodes (rawClaimNodeRef group ref) :=
  ⟨.inl ⟨ref, href, rfl⟩, h.raw_mem ref href⟩

/-- A node of the group that is there has a row of the group. -/
theorem exists_row (h : GroupState env group claims state) {nodeRef : String}
    (hnode : IsNodeIn env group claims state.nodes nodeRef) :
    ∃ row ∈ state.nodes.rows, row.nodeRef = nodeRef ∧ row.group = group := by
  obtain ⟨row, hrow, rfl⟩ := Table.mem_keys.mp hnode.2
  exact ⟨row, hrow, rfl, (h.nodes row hrow (.inr hnode.1)).1⟩

/-- Another table of components changes nothing. -/
theorem withComponents (h : GroupState env group claims state)
    (components : Table ComponentRow.componentRef) :
    GroupState env group claims { state with components := components } :=
  ⟨h.nodes, h.raw_mem, h.comparisons, h.separationEdges, h.incompatibilities⟩

end GroupState

/-! Seeding. -/

theorem seedRawNodes_tables (group : GroupKey) (createdAt : Int) (seeds : List RawNodeSeed)
    (progress : (Nat × Nat) × ReductionState) :
    (seeds.foldl (seedRawNode group createdAt) progress).2.comparisons = progress.2.comparisons ∧
      (seeds.foldl (seedRawNode group createdAt) progress).2.separationEdges =
        progress.2.separationEdges ∧
      (seeds.foldl (seedRawNode group createdAt) progress).2.incompatibilities =
        progress.2.incompatibilities := by
  induction seeds generalizing progress with
  | nil => exact ⟨rfl, rfl, rfl⟩
  | cons seed rest ih => exact ih (seedRawNode group createdAt progress seed)

/-- A fresh group that is seeded is as it writes its rows. -/
theorem groupState_of_seeded {base : ReductionState} {seeds : List RawNodeSeed}
    (hfresh : FreshGroup env group (seeds.map RawNodeSeed.observationRef) base) (createdAt : Int) :
    GroupState env group (seeds.map RawNodeSeed.observationRef)
      (seedInitialPlannerState base group seeds createdAt).2 := by
  obtain ⟨hcomparisons, hedges, hincompatibilities⟩ :=
    seedRawNodes_tables group createdAt seeds ((0, 0), base)
  change (seedInitialPlannerState base group seeds createdAt).2.comparisons = _ at hcomparisons
  change (seedInitialPlannerState base group seeds createdAt).2.separationEdges = _ at hedges
  change (seedInitialPlannerState base group seeds createdAt).2.incompatibilities = _
    at hincompatibilities
  have hnodes := nodes_seedInitialPlannerState base group seeds createdAt
  generalize (seedInitialPlannerState base group seeds createdAt).2 = seeded at *
  constructor
  case nodes =>
    intro row hrow hours
    rw [hnodes] at hrow
    rcases Table.mem_of_mem_foldl_insertOrIgnore hrow with hold | hnew
    · exact absurd hours (hfresh.nodes row hold)
    · obtain ⟨seed, hseed, rfl⟩ := List.mem_map.mp hnew
      exact ⟨rfl, .inl ⟨seed.observationRef, List.mem_map_of_mem hseed, rfl, rfl⟩⟩
  case raw_mem =>
    intro ref href
    obtain ⟨seed, hseed, rfl⟩ := List.mem_map.mp href
    rw [hnodes, Table.mem_keys_foldl_insertOrIgnore]
    exact .inr ⟨_, List.mem_map_of_mem hseed, rfl⟩
  case comparisons =>
    rw [hcomparisons]
    exact fun row hrow hours => absurd hours (hfresh.comparisons row hrow)
  case separationEdges =>
    rw [hedges]
    exact fun row hrow hours => absurd hours (hfresh.separationEdges row hrow)
  case incompatibilities =>
    rw [hincompatibilities]
    exact hfresh.incompatibilities

end CrmBot.Compaction
