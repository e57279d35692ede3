import CrmBot.Compaction.ClaimComponents

/-!
What the groups do not depend on, and the groups of the edges that the handler
builds.
-/

namespace CrmBot.Compaction

open CrmBot.Python FailingFold Components

namespace DraftClaimCompactionGroupingPolicy

variable {Score : Type} {policy : DraftClaimCompactionGroupingPolicy Score}
  {sha256Hexdigest : String → String} {claims others : List EmbeddedDraftClaim}
  {members : List String}

/-! Two graphs with the same components. -/

theorem collectGroup_congr {graph other : ClaimGraph}
    (hbyRef : embeddedClaimByRef others = embeddedClaimByRef claims) {ref : String}
    (hcomponent : ∀ members, graph.component ref = .ok members →
      ∃ reordered, other.component ref = .ok reordered ∧ reordered.Perm members)
    {seen seenOther : List String}
    {groups : List (DraftClaimCompactionGroupCandidate Score)}
    {after : List String × List (DraftClaimCompactionGroupCandidate Score)}
    (hrun : policy.collectGroup sha256Hexdigest claims graph (seen, groups) ref = .ok after)
    (hseen : ∀ ref, ref ∈ seenOther ↔ ref ∈ seen) :
    ∃ seenAfter, policy.collectGroup sha256Hexdigest others other (seenOther, groups) ref =
        .ok (seenAfter, after.2) ∧ ∀ ref, ref ∈ seenAfter ↔ ref ∈ after.1 := by
  unfold collectGroup at hrun ⊢
  dsimp only at hrun ⊢
  by_cases hin : ref ∈ seen
  · rw [if_pos hin] at hrun
    rw [if_pos ((hseen ref).mpr hin)]
    cases hrun
    exact ⟨seenOther, rfl, hseen⟩
  · rw [if_neg hin] at hrun
    rw [if_neg fun h => hin ((hseen ref).mp h)]
    obtain ⟨members, hmembers, hrest⟩ := bind_eq_ok.mp hrun
    obtain ⟨group, hgroup, hafter⟩ := bind_eq_ok.mp hrest
    cases hafter
    obtain ⟨reordered, hreordered, hperm⟩ := hcomponent members hmembers
    rw [← groupOfMembers_congr hbyRef hperm] at hgroup
    refine ⟨seenOther ++ reordered,
      bind_eq_ok.mpr ⟨reordered, hreordered, bind_eq_ok.mpr ⟨group, hgroup, rfl⟩⟩, fun other => ?_⟩
    rw [List.mem_append, List.mem_append, hseen, hperm.mem_iff]

theorem collectGroups_congr {graph other : ClaimGraph}
    (hbyRef : embeddedClaimByRef others = embeddedClaimByRef claims) {refs : List String}
    (hcomponent : ∀ ref ∈ refs, ∀ members, graph.component ref = .ok members →
      ∃ reordered, other.component ref = .ok reordered ∧ reordered.Perm members)
    {seen seenOther : List String}
    {groups : List (DraftClaimCompactionGroupCandidate Score)}
    {last : List String × List (DraftClaimCompactionGroupCandidate Score)}
    (hrun : refs.foldlM (policy.collectGroup sha256Hexdigest claims graph) (seen, groups) =
      .ok last)
    (hseen : ∀ ref, ref ∈ seenOther ↔ ref ∈ seen) :
    ∃ seenLast, refs.foldlM (policy.collectGroup sha256Hexdigest others other)
      (seenOther, groups) = .ok (seenLast, last.2) := by
  induction refs generalizing seen seenOther groups with
  | nil =>
    cases hrun
    exact ⟨seenOther, rfl⟩
  | cons ref rest ih =>
    rw [List.foldlM_cons, bind_eq_ok] at hrun
    obtain ⟨middle, hstep, hrest⟩ := hrun
    obtain ⟨seenMiddle, hstep', hseen'⟩ :=
      collectGroup_congr hbyRef (hcomponent ref List.mem_cons_self) hstep hseen
    obtain ⟨seenLast, hlast⟩ := ih (fun other hother => hcomponent other
      (List.mem_cons_of_mem _ hother)) hrest hseen'
    refine ⟨seenLast, ?_⟩
    rw [List.foldlM_cons, bind_eq_ok]
    exact ⟨_, hstep', hlast⟩

/-! The groups of the policy. -/

/-- The groups are the classes of the claims under paths of accepted edges. -/
structure AreComponents [LT Score] (policy : DraftClaimCompactionGroupingPolicy Score)
    (claims : List EmbeddedDraftClaim) (edges : List (DraftClaimCompactionEdgeCandidate Score))
    (groups : List (DraftClaimCompactionGroupCandidate Score)) : Prop where
  cover : ∀ claim ∈ claims, ∃ group ∈ groups, claim.observationRef ∈ group.memberObservationRefs
  known : ∀ group ∈ groups, ∀ ref ∈ group.memberObservationRefs,
    ∃ claim ∈ claims, claim.observationRef = ref
  disjoint : groups.Pairwise fun first second =>
    List.Disjoint first.memberObservationRefs second.memberObservationRefs
  connected_iff : ∀ left ∈ claims, ∀ right ∈ claims,
    (∃ group ∈ groups, left.observationRef ∈ group.memberObservationRefs ∧
      right.observationRef ∈ group.memberObservationRefs) ↔
        policy.Connected edges left.observationRef right.observationRef

section Results

variable [LT Score] [DecidableLT Score]
  {edges otherEdges : List (DraftClaimCompactionEdgeCandidate Score)} {graph : ClaimGraph}

theorem buildGraph_spec (h : policy.buildGraph claims edges = .ok graph) :
    graph.refs = claimRefs claims ∧ graph.Adjacent = policy.Joined edges ∧
      ∀ left right, policy.Joined edges left right → left ∈ claimRefs claims := by
  obtain ⟨hrefs, hadjacent, hknown⟩ := addEdges_spec h
  refine ⟨hrefs, ?_, hknown⟩
  funext left right
  rw [hadjacent]
  simp [ClaimGraph.Adjacent]

/-- The graph is closed, and its paths are the paths of accepted edges. -/
theorem closed_of_buildGraph (h : policy.buildGraph claims edges = .ok graph) :
    ∀ left right, graph.Adjacent left right → right ∈ graph.refs := by
  obtain ⟨hrefs, hadjacent, hknown⟩ := buildGraph_spec h
  intro left right hstep
  rw [hrefs]
  rw [hadjacent] at hstep
  exact hknown right left hstep.symm

theorem equivalence_of_buildGraph (h : policy.buildGraph claims edges = .ok graph) :
    Equivalence (Relation.ReflTransGen graph.Adjacent) := by
  rw [(buildGraph_spec h).2.1]
  exact equivalence_connected

theorem exists_buildGraph
    (h : ∀ left right, policy.Joined edges left right → left ∈ claimRefs claims) :
    ∃ graph, policy.buildGraph claims edges = .ok graph :=
  exists_addEdges h

variable (policy sha256Hexdigest) in
/-- What the loop over all references collects. -/
theorem collected_of_buildGraph (h : policy.buildGraph claims edges = .ok graph) :
    ∃ last, (sorted (claimRefs claims)).foldlM (policy.collectGroup sha256Hexdigest claims graph)
        ([], []) = .ok last ∧
      Collected (policy.Connected edges) claims (sorted (claimRefs claims)) last := by
  have hstart : Collected (Relation.ReflTransGen graph.Adjacent) claims []
      (([], []) : List String × List (DraftClaimCompactionGroupCandidate Score)) :=
    ⟨.nil, by simp, by simp, by simp⟩
  have hrun := collectGroups_spec policy sha256Hexdigest (buildGraph_spec h).1
    (closed_of_buildGraph h) (equivalence_of_buildGraph h) hstart
    (fun ref href => mem_sorted.mp href)
  rw [(buildGraph_spec h).2.1] at hrun
  exact hrun

/-- Groups come out unless an accepted edge has an end that is no claim. -/
theorem exists_buildGroups_iff :
    (∃ groups, policy.buildGroups sha256Hexdigest claims edges = .ok groups) ↔
      ∀ left right, policy.Joined edges left right → left ∈ claimRefs claims := by
  constructor
  · rintro ⟨groups, hrun⟩
    obtain ⟨graph, hgraph, -⟩ := bind_eq_ok.mp hrun
    exact (buildGraph_spec hgraph).2.2
  · intro hknown
    obtain ⟨graph, hgraph⟩ := exists_buildGraph hknown
    obtain ⟨last, hlast, -⟩ := collected_of_buildGraph policy sha256Hexdigest hgraph
    exact ⟨_, bind_eq_ok.mpr ⟨graph, hgraph, bind_eq_ok.mpr ⟨last, hlast, rfl⟩⟩⟩

/-- The groups are those collected, by their references. -/
theorem collected_of_buildGroups
    {groups : List (DraftClaimCompactionGroupCandidate Score)}
    (hrun : policy.buildGroups sha256Hexdigest claims edges = .ok groups) :
    ∃ last, Collected (policy.Connected edges) claims (sorted (claimRefs claims)) last ∧
      groups.Perm last.2 := by
  obtain ⟨graph, hgraph, hrest⟩ := bind_eq_ok.mp hrun
  obtain ⟨last, hloop, hsorted⟩ := bind_eq_ok.mp hrest
  obtain ⟨collected, hcollected, hspec⟩ := collected_of_buildGraph policy sha256Hexdigest hgraph
  rw [hcollected, Except.ok.injEq] at hloop
  cases hsorted
  rw [← hloop]
  exact ⟨collected, hspec, List.perm_insertionSort _ _⟩

theorem areComponents_of_buildGroups
    {groups : List (DraftClaimCompactionGroupCandidate Score)}
    (hrun : policy.buildGroups sha256Hexdigest claims edges = .ok groups) :
    policy.AreComponents claims edges groups := by
  obtain ⟨last, hspec, hperm⟩ := collected_of_buildGroups hrun
  have hsweep := hspec.sweep.of_perm (hperm.symm.map fun group => group.memberObservationRefs)
  have href : ∀ claim ∈ claims, claim.observationRef ∈ sorted (claimRefs claims) :=
    fun claim hclaim => mem_sorted.mpr (mem_claimRefs.mpr ⟨claim, hclaim, rfl⟩)
  refine ⟨fun claim hclaim => ?_, fun group hgroup ref hmem => ?_, ?_, fun left hleft right _ => ?_⟩
  · simpa using hsweep.covered _ (href claim hclaim)
  · exact mem_claimRefs.mp (hspec.known group (hperm.mem_iff.mp hgroup) ref hmem)
  · exact List.pairwise_map.mp hsweep.disjoint
  · rw [← hsweep.shared_iff equivalence_connected (href left hleft)]
    simp

/-- A claim that alone has its reference is listed in its group. -/
theorem lists_of_buildGroups (hnames : RefsNameClaims claims)
    {groups : List (DraftClaimCompactionGroupCandidate Score)}
    (hrun : policy.buildGroups sha256Hexdigest claims edges = .ok groups) :
    ∀ claim ∈ claims, ∃ group ∈ groups, group.Lists claim := by
  intro claim hclaim
  obtain ⟨last, hspec, hperm⟩ := collected_of_buildGroups hrun
  obtain ⟨group, hgroup, hmem⟩ := (areComponents_of_buildGroups hrun).cover claim hclaim
  have hself := embeddedClaimByRef_self hnames hclaim
  exact ⟨group, hgroup, hspec.lists group (hperm.mem_iff.mp hgroup) claim hmem hself⟩

/-- The same claims by their references, with edges that join the same pairs,
have the same groups. -/
theorem buildGroups_congr (hbyRef : embeddedClaimByRef others = embeddedClaimByRef claims)
    (hrefs : sorted (claimRefs others) = sorted (claimRefs claims))
    (hjoined : ∀ left right, policy.Joined otherEdges left right ↔ policy.Joined edges left right)
    {groups : List (DraftClaimCompactionGroupCandidate Score)}
    (hrun : policy.buildGroups sha256Hexdigest claims edges = .ok groups) :
    policy.buildGroups sha256Hexdigest others otherEdges = .ok groups := by
  have hknown : ∀ {ref}, ref ∈ claimRefs others ↔ ref ∈ claimRefs claims := by
    intro ref
    rw [← mem_sorted, hrefs, mem_sorted]
  obtain ⟨graph, hgraph, hrest⟩ := bind_eq_ok.mp hrun
  obtain ⟨last, hloop, hsorted⟩ := bind_eq_ok.mp hrest
  cases hsorted
  obtain ⟨other, hother⟩ : ∃ other, policy.buildGraph others otherEdges = .ok other := by
    apply exists_buildGraph
    intro left right hjoins
    exact hknown.mpr ((buildGraph_spec hgraph).2.2 left right ((hjoined left right).mp hjoins))
  have hadjacent : other.Adjacent = graph.Adjacent := by
    rw [(buildGraph_spec hgraph).2.1, (buildGraph_spec hother).2.1]
    funext left right
    exact propext (hjoined left right)
  have hcomponent : ∀ ref ∈ sorted (claimRefs claims), ∀ members,
      graph.component ref = .ok members →
        ∃ reordered, other.component ref = .ok reordered ∧ reordered.Perm members := by
    intro ref href members hmembers
    rw [mem_sorted] at href
    have hhere : ref ∈ graph.refs := (buildGraph_spec hgraph).1 ▸ href
    have hthere : ref ∈ other.refs := (buildGraph_spec hother).1 ▸ hknown.mpr href
    obtain ⟨found, hfound, hnodup, hreach⟩ :=
      ClaimGraph.component_spec (closed_of_buildGraph hgraph) hhere
    obtain ⟨reordered, hreordered, hnodup', hreach'⟩ :=
      ClaimGraph.component_spec (closed_of_buildGraph hother) hthere
    rw [hmembers, Except.ok.injEq] at hfound
    subst hfound
    refine ⟨reordered, hreordered, (List.perm_ext_iff_of_nodup hnodup' hnodup).mpr fun node => ?_⟩
    rw [hreach, hreach', hadjacent]
  obtain ⟨seenLast, hlast⟩ := collectGroups_congr hbyRef hcomponent hloop fun ref => Iff.rfl
  rw [← hrefs] at hlast
  exact bind_eq_ok.mpr ⟨other, hother, bind_eq_ok.mpr ⟨_, hlast, rfl⟩⟩

/-- The groups are the components of the graph of the accepted edges. They do not
depend on the order, the direction and the repetition of the edges, nor on the
order and the repetition of claims that one reference tells apart. -/
theorem buildGroups_components (policy : DraftClaimCompactionGroupingPolicy Score)
    (sha256Hexdigest : String → String) (claims : List EmbeddedDraftClaim)
    (edges : List (DraftClaimCompactionEdgeCandidate Score)) :
    ((∃ groups, policy.buildGroups sha256Hexdigest claims edges = .ok groups) ↔
        ∀ left right, policy.Joined edges left right → left ∈ claimRefs claims) ∧
      ∀ groups, policy.buildGroups sha256Hexdigest claims edges = .ok groups →
        policy.AreComponents claims edges groups ∧
        (∀ otherEdges : List (DraftClaimCompactionEdgeCandidate Score),
          (∀ left right, policy.Joined otherEdges left right ↔ policy.Joined edges left right) →
            policy.buildGroups sha256Hexdigest claims otherEdges = .ok groups) ∧
        (RefsNameClaims claims →
          (∀ claim ∈ claims, ∃ group ∈ groups, group.Lists claim) ∧
          ∀ (others : List EmbeddedDraftClaim)
            (otherEdges : List (DraftClaimCompactionEdgeCandidate Score)),
            (∀ claim, claim ∈ others ↔ claim ∈ claims) →
            (∀ left right, policy.Joined otherEdges left right ↔ policy.Joined edges left right) →
              policy.buildGroups sha256Hexdigest others otherEdges = .ok groups) := by
  refine ⟨exists_buildGroups_iff, fun groups hrun => ⟨areComponents_of_buildGroups hrun, ?_, ?_⟩⟩
  · intro otherEdges hjoined
    exact buildGroups_congr rfl rfl hjoined hrun
  · intro hnames
    refine ⟨lists_of_buildGroups hnames hrun, fun others otherEdges hsame hjoined => ?_⟩
    exact buildGroups_congr (embeddedClaimByRef_congr hnames hsame) (sorted_claimRefs_congr hsame)
      hjoined hrun

end Results

/-! The edges that the handler hands on. -/

section Handler

variable {measure : EmbeddedDraftClaim → EmbeddedDraftClaim → Except Fault (Score × Bool)}
  {edges : List (DraftClaimCompactionEdgeCandidate Score)}

theorem buildEdge_spec {pair : EmbeddedDraftClaim × EmbeddedDraftClaim}
    {built : DraftClaimCompactionEdgeCandidate Score × Bool}
    (h : buildEdge measure sha256Hexdigest pair = .ok built) :
    pair.1.observationRef < pair.2.observationRef ∧
      built.1.leftObservationRef = pair.1.observationRef ∧
      built.1.rightObservationRef = pair.2.observationRef := by
  simp only [buildEdge, bind_eq_ok] at h
  obtain ⟨⟨score, admitted⟩, -, edge, hedge, hbuilt⟩ := h
  unfold DraftClaimCompactionEdgeCandidate.make at hedge
  split at hedge
  · next hordered =>
    cases hedge
    cases hbuilt
    exact ⟨hordered, rfl, rfl⟩
  · cases hedge

variable [LT Score] [DecidableLT Score]

variable (policy) in
/-- Built edges show that every claim has a reference of its own, and they join
claims. -/
theorem buildEdges_spec (h : buildEdges measure sha256Hexdigest claims = .ok edges) :
    RefsNameClaims claims ∧
      ∀ left right, policy.Joined edges left right → left ∈ claimRefs claims := by
  obtain ⟨built, hbuilt, hsorted⟩ := bind_eq_ok.mp h
  cases hsorted
  have hall := forall₂_of_mapM hbuilt
  constructor
  · have hperm := List.perm_insertionSort (fun left right : EmbeddedDraftClaim =>
      left.observationRef ≤ right.observationRef) claims
    have hnodup : (claims.map fun claim => claim.observationRef).Nodup := by
      rw [← (hperm.map fun claim => claim.observationRef).nodup_iff, ← forall_laterPairs_ne_iff,
        laterPairs_map]
      intro refs hrefs
      obtain ⟨pair, hpair, rfl⟩ := List.mem_map.mp hrefs
      obtain ⟨edge, -, hedge⟩ := exists_of_mem_forall₂ hall hpair
      exact ne_of_lt (buildEdge_spec hedge).1
    intro first hfirst second hsecond heq
    exact List.inj_on_of_nodup_map hnodup hfirst hsecond heq
  · rintro left right ⟨edge, hedge, -, hends⟩
    rw [List.mem_insertionSort] at hedge
    obtain ⟨item, hitem, rfl⟩ := List.mem_map.mp hedge
    obtain ⟨pair, hpair, hmade⟩ :=
      exists_of_mem_forall₂ hall.flip (List.mem_of_mem_filter hitem)
    obtain ⟨-, hleft, hright⟩ := buildEdge_spec hmade
    have hmem := mem_of_mem_laterPairs hpair
    rw [List.mem_insertionSort, List.mem_insertionSort] at hmem
    rcases hends with ⟨rfl, -⟩ | ⟨-, rfl⟩
    · exact hleft ▸ mem_claimRefs.mpr ⟨pair.1, hmem.1, rfl⟩
    · exact hright ▸ mem_claimRefs.mpr ⟨pair.2, hmem.2, rfl⟩

/-- The handler groups the claims by the edges it built of them: this gives the
components, with every claim in its group. -/
theorem groups_of_builtEdges (policy : DraftClaimCompactionGroupingPolicy Score)
    (h : buildEdges measure sha256Hexdigest claims = .ok edges) :
    ∃ groups, policy.buildGroups sha256Hexdigest claims edges = .ok groups ∧
      policy.AreComponents claims edges groups ∧
      ∀ claim ∈ claims, ∃ group ∈ groups, group.Lists claim := by
  obtain ⟨hnames, hknown⟩ := buildEdges_spec policy h
  obtain ⟨groups, hrun⟩ : ∃ groups, policy.buildGroups sha256Hexdigest claims edges = .ok groups :=
    exists_buildGroups_iff.mpr hknown
  exact ⟨groups, hrun, areComponents_of_buildGroups hrun, lists_of_buildGroups hnames hrun⟩

end Handler

/-! Claims that share a reference. -/

/-- Of two claims with one reference, the later one makes the group. -/
theorem buildGroups_sharedRef [LT Score] [DecidableLT Score]
    (policy : DraftClaimCompactionGroupingPolicy Score) (sha256Hexdigest : String → String)
    {first second : EmbeddedDraftClaim} (hsame : first.observationRef = second.observationRef) :
    policy.buildGroups sha256Hexdigest [first, second] [] =
      .ok [policy.groupCandidate sha256Hexdigest second [second]] := by
  let ref := second.observationRef
  have hrefs : claimRefs [first, second] = [ref] := by simp [claimRefs, hsame, ref]
  have hgraph : policy.buildGraph [first, second] [] = .ok ⟨[ref], fun _ => []⟩ := by
    rw [← hrefs]
    rfl
  have hcomponent : ClaimGraph.component ⟨[ref], fun _ => []⟩ ref = .ok [ref] := by
    simp [ClaimGraph.component, ClaimGraph.componentLoop, ClaimGraph.newNeighbours, sorted]
  have hgroup : policy.groupOfMembers sha256Hexdigest [first, second] [ref] =
      .ok (policy.groupCandidate sha256Hexdigest second [second]) := by
    have hfound : embeddedClaimByRef [first, second] ref = .ok second := by
      simp [embeddedClaimByRef, ref]
    exact bind_eq_ok.mpr ⟨[second], mapM_eq_ok_iff.mpr (.cons hfound .nil), rfl⟩
  have hloop : policy.collectGroup sha256Hexdigest [first, second] ⟨[ref], fun _ => []⟩
      ([], []) ref = .ok ([ref], [policy.groupCandidate sha256Hexdigest second [second]]) := by
    unfold collectGroup
    rw [if_neg List.not_mem_nil]
    exact bind_eq_ok.mpr ⟨_, hcomponent, bind_eq_ok.mpr ⟨_, hgroup, rfl⟩⟩
  have hloops : (sorted (claimRefs [first, second])).foldlM
      (policy.collectGroup sha256Hexdigest [first, second] ⟨[ref], fun _ => []⟩) ([], []) =
        .ok ([ref], [policy.groupCandidate sha256Hexdigest second [second]]) := by
    rw [hrefs]
    exact bind_eq_ok.mpr ⟨_, hloop, rfl⟩
  exact bind_eq_ok.mpr ⟨_, hgraph, bind_eq_ok.mpr ⟨_, hloops, rfl⟩⟩

def storedClaim (ref run : String) (href : isBlank ref = false) (hrun : isBlank run = false) :
    EmbeddedDraftClaim where
  observationRef := ref
  claim := "Delivery takes two days"
  possibleQuestions := []
  exclusionScope := []
  granularity := "atomic"
  embeddingText := "Delivery takes two days"
  observationRef_text := href
  embeddingRef := "embedding:" ++ ref
  workflowRunId := run
  sourceDocumentRef := "document-1"
  sourceUnitRef := "unit:" ++ ref
  embeddingModelId := "sentence-transformers/all-MiniLM-L6-v2"
  workflowRunId_text := hrun

/-- The digests of `run-1:a` and `run-2:a`. -/
def sampleDigest (text : String) : String :=
  if text = "run-1:a" then "0288557e47ac0fd56795e4c8a7054f1ee9773a82ddeac1751191dd1c82d5cacb"
  else "c988f0357597a3dbe921d905ad6414ec5c47bcabb75bb6ed84807d6410c9e489"

/-- With two claims of one reference in another order the group has another name. -/
theorem sharedRef_order_matters :
    let policy : DraftClaimCompactionGroupingPolicy ℚ :=
      ⟨"candidate_connected_components_v1", 78 / 100⟩
    let first := storedClaim "a" "run-1" rfl rfl
    let second := storedClaim "a" "run-2" rfl rfl
    ∃ groups others, policy.buildGroups sampleDigest [first, second] [] = .ok groups ∧
      policy.buildGroups sampleDigest [second, first] [] = .ok others ∧
      groups.map (fun group => group.key.groupRef) ≠
          others.map fun group => group.key.groupRef := by
  intro policy first second
  refine ⟨_, _, buildGroups_sharedRef policy sampleDigest rfl,
    buildGroups_sharedRef policy sampleDigest rfl, ?_⟩
  decide +kernel

end DraftClaimCompactionGroupingPolicy

end CrmBot.Compaction
