import CrmBot.Compaction.ClaimGrouping

/-!
The groups are the components of the graph of the accepted edges.
-/

namespace CrmBot.Compaction

open CrmBot.Python FailingFold Components

/-! The search of one component. -/

namespace ClaimGraph

variable {graph after : ClaimGraph} {ref neighbour start : String}

def Adjacent (graph : ClaimGraph) (ref other : String) : Prop := other ∈ graph.neighbours ref

theorem addNeighbour_spec (h : graph.addNeighbour ref neighbour = .ok after) :
    ref ∈ graph.refs ∧ after.refs = graph.refs ∧
      ∀ left right, after.Adjacent left right ↔
        graph.Adjacent left right ∨ left = ref ∧ right = neighbour := by
  unfold addNeighbour at h
  split at h
  · next hknown =>
    cases h
    refine ⟨hknown, rfl, fun left right => ?_⟩
    unfold Adjacent
    dsimp only
    rcases eq_or_ne left ref with rfl | hne
    · rw [Function.update_self, List.mem_insert_iff]
      simp [or_comm]
    · rw [Function.update_of_ne hne]
      simp [hne]
  · cases h

theorem exists_addNeighbour (hknown : ref ∈ graph.refs) (neighbour : String) :
    ∃ after, graph.addNeighbour ref neighbour = .ok after := by
  unfold addNeighbour
  rw [if_pos hknown]
  exact ⟨_, rfl⟩

theorem mem_newNeighbours {found : List String} {current other : String} :
    other ∈ graph.newNeighbours current found ↔ graph.Adjacent current other ∧ other ∉ found := by
  unfold newNeighbours
  rw [mem_sorted, List.mem_filter, decide_eq_true_eq]
  exact Iff.rfl

/-- What a search finds is found once, and it ends with nothing pending. -/
theorem componentLoop_spec
    (hclosed : ∀ left right, graph.Adjacent left right → right ∈ graph.refs)
    {found pending : List String} (hsearch : Search graph.Adjacent start found pending)
    (hpending : ∀ ref ∈ pending, ref ∈ graph.refs) (hfound : found.Nodup) :
    ∃ members, graph.componentLoop found pending = .ok members ∧ members.Nodup ∧
      Search graph.Adjacent start members [] := by
  induction found, pending using componentLoop.induct graph with
  | case1 found =>
    rw [componentLoop]
    exact ⟨found, rfl, hfound, hsearch⟩
  | case2 found current pending hmem ih =>
    rw [componentLoop, if_pos hmem]
    apply ih (hsearch.skip hmem) _ hfound
    exact fun ref href => hpending ref (List.mem_cons_of_mem _ href)
  | case3 found current pending hmem hknown ih =>
    rw [componentLoop, if_neg hmem, if_pos hknown]
    apply ih
    · exact hsearch.visit fun node => mem_newNeighbours
    · intro ref href
      rcases List.mem_append.mp href with hnew | hrest
      · exact hclosed current ref (mem_newNeighbours.mp hnew).1
      · exact hpending ref (List.mem_cons_of_mem _ hrest)
    · exact List.nodup_append.mpr ⟨hfound, List.nodup_singleton _, by
        intro ref href other hother heq
        rw [List.mem_singleton.mp hother] at heq
        exact hmem (heq ▸ href)⟩
  | case4 found current pending hmem hknown =>
    exact absurd (hpending current List.mem_cons_self) hknown

theorem component_spec (hclosed : ∀ left right, graph.Adjacent left right → right ∈ graph.refs)
    (hstart : start ∈ graph.refs) :
    ∃ members, graph.component start = .ok members ∧ members.Nodup ∧
      ∀ ref, ref ∈ members ↔ Relation.ReflTransGen graph.Adjacent start ref := by
  have hpending : ∀ ref ∈ [start], ref ∈ graph.refs := by
    intro ref href
    rwa [List.mem_singleton.mp href]
  obtain ⟨members, hrun, hnodup, hsearch⟩ :=
    componentLoop_spec hclosed (Search.init start) hpending List.nodup_nil
  exact ⟨members, hrun, hnodup, fun ref => hsearch.mem_found_iff⟩

end ClaimGraph

/-! The graph of the accepted edges. -/

namespace DraftClaimCompactionGroupingPolicy

variable {Score : Type} [LT Score] (policy : DraftClaimCompactionGroupingPolicy Score)

/-- The edge is accepted and has these two ends, in either direction. -/
def Joins (edge : DraftClaimCompactionEdgeCandidate Score) (left right : String) : Prop :=
  ¬ edge.combinedScore < policy.groupThreshold ∧
    (edge.leftObservationRef = left ∧ edge.rightObservationRef = right ∨
      edge.leftObservationRef = right ∧ edge.rightObservationRef = left)

def Joined (edges : List (DraftClaimCompactionEdgeCandidate Score)) (left right : String) : Prop :=
  ∃ edge ∈ edges, policy.Joins edge left right

/-- There is a path of accepted edges. -/
def Connected (edges : List (DraftClaimCompactionEdgeCandidate Score)) : String → String → Prop :=
  Relation.ReflTransGen (policy.Joined edges)

variable {policy} {edge : DraftClaimCompactionEdgeCandidate Score}
  {edges : List (DraftClaimCompactionEdgeCandidate Score)} {graph after : ClaimGraph}

theorem Joined.symm {left right : String} (h : policy.Joined edges left right) :
    policy.Joined edges right left := by
  obtain ⟨edge, hedge, haccepted, hends⟩ := h
  exact ⟨edge, hedge, haccepted, hends.symm⟩

theorem equivalence_connected : Equivalence (policy.Connected edges) :=
  equivalence_reflTransGen Joined.symm

variable [DecidableLT Score]

theorem addEdge_spec (h : policy.addEdge graph edge = .ok after) :
    after.refs = graph.refs ∧
      (∀ left right, after.Adjacent left right ↔
        graph.Adjacent left right ∨ policy.Joins edge left right) ∧
      ∀ left right, policy.Joins edge left right → left ∈ graph.refs := by
  unfold addEdge at h
  split at h
  · next hbelow =>
    cases h
    have hnone : ∀ left right, ¬ policy.Joins edge left right := fun _ _ hjoins => hjoins.1 hbelow
    exact ⟨rfl, fun left right => (or_iff_left (hnone left right)).symm,
      fun left right hjoins => absurd hjoins (hnone left right)⟩
  · next haccepted =>
    obtain ⟨middle, hfirst, hsecond⟩ := bind_eq_ok.mp h
    obtain ⟨hleft, hrefs, hmiddle⟩ := ClaimGraph.addNeighbour_spec hfirst
    obtain ⟨hright, hrefs', hafter⟩ := ClaimGraph.addNeighbour_spec hsecond
    rw [hrefs] at hright
    refine ⟨hrefs'.trans hrefs, fun left right => ?_, fun left right hjoins => ?_⟩
    · rw [hafter, hmiddle, or_assoc]
      unfold Joins
      grind
    · rcases hjoins.2 with ⟨rfl, -⟩ | ⟨-, rfl⟩
      · exact hleft
      · exact hright

theorem exists_addEdge (h : ∀ left right, policy.Joins edge left right → left ∈ graph.refs) :
    ∃ after, policy.addEdge graph edge = .ok after := by
  unfold addEdge
  split
  · exact ⟨graph, rfl⟩
  · next haccepted =>
    obtain ⟨middle, hmiddle⟩ := ClaimGraph.exists_addNeighbour
      (h edge.leftObservationRef edge.rightObservationRef ⟨haccepted, .inl ⟨rfl, rfl⟩⟩)
      edge.rightObservationRef
    have hright := h edge.rightObservationRef edge.leftObservationRef
      ⟨haccepted, .inr ⟨rfl, rfl⟩⟩
    rw [← (ClaimGraph.addNeighbour_spec hmiddle).2.1] at hright
    obtain ⟨after, hafter⟩ := ClaimGraph.exists_addNeighbour hright edge.leftObservationRef
    exact ⟨after, bind_eq_ok.mpr ⟨middle, hmiddle, hafter⟩⟩

/-- The graph after some edges has the neighbours that these join. -/
theorem addEdges_spec (h : edges.foldlM policy.addEdge graph = .ok after) :
    after.refs = graph.refs ∧
      (∀ left right, after.Adjacent left right ↔
        graph.Adjacent left right ∨ policy.Joined edges left right) ∧
      ∀ left right, policy.Joined edges left right → left ∈ graph.refs := by
  induction edges generalizing graph with
  | nil =>
    cases h
    simp [Joined]
  | cons edge rest ih =>
    rw [List.foldlM_cons, bind_eq_ok] at h
    obtain ⟨middle, hedge, hrest⟩ := h
    obtain ⟨hrefs, hmiddle, hknown⟩ := addEdge_spec hedge
    obtain ⟨hrefs', hafter, hknown'⟩ := ih hrest
    refine ⟨hrefs'.trans hrefs, fun left right => ?_, fun left right hjoined => ?_⟩
    · rw [hafter, hmiddle, or_assoc]
      simp [Joined]
    · obtain ⟨other, hother, hjoins⟩ := hjoined
      rcases List.mem_cons.mp hother with rfl | hmem
      · exact hknown left right hjoins
      · exact hrefs ▸ hknown' left right ⟨other, hmem, hjoins⟩

theorem exists_addEdges (h : ∀ left right, policy.Joined edges left right → left ∈ graph.refs) :
    ∃ after, edges.foldlM policy.addEdge graph = .ok after := by
  induction edges generalizing graph with
  | nil => exact ⟨graph, rfl⟩
  | cons edge rest ih =>
    obtain ⟨middle, hmiddle⟩ := exists_addEdge fun left right hjoins =>
      h left right ⟨edge, List.mem_cons_self, hjoins⟩
    obtain ⟨after, hafter⟩ : ∃ after, rest.foldlM policy.addEdge middle = .ok after := by
      apply ih
      rintro left right ⟨other, hother, hjoins⟩
      rw [(addEdge_spec hmiddle).1]
      exact h left right ⟨other, List.mem_cons_of_mem _ hother, hjoins⟩
    refine ⟨after, ?_⟩
    rw [List.foldlM_cons, bind_eq_ok]
    exact ⟨middle, hmiddle, hafter⟩

end DraftClaimCompactionGroupingPolicy

/-! The claims of a group. -/

section Claims

variable {claims others : List EmbeddedDraftClaim} {claim : EmbeddedDraftClaim} {ref : String}

/-- Claims with one reference are one claim. -/
def RefsNameClaims (claims : List EmbeddedDraftClaim) : Prop :=
  ∀ first ∈ claims, ∀ second ∈ claims,
    first.observationRef = second.observationRef → first = second

theorem mem_claimRefs :
    ref ∈ claimRefs claims ↔ ∃ claim ∈ claims, claim.observationRef = ref := by
  unfold claimRefs
  rw [List.mem_dedup, List.mem_map]

theorem embeddedClaimByRef_spec (h : embeddedClaimByRef claims ref = .ok claim) :
    claim ∈ claims ∧ claim.observationRef = ref := by
  unfold embeddedClaimByRef at h
  split at h
  · next found hfind =>
    cases h
    exact ⟨List.mem_reverse.mp (List.mem_of_find?_eq_some hfind), by
      simpa using List.find?_some hfind⟩
  · cases h

theorem exists_embeddedClaimByRef (h : ref ∈ claimRefs claims) :
    ∃ claim, embeddedClaimByRef claims ref = .ok claim := by
  obtain ⟨claim, hclaim, href⟩ := mem_claimRefs.mp h
  unfold embeddedClaimByRef
  split
  · next found _ => exact ⟨found, rfl⟩
  · next hnone =>
    have hdiffers := List.find?_eq_none.mp hnone claim (List.mem_reverse.mpr hclaim)
    simp [href] at hdiffers

theorem embeddedClaimByRef_self (hnames : RefsNameClaims claims) (hclaim : claim ∈ claims) :
    embeddedClaimByRef claims claim.observationRef = .ok claim := by
  obtain ⟨found, hfound⟩ := exists_embeddedClaimByRef (mem_claimRefs.mpr ⟨claim, hclaim, rfl⟩)
  obtain ⟨hmem, href⟩ := embeddedClaimByRef_spec hfound
  rw [hfound, hnames found hmem claim hclaim href]

/-- The order of the claims and their repetition do not matter to `by_ref`. -/
theorem embeddedClaimByRef_congr (hnames : RefsNameClaims claims)
    (hsame : ∀ claim, claim ∈ others ↔ claim ∈ claims) :
    embeddedClaimByRef others = embeddedClaimByRef claims := by
  have hnames' : RefsNameClaims others := fun first hfirst second hsecond =>
    hnames first ((hsame first).mp hfirst) second ((hsame second).mp hsecond)
  funext ref
  by_cases hknown : ref ∈ claimRefs claims
  · obtain ⟨claim, hclaim, rfl⟩ := mem_claimRefs.mp hknown
    rw [embeddedClaimByRef_self hnames hclaim,
      embeddedClaimByRef_self hnames' ((hsame claim).mpr hclaim)]
  · have hunknown : ∀ {list : List EmbeddedDraftClaim}, ref ∉ claimRefs list →
        embeddedClaimByRef list ref = .error (.keyError ref) := by
      intro list hlist
      unfold embeddedClaimByRef
      split
      · next found hfind =>
        refine absurd (mem_claimRefs.mpr ⟨found, ?_, by simpa using List.find?_some hfind⟩) hlist
        exact List.mem_reverse.mp (List.mem_of_find?_eq_some hfind)
      · rfl
    rw [hunknown hknown, hunknown]
    rw [mem_claimRefs] at hknown ⊢
    simpa [hsame] using hknown

theorem sorted_claimRefs_congr (hsame : ∀ claim, claim ∈ others ↔ claim ∈ claims) :
    sorted (claimRefs others) = sorted (claimRefs claims) := by
  rw [sorted_eq_iff]
  refine (List.perm_ext_iff_of_nodup (List.nodup_dedup _) (List.nodup_dedup _)).mpr fun ref => ?_
  change ref ∈ claimRefs others ↔ ref ∈ claimRefs claims
  simp [mem_claimRefs, hsame]

end Claims

/-- The group has the claim, at one place in its three lists of members. -/
def DraftClaimCompactionGroupCandidate.Lists {Score : Type}
    (group : DraftClaimCompactionGroupCandidate Score) (claim : EmbeddedDraftClaim) : Prop :=
  (claim.observationRef, claim.embeddingRef, claim.sourceUnitRef) ∈
    group.memberObservationRefs.zip (group.memberEmbeddingRefs.zip group.memberSourceUnitRefs)

namespace DraftClaimCompactionGroupingPolicy

variable {Score : Type} {policy : DraftClaimCompactionGroupingPolicy Score}
  {sha256Hexdigest : String → String} {claims others : List EmbeddedDraftClaim}
  {members : List String}

theorem lists_groupCandidate {first claim : EmbeddedDraftClaim}
    {claimsInGroup : List EmbeddedDraftClaim} (hclaim : claim ∈ claimsInGroup) :
    (policy.groupCandidate sha256Hexdigest first claimsInGroup).Lists claim := by
  unfold DraftClaimCompactionGroupCandidate.Lists groupCandidate
  dsimp only
  rw [List.zip_map', List.zip_map']
  exact List.mem_map.mpr ⟨claim, hclaim, rfl⟩

variable (policy sha256Hexdigest) in
/-- The group of some known references lists them in order, with their claims. -/
theorem groupOfMembers_spec (hknown : ∀ ref ∈ members, ref ∈ claimRefs claims)
    (hne : members ≠ []) :
    ∃ group, policy.groupOfMembers sha256Hexdigest claims members = .ok group ∧
      group.memberObservationRefs = sorted members ∧
      ∀ claim : EmbeddedDraftClaim, claim.observationRef ∈ members →
        embeddedClaimByRef claims claim.observationRef = .ok claim → group.Lists claim := by
  have hread : ∀ ref ∈ sorted members, ∃ claim, embeddedClaimByRef claims ref = .ok claim ∧
      embeddedClaimByRef claims ref = .ok claim := by
    intro ref href
    obtain ⟨claim, hclaim⟩ := exists_embeddedClaimByRef (hknown ref (mem_sorted.mp href))
    exact ⟨claim, hclaim, hclaim⟩
  obtain ⟨claimsInGroup, hrun, hall⟩ := exists_mapM_eq_ok hread
  have hrefs : claimsInGroup.map (fun claim => claim.observationRef) = sorted members := by
    have hmap := map_eq_of_mapM id (fun claim : EmbeddedDraftClaim => claim.observationRef)
      (fun _ _ h => (embeddedClaimByRef_spec h).2) hrun
    rwa [List.map_id] at hmap
  unfold groupOfMembers
  cases claimsInGroup with
  | nil =>
    have hlength := congrArg List.length hrefs
    rw [length_sorted] at hlength
    exact absurd (List.length_eq_zero_iff.mp hlength.symm) hne
  | cons first rest =>
    refine ⟨_, bind_eq_ok.mpr ⟨_, hrun, rfl⟩, hrefs, fun claim hmem hself => ?_⟩
    obtain ⟨found, hfound, hclaim⟩ := exists_of_mem_forall₂ hall (mem_sorted.mpr hmem)
    rw [hself, Except.ok.injEq] at hclaim
    exact lists_groupCandidate (hclaim ▸ hfound)

theorem groupOfMembers_congr {reordered : List String}
    (hbyRef : embeddedClaimByRef others = embeddedClaimByRef claims)
    (hperm : reordered.Perm members) :
    policy.groupOfMembers sha256Hexdigest others reordered =
      policy.groupOfMembers sha256Hexdigest claims members := by
  unfold groupOfMembers
  rw [sorted_eq_iff.mpr hperm, hbyRef]

/-! The loop over the references. -/

/-- After the references `done`: the groups are classes that cover these, and the
references seen are their members. -/
structure Collected (related : String → String → Prop) (claims : List EmbeddedDraftClaim)
    (done : List String)
    (progress : List String × List (DraftClaimCompactionGroupCandidate Score)) : Prop where
  sweep : Sweep related done (progress.2.map fun group => group.memberObservationRefs)
  seen_iff : ∀ ref, ref ∈ progress.1 ↔ ∃ group ∈ progress.2, ref ∈ group.memberObservationRefs
  known : ∀ group ∈ progress.2, ∀ ref ∈ group.memberObservationRefs, ref ∈ claimRefs claims
  lists : ∀ group ∈ progress.2, ∀ claim : EmbeddedDraftClaim,
    claim.observationRef ∈ group.memberObservationRefs →
      embeddedClaimByRef claims claim.observationRef = .ok claim → group.Lists claim

variable (policy sha256Hexdigest) in
theorem collectGroup_spec {graph : ClaimGraph} (hrefs : graph.refs = claimRefs claims)
    (hclosed : ∀ left right, graph.Adjacent left right → right ∈ graph.refs)
    (hequiv : Equivalence (Relation.ReflTransGen graph.Adjacent)) {done : List String}
    {progress : List String × List (DraftClaimCompactionGroupCandidate Score)} {ref : String}
    (h : Collected (Relation.ReflTransGen graph.Adjacent) claims done progress)
    (href : ref ∈ claimRefs claims) :
    ∃ after, policy.collectGroup sha256Hexdigest claims graph progress ref = .ok after ∧
      Collected (Relation.ReflTransGen graph.Adjacent) claims (done ++ [ref]) after := by
  unfold collectGroup
  split
  · next hseen =>
    refine ⟨progress, rfl, ?_, h.seen_iff, h.known, h.lists⟩
    obtain ⟨group, hgroup, hmem⟩ := (h.seen_iff ref).mp hseen
    exact h.sweep.skip ⟨_, List.mem_map_of_mem hgroup, hmem⟩
  · next hfresh =>
    rw [← hrefs] at href
    obtain ⟨members, hcomponent, -, hmembers⟩ := ClaimGraph.component_spec hclosed href
    have hknown : ∀ other ∈ members, other ∈ claimRefs claims := by
      intro other hother
      rw [← hrefs]
      rcases Relation.ReflTransGen.cases_tail ((hmembers other).mp hother) with rfl | ⟨_, -, hstep⟩
      · exact href
      · exact hclosed _ _ hstep
    have hne : members ≠ [] := List.ne_nil_of_mem ((hmembers ref).mpr .refl)
    obtain ⟨group, hgroup, hsorted, hlists⟩ := groupOfMembers_spec policy
      sha256Hexdigest hknown hne
    have hmem : ∀ other, other ∈ group.memberObservationRefs ↔ other ∈ members := by
      intro other
      rw [hsorted, mem_sorted]
    refine ⟨_, bind_eq_ok.mpr ⟨members, hcomponent, bind_eq_ok.mpr ⟨group, hgroup, rfl⟩⟩, ?_⟩
    refine ⟨?_, fun other => ?_, ?_, ?_⟩
    · rw [List.map_append, List.map_singleton]
      apply h.sweep.add hequiv
      · intro found hfound hin
        obtain ⟨earlier, hearlier, rfl⟩ := List.mem_map.mp hfound
        exact hfresh ((h.seen_iff ref).mpr ⟨earlier, hearlier, hin⟩)
      · exact fun other => (hmem other).trans (hmembers other)
    · rw [List.mem_append, h.seen_iff, ← hmem]
      simp [or_and_right, exists_or]
    · intro found hfound other hother
      rcases List.mem_append.mp hfound with hold | hnew
      · exact h.known found hold other hother
      · rw [List.mem_singleton.mp hnew] at hother
        exact hknown other ((hmem other).mp hother)
    · intro found hfound claim hclaim hself
      rcases List.mem_append.mp hfound with hold | hnew
      · exact h.lists found hold claim hclaim hself
      · rw [List.mem_singleton.mp hnew] at hclaim ⊢
        exact hlists claim ((hmem _).mp hclaim) hself

variable (policy sha256Hexdigest) in
theorem collectGroups_spec {graph : ClaimGraph} (hrefs : graph.refs = claimRefs claims)
    (hclosed : ∀ left right, graph.Adjacent left right → right ∈ graph.refs)
    (hequiv : Equivalence (Relation.ReflTransGen graph.Adjacent)) {refs done : List String}
    {progress : List String × List (DraftClaimCompactionGroupCandidate Score)}
    (h : Collected (Relation.ReflTransGen graph.Adjacent) claims done progress)
    (hall : ∀ ref ∈ refs, ref ∈ claimRefs claims) :
    ∃ last, refs.foldlM (policy.collectGroup sha256Hexdigest claims graph) progress = .ok last ∧
      Collected (Relation.ReflTransGen graph.Adjacent) claims (done ++ refs) last := by
  induction refs generalizing done progress with
  | nil => exact ⟨progress, rfl, by rwa [List.append_nil]⟩
  | cons ref rest ih =>
    obtain ⟨middle, hstep, hmiddle⟩ := collectGroup_spec policy sha256Hexdigest
      hrefs hclosed hequiv h (hall ref List.mem_cons_self)
    obtain ⟨last, hrest, hlast⟩ := ih hmiddle fun other hother =>
      hall other (List.mem_cons_of_mem _ hother)
    refine ⟨last, ?_, by rwa [List.append_cons]⟩
    rw [List.foldlM_cons, bind_eq_ok]
    exact ⟨middle, hstep, hrest⟩

end DraftClaimCompactionGroupingPolicy

end CrmBot.Compaction
