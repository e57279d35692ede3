import CrmBot.Compaction.ClaimPartition
import CrmBot.Compaction.NodeAgreement

/-! When a stale replay of a result changes nothing, and components agree with
nodes.

A run applies results for the first time and again. The past of a run lists the
results it applied. -/

namespace CrmBot.Compaction

open Relational CrmBot.Python FailingFold

/-- A compaction result of one of the two kinds. -/
inductive CompactionResult
  | compacted (command : ApplyCompactedClaims)
  | rewrite (command : ApplyReducedRewrite)

namespace CompactionResult

variable (env : CompactionEnv)

def apply (state : ReductionState) :
    CompactionResult → Except Fault (ApplyPersistenceResult × ReductionState)
  | compacted command => applyCompactedClaimsResult env state command
  | rewrite command => applyReducedRewriteResult env state command

def group : CompactionResult → GroupKey
  | compacted command => command.group
  | rewrite command => command.group

def roundIndex : CompactionResult → Nat
  | compacted command => command.roundIndex
  | rewrite command => command.roundIndex

def comparedNodeRefs : CompactionResult → List String
  | compacted command => command.comparedNodeRefs
  | rewrite command => command.sourceNodeRefs

/-- The rows that the result writes to the state. -/
def rows (state : ReductionState) : CompactionResult → Except Fault (List NodeRow)
  | compacted command => .ok (compactedRows env state.nodes command)
  | rewrite command => do
    let sourceNodes ← rewriteSourceNodes state command
    let claim ← inheritedReducedClaim sourceNodes
      (sorted (sourceNodes.flatMap NodeRow.sourceClaimRefs).eraseDups) command.rewrite
    pure [rewrittenNodeRow env command claim]

/-- A result for the state: compacted claims that regroup active nodes of the
group, or a rewrite of active compacted nodes. -/
def ValidFor (state : ReductionState) : CompactionResult → Prop
  | compacted command => RegroupsComparedNodes state.nodes command
  | rewrite command => ∀ nodeRef ∈ command.sourceNodeRefs,
      ∃ row ∈ activeNodes state.nodes command.group,
        row.nodeRef = nodeRef ∧ row.nodeKind = .compacted

/-- None of the nodes of the result is there. -/
def WritesNewNodes (state : ReductionState) (result : CompactionResult) : Prop :=
  ∀ rows, result.rows env state = .ok rows → ∀ row ∈ rows, row.nodeRef ∉ state.nodes.keys

/-- All nodes of the result are active. -/
def NodesActive (state : ReductionState) (result : CompactionResult) : Prop :=
  ∀ rows, result.rows env state = .ok rows → ∀ row ∈ rows, NodeActive state.nodes row.nodeRef

end CompactionResult

variable {env : CompactionEnv}

theorem CompactionResult.apply_absorbs {state after : ReductionState} {result : CompactionResult}
    {counts : ApplyPersistenceResult} (hnamed : ComponentsNamed state.components)
    (h : result.apply env state = .ok (counts, after)) :
    ∃ rows, result.rows env state = .ok rows ∧
      Absorbs state after result.group result.roundIndex rows (comparedPairs rows) := by
  cases result with
  | compacted command => exact ⟨_, rfl, applyCompactedClaimsResult_absorbs hnamed h⟩
  | rewrite command =>
    obtain ⟨sourceNodes, claim, hsources, hclaim, habsorbs⟩ :=
      applyReducedRewriteResult_absorbs hnamed h
    refine ⟨_, ?_, habsorbs⟩
    simp only [CompactionResult.rows, hsources, hclaim, bind, Except.bind, pure, Except.pure]

/-! The rows of a valid result. -/

section Valid

variable {state : ReductionState} {components : Table ComponentRow.componentRef}

/-- Every claim of an output is a claim of a compared node. -/
theorem mem_comparedNodes_of_claim {command : ApplyCompactedClaims}
    (hvalid : RegroupsComparedNodes state.nodes command) {claim : OutputClaim}
    (hclaim : claim ∈ command.compactedClaims) {ref : String} (href : ref ∈ claim.sourceClaimRefs) :
    ∃ node ∈ comparedNodes state.nodes command, ref ∈ node.sourceClaimRefs := by
  have hground := hvalid.outputs_cover.mem_ground_iff.mpr ⟨claim, hclaim, href⟩
  obtain ⟨node, hnode, hmem⟩ := List.mem_flatMap.mp hground
  exact ⟨node, hnode, hmem⟩

theorem absorbable_compactedRows {command : ApplyCompactedClaims}
    (hsound : ComponentsSound state.nodes components)
    (hvalid : RegroupsComparedNodes state.nodes command)
    (hnew : ∀ row ∈ compactedRows env state.nodes command, row.nodeRef ∉ state.nodes.keys) :
    ∀ row ∈ compactedRows env state.nodes command, Absorbable state.nodes row := by
  intro row hrow
  have hfresh := hnew row hrow
  obtain ⟨claim, hclaim, rfl⟩ := List.mem_map.mp hrow
  have hraw : ∀ ref ∈ claim.sourceClaimRefs,
      NodeIn state.nodes command.group (rawClaimNodeRef command.group ref) := by
    intro ref href
    obtain ⟨node, hnode, hmem⟩ := mem_comparedNodes_of_claim hvalid hclaim href
    obtain ⟨hrow, hgroup, _⟩ := mem_comparedNodes.mp hnode
    rw [← hgroup]
    exact hsound.claimed node hrow ref hmem
  refine ⟨hfresh, rfl, ?_, fun ref href => .inl (hraw ref href)⟩
  intro ref href
  rcases mem_claimSourceNodeRefs.mp href with ⟨node, hnode, rfl, _⟩ | ⟨_, other, hother, rfl⟩
  · obtain ⟨hrow, hgroup, _⟩ := mem_comparedNodes.mp hnode
    exact ⟨node, hrow, rfl, hgroup⟩
  · exact hraw other hother

theorem inheritedReducedClaim_sourceClaimRefs {sourceNodes : List NodeRow} {refs : List String}
    {rewrite : DraftClaimReducedRewriteOutput} {claim : OutputClaim}
    (h : inheritedReducedClaim sourceNodes refs rewrite = .ok claim) :
    claim.sourceClaimRefs = refs := by
  simp only [inheritedReducedClaim, bind_eq_ok] at h
  obtain ⟨_, _, _, _, _, _, _, _, hmade⟩ := h
  split at hmade
  · simp only [pure, Except.pure, Except.ok.injEq] at hmade
    rw [← hmade]
  · cases hmade

theorem absorbable_rewrittenNodeRow {command : ApplyReducedRewrite} {sourceNodes : List NodeRow}
    {claim : OutputClaim} (hsound : ComponentsSound state.nodes components)
    (hvalid : (CompactionResult.rewrite command).ValidFor state)
    (hsources : rewriteSourceNodes state command = .ok sourceNodes)
    (hclaim : inheritedReducedClaim sourceNodes
      (sorted (sourceNodes.flatMap NodeRow.sourceClaimRefs).eraseDups) command.rewrite = .ok claim)
    (hnew : (rewrittenNodeRow env command claim).nodeRef ∉ state.nodes.keys) :
    Absorbable state.nodes (rewrittenNodeRow env command claim) := by
  refine ⟨hnew, rfl, ?_, ?_⟩
  · intro ref href
    obtain ⟨node, hnode, hname, _⟩ := hvalid ref href
    obtain ⟨hrow, hgroup, _⟩ := mem_activeNodes.mp hnode
    exact ⟨node, hrow, hname, hgroup⟩
  · intro ref href
    have hrefs : ref ∈ sorted (sourceNodes.flatMap NodeRow.sourceClaimRefs).eraseDups :=
      inheritedReducedClaim_sourceClaimRefs hclaim ▸ href
    rw [mem_sorted, List.mem_eraseDups, List.mem_flatMap] at hrefs
    obtain ⟨node, hnode, hmem⟩ := hrefs
    simp only [rewriteSourceNodes] at hsources
    split at hsources
    · cases hsources
    split at hsources
    · cases hsources
    simp only [Except.ok.injEq] at hsources
    rw [← hsources, loadNodesByRef, List.mem_insertionSort, List.mem_filter] at hnode
    obtain ⟨hrow, hcondition⟩ := hnode
    simp only [Bool.and_eq_true, decide_eq_true_eq] at hcondition
    have hin := hsound.claimed node hrow ref hmem
    rw [hcondition.1] at hin
    exact .inl hin

theorem absorbable_rows {result : CompactionResult} {rows : List NodeRow}
    (hsound : ComponentsSound state.nodes components) (hvalid : result.ValidFor state)
    (hnew : result.WritesNewNodes env state) (hrows : result.rows env state = .ok rows) :
    ∀ row ∈ rows, Absorbable state.nodes row := by
  have hfresh := hnew rows hrows
  cases result with
  | compacted command =>
    simp only [CompactionResult.rows, Except.ok.injEq] at hrows
    rw [← hrows] at hfresh ⊢
    exact absorbable_compactedRows hsound hvalid hfresh
  | rewrite command =>
    simp only [CompactionResult.rows, bind_eq_ok] at hrows
    obtain ⟨sourceNodes, hsources, claim, hclaim, hpure⟩ := hrows
    simp only [pure, Except.pure, Except.ok.injEq] at hpure
    rw [← hpure] at hfresh ⊢
    intro row hrow
    rw [List.mem_singleton] at hrow
    rw [hrow]
    exact absorbable_rewrittenNodeRow hsound hvalid hsources hclaim
      (hfresh _ (List.mem_singleton_self _))

/-- A successful result has pairwise different nodes. -/
theorem nodup_rows {result : CompactionResult} {rows : List NodeRow} {after : ReductionState}
    {counts : ApplyPersistenceResult} (h : result.apply env state = .ok (counts, after))
    (hrows : result.rows env state = .ok rows) : (rows.map NodeRow.nodeRef).Nodup := by
  cases result with
  | compacted command =>
    simp only [CompactionResult.rows, Except.ok.injEq] at hrows
    have hnodup := (applyCompactedClaimsResult_nodes h).1
    rw [← hrows, compactedRows, List.map_map]
    exact hnodup
  | rewrite command =>
    simp only [CompactionResult.rows, bind_eq_ok] at hrows
    obtain ⟨_, _, claim, _, hpure⟩ := hrows
    simp only [pure, Except.pure, Except.ok.injEq] at hpure
    rw [← hpure]
    exact List.nodup_singleton _

end Valid

/-! Absorbing all rows of a result. -/

section Rows

variable {nodes : Table NodeRow.nodeRef} {components : Table ComponentRow.componentRef}
  {rows : List NodeRow}

theorem componentsSound_foldl (hsound : ComponentsSound nodes components)
    (hrows : ∀ row ∈ rows, Absorbable nodes row) (hnodup : (rows.map NodeRow.nodeRef).Nodup) :
    ComponentsSound (rows.foldl absorbNode nodes) (rows.foldl absorbComponent components) ∧
      (∀ row ∈ rows, RowRecorded (rows.foldl absorbNode nodes)
        (rows.foldl absorbComponent components) row) ∧
      ∀ other, RowRecorded nodes components other → RowRecorded (rows.foldl absorbNode nodes)
        (rows.foldl absorbComponent components) other := by
  induction rows generalizing nodes components with
  | nil => exact ⟨hsound, by simp, fun _ h => h⟩
  | cons row rest ih =>
    rw [List.map_cons, List.nodup_cons] at hnodup
    have hrow := hrows row List.mem_cons_self
    have hrest : ∀ other ∈ rest, Absorbable (absorbNode nodes row) other := by
      intro other hother
      refine hrow.absorbNode (hrows other (List.mem_cons_of_mem _ hother)) fun heq => ?_
      exact hnodup.1 (heq ▸ List.mem_map_of_mem hother)
    obtain ⟨hlast, hrecorded, hkept⟩ := ih (componentsSound_absorb hsound hrow) hrest hnodup.2
    refine ⟨hlast, ?_, fun other hother => hkept other (hother.absorb hsound hrow)⟩
    intro other hother
    rcases List.mem_cons.mp hother with rfl | hmem
    · exact hkept _ (rowRecorded_self hsound hrow)
    · exact hrecorded other hmem

theorem absorb_rows_of_recorded (hsound : ComponentsSound nodes components)
    (hrows : ∀ row ∈ rows, RowRecorded nodes components row ∧ NodeActive nodes row.nodeRef) :
    rows.foldl absorbNode nodes = nodes ∧ rows.foldl absorbComponent components = components := by
  induction rows with
  | nil => exact ⟨rfl, rfl⟩
  | cons row rest ih =>
    obtain ⟨hrecorded, hactive⟩ := hrows row List.mem_cons_self
    obtain ⟨hnodes, hcomponents⟩ := absorb_of_recorded hsound hrecorded hactive
    rw [List.foldl_cons, List.foldl_cons, hnodes, hcomponents]
    exact ih fun other hother => hrows other (List.mem_cons_of_mem _ hother)

end Rows

/-! Rows are the same whenever they are computed. -/

/-- The old nodes are there with what a result reads of them, and the others are
new. -/
def NodesGrow (before after : Table NodeRow.nodeRef) : Prop :=
  ∃ (change : NodeRow → NodeRow) (extra : List NodeRow),
    after.rows = before.rows.map change ++ extra ∧
    (∀ row, (change row).nodeRef = row.nodeRef ∧ (change row).group = row.group ∧
      (change row).sourceClaimRefs = row.sourceClaimRefs ∧
      (change row).compacted = row.compacted) ∧
    ∀ row ∈ extra, row.nodeRef ∉ before.keys

namespace NodesGrow

variable {before middle after : Table NodeRow.nodeRef}

theorem refl (nodes : Table NodeRow.nodeRef) : NodesGrow nodes nodes :=
  ⟨id, [], by simp, fun _ => ⟨rfl, rfl, rfl, rfl⟩, by simp⟩

theorem keys_subset (h : NodesGrow before after) : before.keys ⊆ after.keys := by
  obtain ⟨change, extra, hrows, hsame, _⟩ := h
  intro key hkey
  obtain ⟨row, hrow, rfl⟩ := Table.mem_keys.mp hkey
  refine Table.mem_keys.mpr ⟨change row, ?_, (hsame row).1⟩
  rw [hrows]
  exact List.mem_append_left _ (List.mem_map_of_mem hrow)

theorem trans (hfirst : NodesGrow before middle) (hsecond : NodesGrow middle after) :
    NodesGrow before after := by
  have hkeys := hfirst.keys_subset
  obtain ⟨change, extra, hrows, hsame, hnew⟩ := hfirst
  obtain ⟨change', extra', hrows', hsame', hnew'⟩ := hsecond
  refine ⟨change' ∘ change, extra.map change' ++ extra', ?_, ?_, ?_⟩
  · rw [hrows', hrows, List.map_append, List.map_map, List.append_assoc]
  · intro row
    obtain ⟨h1, h2, h3, h4⟩ := hsame row
    obtain ⟨h1', h2', h3', h4'⟩ := hsame' (change row)
    exact ⟨h1'.trans h1, h2'.trans h2, h3'.trans h3, h4'.trans h4⟩
  · intro row hrow
    rcases List.mem_append.mp hrow with hold | hnew''
    · obtain ⟨old, hmem, rfl⟩ := List.mem_map.mp hold
      rw [(hsame' old).1]
      exact hnew old hmem
    · exact fun hkey => hnew' row hnew'' (hkeys hkey)

theorem insertOrIgnore (nodes : Table NodeRow.nodeRef) (row : NodeRow) :
    NodesGrow nodes (nodes.insertOrIgnore row) := by
  refine ⟨id, if row.nodeRef ∈ nodes.keys then [] else [row], ?_,
    fun _ => ⟨rfl, rfl, rfl, rfl⟩, ?_⟩
  · rw [Table.rows_insertOrIgnore, List.map_id]
  · intro other hother
    split at hother
    · cases hother
    · next hfresh =>
      rw [List.mem_singleton] at hother
      rwa [hother]

theorem absorbNode (nodes : Table NodeRow.nodeRef) (row : NodeRow) :
    NodesGrow nodes (absorbNode nodes row) := by
  refine (insertOrIgnore nodes row).trans
    ⟨deactivated row.supersedesNodeRefs row.createdAt, [], ?_, ?_, by simp⟩
  · rw [CrmBot.Compaction.absorbNode, rows_deactivateNodes, List.append_nil]
  · exact fun old => ⟨deactivated_nodeRef _ _ old, deactivated_group _ _ old,
      deactivated_sourceClaimRefs _ _ old, deactivated_compacted _ _ old⟩

theorem foldl_absorbNode (rows : List NodeRow) (nodes : Table NodeRow.nodeRef) :
    NodesGrow nodes (rows.foldl CrmBot.Compaction.absorbNode nodes) := by
  induction rows generalizing nodes with
  | nil => exact refl nodes
  | cons row rest ih => exact (absorbNode nodes row).trans (ih _)

/-- Nodes that are there are loaded as before. -/
theorem loadNodesByRef (h : NodesGrow before after) (group : GroupKey) {nodeRefs : List String}
    (hrefs : nodeRefs ⊆ before.keys) :
    ∃ change : NodeRow → NodeRow, (∀ row, (change row).nodeRef = row.nodeRef ∧
        (change row).group = row.group ∧ (change row).sourceClaimRefs = row.sourceClaimRefs ∧
        (change row).compacted = row.compacted) ∧
      loadNodesByRef after group nodeRefs = (loadNodesByRef before group nodeRefs).map change := by
  obtain ⟨change, extra, hrows, hsame, hnew⟩ := h
  refine ⟨change, hsame, ?_⟩
  have hextra : (extra.filter fun row =>
      row.group = group && nodeRefs.contains row.nodeRef) = [] := by
    rw [List.filter_eq_nil_iff]
    intro row hrow hcondition
    simp only [Bool.and_eq_true, List.contains_iff_mem] at hcondition
    exact hnew row hrow (hrefs hcondition.2)
  have hfilter : (fun row : NodeRow =>
      decide (row.group = group) && nodeRefs.contains row.nodeRef) ∘
      change = fun row => decide (row.group = group) && nodeRefs.contains row.nodeRef := by
    funext row
    simp only [Function.comp_apply, (hsame row).1, (hsame row).2.1]
  unfold CrmBot.Compaction.loadNodesByRef
  rw [hrows, List.filter_append, hextra, List.append_nil, List.filter_map, hfilter]
  refine (List.map_insertionSort _ _ change _ fun first _ second _ => ?_).symm
  rw [(hsame first).1, (hsame second).1]

end NodesGrow

/-- A result of nodes that are there has the rows it had before. -/
theorem CompactionResult.rows_of_nodesGrow {before after : ReductionState}
    (h : NodesGrow before.nodes after.nodes) {result : CompactionResult}
    (hrefs : result.comparedNodeRefs ⊆ before.nodes.keys) :
    result.rows env after = result.rows env before := by
  cases result with
  | compacted command =>
    obtain ⟨change, hsame, hload⟩ := h.loadNodesByRef command.group hrefs
    have hsets : sourceClaimRefsByNodeRef (comparedNodes after.nodes command) =
        sourceClaimRefsByNodeRef (comparedNodes before.nodes command) := by
      unfold comparedNodes loadComparedNodesForApply
      split
      · rfl
      · simp only [CompactionResult.comparedNodeRefs] at hload
        rw [hload]
        unfold sourceClaimRefsByNodeRef
        rw [List.map_map]
        refine List.map_congr_left fun node _ => ?_
        simp only [Function.comp_apply, (hsame node).1, (hsame node).2.2.1]
    simp only [CompactionResult.rows, compactedRows, hsets]
  | rewrite command =>
    obtain ⟨change, hsame, hload⟩ := h.loadNodesByRef command.group hrefs
    simp only [CompactionResult.comparedNodeRefs] at hload
    have hclaims : (loadNodesByRef after.nodes command.group command.sourceNodeRefs).flatMap
        NodeRow.sourceClaimRefs = (loadNodesByRef before.nodes command.group
          command.sourceNodeRefs).flatMap NodeRow.sourceClaimRefs := by
      rw [hload, List.flatMap_map]
      congr 1
      funext node
      exact (hsame node).2.2.1
    have hpayloads : (loadNodesByRef after.nodes command.group command.sourceNodeRefs).mapM
        nodePayload = (loadNodesByRef before.nodes command.group command.sourceNodeRefs).mapM
          nodePayload := by
      rw [hload, List.mapM_map]
      congr 1
      funext node
      simp only [Function.comp_apply, nodePayload, (hsame node).2.2.2]
    have hlength : (loadNodesByRef after.nodes command.group command.sourceNodeRefs).length =
        (loadNodesByRef before.nodes command.group command.sourceNodeRefs).length := by
      rw [hload, List.length_map]
    simp only [CompactionResult.rows, rewriteSourceNodes, hlength]
    split
    · rfl
    split
    · rfl
    · simp only [bind, Except.bind, inheritedReducedClaim, hclaims] at hpayloads ⊢
      rw [hpayloads]

/-! Runs. -/

/-- The result is in the state: its rows left their traces, and its pairs are
compared. -/
def Recorded (env : CompactionEnv) (state : ReductionState) (result : CompactionResult) : Prop :=
  ∃ rows, result.rows env state = .ok rows ∧
    (∀ row ∈ rows, RowRecorded state.nodes state.components row) ∧
    (∀ row ∈ rows, ∀ other ∈ rows, row.nodeRef ∉ other.supersedesNodeRefs) ∧
    (∀ pair ∈ comparedPairs rows,
      Compared state.comparisons result.group result.roundIndex pair) ∧
    result.comparedNodeRefs ⊆ state.nodes.keys

section Steps

variable {before after : ReductionState} {result : CompactionResult}

theorem Recorded.mono (h : Recorded env before result)
    (hgrow : NodesGrow before.nodes after.nodes)
    (hrows : ∀ row, RowRecorded before.nodes before.components row →
      RowRecorded after.nodes after.components row)
    (hcompared : before.comparisons.rows ⊆ after.comparisons.rows) : Recorded env after result := by
  obtain ⟨rows, hread, hrecorded, hkept, hpairs, hrefs⟩ := h
  refine ⟨rows, ?_, fun row hrow => hrows row (hrecorded row hrow), hkept,
    fun pair hpair => Records.compared_mono hcompared (hpairs pair hpair),
    fun ref href => hgrow.keys_subset (hrefs href)⟩
  rw [CompactionResult.rows_of_nodesGrow hgrow hrefs, hread]

theorem comparedNodeRefs_subset (hvalid : result.ValidFor before) :
    result.comparedNodeRefs ⊆ before.nodes.keys := by
  intro ref href
  cases result with
  | compacted command =>
    obtain ⟨row, hrow, hname⟩ := hvalid.compared_active ref href
    exact Table.mem_keys.mpr ⟨row, (mem_activeNodes.mp hrow).1, hname⟩
  | rewrite command =>
    obtain ⟨row, hrow, hname, _⟩ := hvalid ref href
    exact Table.mem_keys.mpr ⟨row, (mem_activeNodes.mp hrow).1, hname⟩

/-- A new result of new nodes keeps the agreement and everything recorded, and is
recorded itself. -/
theorem apply_step {counts : ApplyPersistenceResult}
    (hsound : ComponentsSound before.nodes before.components) (hvalid : result.ValidFor before)
    (hnew : result.WritesNewNodes env before)
    (happly : result.apply env before = .ok (counts, after)) :
    ComponentsSound after.nodes after.components ∧ Recorded env after result ∧
      ∀ other, Recorded env before other → Recorded env after other := by
  obtain ⟨rows, hrows, habsorbs⟩ := CompactionResult.apply_absorbs hsound.named happly
  have habsorbable := absorbable_rows hsound hvalid hnew hrows
  have hgrow : NodesGrow before.nodes after.nodes := by
    rw [habsorbs.nodes]
    exact NodesGrow.foldl_absorbNode rows before.nodes
  obtain ⟨hafter, hrecorded, hkept⟩ :=
    componentsSound_foldl hsound habsorbable (nodup_rows happly hrows)
  rw [← habsorbs.nodes, ← habsorbs.components] at hafter hrecorded hkept
  have hrefs := comparedNodeRefs_subset hvalid
  refine ⟨hafter, ⟨rows, ?_, hrecorded, ?_, habsorbs.records.recorded, ?_⟩, ?_⟩
  · rw [CompactionResult.rows_of_nodesGrow hgrow hrefs, hrows]
  · intro row hrow other hother hmem
    exact (habsorbable row hrow).fresh ((habsorbable other hother).sources _ hmem).mem_keys
  · exact fun ref href => hgrow.keys_subset (hrefs href)
  · exact fun other hother => hother.mono hgrow hkept habsorbs.records.kept

/-- A recorded result whose nodes are active changes nothing, and changes
something otherwise. -/
theorem replay_unchanged_iff {counts : ApplyPersistenceResult}
    (hsound : ComponentsSound before.nodes before.components)
    (hrecorded : Recorded env before result)
    (happly : result.apply env before = .ok (counts, after)) :
    (after.nodes = before.nodes ∧ after.components = before.components ∧
      after.comparisons = before.comparisons) ↔ result.NodesActive env before := by
  obtain ⟨rows, hrows, habsorbs⟩ := CompactionResult.apply_absorbs hsound.named happly
  obtain ⟨rows', hrows', htraces, hkept, hpairs, _⟩ := hrecorded
  obtain rfl : rows' = rows := Except.ok.inj (hrows'.symm.trans hrows)
  constructor
  · rintro ⟨_, hcomponents, _⟩ others hothers row hrow
    obtain rfl : rows' = others := Except.ok.inj (hrows.symm.trans hothers)
    have hactive := componentActive_foldl (fun other hother => hkept row hrow other hother)
      hsound.named (.inl (List.mem_map_of_mem hrow))
    rw [← habsorbs.components, hcomponents] at hactive
    obtain ⟨component, hcomponent, hrep, hopen⟩ := hactive
    rw [← hrep]
    exact (hsound.agree component hcomponent).mp hopen
  · intro hactive
    obtain ⟨hnodes, hcomponents⟩ := absorb_rows_of_recorded hsound fun row hrow =>
      ⟨htraces row hrow, hactive rows' hrows row hrow⟩
    exact ⟨habsorbs.nodes.trans hnodes, habsorbs.components.trans hcomponents,
      habsorbs.records.unchanged hpairs⟩

end Steps

/-- A seed is a row that supersedes nothing. -/
theorem seedRawNode_cases {group : GroupKey} {createdAt : Int}
    {progress : (Nat × Nat) × ReductionState}
    (hsound : ComponentsSound progress.2.nodes progress.2.components) (seed : RawNodeSeed) :
    (seedRawNode group createdAt progress seed).2.comparisons = progress.2.comparisons ∧
    (((seedRawNode group createdAt progress seed).2.nodes = progress.2.nodes ∧
      (seedRawNode group createdAt progress seed).2.components = progress.2.components) ∨
    (Absorbable progress.2.nodes (initialRawNode group createdAt seed) ∧
      (seedRawNode group createdAt progress seed).2.nodes =
        absorbNode progress.2.nodes (initialRawNode group createdAt seed) ∧
      (seedRawNode group createdAt progress seed).2.components =
        absorbComponent progress.2.components (initialRawNode group createdAt seed))) := by
  refine ⟨rfl, ?_⟩
  by_cases hmem : rawClaimNodeRef group seed.observationRef ∈ progress.2.nodes.keys
  · left
    obtain ⟨node, hnode, href⟩ := Table.mem_keys.mp hmem
    have hcomponent := hsound.owned node hnode
    rw [href] at hcomponent
    exact ⟨Table.insertOrIgnore_of_mem hmem, Table.insertOrIgnore_of_mem hcomponent⟩
  · right
    have habsorbable : Absorbable progress.2.nodes (initialRawNode group createdAt seed) := by
      refine ⟨hmem, rfl, by simp [initialRawNode], ?_⟩
      intro ref href
      right
      rw [initialRawNode, List.mem_singleton] at href
      rw [href]
      rfl
    have hfresh := componentRef_fresh hsound habsorbable.fresh
    exact ⟨habsorbable, (absorbNode_of_supersedes_nil _ rfl).symm,
      (absorbComponent_of_supersedes_nil hfresh rfl).symm⟩

/-- A seeding keeps the agreement and everything recorded. -/
theorem seed_step {group : GroupKey} {createdAt : Int} (seeds : List RawNodeSeed)
    (progress : (Nat × Nat) × ReductionState)
    (hsound : ComponentsSound progress.2.nodes progress.2.components) :
    ComponentsSound (seeds.foldl (seedRawNode group createdAt) progress).2.nodes
        (seeds.foldl (seedRawNode group createdAt) progress).2.components ∧
      ∀ other, Recorded env progress.2 other →
        Recorded env (seeds.foldl (seedRawNode group createdAt) progress).2 other := by
  induction seeds generalizing progress with
  | nil => exact ⟨hsound, fun _ h => h⟩
  | cons seed rest ih =>
    obtain ⟨hcomparisons, hcases⟩ := seedRawNode_cases hsound seed
    have hfirst : ComponentsSound (seedRawNode group createdAt progress seed).2.nodes
          (seedRawNode group createdAt progress seed).2.components ∧
        ∀ other, Recorded env progress.2 other →
          Recorded env (seedRawNode group createdAt progress seed).2 other := by
      rcases hcases with ⟨hnodes, hcomponents⟩ | ⟨habsorbable, hnodes, hcomponents⟩
      · rw [hnodes, hcomponents]
        refine ⟨hsound, fun other hother => hother.mono ?_ ?_ ?_⟩
        · rw [hnodes]
          exact NodesGrow.refl _
        · rw [hnodes, hcomponents]
          exact fun _ h => h
        · rw [hcomparisons]
          exact List.Subset.refl _
      · rw [hnodes, hcomponents]
        refine ⟨componentsSound_absorb hsound habsorbable, fun other hother => hother.mono ?_ ?_ ?_⟩
        · rw [hnodes]
          exact NodesGrow.absorbNode _ _
        · rw [hnodes, hcomponents]
          exact fun row hrow => hrow.absorb hsound habsorbable
        · rw [hcomparisons]
          exact List.Subset.refl _
    obtain ⟨hlast, hkept⟩ := ih _ hfirst.1
    exact ⟨hlast, fun other hother => hkept other (hfirst.2 other hother)⟩

/-- A run whose new results write new nodes, and whose replays find the nodes of
the result active. -/
inductive FreshRun (env : CompactionEnv) : ReductionState → List CompactionResult → Prop
  | start : FreshRun env emptyReductionState []
  | seed {state : ReductionState} {past : List CompactionResult} (group : GroupKey)
    (seeds : List RawNodeSeed) (createdAt : Int) (hrun : FreshRun env state past) :
    FreshRun env (seedInitialPlannerState state group seeds createdAt).2 past
  | apply {state after : ReductionState} {past : List CompactionResult} {result : CompactionResult}
    {counts : ApplyPersistenceResult} (hrun : FreshRun env state past)
    (hvalid : result.ValidFor state) (hnew : result.WritesNewNodes env state)
    (happly : result.apply env state = .ok (counts, after)) :
    FreshRun env after (result :: past)
  | replay {state after : ReductionState} {past : List CompactionResult} {result : CompactionResult}
    {counts : ApplyPersistenceResult} (hrun : FreshRun env state past) (hpast : result ∈ past)
    (hactive : result.NodesActive env state)
    (happly : result.apply env state = .ok (counts, after)) :
    FreshRun env after past

theorem freshRun_sound {state : ReductionState} {past : List CompactionResult}
    (hrun : FreshRun env state past) :
    ComponentsSound state.nodes state.components ∧ ∀ result ∈ past, Recorded env state result := by
  induction hrun with
  | start =>
    refine ⟨⟨?_, ?_, ?_, ?_, ?_⟩, by simp⟩ <;> intro row hrow <;>
      simp [emptyReductionState] at hrow
  | seed group seeds createdAt _ ih =>
    obtain ⟨hsound, hkept⟩ := seed_step seeds ((0, 0), _) ih.1
    exact ⟨hsound, fun result hresult => hkept result (ih.2 result hresult)⟩
  | apply _ hvalid hnew happly ih =>
    obtain ⟨hsound, hself, hkept⟩ := apply_step ih.1 hvalid hnew happly
    refine ⟨hsound, fun result hresult => ?_⟩
    rcases List.mem_cons.mp hresult with rfl | hpast
    · exact hself
    · exact hkept result (ih.2 result hpast)
  | replay _ hpast hactive happly ih =>
    obtain ⟨hnodes, hcomponents, hcomparisons⟩ :=
      (replay_unchanged_iff ih.1 (ih.2 _ hpast) happly).mpr hactive
    rw [hnodes, hcomponents]
    refine ⟨ih.1, fun result hresult => (ih.2 result hresult).mono ?_ ?_ ?_⟩
    · rw [hnodes]
      exact NodesGrow.refl _
    · rw [hnodes, hcomponents]
      exact fun _ h => h
    · rw [hcomparisons]
      exact List.Subset.refl _

/-- In every state of such a run a component is active exactly when its
representative node is, and a stale replay of any past result changes neither
nodes nor components nor comparisons exactly when the nodes of the result are
still active. -/
theorem freshRun_agrees_and_replays (env : CompactionEnv) (state : ReductionState)
    (past : List CompactionResult) (hrun : FreshRun env state past) :
    ComponentsAgree state.nodes state.components ∧
    ∀ result ∈ past, ∀ counts after, result.apply env state = .ok (counts, after) →
      ((after.nodes = state.nodes ∧ after.components = state.components ∧
        after.comparisons = state.comparisons) ↔ result.NodesActive env state) := by
  obtain ⟨hsound, hrecorded⟩ := freshRun_sound hrun
  refine ⟨hsound.agree, fun result hresult counts after happly => ?_⟩
  exact replay_unchanged_iff hsound (hrecorded result hresult) happly

/-! Two merges, one after the other. -/

/-- SHA-256 on the two texts that the results below hash. -/
def mergeEnv : CompactionEnv where
  sha256Hexdigest text :=
    if text = "w:g:a:b" then "2662c0cc8b72aaa576a2751fef317621a73ee17f7cfaa0764f42e6a7cf65d796"
    else "93df8202df8bcff1fa0db75b25fe9e55e2f45478c556b11cadc923bed7a5d51c"
  estimatedCompactedClaimTokens _ := 1

def mergedClaim (refs : List String) (hrefs : CheckedRefs refs) : OutputClaim :=
  { key := "key", claim := "claim", claimKind := .other, granularity := .atomic
    sourceClaimRefs := refs, triples := [], mergeDecision := .merged
    possibleQuestions := [], exclusionScope := "", evidenceBlock := "evidence"
    sourceClaimRefs_ne_nil := hrefs.ne_nil, sourceClaimRefs_nodup := hrefs.nodup
    sourceClaimRefs_text := hrefs.text }

def mergeCommand (roundIndex : Nat) (comparedNodeRefs refs : List String)
    (hrefs : CheckedRefs refs) : ApplyCompactedClaims :=
  { group := sampleGroup, batchRef := "batch", workItemId := "item", roundIndex := roundIndex
    compactedClaims := [mergedClaim refs hrefs], comparedNodeRefs := comparedNodeRefs
    createdAt := 1 + roundIndex }

def mergeTwoCommand : ApplyCompactedClaims :=
  mergeCommand 0 [rawClaimNodeRef sampleGroup "a", rawClaimNodeRef sampleGroup "b"] ["a", "b"]
    (by decide)

/-- The claims `a` and `b` are one. -/
def mergeTwo : CompactionResult := .compacted mergeTwoCommand

/-- Their node and `c` are one. -/
def mergeThree : CompactionResult :=
  .compacted (mergeCommand 1 [compactedClaimNodeRef mergeEnv sampleGroup ["a", "b"],
    rawClaimNodeRef sampleGroup "c"] ["a", "b", "c"] (by decide))

def seededState : ReductionState :=
  (seedInitialPlannerState emptyReductionState sampleGroup [⟨"a", 1⟩, ⟨"b", 1⟩, ⟨"c", 1⟩] 0).2

def stateAfter (state : ReductionState) (result : CompactionResult) : ReductionState :=
  match result.apply mergeEnv state with
  | .ok applied => applied.2
  | .error _ => state

theorem apply_stateAfter {state : ReductionState} {result : CompactionResult}
    (h : (result.apply mergeEnv state).toOption.isSome = true) :
    ∃ counts, result.apply mergeEnv state = .ok (counts, stateAfter state result) := by
  unfold stateAfter
  cases happly : result.apply mergeEnv state with
  | error fault => simp [happly, Except.toOption] at h
  | ok applied => exact ⟨applied.1, rfl⟩

instance (nodes : Table NodeRow.nodeRef) (nodeRef : String) :
    Decidable (NodeActive nodes nodeRef) :=
  inferInstanceAs (Decidable (∃ node ∈ nodes.rows, node.nodeRef = nodeRef ∧ node.active = true))

instance (nodes : Table NodeRow.nodeRef) (components : Table ComponentRow.componentRef) :
    Decidable (ComponentsAgree nodes components) :=
  inferInstanceAs (Decidable (∀ component ∈ components.rows,
    component.active = true ↔ NodeActive nodes component.representativeNodeRef))

theorem mergeTwo_validFor : mergeTwo.ValidFor seededState where
  compared_active := by decide +kernel
  outputs_cover := by
    unfold BlockCover.Covers
    decide +kernel

theorem mergeThree_validFor : mergeThree.ValidFor (stateAfter seededState mergeTwo) where
  compared_active := by decide +kernel
  outputs_cover := by
    unfold BlockCover.Covers
    decide +kernel

/-- After the first merge its replay changes nothing. -/
theorem freshRun_agrees_and_replays_mergeTwo :
    ∃ counts, mergeTwo.apply mergeEnv seededState = .ok (counts, stateAfter seededState mergeTwo) ∧
      ComponentsAgree (stateAfter seededState mergeTwo).nodes
        (stateAfter seededState mergeTwo).components ∧
      ∀ result ∈ [mergeTwo], ∀ counts after,
        result.apply mergeEnv (stateAfter seededState mergeTwo) = .ok (counts, after) →
        ((after.nodes = (stateAfter seededState mergeTwo).nodes ∧
          after.components = (stateAfter seededState mergeTwo).components ∧
          after.comparisons = (stateAfter seededState mergeTwo).comparisons) ↔
            result.NodesActive mergeEnv (stateAfter seededState mergeTwo)) := by
  obtain ⟨counts, happly⟩ := @apply_stateAfter seededState mergeTwo (by decide +kernel)
  have hnew : mergeTwo.WritesNewNodes mergeEnv seededState := by
    intro rows hrows row hrow
    have hall : ∀ row ∈ compactedRows mergeEnv seededState.nodes mergeTwoCommand,
        row.nodeRef ∉ seededState.nodes.keys := by decide +kernel
    rw [← Except.ok.inj hrows] at hrow
    exact hall row hrow
  have hrun : FreshRun mergeEnv (stateAfter seededState mergeTwo) [mergeTwo] :=
    .apply (.seed sampleGroup _ 0 .start) mergeTwo_validFor hnew happly
  have hall := freshRun_agrees_and_replays mergeEnv _ _ hrun
  exact ⟨counts, happly, hall.1, hall.2⟩

/-- The second merge closes the component of the first. A replay of the first
opens it again, though its node stays retired. -/
theorem replay_mergeTwo_reopens :
    ∃ firstCounts secondCounts replayCounts,
      mergeTwo.ValidFor seededState ∧ mergeThree.ValidFor (stateAfter seededState mergeTwo) ∧
      mergeTwo.apply mergeEnv seededState =
        .ok (firstCounts, stateAfter seededState mergeTwo) ∧
      mergeThree.apply mergeEnv (stateAfter seededState mergeTwo) =
        .ok (secondCounts, stateAfter (stateAfter seededState mergeTwo) mergeThree) ∧
      mergeTwo.apply mergeEnv (stateAfter (stateAfter seededState mergeTwo) mergeThree) =
        .ok (replayCounts,
          stateAfter (stateAfter (stateAfter seededState mergeTwo) mergeThree) mergeTwo) ∧
      (stateAfter (stateAfter (stateAfter seededState mergeTwo) mergeThree)
        mergeTwo).components ≠
          (stateAfter (stateAfter seededState mergeTwo) mergeThree).components ∧
      ¬ComponentsAgree
        (stateAfter (stateAfter (stateAfter seededState mergeTwo) mergeThree) mergeTwo).nodes
        (stateAfter (stateAfter (stateAfter seededState mergeTwo) mergeThree)
          mergeTwo).components := by
  obtain ⟨firstCounts, hfirst⟩ := @apply_stateAfter seededState mergeTwo (by decide +kernel)
  obtain ⟨secondCounts, hsecond⟩ :=
    @apply_stateAfter (stateAfter seededState mergeTwo) mergeThree (by decide +kernel)
  obtain ⟨replayCounts, hreplay⟩ :=
    @apply_stateAfter (stateAfter (stateAfter seededState mergeTwo) mergeThree) mergeTwo
      (by decide +kernel)
  refine ⟨firstCounts, secondCounts, replayCounts, mergeTwo_validFor, mergeThree_validFor, hfirst,
    hsecond, hreplay, fun heq => ?_, by decide +kernel⟩
  have hrows : (stateAfter (stateAfter (stateAfter seededState mergeTwo) mergeThree)
      mergeTwo).components.rows ≠
        (stateAfter (stateAfter seededState mergeTwo) mergeThree).components.rows := by
    decide +kernel
  exact hrows (congrArg Table.rows heq)

end CrmBot.Compaction
