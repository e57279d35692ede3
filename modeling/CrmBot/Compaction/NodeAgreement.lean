import CrmBot.Compaction.ComponentTable

/-! Components that agree with the nodes they stand for.

The agreement survives the absorption of every row that is new and supersedes
nodes of its own group. A row that was absorbed leaves traces that no later
absorption removes, and while its node stays active, absorbing it again does
nothing. -/

namespace CrmBot.Compaction

open Relational CrmBot.Python FailingFold

def NodeActive (nodes : Table NodeRow.nodeRef) (nodeRef : String) : Prop :=
  ∃ node ∈ nodes.rows, node.nodeRef = nodeRef ∧ node.active = true

/-- A node of the group is there. -/
def NodeIn (nodes : Table NodeRow.nodeRef) (group : GroupKey) (nodeRef : String) : Prop :=
  ∃ node ∈ nodes.rows, node.nodeRef = nodeRef ∧ node.group = group

/-- A component is active exactly when the node that represents it is. -/
def ComponentsAgree (nodes : Table NodeRow.nodeRef)
    (components : Table ComponentRow.componentRef) : Prop :=
  ∀ component ∈ components.rows,
    component.active = true ↔ NodeActive nodes component.representativeNodeRef

structure ComponentsSound (nodes : Table NodeRow.nodeRef)
    (components : Table ComponentRow.componentRef) : Prop where
  named : ComponentsNamed components
  represented : ∀ component ∈ components.rows,
    NodeIn nodes component.group component.representativeNodeRef
  agree : ComponentsAgree nodes components
  owned : ∀ node ∈ nodes.rows, componentRefForNode node.nodeRef ∈ components.keys
  claimed : ∀ node ∈ nodes.rows, ∀ ref ∈ node.sourceClaimRefs,
    NodeIn nodes node.group (rawClaimNodeRef node.group ref)

/-- What a row must be to be absorbed soundly. -/
structure Absorbable (nodes : Table NodeRow.nodeRef) (row : NodeRow) : Prop where
  fresh : row.nodeRef ∉ nodes.keys
  active : row.active = true
  sources : ∀ ref ∈ row.supersedesNodeRefs, NodeIn nodes row.group ref
  claimed : ∀ ref ∈ row.sourceClaimRefs,
    NodeIn nodes row.group (rawClaimNodeRef row.group ref) ∨
      row.nodeRef = rawClaimNodeRef row.group ref

theorem NodeIn.mem_keys {nodes : Table NodeRow.nodeRef} {group : GroupKey} {nodeRef : String}
    (h : NodeIn nodes group nodeRef) : nodeRef ∈ nodes.keys := by
  obtain ⟨node, hnode, href, _⟩ := h
  exact Table.mem_keys.mpr ⟨node, hnode, href⟩

/-! The nodes after an absorption. -/

section Nodes

variable {nodes : Table NodeRow.nodeRef} {row : NodeRow}

@[simp] theorem deactivated_nodeRef (nodeRefs : List String) (now : Int) (node : NodeRow) :
    (deactivated nodeRefs now node).nodeRef = node.nodeRef := by
  unfold deactivated
  split <;> rfl

@[simp] theorem deactivated_group (nodeRefs : List String) (now : Int) (node : NodeRow) :
    (deactivated nodeRefs now node).group = node.group := by
  unfold deactivated
  split <;> rfl

@[simp] theorem deactivated_sourceClaimRefs (nodeRefs : List String) (now : Int) (node : NodeRow) :
    (deactivated nodeRefs now node).sourceClaimRefs = node.sourceClaimRefs := by
  unfold deactivated
  split <;> rfl

@[simp] theorem deactivated_compacted (nodeRefs : List String) (now : Int) (node : NodeRow) :
    (deactivated nodeRefs now node).compacted = node.compacted := by
  unfold deactivated
  split <;> rfl

theorem deactivated_active {nodeRefs : List String} {now : Int} {node : NodeRow} :
    (deactivated nodeRefs now node).active = true ↔ node.active = true ∧
        node.nodeRef ∉ nodeRefs := by
  unfold deactivated
  by_cases hmem : node.nodeRef ∈ nodeRefs <;> cases hactive : node.active <;> simp [hmem, hactive]

theorem rows_absorbNode (hfresh : row.nodeRef ∉ nodes.keys) :
    (absorbNode nodes row).rows =
      (nodes.rows ++ [row]).map (deactivated row.supersedesNodeRefs row.createdAt) := by
  unfold absorbNode
  rw [rows_deactivateNodes, Table.rows_insertOrIgnore_of_notMem hfresh]

theorem mem_absorbNode (hfresh : row.nodeRef ∉ nodes.keys) {node : NodeRow} :
    node ∈ (absorbNode nodes row).rows ↔
      ∃ old, (old ∈ nodes.rows ∨ old = row) ∧
        deactivated row.supersedesNodeRefs row.createdAt old = node := by
  rw [rows_absorbNode hfresh, List.mem_map]
  simp only [List.mem_append, List.mem_singleton]

theorem mem_keys_absorbNode {nodeRef : String} :
    nodeRef ∈ (absorbNode nodes row).keys ↔ nodeRef ∈ nodes.keys ∨ nodeRef = row.nodeRef := by
  unfold absorbNode
  rw [keys_deactivateNodes, Table.keys_insertOrIgnore]

theorem nodeIn_absorbNode (hfresh : row.nodeRef ∉ nodes.keys) {group : GroupKey}
    {nodeRef : String} :
    NodeIn (absorbNode nodes row) group nodeRef ↔
      NodeIn nodes group nodeRef ∨ row.nodeRef = nodeRef ∧ row.group = group := by
  unfold NodeIn
  constructor
  · rintro ⟨node, hnode, href, hgroup⟩
    obtain ⟨old, hold, rfl⟩ := (mem_absorbNode hfresh).mp hnode
    rw [deactivated_nodeRef] at href
    rw [deactivated_group] at hgroup
    rcases hold with hold | rfl
    · exact .inl ⟨old, hold, href, hgroup⟩
    · exact .inr ⟨href, hgroup⟩
  · rintro (⟨old, hold, href, hgroup⟩ | ⟨href, hgroup⟩)
    · refine ⟨_, (mem_absorbNode hfresh).mpr ⟨old, .inl hold, rfl⟩, ?_, ?_⟩
      · rw [deactivated_nodeRef, href]
      · rw [deactivated_group, hgroup]
    · refine ⟨_, (mem_absorbNode hfresh).mpr ⟨row, .inr rfl, rfl⟩, ?_, ?_⟩
      · rw [deactivated_nodeRef, href]
      · rw [deactivated_group, hgroup]

/-- After an absorption its row is active, and of the others those that were
active and are not superseded. -/
theorem nodeActive_absorbNode (h : Absorbable nodes row) {nodeRef : String} :
    NodeActive (absorbNode nodes row) nodeRef ↔
      nodeRef = row.nodeRef ∨ NodeActive nodes nodeRef ∧ nodeRef ∉ row.supersedesNodeRefs := by
  unfold NodeActive
  constructor
  · rintro ⟨node, hnode, href, hactive⟩
    obtain ⟨old, hold, rfl⟩ := (mem_absorbNode h.fresh).mp hnode
    rw [deactivated_nodeRef] at href
    rw [deactivated_active] at hactive
    rcases hold with hold | rfl
    · exact .inr ⟨⟨old, hold, href, hactive.1⟩, href ▸ hactive.2⟩
    · exact .inl href.symm
  · rintro (rfl | ⟨⟨old, hold, href, hactive⟩, hkept⟩)
    · refine ⟨_, (mem_absorbNode h.fresh).mpr ⟨row, .inr rfl, rfl⟩, deactivated_nodeRef _ _ _, ?_⟩
      rw [deactivated_active]
      exact ⟨h.active, fun hmem => h.fresh (h.sources _ hmem).mem_keys⟩
    · refine ⟨_, (mem_absorbNode h.fresh).mpr ⟨old, .inl hold, rfl⟩, ?_, ?_⟩
      · rw [deactivated_nodeRef, href]
      · rw [deactivated_active]
        exact ⟨hactive, href ▸ hkept⟩

/-- Another row stays absorbable. -/
theorem Absorbable.absorbNode {other : NodeRow} (h : Absorbable nodes row)
    (hother : Absorbable nodes other) (hne : other.nodeRef ≠ row.nodeRef) :
    Absorbable (absorbNode nodes row) other where
  fresh := by
    rw [mem_keys_absorbNode, not_or]
    exact ⟨hother.fresh, hne⟩
  active := hother.active
  sources := fun ref href => (nodeIn_absorbNode h.fresh).mpr (.inl (hother.sources ref href))
  claimed := fun ref href =>
    (hother.claimed ref href).imp_left fun hin => (nodeIn_absorbNode h.fresh).mpr (.inl hin)

end Nodes

/-! The components after an absorption. -/

section Components

variable {nodes : Table NodeRow.nodeRef} {components : Table ComponentRow.componentRef}
  {row : NodeRow}

/-- What closing does to one component. -/
def closedComponent (row : NodeRow) (component : ComponentRow) : ComponentRow :=
  if component.group = row.group &&
      (componentRefs row.supersedesNodeRefs).contains component.componentRef &&
      component.active then
    { component with active := false, updatedAt := row.createdAt }
  else component

theorem rows_closeComponents (components : Table ComponentRow.componentRef) (row : NodeRow) :
    (closeComponents components row).rows = components.rows.map (closedComponent row) := rfl

@[simp] theorem closedComponent_group (row : NodeRow) (component : ComponentRow) :
    (closedComponent row component).group = component.group := by
  unfold closedComponent
  split <;> rfl

@[simp] theorem closedComponent_componentRef (row : NodeRow) (component : ComponentRow) :
    (closedComponent row component).componentRef = component.componentRef := by
  unfold closedComponent
  split <;> rfl

@[simp] theorem closedComponent_representativeNodeRef (row : NodeRow) (component : ComponentRow) :
    (closedComponent row component).representativeNodeRef = component.representativeNodeRef := by
  unfold closedComponent
  split <;> rfl

@[simp] theorem closedComponent_sourceClaimRefs (row : NodeRow) (component : ComponentRow) :
    (closedComponent row component).sourceClaimRefs = component.sourceClaimRefs := by
  unfold closedComponent
  split <;> rfl

@[simp] theorem closedComponent_supersedes (row : NodeRow) (component : ComponentRow) :
    (closedComponent row component).supersedesComponentRefs =
      component.supersedesComponentRefs := by
  unfold closedComponent
  split <;> rfl

theorem closedComponent_active {component : ComponentRow} :
    (closedComponent row component).active = true ↔ component.active = true ∧
      ¬(component.group = row.group ∧
          component.componentRef ∈ componentRefs row.supersedesNodeRefs) := by
  unfold closedComponent
  by_cases hgroup : component.group = row.group <;>
    by_cases hmem : component.componentRef ∈ componentRefs row.supersedesNodeRefs <;>
      cases hactive : component.active <;> simp [hgroup, hmem, hactive]

/-- A component that stays active is not touched. -/
theorem closedComponent_of_active {component : ComponentRow}
    (h : (closedComponent row component).active = true) :
        closedComponent row component = component := by
  unfold closedComponent at h ⊢
  split
  · next hclosed =>
    rw [if_pos hclosed] at h
    cases h
  · rfl

/-- The component of a new node is new. -/
theorem componentRef_fresh (hsound : ComponentsSound nodes components)
    (hfresh : row.nodeRef ∉ nodes.keys) : componentRefForNode row.nodeRef ∉ components.keys := by
  intro hmem
  obtain ⟨component, hcomponent, href⟩ := Table.mem_keys.mp hmem
  rw [hsound.named component hcomponent] at href
  have hnode := hsound.represented component hcomponent
  rw [componentRefForNode_injective href] at hnode
  exact hfresh hnode.mem_keys

theorem mem_absorbComponent (hfresh : componentRefForNode row.nodeRef ∉ components.keys)
    {component : ComponentRow} :
    component ∈ (absorbComponent components row).rows ↔
      (∃ old ∈ components.rows, closedComponent row old = component) ∨
        component = openComponent row := by
  have hclosed : (openComponent row).componentRef ∉ (closeComponents components row).keys := by
    unfold closeComponents
    rw [Table.keys_updateWhere]
    exact hfresh
  unfold absorbComponent upsertComponent
  rw [if_neg hclosed, Table.rows_insertOrIgnore_of_notMem hclosed, rows_closeComponents]
  simp

theorem mem_keys_absorbComponent (hfresh : componentRefForNode row.nodeRef ∉ components.keys)
    {componentRef : String} :
    componentRef ∈ (absorbComponent components row).keys ↔
      componentRef ∈ components.keys ∨ componentRef = componentRefForNode row.nodeRef := by
  simp only [Table.mem_keys, mem_absorbComponent hfresh]
  constructor
  · rintro ⟨component, ⟨old, hold, rfl⟩ | rfl, rfl⟩
    · exact .inl ⟨old, hold, (closedComponent_componentRef row old).symm⟩
    · exact .inr rfl
  · rintro (⟨old, hold, rfl⟩ | rfl)
    · exact ⟨_, .inl ⟨old, hold, rfl⟩, closedComponent_componentRef row old⟩
    · exact ⟨_, .inr rfl, rfl⟩

/-- A row that supersedes nothing is inserted. -/
theorem absorbNode_of_supersedes_nil (nodes : Table NodeRow.nodeRef)
    (h : row.supersedesNodeRefs = []) : absorbNode nodes row = nodes.insertOrIgnore row := by
  apply Table.eq_of_rows_eq
  unfold absorbNode
  rw [rows_deactivateNodes, h]
  refine (List.map_congr_left fun node _ => ?_).trans (List.map_id _)
  exact deactivated_of_notMem List.not_mem_nil

theorem absorbComponent_of_supersedes_nil
    (hfresh : componentRefForNode row.nodeRef ∉ components.keys)
    (h : row.supersedesNodeRefs = []) :
    absorbComponent components row = components.insertOrIgnore (openComponent row) := by
  have hclosed : closeComponents components row = components := by
    apply Table.eq_of_rows_eq
    rw [rows_closeComponents]
    refine (List.map_congr_left fun component _ => ?_).trans (List.map_id _)
    unfold closedComponent
    rw [h]
    simp [componentRefs, sorted]
  have hkey : (openComponent row).componentRef ∉ components.keys := hfresh
  unfold absorbComponent upsertComponent
  rw [hclosed, if_neg hkey]

/-- Absorbing a new row keeps the agreement. -/
theorem componentsSound_absorb (hsound : ComponentsSound nodes components)
    (hrow : Absorbable nodes row) :
    ComponentsSound (absorbNode nodes row) (absorbComponent components row) := by
  have hfresh := componentRef_fresh hsound hrow.fresh
  refine ⟨componentsNamed_absorbComponent hsound.named row, ?_, ?_, ?_, ?_⟩
  · intro component hcomponent
    rcases (mem_absorbComponent hfresh).mp hcomponent with ⟨old, hold, rfl⟩ | rfl
    · rw [closedComponent_group, closedComponent_representativeNodeRef]
      exact (nodeIn_absorbNode hrow.fresh).mpr (.inl (hsound.represented old hold))
    · exact (nodeIn_absorbNode hrow.fresh).mpr (.inr ⟨rfl, rfl⟩)
  · intro component hcomponent
    rcases (mem_absorbComponent hfresh).mp hcomponent with ⟨old, hold, rfl⟩ | rfl
    · rw [closedComponent_active, closedComponent_representativeNodeRef,
        nodeActive_absorbNode hrow, hsound.agree old hold, hsound.named old hold,
        mem_componentRefs]
      have hold' := hsound.represented old hold
      have hne : old.representativeNodeRef ≠ row.nodeRef :=
        fun heq => hrow.fresh (heq ▸ hold'.mem_keys)
      -- a superseded node of the table belongs to the group of the row
      have hgroup : old.representativeNodeRef ∈ row.supersedesNodeRefs → old.group = row.group := by
        intro hmem
        obtain ⟨node, hnode, href, hown⟩ := hold'
        obtain ⟨source, hsource, hsourceRef, hsourceGroup⟩ := hrow.sources _ hmem
        rw [← hown, ← hsourceGroup, nodes.eq_of_key_eq hnode hsource (href.trans hsourceRef.symm)]
      constructor
      · rintro ⟨hactive, hopen⟩
        exact .inr ⟨hactive, fun hmem => hopen ⟨hgroup hmem, hmem⟩⟩
      · rintro (heq | ⟨hactive, hkept⟩)
        · exact absurd heq hne
        · exact ⟨hactive, fun hboth => hkept hboth.2⟩
    · simp only [openComponent, true_iff]
      exact (nodeActive_absorbNode hrow).mpr (.inl rfl)
  · intro node hnode
    obtain ⟨old, hold, rfl⟩ := (mem_absorbNode hrow.fresh).mp hnode
    rw [deactivated_nodeRef, mem_keys_absorbComponent hfresh]
    rcases hold with hold | rfl
    · exact .inl (hsound.owned old hold)
    · exact .inr rfl
  · intro node hnode ref href
    obtain ⟨old, hold, rfl⟩ := (mem_absorbNode hrow.fresh).mp hnode
    rw [deactivated_sourceClaimRefs] at href
    rw [deactivated_group]
    rw [nodeIn_absorbNode hrow.fresh]
    rcases hold with hold | rfl
    · exact .inl (hsound.claimed old hold ref href)
    · exact (hrow.claimed ref href).imp_right fun heq => ⟨heq, rfl⟩

/-! The traces of an absorbed row. -/

/-- The row is there, the nodes it supersedes are retired, and its component has
what the row says. -/
structure RowRecorded (nodes : Table NodeRow.nodeRef)
    (components : Table ComponentRow.componentRef) (row : NodeRow) : Prop where
  present : row.nodeRef ∈ nodes.keys
  retired : ∀ ref ∈ row.supersedesNodeRefs, ref ∈ nodes.keys ∧ ¬NodeActive nodes ref
  component : ∃ component ∈ components.rows, component.representativeNodeRef = row.nodeRef ∧
    component.sourceClaimRefs = row.sourceClaimRefs ∧
    component.supersedesComponentRefs = componentRefs row.supersedesNodeRefs ∧
    (component.active = true → component.updatedAt = row.createdAt)

theorem rowRecorded_self (hsound : ComponentsSound nodes components)
    (hrow : Absorbable nodes row) :
    RowRecorded (absorbNode nodes row) (absorbComponent components row) row where
  present := mem_keys_absorbNode.mpr (.inr rfl)
  retired := by
    intro ref href
    have hin := hrow.sources ref href
    refine ⟨mem_keys_absorbNode.mpr (.inl hin.mem_keys), fun hactive => ?_⟩
    rcases (nodeActive_absorbNode hrow).mp hactive with rfl | ⟨_, hkept⟩
    · exact hrow.fresh hin.mem_keys
    · exact hkept href
  component := ⟨openComponent row,
    (mem_absorbComponent (componentRef_fresh hsound hrow.fresh)).mpr (.inr rfl), rfl, rfl, rfl,
    fun _ => rfl⟩

/-- A later absorption keeps the traces. -/
theorem RowRecorded.absorb {other : NodeRow} (hother : RowRecorded nodes components other)
    (hsound : ComponentsSound nodes components) (hrow : Absorbable nodes row) :
    RowRecorded (absorbNode nodes row) (absorbComponent components row) other where
  present := mem_keys_absorbNode.mpr (.inl hother.present)
  retired := by
    intro ref href
    obtain ⟨hkey, hinactive⟩ := hother.retired ref href
    refine ⟨mem_keys_absorbNode.mpr (.inl hkey), fun hactive => ?_⟩
    rcases (nodeActive_absorbNode hrow).mp hactive with rfl | ⟨hbefore, _⟩
    · exact hrow.fresh hkey
    · exact hinactive hbefore
  component := by
    obtain ⟨component, hcomponent, hrep, hclaims, hsupersedes, hupdated⟩ := hother.component
    refine ⟨closedComponent row component,
      (mem_absorbComponent (componentRef_fresh hsound hrow.fresh)).mpr (.inl ⟨_, hcomponent, rfl⟩),
      ?_, ?_, ?_, fun hactive => ?_⟩
    · rw [closedComponent_representativeNodeRef, hrep]
    · rw [closedComponent_sourceClaimRefs, hclaims]
    · rw [closedComponent_supersedes, hsupersedes]
    · have hsame := closedComponent_of_active hactive
      rw [hsame] at hactive ⊢
      exact hupdated hactive

/-- Absorbing a recorded row again while its node is active does nothing. -/
theorem absorb_of_recorded (hsound : ComponentsSound nodes components)
    (hrow : RowRecorded nodes components row) (hactive : NodeActive nodes row.nodeRef) :
    absorbNode nodes row = nodes ∧ absorbComponent components row = components := by
  constructor
  · unfold absorbNode
    rw [Table.insertOrIgnore_of_mem hrow.present]
    apply Table.eq_of_rows_eq
    rw [rows_deactivateNodes]
    refine (List.map_congr_left fun node hnode => ?_).trans (List.map_id _)
    unfold deactivated
    split
    · next hsource =>
      simp only [Bool.and_eq_true, List.contains_iff_mem] at hsource
      exact absurd ⟨node, hnode, rfl, hsource.2⟩ (hrow.retired _ hsource.1).2
    · rfl
  · have hclosed : closeComponents components row = components := by
      apply Table.eq_of_rows_eq
      rw [rows_closeComponents]
      refine (List.map_congr_left fun component hcomponent => ?_).trans (List.map_id _)
      unfold closedComponent
      split
      · next hsource =>
        simp only [Bool.and_eq_true, List.contains_iff_mem, decide_eq_true_eq] at hsource
        rw [hsound.named component hcomponent, mem_componentRefs] at hsource
        exact absurd ((hsound.agree component hcomponent).mp hsource.2)
          (hrow.retired _ hsource.1.2).2
      · rfl
    obtain ⟨component, hcomponent, hrep, hclaims, hsupersedes, hupdated⟩ := hrow.component
    have hname := hsound.named component hcomponent
    rw [hrep] at hname
    have hopen : component.active = true := by
      rw [hsound.agree component hcomponent, hrep]
      exact hactive
    have hkey : (openComponent row).componentRef ∈ components.keys :=
      Table.mem_keys.mpr ⟨component, hcomponent, hname⟩
    unfold absorbComponent upsertComponent
    rw [hclosed, if_pos hkey]
    apply Table.eq_of_rows_eq
    rw [Table.rows_updateWhere]
    refine (List.map_congr_left fun other hother => ?_).trans (List.map_id _)
    split
    · next hsame =>
      have heq : other = component :=
        components.eq_of_key_eq hother hcomponent ((of_decide_eq_true hsame).trans hname.symm)
      rw [heq]
      simp only [openComponent, ← hrep, ← hclaims, ← hsupersedes, ← hupdated hopen, ← hopen]
      rfl
    · rfl

/-- The node of a reference has an active component. -/
def ComponentActive (components : Table ComponentRow.componentRef) (nodeRef : String) : Prop :=
  ∃ component ∈ components.rows,
    component.representativeNodeRef = nodeRef ∧ component.active = true

theorem componentActive_absorbComponent (components : Table ComponentRow.componentRef)
    (row : NodeRow) : ComponentActive (absorbComponent components row) row.nodeRef := by
  unfold absorbComponent upsertComponent
  split
  · next hkey =>
    obtain ⟨old, hold, href⟩ := Table.mem_keys.mp hkey
    refine ⟨_, Table.mem_updateWhere.mpr ⟨old, hold, rfl⟩, ?_, ?_⟩
    · rw [if_pos (decide_eq_true href)]
      rfl
    · rw [if_pos (decide_eq_true href)]
      rfl
  · next hkey =>
    exact ⟨_, Table.mem_insertOrIgnore.mpr (.inr ⟨hkey, rfl⟩), rfl, rfl⟩

theorem ComponentActive.absorb {nodeRef : String} (h : ComponentActive components nodeRef)
    (hnamed : ComponentsNamed components) (hkept : nodeRef ∉ row.supersedesNodeRefs) :
    ComponentActive (absorbComponent components row) nodeRef := by
  obtain ⟨component, hcomponent, hrep, hactive⟩ := h
  have hname := hnamed component hcomponent
  rw [hrep] at hname
  have hopen : component ∈ (closeComponents components row).rows := by
    rw [rows_closeComponents, List.mem_map]
    refine ⟨component, hcomponent, closedComponent_of_active ?_⟩
    rw [closedComponent_active, hname, mem_componentRefs]
    exact ⟨hactive, fun hboth => hkept hboth.2⟩
  unfold absorbComponent upsertComponent
  split
  · refine ⟨_, Table.mem_updateWhere.mpr ⟨component, hopen, rfl⟩, ?_⟩
    split
    · next hsame =>
      have hsame' := (of_decide_eq_true hsame).symm.trans hname
      exact ⟨componentRefForNode_injective hsame', rfl⟩
    · exact ⟨hrep, hactive⟩
  · exact ⟨component, Table.mem_insertOrIgnore.mpr (.inl hopen), hrep, hactive⟩

/-- While no row supersedes them, absorbed rows have active components. -/
theorem componentActive_foldl {rows : List NodeRow} {nodeRef : String}
    (hkept : ∀ row ∈ rows, nodeRef ∉ row.supersedesNodeRefs) (hnamed : ComponentsNamed components)
    (h : nodeRef ∈ rows.map NodeRow.nodeRef ∨ ComponentActive components nodeRef) :
    ComponentActive (rows.foldl absorbComponent components) nodeRef := by
  induction rows generalizing components with
  | nil => simpa using h
  | cons row rest ih =>
    rw [List.foldl_cons]
    apply ih (fun other hother => hkept other (List.mem_cons_of_mem _ hother))
      (componentsNamed_absorbComponent hnamed row)
    rw [List.map_cons, List.mem_cons, or_assoc] at h
    rcases h with rfl | hrest | hactive
    · exact .inr (componentActive_absorbComponent components row)
    · exact .inl hrest
    · exact .inr (hactive.absorb hnamed (hkept row List.mem_cons_self))

end Components

end CrmBot.Compaction
