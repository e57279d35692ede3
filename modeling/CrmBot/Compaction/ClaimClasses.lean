import CrmBot.Compaction.ClaimLineage
import CrmBot.Library.Representatives

/-! The classes of the lineage: the claims that merged comparisons put together.

They do not depend on the order in which the comparisons are read, so a state with
more comparisons only joins more claims. -/

namespace CrmBot.Compaction

open Relational CrmBot.Python Representatives

/-! Unions. -/

theorem unionStep_joins {find : String → String} {root : String}
    (hroot : find root = root) (sourceRef : String) :
    Joins find (unionStep (find, root) sourceRef).1 (fun x y => x = root ∧ y = sourceRef) ∧
      ((unionStep (find, root) sourceRef).2 = root ∨
        (unionStep (find, root) sourceRef).2 = find sourceRef) := by
  simp only [unionStep]
  by_cases hsame : root = find sourceRef
  · rw [if_pos hsame]
    refine ⟨(Joins.refl find).replace ?_ fun _ _ _ _ _ h => h.elim, .inl rfl⟩
    rintro x y ⟨rfl, rfl⟩
    rw [hroot, hsame]
  rw [if_neg hsame]
  by_cases hle : root ≤ find sourceRef
  · rw [if_pos hle, if_pos hle]
    refine ⟨(Joins.hang find (find sourceRef) root).replace ?_ ?_, .inl rfl⟩
    · rintro x y ⟨rfl, rfl⟩
      simp [hroot, hsame]
    · rintro classes hkernel hrelated x y ⟨hx, hy⟩
      have hroots := hrelated root sourceRef ⟨rfl, rfl⟩
      have hyRoot := hkernel y root (hy.trans hroot.symm)
      exact classes.trans (hkernel x sourceRef hx)
        (classes.trans (classes.symm hroots) (classes.symm hyRoot))
  · rw [if_neg hle, if_neg hle]
    refine ⟨(Joins.hang find root (find sourceRef)).replace ?_ ?_, .inr rfl⟩
    · rintro x y ⟨rfl, rfl⟩
      simp [hroot, Ne.symm hsame]
    · rintro classes hkernel hrelated x y ⟨hx, hy⟩
      have hroots := hrelated root sourceRef ⟨rfl, rfl⟩
      have hxRoot := hkernel x root (hx.trans hroot.symm)
      exact classes.trans hxRoot (classes.trans hroots (classes.symm (hkernel y sourceRef hy)))

theorem foldl_unionStep_joins (refs : List String) {find : String → String} {root : String}
    (hfind : IsRootMap find) (hroot : find root = root) :
    Joins find (refs.foldl unionStep (find, root)).1 fun x y => x = root ∧ y ∈ refs := by
  induction refs generalizing find root with
  | nil => exact (Joins.refl find).congr fun x y => by simp
  | cons ref rest ih =>
    obtain ⟨hstep, hnext⟩ := unionStep_joins hroot ref
    have hmap : IsRootMap (find, root).1 := hfind
    obtain ⟨hmiddle, hnextRoot⟩ := unionStep_isRootMap ref hmap hroot
    rw [List.foldl_cons]
    generalize unionStep (find, root) ref = progress at hstep hnext hmiddle hnextRoot ⊢
    obtain ⟨middle, next⟩ := progress
    have hrest := ih hmiddle hnextRoot
    have hsame : middle root = middle next := by
      rcases hnext with rfl | rfl
      · rfl
      · exact (hstep.joined root ref ⟨rfl, rfl⟩).trans (hstep.kept ref (find ref) (hfind ref).symm)
    refine (hstep.trans hrest).replace ?_ ?_
    · rintro x y ⟨hx, hy⟩
      rw [hx]
      rcases List.mem_cons.mp hy with rfl | hy
      · exact hrest.kept root y (hstep.joined root y ⟨rfl, rfl⟩)
      · exact (hrest.kept root next hsame).trans (hrest.joined next y ⟨rfl, hy⟩)
    · rintro classes hkernel hrelated x y (⟨rfl, rfl⟩ | ⟨hx, hy⟩)
      · exact hrelated x y ⟨rfl, List.mem_cons_self⟩
      · have hnew : classes root x := by
          rcases hnext with hold | hother
          · rw [hx, hold]
          · rw [hx, hother]
            exact classes.trans (hrelated root ref ⟨rfl, List.mem_cons_self⟩)
              (hkernel ref (find ref) (hfind ref).symm)
        exact classes.trans (classes.symm hnew)
          (hrelated root y ⟨rfl, List.mem_cons_of_mem ref hy⟩)

/-- A union puts its claims into one class. -/
theorem unionSourceRefs_joins {find : String → String} (hfind : IsRootMap find)
    (sourceRefs : List String) :
    Joins find (unionSourceRefs find sourceRefs)
      fun x y => x ∈ sourceRefs ∧ y ∈ sourceRefs := by
  have hmem : ∀ ref, ref ∈ sorted sourceRefs.eraseDups ↔ ref ∈ sourceRefs := by simp
  unfold unionSourceRefs
  split
  · next hnil =>
    rw [hnil] at hmem
    exact (Joins.refl find).congr fun x y => by simp [← hmem]
  · next first rest hcons =>
    rw [hcons] at hmem
    have hjoins := foldl_unionStep_joins rest hfind (hfind first)
    have hfirst : ∀ ref ∈ sourceRefs, (rest.foldl unionStep (find, find first)).1 first =
        (rest.foldl unionStep (find, find first)).1 ref := by
      intro ref href
      rcases List.mem_cons.mp ((hmem ref).mpr href) with rfl | hrest
      · rfl
      · exact (hjoins.kept first (find first) (hfind first).symm).trans
          (hjoins.joined (find first) ref ⟨rfl, hrest⟩)
    refine hjoins.replace ?_ ?_
    · rintro x y ⟨hx, hy⟩
      exact (hfirst x hx).symm.trans (hfirst y hy)
    · rintro classes hkernel hrelated x y ⟨rfl, hy⟩
      have hroot := hkernel (find first) first (hfind first)
      exact classes.trans hroot (hrelated first y ⟨(hmem first).mp List.mem_cons_self,
        (hmem y).mp (List.mem_cons_of_mem first hy)⟩)

/-! The lineage. -/

/-- The claims of the nodes, by node. -/
def sourcesByNode (nodes : List NodeRow) : List (String × List String) :=
  nodes.map fun node => (node.nodeRef, node.sourceClaimRefs)

/-- The claims of the two nodes of a comparison. -/
def claimsOfPair (entries : List (String × List String)) (comparison : ComparisonRow) :
    List String :=
  (sourcesOf? entries comparison.leftNodeRef).getD [] ++
    (sourcesOf? entries comparison.rightNodeRef).getD []

/-- Two claims of the nodes that one merged comparison names. -/
def MergedTogether (state : PlannerState) (first second : String) : Prop :=
  ∃ comparison ∈ state.comparisons, comparison.status = .merged ∧
    first ∈ claimsOfPair (sourcesByNode state.nodes) comparison ∧
    second ∈ claimsOfPair (sourcesByNode state.nodes) comparison

/-- Every result of a comparison is a node of the state. -/
def ResultsKnown (state : PlannerState) : Prop :=
  ∀ comparison ∈ state.comparisons, ∀ result ∈ comparison.resultNodeRef,
    sourcesOf? (sourcesByNode state.nodes) result ≠ none

theorem merge_joins {lineage : Lineage} (hfind : IsRootMap lineage.find)
    {comparison : ComparisonRow} (hknown : ∀ result ∈ comparison.resultNodeRef,
      sourcesOf? lineage.rawSourcesByNode result ≠ none) :
    (lineage.merge comparison).rawSourcesByNode = lineage.rawSourcesByNode ∧
      Joins lineage.find (lineage.merge comparison).find fun x y => comparison.status = .merged ∧
        x ∈ claimsOfPair lineage.rawSourcesByNode comparison ∧
        y ∈ claimsOfPair lineage.rawSourcesByNode comparison := by
  unfold Lineage.merge
  split
  · next hstatus =>
    exact ⟨rfl, (Joins.refl lineage.find).congr fun x y => by simp [hstatus]⟩
  · next hstatus =>
    refine ⟨?_, (unionSourceRefs_joins hfind _).congr fun x y => ?_⟩
    · dsimp only
      split
      · next result hresult => exact if_neg fun h => hknown result hresult h.2
      · rfl
    · rw [not_not] at hstatus
      simp [hstatus, claimsOfPair]

/-- The classes of the lineage are those of the merged comparisons. -/
theorem lineageOf_joins {state : PlannerState} (hknown : ResultsKnown state) :
    Joins id (lineageOf state).find (MergedTogether state) := by
  have hrun : ∀ (comparisons : List ComparisonRow) (lineage : Lineage), IsRootMap lineage.find →
      (∀ comparison ∈ comparisons, ∀ result ∈ comparison.resultNodeRef,
        sourcesOf? lineage.rawSourcesByNode result ≠ none) →
      Joins lineage.find (comparisons.foldl Lineage.merge lineage).find fun x y =>
        ∃ comparison ∈ comparisons, comparison.status = .merged ∧
          x ∈ claimsOfPair lineage.rawSourcesByNode comparison ∧
          y ∈ claimsOfPair lineage.rawSourcesByNode comparison := by
    intro comparisons
    induction comparisons with
    | nil =>
      intro lineage _ _
      exact (Joins.refl lineage.find).congr fun x y => by simp
    | cons comparison rest ih =>
      intro lineage hfind hresults
      obtain ⟨hsources, hfirst⟩ := merge_joins hfind (hresults comparison List.mem_cons_self)
      have hrest := ih (lineage.merge comparison) (merge_isRootMap hfind comparison)
        fun other hother => hsources ▸ hresults other (List.mem_cons_of_mem comparison hother)
      rw [hsources] at hrest
      exact (hfirst.trans hrest).congr fun x y => by simp
  exact hrun state.comparisons
    ⟨sourcesByNode state.nodes, id⟩ (fun _ => rfl) hknown

end CrmBot.Compaction
