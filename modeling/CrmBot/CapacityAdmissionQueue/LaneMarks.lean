import CrmBot.CapacityAdmissionQueue.ProjectionWriter

/-! What marking a lane dirty does to its flag: the writers of the projection leave the
flag of a lane as it is, or empty its claim and count it up. -/

namespace CrmBot.CapacityAdmissionQueue

open Relational CrmBot.Python

def dirtyCountOf (flag : Option DirtyFlagRow) : Nat :=
  (flag.map DirtyFlagRow.dirtyCount).getD 0

/-- The flag was written on behalf of others, which empties its claim and counts up. -/
structure Marks (before after : Option DirtyFlagRow) : Prop where
  counts : dirtyCountOf before < dirtyCountOf after
  unclaims : ∃ flag, after = some flag ∧ flag.claimedBy = none

theorem Marks.isSome {before after : Option DirtyFlagRow} (h : Marks before after) :
    after.isSome = true := by
  obtain ⟨flag, hflag, _⟩ := h.unclaims
  rw [hflag]
  rfl

theorem Marks.ne {before after : Option DirtyFlagRow} (h : Marks before after) :
    after ≠ before := by
  intro heq
  have hcounts := h.counts
  rw [heq] at hcounts
  omega

theorem Marks.then {before between after : Option DirtyFlagRow} (hfirst : Marks before between)
    (hsecond : after = between ∨ Marks between after) : Marks before after := by
  rcases hsecond with rfl | hmarks
  · exact hfirst
  · exact ⟨hfirst.counts.trans hmarks.counts, hmarks.unclaims⟩

theorem flag_markLaneDirty (state : QueueState) (target : LaneKey) (reason : String)
    (occurredAt : Int) (id : String) :
    if laneId target = id then
      Marks (state.dirtyFlags.find? id)
        ((markLaneDirty state target reason occurredAt).dirtyFlags.find? id)
    else
      (markLaneDirty state target reason occurredAt).dirtyFlags.find? id =
        state.dirtyFlags.find? id := by
  unfold markLaneDirty
  dsimp only
  split
  · next heq =>
    subst heq
    cases hfind : state.dirtyFlags.find? (laneId target) with
    | none =>
      have hnone := Table.find?_eq_none_iff.mp hfind
      rw [Table.find?_insertOrIgnore_self]
      · exact ⟨Nat.one_pos, _, rfl, rfl⟩
      · rw [Table.keys_updateWhere]
        exact hnone
    | some old =>
      obtain ⟨hmem, hid⟩ := Table.find?_eq_some_iff.mp hfind
      rw [Table.insertOrIgnore_of_mem, Table.find?_updateWhere, hfind, Option.map_some, if_pos]
      · exact ⟨Nat.lt_succ_self _, _, rfl, rfl⟩
      · exact decide_eq_true hid
      · rw [Table.keys_updateWhere, Table.mem_keys]
        exact ⟨old, hmem, hid⟩
  · next hne =>
    rw [Table.find?_insertOrIgnore_of_ne, Table.find?_updateWhere]
    · cases hfind : state.dirtyFlags.find? id with
      | none => rfl
      | some old =>
        have hid := (Table.find?_eq_some_iff.mp hfind).2
        rw [Option.map_some, if_neg]
        intro htest
        exact hne ((of_decide_eq_true htest).symm.trans hid)
    · exact Ne.symm hne

/-- One candidate leaves the flag of a lane or marks it. -/
theorem flag_persistStep (progress : QueueState × List String) (candidate : ProjectionCandidate)
    (occurredAt : Int) (id : String) :
    let next := persistStep occurredAt progress candidate
    (next.1.dirtyFlags.find? id = progress.1.dirtyFlags.find? id ∨
        Marks (progress.1.dirtyFlags.find? id) (next.1.dirtyFlags.find? id)) ∧
      (laneId candidate.lane = id → id ∉ progress.2 →
        Marks (progress.1.dirtyFlags.find? id) (next.1.dirtyFlags.find? id)) ∧
      (id ∈ next.2 → id ∈ progress.2 ∨ laneId candidate.lane = id) := by
  unfold persistStep
  dsimp only
  have hmark := flag_markLaneDirty (persistCandidate progress.1 candidate occurredAt)
    candidate.lane "scheduled_projection_upserted" occurredAt id
  split
  · next hmarked =>
    refine ⟨.inl rfl, ?_, .inl⟩
    rintro rfl hnot
    exact absurd hmarked hnot
  · by_cases hid : laneId candidate.lane = id
    · rw [if_pos hid] at hmark
      exact ⟨.inr hmark, fun _ _ => hmark, fun _ => .inr hid⟩
    · rw [if_neg hid] at hmark
      refine ⟨.inl hmark, fun h => absurd h hid, fun h => ?_⟩
      rcases List.mem_cons.mp h with heq | hmem
      · exact absurd heq.symm hid
      · exact .inl hmem

/-- The candidates of one call leave the flag of a lane or mark it; one of the lane
marks it. -/
theorem flag_persistProjectionCandidates (state : QueueState)
    (candidates : List ProjectionCandidate) (occurredAt : Int) (id : String) :
    let next := persistProjectionCandidates state candidates occurredAt
    (next.dirtyFlags.find? id = state.dirtyFlags.find? id ∨
        Marks (state.dirtyFlags.find? id) (next.dirtyFlags.find? id)) ∧
      ((∃ candidate ∈ candidates, laneId candidate.lane = id) →
        Marks (state.dirtyFlags.find? id) (next.dirtyFlags.find? id)) := by
  have hloop : ∀ progress : QueueState × List String,
      let next := (candidates.foldl (persistStep occurredAt) progress).1
      (next.dirtyFlags.find? id = progress.1.dirtyFlags.find? id ∨
          Marks (progress.1.dirtyFlags.find? id) (next.dirtyFlags.find? id)) ∧
        (id ∉ progress.2 → (∃ candidate ∈ candidates, laneId candidate.lane = id) →
          Marks (progress.1.dirtyFlags.find? id) (next.dirtyFlags.find? id)) := by
    induction candidates with
    | nil =>
      intro progress
      refine ⟨.inl rfl, ?_⟩
      rintro _ ⟨candidate, hmem, _⟩
      cases hmem
    | cons candidate rest ih =>
      intro progress
      obtain ⟨hkept, hmarks, hmarked⟩ := flag_persistStep progress candidate occurredAt id
      obtain ⟨hkeptRest, hmarksRest⟩ := ih (persistStep occurredAt progress candidate)
      rw [List.foldl_cons]
      constructor
      · rcases hkept with hsame | hfirst
        · rw [← hsame]
          exact hkeptRest
        · exact .inr (hfirst.then hkeptRest)
      · rintro hnot ⟨other, hmem, hid⟩
        by_cases hhead : laneId candidate.lane = id
        · exact (hmarks hhead hnot).then hkeptRest
        · have hrest : ∃ other ∈ rest, laneId other.lane = id := by
            rcases List.mem_cons.mp hmem with rfl | hmem
            · exact absurd hid hhead
            · exact ⟨other, hmem, hid⟩
          have hstill := fun h => (hmarked h).elim hnot hhead
          rcases hkept with hsame | hfirst
          · rw [← hsame]
            exact hmarksRest hstill hrest
          · exact hfirst.then hkeptRest
  obtain ⟨hkept, hmarks⟩ := hloop (state, [])
  exact ⟨hkept, hmarks List.not_mem_nil⟩

theorem flag_syncProjectionLifecycle (state : QueueState) (update : LifecycleUpdate)
    (id : String) :
    (syncProjectionLifecycle state update).dirtyFlags.find? id = state.dirtyFlags.find? id ∨
      Marks (state.dirtyFlags.find? id)
        ((syncProjectionLifecycle state update).dirtyFlags.find? id) := by
  unfold syncProjectionLifecycle
  split
  · exact .inl rfl
  · split
    · next row _ _ =>
      have hmark := flag_markLaneDirty
        { state with
          workItems := state.workItems.updateWhere
            (fun old => old.workItemId = update.workItemId)
            (fun old =>
              { old with
                status := update.status, retryPlan := update.retryPlan
                updatedAt := update.changedAt
                lane := { old.lane with modelRef := update.modelRef.getD old.lane.modelRef } })
            fun _ => rfl }
        { row.lane with modelRef := update.modelRef.getD row.lane.modelRef }
        (reasonForStatus update.status) update.changedAt id
      split at hmark
      · exact .inr hmark
      · exact .inl hmark
    · exact .inl rfl

end CrmBot.CapacityAdmissionQueue
