import Mathlib.Data.List.Induction
import Mathlib.Data.List.Nodup

/-! Dictionaries filled from a list.

`groupBy` collects the values of each key, `keepFirst` keeps the first value of
each key, both in the order in which the keys first occur. -/

namespace Grouping

variable {κ α : Type*} [DecidableEq κ]

/-- `groups.setdefault(key, []).append(value)`. -/
def addToGroup (key : κ) (value : α) : List (κ × List α) → List (κ × List α)
  | [] => [(key, [value])]
  | (first, group) :: rest =>
    if first = key then (first, group ++ [value]) :: rest
    else (first, group) :: addToGroup key value rest

def groupBy (keyOf : α → κ) (values : List α) : List (κ × List α) :=
  values.foldl (fun groups value => addToGroup (keyOf value) value groups) []

/-- A key that is there already keeps its place, a new one goes to the end. -/
def addKey (keys : List κ) (key : κ) : List κ := if key ∈ keys then keys else keys ++ [key]

def firstKeys (keyOf : α → κ) (values : List α) : List κ :=
  values.foldl (fun keys value => addKey keys (keyOf value)) []

theorem firstKeys_append_singleton (keyOf : α → κ) (values : List α) (value : α) :
    firstKeys keyOf (values ++ [value]) = addKey (firstKeys keyOf values) (keyOf value) := by
  simp [firstKeys]

@[simp] theorem mem_addKey {keys : List κ} {key other : κ} :
    other ∈ addKey keys key ↔ other ∈ keys ∨ other = key := by
  unfold addKey
  split
  · next hkey =>
    constructor
    · exact .inl
    · rintro (hother | rfl)
      · exact hother
      · exact hkey
  · simp

theorem nodup_addKey {keys : List κ} (hkeys : keys.Nodup) (key : κ) : (addKey keys key).Nodup := by
  unfold addKey
  split
  · exact hkeys
  · next hnew =>
    apply List.nodup_append.mpr
    refine ⟨hkeys, List.nodup_singleton _, ?_⟩
    intro other hother added hadded heq
    rw [List.mem_singleton.mp hadded] at heq
    rw [heq] at hother
    exact hnew hother

theorem nodup_firstKeys (keyOf : α → κ) (values : List α) : (firstKeys keyOf values).Nodup := by
  induction values using List.reverseRecOn with
  | nil => exact List.nodup_nil
  | append_singleton values value ih =>
    rw [firstKeys_append_singleton]
    exact nodup_addKey ih _

theorem mem_firstKeys {keyOf : α → κ} {values : List α} {key : κ} :
    key ∈ firstKeys keyOf values ↔ ∃ value ∈ values, keyOf value = key := by
  induction values using List.reverseRecOn with
  | nil => simp [firstKeys]
  | append_singleton values value ih =>
    rw [firstKeys_append_singleton, mem_addKey, ih]
    simp only [List.mem_append, List.mem_singleton]
    constructor
    · rintro (⟨found, hfound, hkey⟩ | rfl)
      · exact ⟨found, .inl hfound, hkey⟩
      · exact ⟨value, .inr rfl, rfl⟩
    · rintro ⟨found, hfound | rfl, hkey⟩
      · exact .inl ⟨found, hfound, hkey⟩
      · exact .inr hkey.symm

/-- Adding to the groups that a function gives for the keys. -/
theorem addToGroup_map {keys : List κ} (hkeys : keys.Nodup) {groupOf : κ → List α} {key : κ}
    (hnew : key ∉ keys → groupOf key = []) (value : α) :
    addToGroup key value (keys.map fun other => (other, groupOf other)) =
      (addKey keys key).map fun other =>
        (other, if other = key then groupOf other ++ [value] else groupOf other) := by
  induction keys with
  | nil => simp [addToGroup, addKey, hnew]
  | cons first rest ih =>
    obtain ⟨hfirst, hrest⟩ := List.nodup_cons.mp hkeys
    rw [List.map_cons, addToGroup]
    by_cases hsame : first = key
    · subst hsame
      have hothers : rest.map (fun other => (other, groupOf other)) = rest.map fun other =>
          (other, if other = first then groupOf other ++ [value] else groupOf other) := by
        apply List.map_congr_left
        intro other hother
        have hne : other ≠ first := by
          intro heq
          rw [heq] at hother
          exact hfirst hother
        rw [if_neg hne]
      rw [if_pos rfl, hothers]
      simp [addKey]
    · have hadd : addKey (first :: rest) key = first :: addKey rest key := by
        simp only [addKey, List.mem_cons, Ne.symm hsame, false_or]
        split <;> rfl
      rw [if_neg hsame, hadd, List.map_cons, if_neg hsame, ih hrest fun habsent => hnew ?_]
      simpa [Ne.symm hsame] using habsent

/-- The group of a key holds the values of the key, in their order. -/
theorem groupBy_eq (keyOf : α → κ) (values : List α) :
    groupBy keyOf values = (firstKeys keyOf values).map fun key =>
      (key, values.filter fun value => keyOf value = key) := by
  induction values using List.reverseRecOn with
  | nil => rfl
  | append_singleton values value ih =>
    have hstep : groupBy keyOf (values ++ [value]) =
        addToGroup (keyOf value) value (groupBy keyOf values) := by
      simp [groupBy]
    have hnew : keyOf value ∉ firstKeys keyOf values →
        values.filter (fun other => keyOf other = keyOf value) = [] := by
      intro habsent
      apply List.filter_eq_nil_iff.mpr
      intro other hother
      rw [decide_eq_true_eq]
      intro heq
      exact habsent (mem_firstKeys.mpr ⟨other, hother, heq⟩)
    rw [hstep, ih, addToGroup_map (nodup_firstKeys _ _) hnew, firstKeys_append_singleton]
    apply List.map_congr_left
    intro key _
    by_cases hkey : key = keyOf value
    · simp [hkey]
    · simp [hkey, Ne.symm hkey]

theorem mem_groupBy {keyOf : α → κ} {values : List α} {key : κ} {group : List α} :
    (key, group) ∈ groupBy keyOf values ↔
      (∃ value ∈ values, keyOf value = key) ∧ group = values.filter fun value =>
        keyOf value = key := by
  rw [← mem_firstKeys, groupBy_eq, List.mem_map]
  constructor
  · rintro ⟨other, hother, heq⟩
    cases heq
    exact ⟨hother, rfl⟩
  · rintro ⟨hkey, rfl⟩
    exact ⟨key, hkey, rfl⟩

/-! First values. -/

/-- `kept.setdefault(key, value)` for every value. -/
def keepFirst (keyOf : α → κ) (values : List α) : List α :=
  values.foldl (fun kept value =>
    if kept.any fun other => keyOf other = keyOf value then kept else kept ++ [value]) []

theorem keepFirst_append_singleton (keyOf : α → κ) (values : List α) (value : α) :
    keepFirst keyOf (values ++ [value]) =
      if (keepFirst keyOf values).any fun other => keyOf other = keyOf value then
        keepFirst keyOf values
      else keepFirst keyOf values ++ [value] := by
  simp only [keepFirst, List.foldl_append, List.foldl_cons, List.foldl_nil]
  congr

theorem mem_of_mem_keepFirst {keyOf : α → κ} {values : List α} {value : α}
    (h : value ∈ keepFirst keyOf values) : value ∈ values := by
  induction values using List.reverseRecOn with
  | nil => cases h
  | append_singleton values last ih =>
    rw [keepFirst_append_singleton] at h
    split at h
    · exact List.mem_append_left _ (ih h)
    · rcases List.mem_append.mp h with hkept | hlast
      · exact List.mem_append_left _ (ih hkept)
      · exact List.mem_append_right _ hlast

/-- Every key that occurs is kept. -/
theorem exists_mem_keepFirst (keyOf : α → κ) {values : List α} {value : α} (h : value ∈ values) :
    ∃ kept ∈ keepFirst keyOf values, keyOf kept = keyOf value := by
  induction values using List.reverseRecOn with
  | nil => cases h
  | append_singleton values last ih =>
    rw [keepFirst_append_singleton]
    rcases List.mem_append.mp h with hvalues | hlast
    · obtain ⟨kept, hkept, hkey⟩ := ih hvalues
      split
      · exact ⟨kept, hkept, hkey⟩
      · exact ⟨kept, List.mem_append_left _ hkept, hkey⟩
    · rw [List.mem_singleton.mp hlast]
      split
      · next hany => simpa using hany
      · exact ⟨last, List.mem_append_right _ (List.mem_singleton_self _), rfl⟩

end Grouping
