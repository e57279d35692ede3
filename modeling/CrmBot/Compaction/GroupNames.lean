import CrmBot.Compaction.PipelineRuns
import Mathlib.Data.Finset.Powerset
import Mathlib.Data.Set.Card

/-! The nodes that a group can have, and what they are called.

Groups and claims are named by digests, so no reference that is built of two nodes
or of two claims is built twice, and a set of claims has one compacted node. -/

namespace CrmBot.Compaction

open Relational CrmBot.Python

/-- What the digest of a compacted node is taken of. -/
def claimSetText (group : GroupKey) (refs : List String) : String :=
  group.workflowRunId ++ ":" ++ group.groupRef ++ ":" ++ ":".intercalate (sorted refs.eraseDups)

/-- A node of the group: one of its claims, or some of them compacted. -/
def IsGroupNode (env : CompactionEnv) (group : GroupKey) (claims : List String)
    (nodeRef : String) : Prop :=
  (∃ ref ∈ claims, nodeRef = rawClaimNodeRef group ref) ∨
    ∃ refs, refs ⊆ claims ∧ nodeRef = compactedClaimNodeRef env group refs

/-- The group and its claims are named as the pipeline names them, and the digest has
no collision on the sets of these claims. -/
structure NamedByDigests (env : CompactionEnv) (group : GroupKey) (claims : List String) :
    Prop where
  claims_ne_nil : claims ≠ []
  built : ∀ ref ∈ claims, BuiltReferences group ref
  digest : ∀ refs, refs ⊆ claims →
    ':' ∉ (env.sha256Hexdigest (claimSetText group refs)).toList
  noCollision : ∀ refs others, refs ⊆ claims → others ⊆ claims →
    env.sha256Hexdigest (claimSetText group refs) =
      env.sha256Hexdigest (claimSetText group others) →
    claimSetText group refs = claimSetText group others

variable {env : CompactionEnv} {group : GroupKey} {claims : List String}

theorem compactedClaimNodeRef_eq (refs : List String) :
    compactedClaimNodeRef env group refs = "compacted:" ++ (group.workflowRunId ++ (":" ++
      (group.groupRef ++ (":" ++ env.sha256Hexdigest (claimSetText group refs))))) := rfl

/-! Sets of claims. -/

/-- A claim reference as the writer of the claims builds it. -/
def BuiltClaim (ref : List Char) : Prop :=
  ∃ digest, ':' ∉ digest ∧ ref = "draft-claim-observation".toList ++ ':' :: digest

theorem builtClaim_of_builtReferences {ref : String} (h : BuiltReferences group ref) :
    BuiltClaim ref.toList := by
  obtain ⟨-, digest, hdigest, rfl⟩ := h
  exact ⟨digest.toList, hdigest, by simp⟩

/-- Claims that are joined by colons can be read back. -/
theorem eq_of_intercalate_eq {refs others : List (List Char)}
    (hrefs : ∀ ref ∈ refs, BuiltClaim ref) (hothers : ∀ ref ∈ others, BuiltClaim ref)
    (h : [':'].intercalate refs = [':'].intercalate others) : refs = others := by
  have hcons : ∀ (ref : List Char) (rest : List (List Char)),
      ∃ after, [':'].intercalate (ref :: rest) = ref ++ after ∧
        (rest = [] ∧ after = [] ∨ rest ≠ [] ∧ after = ':' :: [':'].intercalate rest) := by
    intro ref rest
    cases rest with
    | nil => exact ⟨[], by simp, .inl ⟨rfl, rfl⟩⟩
    | cons next more => exact ⟨_, by simp, .inr ⟨nofun, rfl⟩⟩
  induction refs generalizing others with
  | nil =>
    cases others with
    | nil => rfl
    | cons other more =>
      obtain ⟨digest, -, rfl⟩ := hothers other List.mem_cons_self
      obtain ⟨after, hafter, -⟩ := hcons ("draft-claim-observation".toList ++ ':' :: digest) more
      rw [hafter] at h
      simp at h
  | cons ref rest ih =>
    obtain ⟨digest, hdigest, rfl⟩ := hrefs ref List.mem_cons_self
    obtain ⟨after, hafter, hrest⟩ := hcons ("draft-claim-observation".toList ++ ':' :: digest) rest
    rw [hafter] at h
    cases others with
    | nil => simp at h
    | cons other more =>
      obtain ⟨digest', hdigest', rfl⟩ := hothers other List.mem_cons_self
      obtain ⟨after', hafter', hmore⟩ :=
        hcons ("draft-claim-observation".toList ++ ':' :: digest') more
      rw [hafter'] at h
      simp only [List.append_assoc, List.cons_append] at h
      obtain ⟨-, h⟩ := Delimited.split_eq (by decide) (by decide) h
      rcases hrest with ⟨rfl, rfl⟩ | ⟨-, rfl⟩
      · rcases hmore with ⟨rfl, rfl⟩ | ⟨-, rfl⟩
        · simpa using h
        · rw [List.append_nil] at h
          rw [h] at hdigest
          simp at hdigest
      · rcases hmore with ⟨rfl, rfl⟩ | ⟨-, rfl⟩
        · rw [List.append_nil] at h
          rw [← h] at hdigest'
          simp at hdigest'
        · obtain ⟨rfl, hjoined⟩ := Delimited.split_eq hdigest hdigest' h
          rw [ih (fun r hr => hrefs r (List.mem_cons_of_mem _ hr))
            (fun r hr => hothers r (List.mem_cons_of_mem _ hr)) hjoined]

theorem nodup_eraseDups (refs : List String) : refs.eraseDups.Nodup := by
  induction hlength : refs.length using Nat.strong_induction_on generalizing refs with
  | _ count ih =>
    cases refs with
    | nil => exact List.nodup_nil
    | cons ref rest =>
      rw [List.eraseDups_cons, List.nodup_cons]
      constructor
      · simp
      · have hle := List.length_filter_le (fun other => !other == ref) rest
        rw [List.length_cons] at hlength
        exact ih _ (by omega) _ rfl

theorem sorted_eraseDups_congr {refs others : List String} (h : ∀ ref, ref ∈ refs ↔ ref ∈ others) :
    sorted refs.eraseDups = sorted others.eraseDups := by
  rw [sorted_eq_iff, List.perm_ext_iff_of_nodup (nodup_eraseDups refs)
    (nodup_eraseDups others)]
  simpa using h

/-- A compacted node is called after a set of claims. -/
theorem compactedClaimNodeRef_congr {refs others : List String}
    (h : ∀ ref, ref ∈ refs ↔ ref ∈ others) :
    compactedClaimNodeRef env group refs = compactedClaimNodeRef env group others := by
  rw [compactedClaimNodeRef_eq, compactedClaimNodeRef_eq, claimSetText, claimSetText,
    sorted_eraseDups_congr h]

namespace NamedByDigests

variable (hnamed : NamedByDigests env group claims)

include hnamed

theorem claims_eq_of_text_eq {refs others : List String} (hrefs : refs ⊆ claims)
    (hothers : others ⊆ claims) (h : claimSetText group refs = claimSetText group others) :
    ∀ ref, ref ∈ refs ↔ ref ∈ others := by
  have hbuilt : ∀ values : List String, values ⊆ claims →
      ∀ ref ∈ (sorted values.eraseDups).map String.toList, BuiltClaim ref := by
    intro values hvalues ref href
    obtain ⟨value, hvalue, rfl⟩ := List.mem_map.mp href
    exact builtClaim_of_builtReferences (hnamed.built value (hvalues (by simpa using hvalue)))
  have hjoined := congrArg String.toList (Delimited.append_left_inj h)
  rw [String.toList_intercalate, String.toList_intercalate] at hjoined
  have hlists := eq_of_intercalate_eq (hbuilt refs hrefs) (hbuilt others hothers) hjoined
  have hsets := List.map_injective_iff.mpr (fun _ _ => String.toList_inj.mp) hlists
  intro ref
  have hmem : ref ∈ sorted refs.eraseDups ↔ ref ∈ sorted others.eraseDups := by rw [hsets]
  simpa using hmem

/-- A compacted node names its claims. -/
theorem claims_eq_of_compacted_eq {refs others : List String} (hrefs : refs ⊆ claims)
    (hothers : others ⊆ claims)
    (h : compactedClaimNodeRef env group refs = compactedClaimNodeRef env group others) :
    ∀ ref, ref ∈ refs ↔ ref ∈ others := by
  rw [compactedClaimNodeRef_eq, compactedClaimNodeRef_eq] at h
  have hdigest := Delimited.append_left_inj (Delimited.append_left_inj (Delimited.append_left_inj
    (Delimited.append_left_inj (Delimited.append_left_inj h))))
  exact hnamed.claims_eq_of_text_eq hrefs hothers
    (hnamed.noCollision refs others hrefs hothers hdigest)

/-! Pairs. -/

/-- What stands before the last colon of a node of the group is one of two texts, and
these two are told apart whatever precedes them. -/
theorem exists_fronts : ∃ rawFront compactedFront : List Char,
    (∀ nodeRef, IsGroupNode env group claims nodeRef → ∃ front tail,
      nodeRef.toList = front ++ ':' :: tail ∧ ':' ∉ tail ∧
        (front = rawFront ∨ front = compactedFront)) ∧
    ∀ before after : List Char, before ++ ':' :: rawFront ≠ after ++ ':' :: compactedFront := by
  obtain ⟨claim, hclaim⟩ := List.exists_mem_of_ne_nil claims hnamed.claims_ne_nil
  obtain ⟨⟨digest, hdigest, hgroup⟩, -⟩ := hnamed.built claim hclaim
  have hgroupList : group.groupRef.toList =
      "draft-claim-compaction-group".toList ++ ':' :: digest.toList := by
    rw [hgroup]
    simp
  refine ⟨("raw:".toList ++ group.workflowRunId.toList ++ ':' ::
      "draft-claim-compaction-group".toList ++ ':' :: digest.toList) ++
        ':' :: "draft-claim-observation".toList,
    ("compacted:".toList ++ group.workflowRunId.toList) ++ ':' ::
      "draft-claim-compaction-group".toList ++ ':' :: digest.toList, ?_, ?_⟩
  · rintro nodeRef (⟨ref, href, rfl⟩ | ⟨refs, hrefs, rfl⟩)
    · obtain ⟨-, tail, htail, hbuilt⟩ := hnamed.built ref href
      refine ⟨_, tail.toList, ?_, htail, .inl rfl⟩
      rw [toList_rawClaimNodeRef, hgroupList, hbuilt]
      simp
    · refine ⟨_, _, ?_, hnamed.digest refs hrefs, .inr rfl⟩
      rw [compactedClaimNodeRef_eq]
      simp [hgroupList]
  · intro before after h
    -- the last part would be a digest and "draft-claim-observation" at once, the one before it
    -- that digest and "draft-claim-compaction-group"
    have hobservation : ':' ∉ "draft-claim-observation".toList := by decide
    have hcompactionGroup : ':' ∉ "draft-claim-compaction-group".toList := by decide
    simp only [← List.cons_append, ← List.append_assoc] at h
    obtain ⟨h, hlast⟩ := Delimited.split_last_eq hobservation hdigest h
    obtain ⟨-, hmiddle⟩ := Delimited.split_last_eq hdigest hcompactionGroup h
    rw [hmiddle] at hlast
    exact absurd hlast (by decide)

/-- Two nodes that are joined by a colon can be read back. -/
theorem eq_of_joined_eq {left right left' right' : String}
    (hright : IsGroupNode env group claims right) (hright' : IsGroupNode env group claims right')
    (h : left ++ ":" ++ right = left' ++ ":" ++ right') : left = left' ∧ right = right' := by
  obtain ⟨rawFront, compactedFront, hshape, hapart⟩ := hnamed.exists_fronts
  obtain ⟨front, tail, hfront, htail, hkind⟩ := hshape right hright
  obtain ⟨front', tail', hfront', htail', hkind'⟩ := hshape right' hright'
  have hlist := congrArg String.toList h
  simp only [String.toList_append, hfront, hfront', show ":".toList = [':'] from rfl,
    List.append_assoc, List.singleton_append] at hlist
  rw [← List.cons_append, ← List.cons_append, ← List.append_assoc, ← List.append_assoc] at hlist
  obtain ⟨hbefore, rfl⟩ := Delimited.split_last_eq htail htail' hlist
  have hsame : front = front' := by
    rcases hkind with rfl | rfl
    · rcases hkind' with rfl | rfl
      · rfl
      · exact absurd hbefore (hapart _ _)
    · rcases hkind' with rfl | rfl
      · exact absurd hbefore.symm (hapart _ _)
      · rfl
  rw [hsame] at hbefore hfront
  refine ⟨String.toList_inj.mp (List.append_cancel_right hbefore), ?_⟩
  rw [← String.toList_inj, hfront, hfront']

/-- The reference of a comparison names its round and its nodes. -/
theorem comparisonRef_inj {round round' : Nat} {left right left' right' : String}
    (hright : IsGroupNode env group claims right) (hright' : IsGroupNode env group claims right')
    (h : comparisonRef group round left right = comparisonRef group round' left' right') :
    round = round' ∧ left = left' ∧ right = right' := by
  obtain ⟨before, hassoc⟩ : ∃ before : String, ∀ (count : Nat) (first second : String),
      comparisonRef group count first second =
        before ++ (toString count ++ ":" ++ (first ++ ":" ++ second)) := by
    refine ⟨"comparison:" ++ group.workflowRunId ++ ":" ++ group.groupRef ++ ":", ?_⟩
    intro count first second
    unfold comparisonRef
    generalize toString count = digits
    simp only [String.append_assoc]
  rw [hassoc, hassoc] at h
  obtain ⟨hround, hpair⟩ := Delimited.counted_inj (Delimited.append_left_inj h)
  exact ⟨hround, hnamed.eq_of_joined_eq hright hright' hpair⟩

theorem originSeparationRef_inj {first second first' second' : String} (hsecond : second ∈ claims)
    (hsecond' : second' ∈ claims)
    (h : originSeparationRef group first second = originSeparationRef group first' second') :
    first = first' ∧ second = second' := by
  obtain ⟨-, digest, hdigest, rfl⟩ := hnamed.built second hsecond
  obtain ⟨-, digest', hdigest', rfl⟩ := hnamed.built second' hsecond'
  obtain ⟨before, hassoc⟩ : ∃ before : String, ∀ one other : String,
      originSeparationRef group one other = before ++ (one ++ (":" ++ other)) := by
    refine ⟨"origin-separation:" ++ group.workflowRunId ++ ":" ++ group.groupRef ++ ":", ?_⟩
    intro one other
    unfold originSeparationRef
    simp only [String.append_assoc]
  rw [hassoc, hassoc] at h
  have hlist := congrArg String.toList (Delimited.append_left_inj h)
  have hshape : ∀ one digest : String,
      (one ++ (":" ++ ("draft-claim-observation:" ++ digest))).toList =
        (one.toList ++ ":draft-claim-observation".toList) ++ ':' :: digest.toList := by
    intro one digest
    simp
  rw [hshape, hshape] at hlist
  obtain ⟨hfront, htail⟩ := Delimited.split_last_eq hdigest hdigest' hlist
  rw [String.toList_inj.mp htail]
  exact ⟨String.toList_inj.mp (List.append_cancel_right hfront), rfl⟩

end NamedByDigests

/-- The nodes of a group are its claims and the sets of them. -/
theorem groupNodes_subset (env : CompactionEnv) (group : GroupKey) (claims : List String) :
    {nodeRef | IsGroupNode env group claims nodeRef} ⊆
      (claims.toFinset.image (rawClaimNodeRef group) ∪ claims.toFinset.powerset.image
        fun refs => compactedClaimNodeRef env group refs.toList : Finset String) := by
  rintro nodeRef (⟨ref, href, rfl⟩ | ⟨refs, hrefs, rfl⟩)
  · rw [Finset.mem_coe, Finset.mem_union]
    exact .inl (Finset.mem_image_of_mem _ (List.mem_toFinset.mpr href))
  · rw [Finset.mem_coe, Finset.mem_union]
    refine .inr (Finset.mem_image.mpr ⟨refs.toFinset, ?_,
      compactedClaimNodeRef_congr fun ref => by simp⟩)
    rw [Finset.mem_powerset]
    intro ref href
    exact List.mem_toFinset.mpr (hrefs (List.mem_toFinset.mp href))

theorem finite_groupNodes (env : CompactionEnv) (group : GroupKey) (claims : List String) :
    {nodeRef | IsGroupNode env group claims nodeRef}.Finite :=
  (Finset.finite_toSet _).subset (groupNodes_subset env group claims)

theorem ncard_groupNodes_le (env : CompactionEnv) (group : GroupKey) (claims : List String) :
    {nodeRef | IsGroupNode env group claims nodeRef}.ncard ≤
      claims.length + 2 ^ claims.length := by
  have hclaims : claims.toFinset.card ≤ claims.length := claims.toFinset_card_le
  calc {nodeRef | IsGroupNode env group claims nodeRef}.ncard
      ≤ _ := Set.ncard_le_ncard (groupNodes_subset env group claims) (Finset.finite_toSet _)
    _ = _ := Set.ncard_coe_finset _
    _ ≤ _ := Finset.card_union_le _ _
    _ ≤ claims.toFinset.card + claims.toFinset.powerset.card :=
      Nat.add_le_add Finset.card_image_le Finset.card_image_le
    _ = claims.toFinset.card + 2 ^ claims.toFinset.card := by rw [Finset.card_powerset]
    _ ≤ claims.length + 2 ^ claims.length :=
      Nat.add_le_add hclaims (Nat.pow_le_pow_right Nat.two_pos hclaims)

end CrmBot.Compaction
