import CrmBot.ClaimBuilder.ExecuteSection
import CrmBot.Library.Delimited

/-! The draft claims of an attempt, and what persisting its candidates leaves. -/

namespace CrmBot.ClaimBuilder

open Relational CrmBot.Python Delimited

/-- What a claim says. -/
structure ClaimContent where
  claim : String
  granularity : DraftClaimGranularity
  possibleQuestions : List String
  exclusionScope : String
  evidenceBlock : String
  deriving DecidableEq

def ValidatedClaimBuilderClaim.content (claim : ValidatedClaimBuilderClaim) : ClaimContent :=
  ⟨claim.claim, claim.granularity, claim.possibleQuestions, claim.exclusionScope,
    claim.evidenceBlock⟩

def DraftClaimRow.content (row : DraftClaimRow) : ClaimContent :=
  ⟨row.claim, row.granularity, row.possibleQuestions, row.exclusionScope, row.evidenceBlock⟩

/-- The drafts of an attempt are exactly these claims, each under its index. -/
def ShowsClaims (drafts : DraftClaims) (attemptId : String)
    (claims : List ValidatedClaimBuilderClaim) : Prop :=
  ∀ index content,
    (∃ row ∈ drafts.rows, row.workItemAttemptId = attemptId ∧ row.claimIndex = index ∧
      row.content = content) ↔
    claims[index]?.map ValidatedClaimBuilderClaim.content = some content

theorem showsClaims_nil_iff {drafts : DraftClaims} {attemptId : String} :
    ShowsClaims drafts attemptId [] ↔ ∀ row ∈ drafts.rows, row.workItemAttemptId ≠ attemptId := by
  unfold ShowsClaims
  constructor
  · intro h row hrow hattempt
    have hshown := (h row.claimIndex row.content).mp ⟨row, hrow, hattempt, rfl, rfl⟩
    simp at hshown
  · intro h index content
    simp only [List.getElem?_nil, Option.map_none, reduceCtorEq, iff_false]
    rintro ⟨row, hrow, hattempt, _⟩
    exact h row hrow hattempt

/-- Drafts that show nothing show no claims. -/
theorem ShowsClaims.eq_nil {drafts : DraftClaims} {attemptId : String}
    {claims : List ValidatedClaimBuilderClaim} (hnone : ShowsClaims drafts attemptId [])
    (h : ShowsClaims drafts attemptId claims) : claims = [] := by
  cases claims with
  | nil => rfl
  | cons claim rest =>
    have hshown := (h 0 claim.content).mpr (by simp)
    obtain ⟨row, hrow, hattempt, _⟩ := hshown
    exact absurd hattempt (showsClaims_nil_iff.mp hnone row hrow)

/-! References -/

/-- The claims of an execution get different references. -/
def DistinctRefs (sha256 : String → String) (context : CandidateContext)
    (claims : List ValidatedClaimBuilderClaim) : Prop :=
  ((context.candidates claims).map (observationRef sha256)).Nodup

variable {sha256 : String → String}

/-! Persisting -/

theorem mem_persistCandidate {drafts : DraftClaims} {candidate : DraftClaimCandidate}
    {createdAt : Int} {row : DraftClaimRow} :
    row ∈ (persistCandidate sha256 createdAt drafts candidate).rows ↔
      row = draftClaimRow sha256 createdAt candidate ∨
        (row ∈ drafts.rows ∧ row.observationRef ≠ observationRef sha256 candidate) := by
  apply Table.mem_upsert_of_overwrites
  intro old hold
  rw [hold]

/-- Candidates with different references are all there afterwards, and of the
older rows those that have none of their references. -/
theorem mem_persistCandidates {createdAt : Int} {candidates : List DraftClaimCandidate}
    {drafts : DraftClaims} {row : DraftClaimRow}
    (hdistinct : (candidates.map (observationRef sha256)).Nodup) :
    row ∈ (persistCandidates sha256 createdAt drafts candidates).rows ↔
      (∃ candidate ∈ candidates, row = draftClaimRow sha256 createdAt candidate) ∨
        (row ∈ drafts.rows ∧
          ∀ candidate ∈ candidates, row.observationRef ≠ observationRef sha256 candidate) := by
  induction candidates generalizing drafts with
  | nil => simp [persistCandidates]
  | cons candidate rest ih =>
    obtain ⟨hnew, hrest⟩ := List.nodup_cons.mp hdistinct
    have hother : ∀ other ∈ rest,
        observationRef sha256 candidate ≠ observationRef sha256 other := by
      intro other hmem heq
      exact hnew (heq ▸ List.mem_map_of_mem hmem)
    have hstep : persistCandidates sha256 createdAt drafts (candidate :: rest) =
        persistCandidates sha256 createdAt (persistCandidate sha256 createdAt drafts candidate)
          rest := rfl
    rw [hstep, ih hrest, mem_persistCandidate]
    constructor
    · rintro (⟨other, hmem, heq⟩ | ⟨heq | ⟨hrow, hne⟩, hothers⟩)
      · exact .inl ⟨other, List.mem_cons_of_mem _ hmem, heq⟩
      · exact .inl ⟨candidate, List.mem_cons_self, heq⟩
      · refine .inr ⟨hrow, ?_⟩
        intro other hmem
        rcases List.mem_cons.mp hmem with rfl | hmem
        · exact hne
        · exact hothers other hmem
    · rintro (⟨other, hmem, heq⟩ | ⟨hrow, hothers⟩)
      · rcases List.mem_cons.mp hmem with rfl | hmem
        · refine .inr ⟨.inl heq, ?_⟩
          rw [heq]
          exact hother
        · exact .inl ⟨other, hmem, heq⟩
      · refine .inr ⟨.inr ⟨hrow, hothers candidate List.mem_cons_self⟩, ?_⟩
        intro other hmem
        exact hothers other (List.mem_cons_of_mem _ hmem)

/-- A row that is there afterwards is the row of a candidate, or an older one. -/
theorem row_of_mem_persistCandidates {createdAt : Int} {candidates : List DraftClaimCandidate}
    {drafts : DraftClaims} {row : DraftClaimRow}
    (h : row ∈ (persistCandidates sha256 createdAt drafts candidates).rows) :
    (∃ candidate ∈ candidates, row = draftClaimRow sha256 createdAt candidate) ∨
      row ∈ drafts.rows := by
  induction candidates generalizing drafts with
  | nil => exact .inr h
  | cons candidate rest ih =>
    have hrest : row ∈ (persistCandidates sha256 createdAt
        (persistCandidate sha256 createdAt drafts candidate) rest).rows := h
    rcases ih hrest with ⟨other, hmem, heq⟩ | hrow
    · exact .inl ⟨other, List.mem_cons_of_mem _ hmem, heq⟩
    · rcases mem_persistCandidate.mp hrow with heq | ⟨hold, _⟩
      · exact .inl ⟨candidate, List.mem_cons_self, heq⟩
      · exact .inr hold

section Persisted

variable {drafts : DraftClaims} {context : CandidateContext} {createdAt : Int}
  (claims : List ValidatedClaimBuilderClaim)
  (hnone : ShowsClaims drafts context.dispatchAttemptId [])

include hnone

theorem showsClaims_of_distinctRefs (hdistinct : DistinctRefs sha256 context claims) :
    ShowsClaims (persistCandidates sha256 createdAt drafts (context.candidates claims))
      context.dispatchAttemptId claims := by
  intro index content
  constructor
  · rintro ⟨row, hrow, hattempt, hindex, hcontent⟩
    rcases (mem_persistCandidates hdistinct).mp hrow with ⟨candidate, hmem, rfl⟩ | ⟨hold, _⟩
    · obtain ⟨position, hlt, rfl⟩ := List.mem_mapIdx.mp hmem
      change position = index at hindex
      subst hindex
      rw [List.getElem?_eq_getElem hlt]
      exact congrArg some hcontent
    · exact absurd hattempt (showsClaims_nil_iff.mp hnone row hold)
  · intro hclaim
    obtain ⟨claim, hfound, rfl⟩ := Option.map_eq_some_iff.mp hclaim
    obtain ⟨hlt, rfl⟩ := List.getElem?_eq_some_iff.mp hfound
    refine ⟨draftClaimRow sha256 createdAt (context.candidate index claims[index]), ?_, rfl, rfl,
      rfl⟩
    apply (mem_persistCandidates hdistinct).mpr
    exact .inl ⟨_, List.mem_mapIdx.mpr ⟨index, hlt, rfl⟩, rfl⟩

/-- The row that shows a claim has the reference of its candidate. -/
theorem exists_row_of_shown
    (h : ShowsClaims (persistCandidates sha256 createdAt drafts (context.candidates claims))
      context.dispatchAttemptId claims) {index : Nat} (hlt : index < claims.length) :
    ∃ row ∈ (persistCandidates sha256 createdAt drafts (context.candidates claims)).rows,
      row.claimIndex = index ∧
        row.observationRef = observationRef sha256 (context.candidate index claims[index]) := by
  obtain ⟨row, hrow, hattempt, hindex, _⟩ := (h index claims[index].content).mpr (by
    rw [List.getElem?_eq_getElem hlt, Option.map_some])
  rcases row_of_mem_persistCandidates hrow with ⟨candidate, hmem, rfl⟩ | hold
  · obtain ⟨position, hposition, rfl⟩ := List.mem_mapIdx.mp hmem
    change position = index at hindex
    subst hindex
    exact ⟨_, hrow, rfl, rfl⟩
  · exact absurd hattempt (showsClaims_nil_iff.mp hnone row hold)

theorem distinctRefs_of_showsClaims
    (h : ShowsClaims (persistCandidates sha256 createdAt drafts (context.candidates claims))
      context.dispatchAttemptId claims) : DistinctRefs sha256 context claims := by
  unfold DistinctRefs CandidateContext.candidates
  apply List.pairwise_iff_getElem.mpr
  intro first second hfirst hsecond hlt heq
  simp only [List.length_map, List.length_mapIdx] at hfirst hsecond
  simp only [List.getElem_map, List.getElem_mapIdx] at heq
  obtain ⟨row, hrow, hindex, href⟩ := exists_row_of_shown claims hnone h hfirst
  obtain ⟨other, hother, hotherIndex, hotherRef⟩ := exists_row_of_shown claims hnone h hsecond
  have hsame : row = other := by
    apply Table.eq_of_key_eq _ hrow hother
    rw [href, hotherRef]
    exact heq
  rw [hsame, hotherIndex] at hindex
  omega

end Persisted

end CrmBot.ClaimBuilder
