import CrmBot.Compaction.ApplyCompactedClaims
import CrmBot.Compaction.ExecuteCompaction

/-! `DraftClaimCompactionOutputEnricher`, and the apply step of compacted claims.

The output of an execute command travels in the payload of an apply command. The
apply handler validates it again, takes the observations its claims name, and
hands the enriched claims to the reduction state. -/

namespace CrmBot.Compaction

open Relational CrmBot.Python FailingFold

/-! The enricher. -/

/-- `_source_claims_for_output`. -/
def sourceClaimForRef (sourceClaims : List DraftClaimObservation) (sourceClaimRef : String) :
    Except Fault DraftClaimObservation :=
  match sourceClaims.find? fun sourceClaim => sourceClaim.observationRef = sourceClaimRef with
  | none => .error (.valueError "source claim for compaction output is missing")
  | some sourceClaim => .ok sourceClaim

def Granularity.ofValue? : String → Option Granularity
  | "atomic" => some .atomic
  | "composite" => some .composite
  | _ => none

def sourceClaimGranularity (sourceClaim : DraftClaimObservation) : Except Fault Granularity :=
  if isBlank sourceClaim.granularity then
    .error (.valueError "source claim granularity must be non-empty str")
  else match Granularity.ofValue? sourceClaim.granularity with
    | none => .error (.valueError "source claim granularity must be atomic or composite")
    | some granularity => .ok granularity

/-- `_final_granularity_from_source_claims`. -/
def finalGranularity (sourceClaims : List DraftClaimObservation) : Except Fault Granularity :=
  if sourceClaims = [] then .error (.valueError "source claims must be non-empty")
  else do
    let granularities ← sourceClaims.mapM sourceClaimGranularity
    pure (if granularities.all (· = .atomic) then .atomic else .composite)

/-- `_dedupe_stripped`. -/
def dedupeStripped (values : List String) : List String :=
  ((values.map strip).filter fun stripped => stripped ≠ "").eraseDups

/-- The constructor of an enriched claim: of its text fields the evidence block
is the one that no earlier check covers. -/
def requireEvidenceBlock (evidenceBlock : String) : Except Fault Unit :=
  if isBlank evidenceBlock then .error (.valueError "evidence_block must be non-empty") else .ok ()

/-- One claim of `enrich`. -/
def enrichClaim (sourceClaims : List DraftClaimObservation)
    (outputClaim : DraftClaimCompactionOutputClaim) : Except Fault OutputClaim := do
  let selected ← outputClaim.sourceClaimRefs.mapM (sourceClaimForRef sourceClaims)
  let granularity ← finalGranularity selected
  let evidenceBlock :=
    "\n\n".intercalate (dedupeStripped (selected.map (·.evidenceBlock)))
  requireEvidenceBlock evidenceBlock
  pure
    { key := outputClaim.key
      claim := outputClaim.claim
      claimKind := outputClaim.claimKind
      granularity := granularity
      sourceClaimRefs := outputClaim.sourceClaimRefs
      triples := outputClaim.triples
      mergeDecision := outputClaim.mergeDecision
      possibleQuestions := dedupeStripped (selected.flatMap (·.possibleQuestions))
      exclusionScope := "\n".intercalate (dedupeStripped (selected.map (·.exclusionScope)))
      evidenceBlock := evidenceBlock
      sourceClaimRefs_ne_nil := outputClaim.sourceClaimRefs_ne_nil
      sourceClaimRefs_nodup := outputClaim.sourceClaimRefs_nodup
      sourceClaimRefs_text := outputClaim.sourceClaimRefs_text }

/-- `enrich`. -/
def enrich (outputClaims : List DraftClaimCompactionOutputClaim)
    (sourceClaims : List DraftClaimObservation) : Except Fault (List OutputClaim) :=
  outputClaims.mapM (enrichClaim sourceClaims)

/-! The execute handler's apply command. -/

/-- `_compacted_claim_payload`. -/
def compactedClaimPayload (claim : DraftClaimCompactionOutputClaim) : PyValue :=
  .dict [
    ("claim", .str claim.claim),
    ("claim_kind", .str claim.claimKind.text),
    ("key", .str claim.key),
    ("merge_decision", .str claim.mergeDecision.value),
    ("source_claim_refs", .list (claim.sourceClaimRefs.map .str)),
    ("triples", .list (claim.triples.map Triple.toJson))]

/-- `_payload_optional_text`. -/
def payloadOptionalText (payload : Payload) (key : String) : Except Fault (Option String) :=
  match payloadGet payload key with
  | none => .ok none
  | some (.str text) =>
    if isBlank text then
      .error (.valueError ("workflow command payload " ++ key ++ " must be non-empty text"))
    else .ok (some text)
  | some _ => .error (.valueError ("workflow command payload " ++ key ++ " must be non-empty text"))

/-- The pair under `left_node_ref` and `right_node_ref`. -/
def pairNodeRefs : Option String → Option String → List String
  | none, _ => []
  | some left, none => [left]
  | some left, some right => sorted [left, right]

/-- The first list of references that has any. -/
def firstNodeRefs (payload : Payload) : List String → Except Fault (List String)
  | [] => .ok []
  | key :: rest => do
    let refs ← payloadTextTuple payload key
    match refs with
    | [] => firstNodeRefs payload rest
    | refs => .ok refs

/-- `_compared_node_refs_from_payload` of the execute handler. -/
def comparedNodeRefsOf (group : GroupKey) (payload : Payload) : Except Fault (List String) := do
  let nodeRefs ← firstNodeRefs payload ["compared_node_refs", "node_refs", "source_node_refs"]
  match nodeRefs with
  | [] => do
    let sourceClaimRefs ← payloadTextTuple payload "source_claim_refs"
    match sourceClaimRefs with
    | [] => do
      let left ← payloadOptionalText payload "left_node_ref"
      let right ← payloadOptionalText payload "right_node_ref"
      pure (pairNodeRefs left right)
    | sourceClaimRefs => .ok (sourceClaimRefs.map (rawClaimNodeRef group))
  | nodeRefs => .ok nodeRefs

/-- The references of a payload inside the schedule payload. -/
def nestedComparedNodeRefs (group : GroupKey) : Option PyValue → Except Fault (List String)
  | some (.dict nested) => do
    let nodeRefs ← comparedNodeRefsOf group nested
    match nodeRefs with
    | [] => .ok ((claimRefsFromClaimObjects (Payload.get nested "claims")).map
        (rawClaimNodeRef group))
    | nodeRefs => .ok nodeRefs
  | _ => .ok []

/-- `_derived_compared_node_refs`. -/
def derivedComparedNodeRefs (group : GroupKey) (payload schedulePayload : Payload) :
    Except Fault (List String) := do
  let payloadRefs ← comparedNodeRefsOf group payload
  match payloadRefs with
  | [] => do
    let scheduleRefs ← comparedNodeRefsOf group schedulePayload
    match scheduleRefs with
    | [] => do
      let nestedRefs ← nestedComparedNodeRefs group (schedulePayload.get "payload")
      match nestedRefs with
      | [] => .error (.valueError "compared node refs are required")
      | nestedRefs => .ok nestedRefs
    | scheduleRefs => .ok scheduleRefs
  | payloadRefs => .ok payloadRefs

/-! The apply handler. -/

/-- The references of one claim in `_source_refs_from_compacted_claims`. -/
def claimPayloadRefs : PyValue → Except Fault (List String)
  | .dict claim => match Payload.get claim "source_claim_refs" with
    | some (.list refs) =>
      refs.mapM (textItem "source_claim_refs must contain non-empty strings")
    | _ => .error (.valueError "compacted_claim source_claim_refs must be list")
  | _ => .error (.valueError "compacted_claim must be object")

/-- An `InvalidDraftClaimCompactionOutput` is an exception like any other here. -/
def raised {Value : Type} : Except String Value → Except Fault Value
  | .ok value => .ok value
  | .error message => .error (.valueError message)

/-- The claims of `_apply_command_from_payload`: the payload is validated again,
against its own references. -/
def applyCommandClaims (compactedClaims : List PyValue) :
    Except Fault (List DraftClaimCompactionOutputClaim) := do
  let refs ← compactedClaims.mapM claimPayloadRefs
  raised (validateCompactionOutput [("compacted_claims", .list compactedClaims)] refs.flatten)

/-- `_load_source_claims`. -/
def loadSourceClaims (observations : Observations)
    (compactedClaims : List DraftClaimCompactionOutputClaim) :
    Except Fault (List DraftClaimObservation) :=
  let refs := (compactedClaims.flatMap (·.sourceClaimRefs)).eraseDups
  if refs = [] then .error (.valueError "observation_refs must be non-empty")
  else .ok (refs.filterMap observations.find?)

/-- The ids of an apply command. -/
structure ApplyIds where
  batchRef : String
  workItemId : String
  roundIndex : Nat
  createdAt : Int

/-- `ApplyDraftClaimCompactionResult.execute` of compacted claims: the reduction
state and the decision on the next step. -/
def applyDraftClaimCompactionResult (env : CompactionEnv) (state : ReductionState)
    (observations : Observations) (group : GroupKey) (ids : ApplyIds)
    (comparedNodeRefs : List String) (compactedClaims : List DraftClaimCompactionOutputClaim) :
    Except Fault (ReductionState × PlannerDecision) := do
  let sourceClaims ← loadSourceClaims observations compactedClaims
  let enriched ← enrich compactedClaims sourceClaims
  let (_, after) ← applyCompactedClaimsResult env state
    { group := group, batchRef := ids.batchRef, workItemId := ids.workItemId
      roundIndex := ids.roundIndex, compactedClaims := enriched
      comparedNodeRefs := comparedNodeRefs, createdAt := ids.createdAt }
  match loadPlannerState after group with
  | none => .error (.runtimeError "planner state was not found after applying compaction result")
  | some planner => pure (after, planNextStep planner)

/-- The apply step of an accepted output: the apply command is built by the
execute handler and run by the apply handler. -/
def applyAccepted (env : CompactionEnv) (state : ReductionState) (observations : Observations)
    (group : GroupKey) (ids : ApplyIds) (executePayload schedulePayload : Payload)
    (accepted : List DraftClaimCompactionOutputClaim) :
    Except Fault (ReductionState × PlannerDecision) := do
  let comparedNodeRefs ← derivedComparedNodeRefs group executePayload schedulePayload
  let compactedClaims ← applyCommandClaims (accepted.map compactedClaimPayload)
  applyDraftClaimCompactionResult env state observations group ids comparedNodeRefs compactedClaims

/-! What an applied output has. -/

theorem enrichClaim_eq_ok {sourceClaims : List DraftClaimObservation}
    {outputClaim : DraftClaimCompactionOutputClaim} {claim : OutputClaim}
    (h : enrichClaim sourceClaims outputClaim = .ok claim) :
    ∀ ref ∈ outputClaim.sourceClaimRefs, ∃ sourceClaim ∈ sourceClaims,
      sourceClaim.observationRef = ref := by
  simp only [enrichClaim, bind_eq_ok] at h
  obtain ⟨selected, hselected, _⟩ := h
  intro ref href
  obtain ⟨sourceClaim, _, hfound⟩ := exists_of_mem_forall₂ (forall₂_of_mapM hselected) href
  unfold sourceClaimForRef at hfound
  split at hfound
  · cases hfound
  · next found hfind =>
    exact ⟨found, List.mem_of_find?_eq_some hfind, by simpa using List.find?_some hfind⟩

/-- Enrichment succeeds only where every reference names a source claim. -/
theorem enrich_eq_ok {outputClaims : List DraftClaimCompactionOutputClaim}
    {sourceClaims : List DraftClaimObservation} {claims : List OutputClaim}
    (h : enrich outputClaims sourceClaims = .ok claims)
    {outputClaim : DraftClaimCompactionOutputClaim}
    (hmem : outputClaim ∈ outputClaims) {ref : String} (href : ref ∈ outputClaim.sourceClaimRefs) :
    ∃ sourceClaim ∈ sourceClaims, sourceClaim.observationRef = ref := by
  obtain ⟨claim, _, henriched⟩ := exists_of_mem_forall₂ (forall₂_of_mapM h) hmem
  exact enrichClaim_eq_ok henriched ref href

theorem claimPayloadRefs_compactedClaimPayload (claim : DraftClaimCompactionOutputClaim) :
    claimPayloadRefs (compactedClaimPayload claim) = .ok claim.sourceClaimRefs := by
  have hitems := mapM_textItem "source_claim_refs must contain non-empty strings"
    claim.sourceClaimRefs_text
  simp [claimPayloadRefs, compactedClaimPayload, Payload.get, hitems]

/-- The claims that the apply handler reads back name what the accepted ones
name. -/
theorem applyCommandClaims_perm {accepted compactedClaims : List DraftClaimCompactionOutputClaim}
    (h : applyCommandClaims (accepted.map compactedClaimPayload) = .ok compactedClaims) :
    (compactedClaims.flatMap (·.sourceClaimRefs)).Perm (accepted.flatMap (·.sourceClaimRefs)) := by
  have hrefs : (accepted.map compactedClaimPayload).mapM claimPayloadRefs =
      .ok (accepted.map (·.sourceClaimRefs)) :=
    mapM_map_eq_ok_map fun claim _ => claimPayloadRefs_compactedClaimPayload claim
  simp only [applyCommandClaims, hrefs, bind, Except.bind] at h
  cases hvalid : validateCompactionOutput
      [("compacted_claims", .list (accepted.map compactedClaimPayload))]
      (accepted.map (·.sourceClaimRefs)).flatten with
  | error message => simp [hvalid, raised] at h
  | ok claims =>
    simp only [hvalid, raised, Except.ok.injEq] at h
    rw [← h]
    have hperm := validateCompactionOutput_perm hvalid
    rwa [← List.flatMap_def] at hperm

/-- An output that is applied names observations only. -/
theorem observed_of_applyAccepted {env : CompactionEnv} {state after : ReductionState}
    {observations : Observations} {group : GroupKey} {ids : ApplyIds}
    {executePayload schedulePayload : Payload} {decision : PlannerDecision}
    {accepted : List DraftClaimCompactionOutputClaim}
    (h : applyAccepted env state observations group ids executePayload schedulePayload accepted =
      .ok (after, decision)) {ref : String} (href : ref ∈ accepted.flatMap (·.sourceClaimRefs)) :
    ref ∈ observations.keys := by
  simp only [applyAccepted, applyDraftClaimCompactionResult, bind_eq_ok] at h
  obtain ⟨_, _, compactedClaims, hread, sourceClaims, hload, enriched, henrich, _⟩ := h
  have hcompacted := (applyCommandClaims_perm hread).mem_iff.mpr href
  obtain ⟨claim, hclaim, hmem⟩ := List.mem_flatMap.mp hcompacted
  obtain ⟨sourceClaim, hsource, rfl⟩ := enrich_eq_ok henrich hclaim hmem
  simp only [loadSourceClaims] at hload
  split at hload
  · cases hload
  · simp only [Except.ok.injEq] at hload
    rw [← hload, List.mem_filterMap] at hsource
    obtain ⟨other, _, hfind⟩ := hsource
    exact Table.mem_keys.mpr ⟨sourceClaim, (Table.find?_eq_some_iff.mp hfind).1, rfl⟩

end CrmBot.Compaction
