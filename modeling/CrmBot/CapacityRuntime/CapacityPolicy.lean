import CrmBot.Python.Builtins
import Mathlib.Order.Bounds.Basic

/-!
Admission of work against counted resources. Requests, snapshots and decisions
carry what their constructors check, so the policy is a total function of them
up to the checks of the decision it builds. No check of that decision fails.
-/

namespace CrmBot.CapacityRuntime

open CrmBot.Python

inductive CapacityResourceKind
  | workerSlot
  | cpuSlot
  | memoryMb
  | dbConnection
  | filesystemIo
  | localGpuLane
  | externalIo
  deriving DecidableEq, Repr

inductive CapacityWorkClass
  | llmBound
  | cpuBound
  | embeddingBound
  | parsingBound
  | ioBound
  deriving DecidableEq, Repr

inductive CapacityDecisionStatus
  | allow
  | throttle
  | reject
  deriving DecidableEq, Repr

structure CapacityNeed where
  resourceKind : CapacityResourceKind
  amount : Nat
  amount_pos : 0 < amount

/-- The constructor of `CapacityNeed`. -/
def capacityNeed (resourceKind : CapacityResourceKind) (amount : Int) :
    Except Fault CapacityNeed :=
  if hpos : 0 < amount then
    .ok ⟨resourceKind, amount.toNat, toNat_pos hpos⟩
  else
    .error (.valueError "amount must be > 0")

structure CapacityAvailability where
  resourceKind : CapacityResourceKind
  availableAmount : Nat
  deriving DecidableEq

/-- The constructor of `CapacityAvailability`. -/
def capacityAvailability (resourceKind : CapacityResourceKind) (availableAmount : Int) :
    Except Fault CapacityAvailability :=
  if availableAmount < 0 then
    .error (.valueError "available_amount must be >= 0")
  else
    .ok ⟨resourceKind, availableAmount.toNat⟩

/-- `CapacityRequest` with the conditions its constructor checks. -/
structure CapacityRequest where
  workClass : CapacityWorkClass
  needs : List CapacityNeed
  requestedItems : Nat
  needs_nonempty : needs ≠ []
  needs_unique : (needs.map CapacityNeed.resourceKind).Nodup
  requestedItems_pos : 0 < requestedItems

structure CapacitySnapshot where
  availability : List CapacityAvailability
  availability_unique : (availability.map CapacityAvailability.resourceKind).Nodup

def capacitySnapshot (availability : List CapacityAvailability) :
    Except Fault CapacitySnapshot :=
  if hunique : (availability.map CapacityAvailability.resourceKind).Nodup then
    .ok ⟨availability, hunique⟩
  else
    .error (.valueError "availability must not contain duplicate resource_kind")

/-- A resource the snapshot does not list has nothing available. -/
def CapacitySnapshot.availableFor (snapshot : CapacitySnapshot)
    (resourceKind : CapacityResourceKind) : Nat :=
  match snapshot.availability.find? fun item => item.resourceKind = resourceKind with
  | some item => item.availableAmount
  | none => 0

structure CapacityDecision where
  status : CapacityDecisionStatus
  workClass : CapacityWorkClass
  maxAdmissibleItems : Nat
  blockingResources : List CapacityResourceKind
  reason : String
  deriving DecidableEq

/-- The constructor of `CapacityDecision`. -/
def capacityDecision (status : CapacityDecisionStatus) (workClass : CapacityWorkClass)
    (maxAdmissibleItems : Nat) (blockingResources : List CapacityResourceKind)
    (reason : String) : Except Fault CapacityDecision :=
  let decision : CapacityDecision :=
    ⟨status, workClass, maxAdmissibleItems, blockingResources, reason⟩
  if isBlank reason then
    .error (.valueError "reason must be non-empty")
  else
    match status with
    | .allow =>
      if blockingResources ≠ [] then
        .error (.valueError "ALLOW decision must not have blocking_resources")
      else if maxAdmissibleItems = 0 then
        .error (.valueError "ALLOW decision must have positive max_admissible_items")
      else
        .ok decision
    | .reject =>
      if maxAdmissibleItems ≠ 0 then
        .error (.valueError "REJECT decision must have zero max_admissible_items")
      else if blockingResources = [] then
        .error (.valueError "REJECT decision must have blocking_resources")
      else
        .ok decision
    | .throttle =>
      if blockingResources = [] then
        .error (.valueError "THROTTLE decision must have blocking_resources")
      else
        .ok decision

/-- The three lists that the loop over the needs fills. -/
structure NeedTally where
  itemCapacities : List Nat
  blockingResources : List CapacityResourceKind
  unavailableBlockingResources : List CapacityResourceKind

def NeedTally.add (requestedItems : Nat) (snapshot : CapacitySnapshot) (tally : NeedTally)
    (need : CapacityNeed) : NeedTally :=
  let availableAmount := snapshot.availableFor need.resourceKind
  let itemCapacity := availableAmount / need.amount
  let counted := { tally with itemCapacities := tally.itemCapacities ++ [itemCapacity] }
  if requestedItems ≤ itemCapacity then
    counted
  else
    { counted with
      blockingResources := tally.blockingResources ++ [need.resourceKind]
      unavailableBlockingResources :=
        if availableAmount = 0 then tally.unavailableBlockingResources ++ [need.resourceKind]
        else tally.unavailableBlockingResources }

def tallyNeeds (request : CapacityRequest) (snapshot : CapacitySnapshot) : NeedTally :=
  request.needs.foldl (NeedTally.add request.requestedItems snapshot) ⟨[], [], []⟩

/-- `CapacityAdmissionPolicy.decide`. -/
def decideAdmission (request : CapacityRequest) (snapshot : CapacitySnapshot) :
    Except Fault CapacityDecision :=
  let tally := tallyNeeds request snapshot
  match tally.itemCapacities.min? with
  | none => .error (.valueError "min() arg is an empty sequence")
  | some maxByCapacity =>
    let maxAdmissibleItems := min request.requestedItems maxByCapacity
    if maxAdmissibleItems = request.requestedItems then
      capacityDecision .allow request.workClass maxAdmissibleItems [] "capacity_available"
    else if 0 < maxAdmissibleItems then
      capacityDecision .throttle request.workClass maxAdmissibleItems tally.blockingResources
        "capacity_partially_available"
    else if tally.unavailableBlockingResources ≠ [] then
      capacityDecision .reject request.workClass 0 tally.blockingResources
        "capacity_unavailable"
    else
      capacityDecision .throttle request.workClass 0 tally.blockingResources
        "capacity_temporarily_insufficient"

/-- A requirement of nothing per item cannot be stated: no request carries one. -/
theorem capacityNeed_zero_refused :
    capacityNeed .externalIo 0 = .error (.valueError "amount must be > 0") ∧
      ¬ ∃ need : CapacityNeed, need.amount = 0 := by
  refine ⟨rfl, ?_⟩
  rintro ⟨need, hzero⟩
  have hpos := need.amount_pos
  omega

/-- The items that one resource admits. -/
def CapacityNeed.itemCapacity (snapshot : CapacitySnapshot) (need : CapacityNeed) : Nat :=
  snapshot.availableFor need.resourceKind / need.amount

/-- So many items fit what is available of every resource. -/
def CapacityRequest.Fits (request : CapacityRequest) (snapshot : CapacitySnapshot)
    (items : Nat) : Prop :=
  ∀ need ∈ request.needs, items * need.amount ≤ snapshot.availableFor need.resourceKind

theorem CapacityNeed.le_itemCapacity_iff (snapshot : CapacitySnapshot) (need : CapacityNeed)
    (items : Nat) :
    items ≤ need.itemCapacity snapshot ↔
      items * need.amount ≤ snapshot.availableFor need.resourceKind :=
  Nat.le_div_iff_mul_le need.amount_pos

section Tally

variable (requestedItems : Nat) (snapshot : CapacitySnapshot)

theorem itemCapacities_foldl (needs : List CapacityNeed) (tally : NeedTally) :
    (needs.foldl (NeedTally.add requestedItems snapshot) tally).itemCapacities =
      tally.itemCapacities ++ needs.map (CapacityNeed.itemCapacity snapshot) := by
  induction needs generalizing tally with
  | nil => simp
  | cons need rest ih =>
    have hadd : (NeedTally.add requestedItems snapshot tally need).itemCapacities =
        tally.itemCapacities ++ [need.itemCapacity snapshot] := by
      simp only [NeedTally.add, CapacityNeed.itemCapacity]
      split <;> rfl
    rw [List.foldl_cons, ih, hadd]
    simp

theorem blockingResources_foldl (needs : List CapacityNeed) (tally : NeedTally) :
    (needs.foldl (NeedTally.add requestedItems snapshot) tally).blockingResources =
      tally.blockingResources ++
        (needs.filter fun need => ¬ requestedItems ≤ need.itemCapacity snapshot).map
          CapacityNeed.resourceKind := by
  induction needs generalizing tally with
  | nil => simp
  | cons need rest ih =>
    rw [List.foldl_cons, ih]
    by_cases hfits : requestedItems ≤ need.itemCapacity snapshot
    · have hadd : (NeedTally.add requestedItems snapshot tally need).blockingResources =
          tally.blockingResources := by
        have hdiv : requestedItems ≤ snapshot.availableFor need.resourceKind / need.amount := hfits
        simp only [NeedTally.add]
        rw [if_pos hdiv]
      rw [hadd, List.filter_cons_of_neg (by simpa using hfits)]
    · have hadd : (NeedTally.add requestedItems snapshot tally need).blockingResources =
          tally.blockingResources ++ [need.resourceKind] := by
        have hdiv : ¬ requestedItems ≤ snapshot.availableFor need.resourceKind / need.amount :=
          hfits
        simp only [NeedTally.add]
        rw [if_neg hdiv]
      rw [hadd, List.filter_cons_of_pos (by simpa using hfits)]
      simp

end Tally

section Decision

variable (request : CapacityRequest) (snapshot : CapacitySnapshot)

theorem itemCapacities_tallyNeeds :
    (tallyNeeds request snapshot).itemCapacities =
      request.needs.map (CapacityNeed.itemCapacity snapshot) := by
  have hlist := itemCapacities_foldl request.requestedItems snapshot request.needs ⟨[], [], []⟩
  rwa [List.nil_append] at hlist

/-- The blocking resources are those that do not admit the requested count. -/
theorem mem_blockingResources_tallyNeeds (resourceKind : CapacityResourceKind) :
    resourceKind ∈ (tallyNeeds request snapshot).blockingResources ↔
      ∃ need ∈ request.needs, need.resourceKind = resourceKind ∧
        ¬ request.requestedItems * need.amount ≤ snapshot.availableFor resourceKind := by
  have hlist := blockingResources_foldl request.requestedItems snapshot request.needs ⟨[], [], []⟩
  rw [List.nil_append] at hlist
  rw [tallyNeeds, hlist, List.mem_map]
  constructor
  · rintro ⟨need, hneed, rfl⟩
    obtain ⟨hmem, hblocks⟩ := List.mem_filter.mp hneed
    refine ⟨need, hmem, rfl, ?_⟩
    rw [← need.le_itemCapacity_iff]
    simpa using hblocks
  · rintro ⟨need, hmem, rfl, hblocks⟩
    rw [← need.le_itemCapacity_iff] at hblocks
    exact ⟨need, List.mem_filter.mpr ⟨hmem, by simpa using hblocks⟩, rfl⟩

/-- The least item capacity bounds exactly the counts that fit. -/
theorem exists_maxByCapacity :
    ∃ maxByCapacity, (tallyNeeds request snapshot).itemCapacities.min? = some maxByCapacity ∧
      ∀ items, items ≤ maxByCapacity ↔ request.Fits snapshot items := by
  rw [itemCapacities_tallyNeeds]
  have hne : request.needs.map (CapacityNeed.itemCapacity snapshot) ≠ [] := by
    simpa using request.needs_nonempty
  obtain ⟨maxByCapacity, hmin⟩ := Option.isSome_iff_exists.mp (List.isSome_min?_of_ne_nil hne)
  refine ⟨maxByCapacity, hmin, fun items => ?_⟩
  rw [List.le_min?_iff hmin]
  simp only [List.mem_map, forall_exists_index, and_imp, forall_apply_eq_imp_iff₂,
    CapacityNeed.le_itemCapacity_iff]
  rfl

theorem blockingResources_eq_nil_iff :
    (tallyNeeds request snapshot).blockingResources = [] ↔
      request.Fits snapshot request.requestedItems := by
  rw [List.eq_nil_iff_forall_not_mem]
  simp only [mem_blockingResources_tallyNeeds]
  constructor
  · intro hnone need hneed
    by_contra hblocks
    exact hnone need.resourceKind ⟨need, hneed, rfl, hblocks⟩
  · rintro hfits _ ⟨need, hneed, rfl, hblocks⟩
    exact hblocks (hfits need hneed)

variable {request snapshot}

theorem isGreatest_min {maxByCapacity : Nat}
    (hfits : ∀ items, items ≤ maxByCapacity ↔ request.Fits snapshot items) :
    IsGreatest {items | items ≤ request.requestedItems ∧ request.Fits snapshot items}
      (min request.requestedItems maxByCapacity) := by
  constructor
  · exact ⟨Nat.min_le_left _ _, (hfits _).mp (Nat.min_le_right _ _)⟩
  · rintro items ⟨hrequested, hitems⟩
    exact Nat.le_min.mpr ⟨hrequested, (hfits items).mpr hitems⟩

theorem capacityDecision_allow {items : Nat} (hitems : 0 < items)
    (workClass : CapacityWorkClass) {reason : String} (hreason : isBlank reason = false) :
    capacityDecision .allow workClass items [] reason =
      .ok ⟨.allow, workClass, items, [], reason⟩ := by
  simp [capacityDecision, hitems.ne', hreason]

/-- Whenever some resource blocks, both statuses that name it pass the check. -/
theorem capacityDecision_throttle {blockingResources : List CapacityResourceKind}
    (hblocking : blockingResources ≠ []) (workClass : CapacityWorkClass) (items : Nat)
    {reason : String} (hreason : isBlank reason = false) :
    capacityDecision .throttle workClass items blockingResources reason =
      .ok ⟨.throttle, workClass, items, blockingResources, reason⟩ := by
  simp [capacityDecision, hblocking, hreason]

theorem capacityDecision_reject {blockingResources : List CapacityResourceKind}
    (hblocking : blockingResources ≠ []) (workClass : CapacityWorkClass)
    {reason : String} (hreason : isBlank reason = false) :
    capacityDecision .reject workClass 0 blockingResources reason =
      .ok ⟨.reject, workClass, 0, blockingResources, reason⟩ := by
  simp [capacityDecision, hblocking, hreason]

/-- The policy decides every request, and no check of its decision fails. The
admitted count is the smaller of the requested one and the one that fits. -/
theorem decideAdmission_spec (request : CapacityRequest) (snapshot : CapacitySnapshot) :
    ∃ maxByCapacity decision, decideAdmission request snapshot = .ok decision ∧
      (∀ items, items ≤ maxByCapacity ↔ request.Fits snapshot items) ∧
      decision.maxAdmissibleItems = min request.requestedItems maxByCapacity ∧
      (decision.status = .allow ↔ decision.maxAdmissibleItems = request.requestedItems) ∧
      decision.blockingResources = (tallyNeeds request snapshot).blockingResources := by
  obtain ⟨maxByCapacity, hmin, hfits⟩ := exists_maxByCapacity request snapshot
  have hnone := blockingResources_eq_nil_iff request snapshot
  rw [← hfits] at hnone
  have hpos := request.requestedItems_pos
  refine ⟨maxByCapacity, ?_⟩
  unfold decideAdmission
  simp only [hmin]
  by_cases hall : min request.requestedItems maxByCapacity = request.requestedItems
  · have hempty := hnone.mpr (by omega)
    rw [if_pos hall, hall]
    exact ⟨_, capacityDecision_allow hpos _ rfl, hfits, rfl, by simp, hempty.symm⟩
  · have hblocking : (tallyNeeds request snapshot).blockingResources ≠ [] :=
      fun hnil => hall (Nat.min_eq_left (hnone.mp hnil))
    rw [if_neg hall]
    split
    · exact ⟨_, capacityDecision_throttle hblocking _ _ rfl, hfits, rfl,
        iff_of_false (by simp) hall, rfl⟩
    · next hnothing =>
      have hzero : 0 = min request.requestedItems maxByCapacity := by omega
      split
      · exact ⟨_, capacityDecision_reject hblocking _ rfl, hfits, hzero,
          iff_of_false (by simp) hpos.ne, rfl⟩
      · exact ⟨_, capacityDecision_throttle hblocking _ _ rfl, hfits, hzero,
          iff_of_false (by simp) hpos.ne, rfl⟩

/-- What an admission decision says about its request. -/
structure CapacityDecision.Exact (request : CapacityRequest) (snapshot : CapacitySnapshot)
    (decision : CapacityDecision) : Prop where
  greatest : IsGreatest
    {items | items ≤ request.requestedItems ∧ request.Fits snapshot items}
    decision.maxAdmissibleItems
  allow_iff : decision.status = .allow ↔ decision.maxAdmissibleItems = request.requestedItems
  blocking : ∀ resourceKind, resourceKind ∈ decision.blockingResources ↔
    ∃ need ∈ request.needs, need.resourceKind = resourceKind ∧
      ¬ request.requestedItems * need.amount ≤ snapshot.availableFor resourceKind

/-- A request and a snapshot that their types accept are always decided, and
the decision is exact. -/
theorem decideAdmission_exact (request : CapacityRequest) (snapshot : CapacitySnapshot) :
    ∃ decision, decideAdmission request snapshot = .ok decision ∧
      decision.Exact request snapshot := by
  obtain ⟨maxByCapacity, decision, hdecide, hfits, hitems, hallow, hblocking⟩ :=
    decideAdmission_spec request snapshot
  refine ⟨decision, hdecide, ?_, hallow, ?_⟩
  · rw [hitems]
    exact isGreatest_min hfits
  · rw [hblocking]
    exact mem_blockingResources_tallyNeeds request snapshot

end Decision

end CrmBot.CapacityRuntime
