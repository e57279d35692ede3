import CrmBot.CapacityRuntime.CapacityPolicy
import CrmBot.LlmRuntime.RouteCapacity
import Mathlib.Tactic

/-!
The projection of account capacities to one counted resource. The loop over
the accounts hands out slots until the projected maximum is reached, so every
listed account gets one block of consecutive slots, never more than it takes.
-/

namespace CrmBot.LlmRuntime

open CrmBot.Python CrmBot.CapacityRuntime

/-- The texts that `LlmProviderAccountCapacity` and the slots refuse when blank. -/
def RouteKey.Named (route : RouteKey) : Prop :=
  isBlank route.provider = false ∧ isBlank route.accountRef = false ∧
    isBlank route.modelRef = false

instance (route : RouteKey) : Decidable route.Named :=
  inferInstanceAs (Decidable (_ ∧ _ ∧ _))

def ProviderAccountCapacity.maxItemsFor (account : ProviderAccountCapacity)
    (profile : TaskCapacityProfile) : Nat :=
  min (min (account.remainingMinuteRequests / profile.requestCount)
      (account.remainingMinuteTokens / profile.requiredWindowTokens))
    (min (account.remainingDailyRequests / profile.requestCount)
      (account.remainingDailyTokens / profile.requiredWindowTokens))

/-- `LlmCapacityProjectionCommand` with the conditions its constructor checks;
its accounts have passed their own. -/
structure CapacityProjectionCommand where
  profile : TaskCapacityProfile
  accounts : List ProviderAccountCapacity
  requestedItems : Nat
  accounts_named : ∀ account ∈ accounts, account.route.Named
  accounts_nonempty : accounts ≠ []
  one_provider : (accounts.map fun account => account.route.provider).dedup.length = 1
  one_model : (accounts.map fun account => account.route.modelRef).dedup.length = 1
  requestedItems_pos : 0 < requestedItems

/-- The constructor of `LlmCapacityProjectionCommand`. -/
def capacityProjectionCommand (profile : TaskCapacityProfile)
    (accounts : List ProviderAccountCapacity)
    (hnamed : ∀ account ∈ accounts, account.route.Named) (requestedItems : Int) :
    Except Fault CapacityProjectionCommand :=
  if hempty : accounts = [] then
    .error (.valueError "accounts must be non-empty")
  else if hprovider :
      (accounts.map fun account => account.route.provider).dedup.length = 1 then
    if hmodel : (accounts.map fun account => account.route.modelRef).dedup.length = 1 then
      if hpos : 0 < requestedItems then
        .ok ⟨profile, accounts, requestedItems.toNat, hnamed, hempty, hprovider, hmodel,
          by omega⟩
      else
        .error (.valueError "requested_items must be > 0")
    else
      .error (.valueError "capacity projection accounts must use one active model_ref")
  else
    .error (.valueError "capacity projection accounts must use one provider")

structure AllocationSlot where
  route : RouteKey
  slotIndex : Nat
  deriving DecidableEq, Repr

/-- The constructor of `LlmCapacityAllocationSlot`. -/
def allocationSlot (route : RouteKey) (slotIndex : Nat) : Except Fault AllocationSlot :=
  if isBlank route.provider then
    .error (.valueError "provider must be non-empty")
  else if isBlank route.accountRef then
    .error (.valueError "account_ref must be non-empty")
  else if isBlank route.modelRef then
    .error (.valueError "model_ref must be non-empty")
  else
    .ok ⟨route, slotIndex⟩

theorem allocationSlot_of_named {route : RouteKey} (hnamed : route.Named) (slotIndex : Nat) :
    allocationSlot route slotIndex = .ok ⟨route, slotIndex⟩ := by
  obtain ⟨hprovider, haccount, hmodel⟩ := hnamed
  simp [allocationSlot, hprovider, haccount, hmodel]

/-- The inner loop of `_build_allocation_slots`, over one account. -/
def takeSlots (route : RouteKey) (maxProjectedItems : Nat) :
    Nat → List AllocationSlot → Except Fault (List AllocationSlot)
  | 0, allocations => .ok allocations
  | remaining + 1, allocations =>
    if maxProjectedItems ≤ allocations.length then
      .ok allocations
    else do
      let slot ← allocationSlot route allocations.length
      takeSlots route maxProjectedItems remaining (allocations ++ [slot])

/-- `_build_allocation_slots`, from the slots allocated so far. -/
def buildAllocationSlots (profile : TaskCapacityProfile) (maxProjectedItems : Nat) :
    List ProviderAccountCapacity → List AllocationSlot → Except Fault (List AllocationSlot)
  | [], allocations => .ok allocations
  | account :: rest, allocations => do
    let filled ←
      takeSlots account.route maxProjectedItems (account.maxItemsFor profile) allocations
    if maxProjectedItems ≤ filled.length then
      .ok filled
    else
      buildAllocationSlots profile maxProjectedItems rest filled

structure CapacityProjectionResult where
  capacityNeeds : List CapacityNeed
  capacitySnapshot : CapacitySnapshot
  requestedItems : Nat
  maxProjectedItems : Nat
  allocations : List AllocationSlot

/-- The constructor of `LlmCapacityProjectionResult`. -/
def capacityProjectionResult (capacityNeeds : List CapacityNeed)
    (capacitySnapshot : CapacitySnapshot) (requestedItems maxProjectedItems : Nat)
    (allocations : List AllocationSlot) : Except Fault CapacityProjectionResult :=
  if capacityNeeds = [] then
    .error (.valueError "capacity_needs must be non-empty")
  else if requestedItems = 0 then
    .error (.valueError "requested_items must be > 0")
  else if requestedItems < maxProjectedItems then
    .error (.valueError "max_projected_items must be <= requested_items")
  else if allocations.length ≠ maxProjectedItems then
    .error (.valueError "allocations length must equal max_projected_items")
  else if allocations.map AllocationSlot.slotIndex ≠ List.range maxProjectedItems then
    .error (.valueError "allocation slot_index values must be contiguous")
  else
    .ok ⟨capacityNeeds, capacitySnapshot, requestedItems, maxProjectedItems, allocations⟩

/-- `ProjectLlmCapacityToCapacityRuntime.execute`. -/
def projectLlmCapacity (command : CapacityProjectionCommand) :
    Except Fault CapacityProjectionResult := do
  let projectedItems :=
    (command.accounts.map fun account => account.maxItemsFor command.profile).sum
  let maxProjectedItems := min command.requestedItems projectedItems
  let allocations ←
    buildAllocationSlots command.profile maxProjectedItems command.accounts []
  let need ← capacityNeed .externalIo 1
  let availability ← capacityAvailability .externalIo maxProjectedItems
  let snapshot ← CapacityRuntime.capacitySnapshot [availability]
  capacityProjectionResult [need] snapshot command.requestedItems maxProjectedItems allocations

/-- Consecutive slots of one route. -/
def slotBlock (route : RouteKey) (start count : Nat) : List AllocationSlot :=
  (List.range' start count).map fun slotIndex => ⟨route, slotIndex⟩

@[simp] theorem length_slotBlock (route : RouteKey) (start count : Nat) :
    (slotBlock route start count).length = count := by
  simp [slotBlock]

theorem slotIndex_slotBlock (route : RouteKey) (start count : Nat) :
    (slotBlock route start count).map AllocationSlot.slotIndex = List.range' start count := by
  simp [slotBlock, Function.comp_def]

/-- What one listed account gets: consecutive slots of its own route, never
more than it can take. -/
def AccountBlock (profile : TaskCapacityProfile) (account : ProviderAccountCapacity)
    (block : List AllocationSlot) : Prop :=
  ∃ start count, block = slotBlock account.route start count ∧
    count ≤ account.maxItemsFor profile

theorem takeSlots_eq {route : RouteKey} (hnamed : route.Named) (maxProjectedItems capacity : Nat)
    (allocations : List AllocationSlot) :
    takeSlots route maxProjectedItems capacity allocations =
      .ok (allocations ++ slotBlock route allocations.length
        (min capacity (maxProjectedItems - allocations.length))) := by
  induction capacity generalizing allocations with
  | zero => simp [takeSlots, slotBlock]
  | succ capacity ih =>
    unfold takeSlots
    by_cases hfull : maxProjectedItems ≤ allocations.length
    · have hnothing : maxProjectedItems - allocations.length = 0 := by omega
      rw [if_pos hfull, hnothing]
      simp [slotBlock]
    · have hcount : min (capacity + 1) (maxProjectedItems - allocations.length) =
          min capacity (maxProjectedItems - (allocations.length + 1)) + 1 := by omega
      rw [if_neg hfull, allocationSlot_of_named hnamed]
      simp only [bind, Except.bind]
      rw [ih, List.length_append, List.length_singleton, hcount]
      simp [slotBlock, List.range'_succ]

/-- Slots are numbered in the order of their allocation. -/
def InOrder (allocations : List AllocationSlot) : Prop :=
  allocations.map AllocationSlot.slotIndex = List.range allocations.length

theorem InOrder.append_slotBlock {allocations : List AllocationSlot}
    (hinOrder : InOrder allocations)
    (route : RouteKey) (count : Nat) :
    InOrder (allocations ++ slotBlock route allocations.length count) := by
  unfold InOrder at hinOrder ⊢
  rw [List.map_append, hinOrder, slotIndex_slotBlock, List.length_append, length_slotBlock,
    List.range_add]
  simp [List.range'_eq_map_range]

section Loop

variable (profile : TaskCapacityProfile) (maxProjectedItems : Nat)

/-- The loop over the accounts appends one block for each account, as many
slots as the accounts can take together, up to the projected maximum. The
induction is on the accounts, for every list allocated so far. -/
theorem buildAllocationSlots_eq (accounts : List ProviderAccountCapacity)
    (hnamed : ∀ account ∈ accounts, account.route.Named) (allocations : List AllocationSlot)
    (hroom : allocations.length ≤ maxProjectedItems) (hinOrder : InOrder allocations) :
    ∃ blocks : List (List AllocationSlot),
      buildAllocationSlots profile maxProjectedItems accounts allocations =
        .ok (allocations ++ blocks.flatten) ∧
      List.Forall₂ (AccountBlock profile) accounts blocks ∧
      (allocations ++ blocks.flatten).length = min maxProjectedItems
        (allocations.length +
          (accounts.map fun account => account.maxItemsFor profile).sum) ∧
      InOrder (allocations ++ blocks.flatten) := by
  induction accounts generalizing allocations with
  | nil =>
    refine ⟨[], by simp [buildAllocationSlots], .nil, ?_, by simpa using hinOrder⟩
    simpa using hroom
  | cons account rest ih =>
    have hrest : ∀ account ∈ rest, account.route.Named :=
      fun other hother => hnamed other (List.mem_cons_of_mem _ hother)
    let count := min (account.maxItemsFor profile) (maxProjectedItems - allocations.length)
    let block := slotBlock account.route allocations.length count
    have htake := takeSlots_eq (hnamed account List.mem_cons_self) maxProjectedItems
      (account.maxItemsFor profile) allocations
    have hblock : AccountBlock profile account block :=
      ⟨allocations.length, count, rfl, Nat.min_le_left _ _⟩
    have hlength : (allocations ++ block).length = allocations.length + count := by
      simp [block]
    have hfilled : InOrder (allocations ++ block) :=
      hinOrder.append_slotBlock account.route count
    unfold buildAllocationSlots
    simp only [htake, bind, Except.bind]
    by_cases hfull : maxProjectedItems ≤ (allocations ++ block).length
    · -- The other accounts get empty blocks.
      refine ⟨block :: List.replicate rest.length [], ?_, .cons hblock ?_, ?_, ?_⟩
      · rw [if_pos hfull]
        simp [block, count]
      · rw [List.forall₂_iff_get]
        refine ⟨by simp, fun index hrest hblocks => ?_⟩
        exact ⟨0, 0, by simp [slotBlock], Nat.zero_le _⟩
      · simp only [List.flatten_cons, List.flatten_replicate_nil, List.append_nil]
        rw [hlength] at hfull ⊢
        simp only [List.map_cons, List.sum_cons]
        omega
      · simpa using hfilled
    · obtain ⟨blocks, hbuild, hblocks, htotal, hordered⟩ :=
        ih hrest (allocations ++ block) (by omega) hfilled
      refine ⟨block :: blocks, ?_, .cons hblock hblocks, ?_, ?_⟩
      · rw [if_neg hfull, List.flatten_cons, ← List.append_assoc]
        exact hbuild
      · rw [List.flatten_cons, ← List.append_assoc, htotal, hlength]
        simp only [List.map_cons, List.sum_cons]
        rw [hlength] at hfull
        omega
      · rw [List.flatten_cons, ← List.append_assoc]
        exact hordered

end Loop

/-- The slots of one account reference. -/
def slotsOf (accountRef : String) (allocations : List AllocationSlot) : List AllocationSlot :=
  allocations.filter fun slot => slot.route.accountRef = accountRef

theorem slotsOf_slotBlock_self (route : RouteKey) (start count : Nat) :
    slotsOf route.accountRef (slotBlock route start count) = slotBlock route start count := by
  unfold slotsOf slotBlock
  rw [List.filter_eq_self]
  intro slot hslot
  obtain ⟨slotIndex, -, rfl⟩ := List.mem_map.mp hslot
  simp

theorem slotsOf_slotBlock_ne {route : RouteKey} {accountRef : String}
    (hne : route.accountRef ≠ accountRef) (start count : Nat) :
    slotsOf accountRef (slotBlock route start count) = [] := by
  unfold slotsOf slotBlock
  rw [List.filter_eq_nil_iff]
  intro slot hslot
  obtain ⟨slotIndex, -, rfl⟩ := List.mem_map.mp hslot
  simpa using hne

/-- An account listed once gets exactly its block. -/
theorem slotsOf_flatten {profile : TaskCapacityProfile}
    {accounts : List ProviderAccountCapacity} {blocks : List (List AllocationSlot)}
    (hblocks : List.Forall₂ (AccountBlock profile) accounts blocks)
    (hunique : (accounts.map fun account => account.route.accountRef).Nodup)
    {account : ProviderAccountCapacity} (haccount : account ∈ accounts) :
    AccountBlock profile account (slotsOf account.route.accountRef blocks.flatten) := by
  have hother {others : List ProviderAccountCapacity} {otherBlocks : List (List AllocationSlot)}
      (hothers : List.Forall₂ (AccountBlock profile) others otherBlocks)
      (hnot : account.route.accountRef ∉ others.map fun other => other.route.accountRef) :
      slotsOf account.route.accountRef otherBlocks.flatten = [] := by
    induction hothers with
    | nil => rfl
    | cons hblock _ ih =>
      obtain ⟨start, count, rfl, -⟩ := hblock
      rw [List.map_cons, List.mem_cons, not_or] at hnot
      rw [List.flatten_cons]
      have hempty := slotsOf_slotBlock_ne (fun heq => hnot.1 heq.symm) start count
      have hlater := ih hnot.2
      unfold slotsOf at hempty hlater ⊢
      rw [List.filter_append, hempty, hlater, List.append_nil]
  induction hblocks with
  | nil => cases haccount
  | @cons listed block rest restBlocks hblock hrest ih =>
    rw [List.map_cons, List.nodup_cons] at hunique
    have hsplit : slotsOf account.route.accountRef (block :: restBlocks).flatten =
        slotsOf account.route.accountRef block ++
          slotsOf account.route.accountRef restBlocks.flatten := by
      simp [slotsOf]
    obtain ⟨start, count, rfl, hcount⟩ := hblock
    rw [hsplit]
    rcases List.mem_cons.mp haccount with rfl | hmem
    · rw [hother hrest hunique.1, slotsOf_slotBlock_self, List.append_nil]
      exact ⟨start, count, rfl, hcount⟩
    · have hne : listed.route.accountRef ≠ account.route.accountRef := by
        intro heq
        apply hunique.1
        rw [heq]
        exact List.mem_map_of_mem hmem
      rw [slotsOf_slotBlock_ne hne, List.nil_append]
      exact ih hunique.2 hmem

/-- What the projection of a command allocates. -/
structure CapacityProjectionResult.Maximal (command : CapacityProjectionCommand)
    (result : CapacityProjectionResult) : Prop where
  count : result.allocations.length = min command.requestedItems
    (command.accounts.map fun account => account.maxItemsFor command.profile).sum
  numbered : InOrder result.allocations
  blocks : ∃ blocks : List (List AllocationSlot), result.allocations = blocks.flatten ∧
    List.Forall₂ (AccountBlock command.profile) command.accounts blocks
  listedOnce : (command.accounts.map fun account => account.route.accountRef).Nodup →
    ∀ account ∈ command.accounts,
      AccountBlock command.profile account
        (slotsOf account.route.accountRef result.allocations)

/-- The counted resource of a projection: one item needs one external access. -/
def externalNeed : CapacityNeed := ⟨.externalIo, 1, by omega⟩

def externalSnapshot (items : Nat) : CapacitySnapshot := ⟨[⟨.externalIo, items⟩], by simp⟩

theorem availableFor_externalSnapshot (items : Nat) :
    (externalSnapshot items).availableFor .externalIo = items := rfl

def CapacityProjectionCommand.maxProjectedItems (command : CapacityProjectionCommand) : Nat :=
  min command.requestedItems
    (command.accounts.map fun account => account.maxItemsFor command.profile).sum

/-- What the projection of a command returns: one block of slots for each
listed account, as many slots as there are items in the snapshot. -/
theorem projectLlmCapacity_eq (command : CapacityProjectionCommand) :
    ∃ blocks : List (List AllocationSlot),
      projectLlmCapacity command = .ok ⟨[externalNeed],
        externalSnapshot command.maxProjectedItems, command.requestedItems,
        command.maxProjectedItems, blocks.flatten⟩ ∧
      List.Forall₂ (AccountBlock command.profile) command.accounts blocks ∧
      blocks.flatten.length = command.maxProjectedItems ∧ InOrder blocks.flatten := by
  obtain ⟨blocks, hbuild, hblocks, hlength, hnumbered⟩ :=
    buildAllocationSlots_eq command.profile command.maxProjectedItems command.accounts
      command.accounts_named [] (Nat.zero_le _) rfl
  rw [List.nil_append] at hbuild hlength hnumbered
  have hcount : blocks.flatten.length = command.maxProjectedItems := by
    rw [hlength, List.length_nil, Nat.zero_add]
    exact Nat.min_eq_left (Nat.min_le_right _ _)
  refine ⟨blocks, ?_, hblocks, hcount, hnumbered⟩
  have hpositive := command.requestedItems_pos
  have hle : command.maxProjectedItems ≤ command.requestedItems := Nat.min_le_left _ _
  have hindexes : blocks.flatten.map AllocationSlot.slotIndex =
      List.range command.maxProjectedItems := by
    rw [← hcount]
    exact hnumbered
  have havailable : capacityAvailability .externalIo (command.maxProjectedItems : Int) =
      .ok ⟨.externalIo, command.maxProjectedItems⟩ := by
    unfold capacityAvailability
    rw [if_neg (by omega), Int.toNat_natCast]
  calc
    projectLlmCapacity command = (do
        let allocations ← buildAllocationSlots command.profile command.maxProjectedItems
          command.accounts []
        let need ← capacityNeed .externalIo 1
        let availability ← capacityAvailability .externalIo (command.maxProjectedItems : Int)
        let snapshot ← CapacityRuntime.capacitySnapshot [availability]
        capacityProjectionResult [need] snapshot command.requestedItems
          command.maxProjectedItems allocations) := rfl
    _ = capacityProjectionResult [externalNeed] (externalSnapshot command.maxProjectedItems)
          command.requestedItems command.maxProjectedItems blocks.flatten := by
      rw [hbuild, havailable]
      rfl
    _ = _ := by
      -- None of the checks of the result fails.
      unfold capacityProjectionResult
      rw [if_neg (by simp), if_neg (by omega), if_neg (by omega), if_neg (by simp [hcount]),
        if_neg (by simp [hindexes])]

/-- Every command that its constructor accepts is projected, to the greatest
number of slots that its request and its accounts admit. -/
theorem projectLlmCapacity_maximal (command : CapacityProjectionCommand) :
    ∃ result, projectLlmCapacity command = .ok result ∧ result.Maximal command := by
  obtain ⟨blocks, hproject, hblocks, hcount, hnumbered⟩ := projectLlmCapacity_eq command
  refine ⟨_, hproject, hcount, hnumbered, ⟨blocks, rfl, hblocks⟩, ?_⟩
  intro hunique account haccount
  exact slotsOf_flatten hblocks hunique haccount

/-- No command is built over an empty list of accounts, nor over two models. -/
theorem capacityProjectionCommand_refused :
    capacityProjectionCommand ⟨"section", 1, 0, 1, by decide, by decide⟩ [] (by simp) 1 =
        .error (.valueError "accounts must be non-empty") ∧
      capacityProjectionCommand ⟨"section", 1, 0, 1, by decide, by decide⟩
          [⟨⟨"groq", "a", "small"⟩, 5, 5, 5, 5⟩, ⟨⟨"groq", "b", "large"⟩, 5, 5, 5, 5⟩]
          (by decide) 1 =
        .error (.valueError "capacity projection accounts must use one active model_ref") :=
  ⟨rfl, rfl⟩

/-- The admission policy admits, on the projected snapshot, exactly the slots
that were allocated. -/
theorem decideAdmission_projected {command : CapacityProjectionCommand}
    {result : CapacityProjectionResult} (hresult : projectLlmCapacity command = .ok result)
    {request : CapacityRequest} (hneeds : request.needs = result.capacityNeeds)
    (hitems : request.requestedItems = command.requestedItems) :
    ∃ decision, decideAdmission request result.capacitySnapshot = .ok decision ∧
      decision.maxAdmissibleItems = result.allocations.length := by
  obtain ⟨blocks, hproject, -, hcount, -⟩ := projectLlmCapacity_eq command
  rw [hproject] at hresult
  cases hresult
  obtain ⟨maxByCapacity, decision, hdecide, hfits, hadmitted, -⟩ :=
    decideAdmission_spec request (externalSnapshot command.maxProjectedItems)
  refine ⟨decision, hdecide, ?_⟩
  have hsame (items : Nat) : items ≤ maxByCapacity ↔ items ≤ command.maxProjectedItems := by
    rw [hfits]
    simp only [CapacityRequest.Fits, hneeds, List.forall_mem_singleton, externalNeed,
      availableFor_externalSnapshot, Nat.mul_one]
  have hmax : maxByCapacity = command.maxProjectedItems := eq_of_forall_le_iff hsame
  have hle : command.maxProjectedItems ≤ command.requestedItems := Nat.min_le_left _ _
  rw [hadmitted, hmax, hitems, Nat.min_eq_right hle]
  exact hcount.symm

end CrmBot.LlmRuntime
