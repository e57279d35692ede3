import CrmBot.Library.SignificantDigits
import CrmBot.Python.Builtins

/-!
Two policies over one tokens-per-minute limit. The batch policy accepts a batch
by the request gap and reports a window with the completion gap; the output cap
policy knows only the completion gap.
-/

namespace CrmBot.LlmRuntime

open CrmBot.Python

structure ProviderBudgetProfile where
  providerId : String
  providerDefaultCompletionTokens : Nat
  requestSafetyGapTokens : Nat
  outputSafetyGapTokens : Nat
  providerId_nonblank : isBlank providerId = false
  default_pos : 0 < providerDefaultCompletionTokens

structure PromptProfile where
  providerId : String
  modelRef : String
  promptTokens : Nat
  promptTokens_pos : 0 < promptTokens

/-- What the policies read of a `ModelProfile`. The multiplier is a decimal, of
which the value matters. -/
structure BudgetModelProfile where
  providerId : String
  modelId : String
  maxOutputTokens : Nat
  tokensPerMinute : Option Nat
  charToTokenMultiplier : ℚ
  maxOutputTokens_pos : 0 < maxOutputTokens
  tokensPerMinute_pos : ∀ limit ∈ tokensPerMinute, 0 < limit
  multiplier_pos : 0 < charToTokenMultiplier

/-- `LlmBatchBudgetPolicy` with the conditions its constructor checks. -/
structure BatchBudgetPolicy where
  provider : ProviderBudgetProfile
  model : BudgetModelProfile
  prompt : PromptProfile
  model_provider : model.providerId = provider.providerId
  prompt_provider : prompt.providerId = provider.providerId
  prompt_model : prompt.modelRef = model.modelId

structure BatchBudgetDecision where
  promptTokens : Nat
  artifactTokens : Nat
  artifactMaxTokens : Nat
  inputTokens : Nat
  requestSafetyGapTokens : Nat
  completionSafetyGapTokens : Nat
  remainingAfterInputTokens : Int
  maxCompletionTokens : Option Nat
  requiredWindowTokens : Nat
  deriving DecidableEq

def BatchBudgetDecision.batchInputFits (decision : BatchBudgetDecision) : Bool :=
  decision.artifactTokens ≤ decision.artifactMaxTokens

/-- The checks of the constructor of `LlmBatchBudgetDecision` that the types of
the fields leave open. -/
def BatchBudgetDecision.checked (decision : BatchBudgetDecision) :
    Except Fault BatchBudgetDecision :=
  if decision.promptTokens = 0 then
    .error (.valueError "prompt_tokens must be > 0")
  else if decision.artifactMaxTokens = 0 then
    .error (.valueError "artifact_max_tokens must be > 0")
  else if decision.inputTokens = 0 then
    .error (.valueError "input_tokens must be > 0")
  else if decision.maxCompletionTokens = some 0 then
    .error (.valueError "max_completion_tokens must be > 0")
  else if decision.requiredWindowTokens = 0 then
    .error (.valueError "required_window_tokens must be > 0")
  else
    .ok decision

theorem BatchBudgetDecision.eq_of_checked {decision result : BatchBudgetDecision}
    (h : decision.checked = .ok result) : result = decision := by
  unfold checked at h
  split_ifs at h
  exact (Except.ok.inj h).symm

/-- `_max_completion_tokens`, which the output cap policy computes alike: an
explicit cap only above what the provider grants by itself. -/
def explicitCap (providerDefault : Nat) (remainingAfterInputTokens : Int)
    (modelMaxOutputTokens : Nat) : Option Nat :=
  if remainingAfterInputTokens ≤ providerDefault then
    none
  else
    some (min remainingAfterInputTokens.toNat modelMaxOutputTokens)

/-- `_estimate_batch_input_tokens`. Decimals have 28 significant digits. -/
def estimateBatchInputTokens (charCount : Nat) (multiplier : ℚ) : Nat :=
  if charCount = 0 then 0
  else max 1 ⌈SignificantDigits.toDigits 28 ((charCount : ℚ) / multiplier)⌉.toNat

namespace BatchBudgetPolicy

variable (policy : BatchBudgetPolicy)

def availableTokens (tokensPerMinute : Nat) : Int :=
  (tokensPerMinute : Int) - policy.prompt.promptTokens - policy.provider.requestSafetyGapTokens

/-- The decision about a number of artifact tokens. -/
def decideArtifactTokens (artifactTokens : Nat) : Except Fault BatchBudgetDecision :=
  match policy.model.tokensPerMinute with
  | none => .error (.valueError "model profile must define tokens_per_minute")
  | some tokensPerMinute =>
    if policy.availableTokens tokensPerMinute ≤ 1 then
      .error (.valueError "model TPM budget is too small for prompt and safety gap")
    else
      let inputTokens := policy.prompt.promptTokens + artifactTokens
      let completionGap := policy.provider.outputSafetyGapTokens
      let remainingAfterInputTokens : Int := (tokensPerMinute : Int) - inputTokens - completionGap
      BatchBudgetDecision.checked
        { promptTokens := policy.prompt.promptTokens
          artifactTokens := artifactTokens
          artifactMaxTokens := (policy.availableTokens tokensPerMinute / 2).toNat
          inputTokens := inputTokens
          requestSafetyGapTokens := policy.provider.requestSafetyGapTokens
          completionSafetyGapTokens := completionGap
          remainingAfterInputTokens := remainingAfterInputTokens
          maxCompletionTokens := explicitCap policy.provider.providerDefaultCompletionTokens
            remainingAfterInputTokens policy.model.maxOutputTokens
          requiredWindowTokens := inputTokens + artifactTokens + completionGap }

/-- `LlmBatchBudgetPolicy.decide`: observed tokens take the place of the estimate. -/
def decide (batchInputCharCount : Int) (observedBatchInputTokens : Option Int) :
    Except Fault BatchBudgetDecision :=
  if batchInputCharCount < 0 then
    .error (.valueError "batch_input_char_count must be >= 0")
  else
    match observedBatchInputTokens with
    | some observed =>
      if observed < 0 then
        .error (.valueError "observed_batch_input_tokens must be >= 0")
      else
        policy.decideArtifactTokens observed.toNat
    | none =>
      policy.decideArtifactTokens
        (estimateBatchInputTokens batchInputCharCount.toNat policy.model.charToTokenMultiplier)

end BatchBudgetPolicy

structure ProviderOutputCapProfile where
  providerDefaultCompletionTokens : Nat
  completionSafetyGapTokens : Nat
  default_pos : 0 < providerDefaultCompletionTokens

structure RequestOutputCapDecision where
  inputTokens : Nat
  artifactTokens : Nat
  remainingAfterInputTokens : Int
  maxCompletionTokens : Option Nat
  requiredWindowTokens : Nat
  deriving DecidableEq

/-- `RequestOutputCapPolicy.decide`, for counts of tokens. No check of the
decision it builds is left open: what it reports is positive. -/
def decideOutputCap (profile : ProviderOutputCapProfile)
    (inputTokens artifactTokens tokensRemaining modelMaxOutputTokens : Nat) :
    Except Fault RequestOutputCapDecision :=
  if inputTokens = 0 then
    .error (.valueError "input_tokens must be > 0")
  else if modelMaxOutputTokens = 0 then
    .error (.valueError "model_max_output_tokens must be > 0")
  else if modelMaxOutputTokens < profile.providerDefaultCompletionTokens then
    .error (.valueError
      "provider_default_completion_tokens must not exceed model_max_output_tokens")
  else
    let remainingAfterInputTokens : Int :=
      (tokensRemaining : Int) - inputTokens - profile.completionSafetyGapTokens
    .ok
      { inputTokens := inputTokens
        artifactTokens := artifactTokens
        remainingAfterInputTokens := remainingAfterInputTokens
        maxCompletionTokens := explicitCap profile.providerDefaultCompletionTokens
          remainingAfterInputTokens modelMaxOutputTokens
        requiredWindowTokens :=
          inputTokens + artifactTokens + profile.completionSafetyGapTokens }

/-- The output cap profile that belongs to a budget profile. -/
def ProviderBudgetProfile.outputCapProfile (provider : ProviderBudgetProfile) :
    ProviderOutputCapProfile :=
  ⟨provider.providerDefaultCompletionTokens, provider.outputSafetyGapTokens,
    provider.default_pos⟩

/-- An explicit cap leaves its gap. -/
theorem explicitCap_le {providerDefault modelMaxOutputTokens cap : Nat} {remaining : Int}
    (hcap : explicitCap providerDefault remaining modelMaxOutputTokens = some cap) :
    0 < remaining ∧ (cap : Int) ≤ remaining := by
  unfold explicitCap at hcap
  split at hcap
  · cases hcap
  · next hmore =>
    cases hcap
    omega

theorem explicitCap_pos {providerDefault modelMaxOutputTokens : Nat}
    (hmodel : 0 < modelMaxOutputTokens) (remaining : Int) :
    explicitCap providerDefault remaining modelMaxOutputTokens ≠ some 0 := by
  unfold explicitCap
  split
  · simp
  · next hmore =>
    intro hzero
    have hmin := Option.some.inj hzero
    omega

namespace BatchBudgetPolicy

variable {policy : BatchBudgetPolicy}

/-- What an answer of the batch policy says: the limit leaves more than one
token, and the amounts are those of the batch. -/
theorem decideArtifactTokens_ok {artifactTokens : Nat} {decision : BatchBudgetDecision}
    (h : policy.decideArtifactTokens artifactTokens = .ok decision) :
    ∃ tokensPerMinute, policy.model.tokensPerMinute = some tokensPerMinute ∧
      1 < policy.availableTokens tokensPerMinute ∧
      decision.artifactTokens = artifactTokens ∧
      (decision.artifactMaxTokens : Int) = policy.availableTokens tokensPerMinute / 2 ∧
      decision.inputTokens = policy.prompt.promptTokens + artifactTokens ∧
      decision.requiredWindowTokens = policy.prompt.promptTokens + artifactTokens +
        artifactTokens + policy.provider.outputSafetyGapTokens := by
  unfold decideArtifactTokens at h
  split at h
  · cases h
  · next tokensPerMinute hlimit =>
    split at h
    · cases h
    · next havailable =>
      have hdecision := BatchBudgetDecision.eq_of_checked h
      subst hdecision
      refine ⟨tokensPerMinute, hlimit, by omega, rfl, ?_, rfl, rfl⟩
      dsimp only
      omega

/-- The checks of the decision never fail. -/
theorem exists_decideArtifactTokens {tokensPerMinute : Nat}
    (hlimit : policy.model.tokensPerMinute = some tokensPerMinute)
    (havailable : 1 < policy.availableTokens tokensPerMinute) (artifactTokens : Nat) :
    ∃ decision, policy.decideArtifactTokens artifactTokens = .ok decision := by
  have hprompt := policy.prompt.promptTokens_pos
  unfold decideArtifactTokens
  simp only [hlimit]
  rw [if_neg (by omega)]
  unfold BatchBudgetDecision.checked
  rw [if_neg hprompt.ne', if_neg (by dsimp only; omega), if_neg (by dsimp only; omega),
    if_neg (explicitCap_pos policy.model.maxOutputTokens_pos _),
    if_neg (by dsimp only; omega)]
  exact ⟨_, rfl⟩

theorem decide_ok {batchInputCharCount : Int} {observed : Option Int}
    {decision : BatchBudgetDecision}
    (h : policy.decide batchInputCharCount observed = .ok decision) :
    ∃ artifactTokens, policy.decideArtifactTokens artifactTokens = .ok decision := by
  unfold decide at h
  split at h
  · cases h
  · split at h
    · split at h
      · cases h
      · exact ⟨_, h⟩
    · exact ⟨_, h⟩

/-- Whatever number of artifact tokens can be observed. -/
theorem decide_observed (artifactTokens : Nat) :
    policy.decide 0 (some artifactTokens) = policy.decideArtifactTokens artifactTokens := by
  simp [decide]

/-- With the gap that planning leaves, every accepted batch has a full window. -/
theorem window_le_of_fits {artifactTokens : Nat} {decision : BatchBudgetDecision}
    (h : policy.decideArtifactTokens artifactTokens = .ok decision)
    (hfits : decision.batchInputFits = true) {tokensPerMinute : Nat}
    (hlimit : policy.model.tokensPerMinute = some tokensPerMinute) :
    decision.inputTokens + decision.artifactTokens + policy.provider.requestSafetyGapTokens +
      (policy.availableTokens tokensPerMinute % 2).toNat ≤ tokensPerMinute := by
  obtain ⟨limit, hsome, havailable, hartifact, hmax, hinput, -⟩ := decideArtifactTokens_ok h
  rw [hlimit] at hsome
  cases hsome
  simp only [BatchBudgetDecision.batchInputFits, decide_eq_true_eq] at hfits
  unfold availableTokens at *
  omega

/-- A cap that the output cap policy sets in a full window leaves the gap. -/
theorem window_le_of_cap {profile : ProviderOutputCapProfile}
    {inputTokens artifactTokens tokensRemaining modelMaxOutputTokens cap : Nat}
    {decision : RequestOutputCapDecision}
    (h : decideOutputCap profile inputTokens artifactTokens tokensRemaining
      modelMaxOutputTokens = .ok decision)
    (hcap : decision.maxCompletionTokens = some cap) :
    inputTokens + cap + profile.completionSafetyGapTokens ≤ tokensRemaining := by
  unfold decideOutputCap at h
  split_ifs at h
  cases h
  have hle := explicitCap_le hcap
  omega

/-- Every accepted batch fits a full window: with the cap that the output cap
policy sets there and with the window that is reported for admission. -/
def AgreesWithWindow (policy : BatchBudgetPolicy) : Prop :=
  ∀ charCount observed decision tokensPerMinute,
    policy.decide charCount observed = .ok decision → decision.batchInputFits = true →
    policy.model.tokensPerMinute = some tokensPerMinute →
    (∀ capDecision cap,
      decideOutputCap policy.provider.outputCapProfile decision.inputTokens
        decision.artifactTokens tokensPerMinute policy.model.maxOutputTokens =
          .ok capDecision →
      capDecision.maxCompletionTokens = some cap →
      decision.inputTokens + cap + policy.provider.outputSafetyGapTokens ≤ tokensPerMinute) ∧
    decision.requiredWindowTokens ≤ tokensPerMinute

/-- The completion gap is at most the request gap, but for the token that
planning loses when it halves what is available; or nothing is ever accepted. -/
def GapsAgree (policy : BatchBudgetPolicy) : Prop :=
  ∀ tokensPerMinute, policy.model.tokensPerMinute = some tokensPerMinute →
    1 < policy.availableTokens tokensPerMinute →
    (policy.provider.outputSafetyGapTokens : Int) ≤
      policy.provider.requestSafetyGapTokens + policy.availableTokens tokensPerMinute % 2

/-- The batch policy and the request window agree exactly when their gaps do. -/
theorem agreesWithWindow_iff (policy : BatchBudgetPolicy) :
    policy.AgreesWithWindow ↔ policy.GapsAgree := by
  constructor
  · intro hagrees tokensPerMinute hlimit havailable
    -- The largest batch that planning accepts is the one that needs the most.
    let largest := (policy.availableTokens tokensPerMinute / 2).toNat
    obtain ⟨decision, hdecide⟩ := exists_decideArtifactTokens hlimit havailable largest
    obtain ⟨limit, hsome, -, hartifact, hmax, -, hrequired⟩ := decideArtifactTokens_ok hdecide
    rw [hlimit] at hsome
    cases hsome
    have hfits : decision.batchInputFits = true := by
      simp only [BatchBudgetDecision.batchInputFits, decide_eq_true_eq]
      omega
    have hobserved := (decide_observed largest).trans hdecide
    have hwindow := (hagrees 0 _ decision tokensPerMinute hobserved hfits hlimit).2
    have hhalf : (largest : Int) = policy.availableTokens tokensPerMinute / 2 := by omega
    unfold availableTokens at *
    omega
  · intro hgaps charCount observed decision tokensPerMinute hdecide hfits hlimit
    refine ⟨fun capDecision cap hcapDecision hcap => window_le_of_cap hcapDecision hcap, ?_⟩
    obtain ⟨artifactTokens, hartifacts⟩ := decide_ok hdecide
    have hwindow := window_le_of_fits hartifacts hfits hlimit
    obtain ⟨limit, hsome, havailable, hartifact, -, hinput, hrequired⟩ :=
      decideArtifactTokens_ok hartifacts
    rw [hlimit] at hsome
    cases hsome
    have hgap := hgaps tokensPerMinute hlimit havailable
    omega

end BatchBudgetPolicy

/-- A provider whose completion gap is larger than its request gap. -/
def widerCompletionGap : BatchBudgetPolicy where
  provider := ⟨"groq", 2048, 300, 500, by decide, by omega⟩
  model := ⟨"groq", "small", 8192, some 6000, 4, by omega, by simp, by norm_num⟩
  prompt := ⟨"groq", "small", 1000, by omega⟩
  model_provider := rfl
  prompt_provider := rfl
  prompt_model := rfl

theorem availableTokens_widerCompletionGap :
    widerCompletionGap.availableTokens 6000 = 4700 := by
  norm_num [BatchBudgetPolicy.availableTokens, widerCompletionGap]

/-- A batch of 2350 tokens is accepted and needs 6200 of the 6000 tokens of a
minute. -/
theorem widerCompletionGap_inadmissible :
    ∃ decision, widerCompletionGap.decide 0 (some 2350) = .ok decision ∧
      decision.batchInputFits = true ∧
      widerCompletionGap.model.tokensPerMinute = some 6000 ∧
      decision.requiredWindowTokens = 6200 := by
  have hlimit : widerCompletionGap.model.tokensPerMinute = some 6000 := rfl
  have havailable := availableTokens_widerCompletionGap
  obtain ⟨decision, hdecide⟩ :=
    BatchBudgetPolicy.exists_decideArtifactTokens hlimit (by omega) 2350
  obtain ⟨limit, hsome, -, hartifact, hmax, -, hrequired⟩ :=
    BatchBudgetPolicy.decideArtifactTokens_ok hdecide
  rw [hlimit] at hsome
  cases hsome
  refine ⟨decision, (BatchBudgetPolicy.decide_observed 2350).trans hdecide, ?_, hlimit, ?_⟩
  · simp only [BatchBudgetDecision.batchInputFits, decide_eq_true_eq]
    omega
  · rw [hrequired]
    rfl

end CrmBot.LlmRuntime
