import CrmBot.ExecutionRuntime.StoreRuns
import CrmBot.Library.Runs

/-! Reading a recorded outcome back after later operations.

Only two operations write to an attempt that exists: a further outcome for the same
attempt, and the recovery, which closes the attempt of every expired lease it
takes. -/

namespace CrmBot.ExecutionRuntime

open Relational CrmBot.Python FailingFold Runs

/-- Reading the outcome of the attempt yields what was recorded. -/
def ReadsBack (outcome : CheckedOutcomeRecord) (store : ExecutionStore) : Prop :=
  ∃ recorded, getRecordedAttemptOutcome store outcome.attemptId = .ok (some recorded) ∧
    recorded.workItemId = outcome.workItemId ∧
    recorded.attemptNumber = outcome.attemptNumber ∧
    recorded.finishedAt = outcome.finishedAt ∧
    recorded.outcomeStatus = outcome.outcomeStatus ∧
    recorded.errorKind = outcome.errorKind ∧
    recorded.validationMetadata = outcome.validationMetadata ∧
    recorded.llmOutputPayload = outcome.llmOutputPayload

/-- The two records hold the same outcome. -/
structure SameOutcome (first second : CheckedOutcomeRecord) : Prop where
  finishedAt_eq : first.finishedAt = second.finishedAt
  outcomeStatus_eq : first.outcomeStatus = second.outcomeStatus
  errorKind_eq : first.errorKind = second.errorKind
  validationMetadata_eq : first.validationMetadata = second.validationMetadata
  llmOutputPayload_eq : first.llmOutputPayload = second.llmOutputPayload

/-- The operation leaves the recorded outcome alone: a further outcome for the
attempt, where its lease is still the current one, is the same, and a recovery does
not take the lease of a successful attempt. -/
def SparesOutcome (outcome : CheckedOutcomeRecord) (store : ExecutionStore) :
    StoreOperation → Prop
  | .record other _ =>
    other.attemptId = outcome.attemptId →
      endsBeforeStart store other.toAttemptOutcomeRecord = false →
        HeldFor store other.attemptId other.workItemId other.attemptNumber other.leaseToken →
          SameOutcome other outcome
  | .recover locked now limit =>
    outcome.outcomeStatus = .succeeded → closesBeforeStart store locked now limit = false →
      ∀ row ∈ expiredRows store locked now limit,
        ¬ (row.workItemId = outcome.workItemId ∧ row.item.attemptCount = outcome.attemptNumber)
  | _ => True

/-- The attempt row holds the outcome, and its item exists. -/
structure HoldsOutcome (outcome : CheckedOutcomeRecord) (store : ExecutionStore)
    (attempt : AttemptRow) : Prop where
  attempt_eq : store.attempts.find? outcome.attemptId = some attempt
  item_eq : attempt.workItemId = outcome.workItemId
  number_eq : attempt.attemptNumber = outcome.attemptNumber
  outcome_eq : attempt.withOutcome outcome.toAttemptOutcomeRecord = attempt
  row_exists : ∃ row, store.workItems.find? outcome.workItemId = some row

variable {store next : ExecutionStore} {outcome : CheckedOutcomeRecord} {attempt : AttemptRow}

theorem AttemptRow.withOutcome_eq_self_iff {record : AttemptOutcomeRecord} :
    attempt.withOutcome record = attempt ↔
      attempt.finishedAt = some record.finishedAt ∧
        attempt.outcomeStatus = some record.outcomeStatus ∧
        attempt.errorKind = record.errorKind ∧
        attempt.validationMetadata = record.validationMetadata ∧
        attempt.llmOutputPayload = record.llmOutputPayload := by
  unfold AttemptRow.withOutcome
  obtain ⟨attemptId, workItemId, attemptNumber, startedAt, finishedAt, outcomeStatus, errorKind,
    validationMetadata, llmOutputPayload⟩ := attempt
  simp only [AttemptRow.mk.injEq, true_and, eq_comm]

/-! Reading. -/

/-- An attempt that holds the outcome is read. -/
theorem readsBack_of_holdsOutcome (h : HoldsOutcome outcome store attempt) :
    ReadsBack outcome store := by
  obtain ⟨hfind, hitem, hnumber, houtcome, row, hrow⟩ := h
  obtain ⟨hfinished, hstatus, herror, hmetadata, hpayload⟩ :=
    AttemptRow.withOutcome_eq_self_iff.mp houtcome
  have hid : attempt.attemptId = outcome.attemptId := (Table.find?_eq_some_iff.mp hfind).2
  have hrowId : row.item.workItemId = outcome.workItemId := (Table.find?_eq_some_iff.mp hrow).2
  have hread : getRecordedAttemptOutcome store outcome.attemptId =
      (recordedAttemptOutcome attempt row.item outcome.finishedAt outcome.outcomeStatus).map
        some := by
    unfold getRecordedAttemptOutcome
    rw [hfind]
    dsimp only
    rw [hfinished, hstatus, hitem, hrow]
  have hchecks : ∃ recorded,
      recordedAttemptOutcome attempt row.item outcome.finishedAt outcome.outcomeStatus =
        .ok recorded ∧ recorded.workItemId = row.item.workItemId ∧
        recorded.attemptNumber = attempt.attemptNumber ∧
        recorded.finishedAt = outcome.finishedAt ∧
        recorded.outcomeStatus = outcome.outcomeStatus ∧
        recorded.errorKind = attempt.errorKind ∧
        recorded.validationMetadata = attempt.validationMetadata ∧
        recorded.llmOutputPayload = attempt.llmOutputPayload := by
    have hpos := outcome.attemptNumber_pos
    have hne := outcome.attemptId_ne
    have herrorNe := outcome.errorKind_ne
    rw [← hnumber] at hpos
    rw [← hid] at hne
    rw [← herror] at herrorNe
    unfold recordedAttemptOutcome
    rw [if_neg (by rw [hne]; exact Bool.false_ne_true), if_neg (by omega),
      if_neg (by rw [herrorNe]; exact Bool.false_ne_true),
      dif_pos (by rw [herror]; exact outcome.errorKind_iff)]
    exact ⟨_, rfl, rfl, rfl, rfl, rfl, rfl, rfl, rfl⟩
  obtain ⟨recorded, hok, hworkItem, hattempt, hrest⟩ := hchecks
  refine ⟨recorded, ?_, hworkItem.trans hrowId, hattempt.trans hnumber, ?_⟩
  · rw [hread, hok]
    rfl
  · rw [← herror, ← hmetadata, ← hpayload]
    exact hrest

/-- What is read back is held by an attempt row. -/
theorem holdsOutcome_of_readsBack (h : ReadsBack outcome store) :
    ∃ attempt, HoldsOutcome outcome store attempt := by
  obtain ⟨recorded, hread, hitem, hnumber, hfinished, hstatus, herror, hmetadata, hpayload⟩ := h
  unfold getRecordedAttemptOutcome at hread
  split at hread
  · cases hread
  · next attempt hfind =>
    split at hread
    · next finishedAt outcomeStatus hfinishedAt houtcomeStatus =>
      split at hread
      · cases hread
      · next row hrow =>
        have hrowId : row.item.workItemId = attempt.workItemId :=
          (Table.find?_eq_some_iff.mp hrow).2
        unfold recordedAttemptOutcome at hread
        split at hread
        · cases hread
        · split at hread
          · cases hread
          · split at hread
            · cases hread
            · split at hread
              · cases hread
                have hsame : attempt.workItemId = outcome.workItemId := hrowId.symm.trans hitem
                have houtcome : attempt.withOutcome outcome.toAttemptOutcomeRecord = attempt :=
                  AttemptRow.withOutcome_eq_self_iff.mpr
                    ⟨hfinishedAt.trans (congrArg some hfinished),
                      houtcomeStatus.trans (congrArg some hstatus), herror, hmetadata, hpayload⟩
                exact ⟨attempt, hfind, hsame, hnumber, houtcome, row, hsame ▸ hrow⟩
              · split at hread
                · cases hread
                · cases hread
    · cases hread

theorem readsBack_iff :
    ReadsBack outcome store ↔ ∃ attempt, HoldsOutcome outcome store attempt :=
  ⟨holdsOutcome_of_readsBack, fun ⟨_, h⟩ => readsBack_of_holdsOutcome h⟩

/-! The attempts under each operation. -/

theorem attempts_committedStore {Value : Type} {result : Except Fault (Value × ExecutionStore)}
    (h : ∀ value next, result = .ok (value, next) → next.attempts = store.attempts) :
    (committedStore store (result.map Prod.snd)).attempts = store.attempts := by
  cases hresult : result with
  | error fault => rfl
  | ok found => exact h found.1 found.2 hresult

theorem attempts_leaseById {locked : String → Bool} {workKind target worker leaseToken : String}
    {leaseExpiresAt now : Int} :
    (performStore store (.leaseById locked workKind target worker leaseToken leaseExpiresAt
      now)).attempts = store.attempts := by
  apply attempts_committedStore
  intro record next hlease
  exact (leaseDueWorkItemById_frame hlease).1

theorem attempts_leaseDue {locked : String → Bool} {workKind worker leaseToken : String}
    {leaseExpiresAt now : Int} :
    (performStore store (.leaseDue locked workKind worker leaseToken leaseExpiresAt
      now)).attempts = store.attempts := by
  rw [performStore_leaseDue]
  cases firstDueRow store locked workKind with
  | none => rfl
  | some row => exact attempts_leaseById

theorem attempts_complete {target leaseToken : String} {now : Int} :
    (performStore store (.complete target leaseToken now)).attempts = store.attempts := by
  apply attempts_committedStore
  intro item next hcomplete
  obtain ⟨_, _, _, rfl⟩ := eq_of_completeWorkItemAfterDomainApply hcomplete
  rfl

theorem attempts_supersede {target : String} {now : Int} :
    (performStore store (.supersede target now)).attempts = store.attempts := by
  cases hfind : store.workItems.find? target with
  | none =>
    unfold performStore supersedeWaitingWorkItem loadWorkItem
    dsimp only
    rw [hfind]
    rfl
  | some row =>
    rw [performStore_supersede hfind]
    split
    · rfl
    · rfl

/-- A started attempt leaves the rows of other attempts alone. -/
theorem attempt_start {record : DispatchRow} {startedAt : Int} {attemptId : String}
    (hfind : store.attempts.find? attemptId = some attempt) :
    (performStore store (.start record startedAt)).attempts.find? attemptId = some attempt := by
  obtain ⟨hmem, hid⟩ := Table.find?_eq_some_iff.mp hfind
  have hends := saveStartedDispatchAttempt_ends store record startedAt
  unfold performStore
  dsimp only
  cases hsave : saveStartedDispatchAttempt store record startedAt with
  | error fault => exact hfind
  | ok next =>
    rw [hsave] at hends
    have hsaved : SavedAttempt store record startedAt next := hends
    rcases hsaved.attempts with ⟨hsame, _⟩ | hrows
    · unfold committedStore
      dsimp only
      rw [hsame]
      exact hfind
    · apply Table.find?_eq_some_iff.mpr
      refine ⟨?_, hid⟩
      unfold committedStore
      dsimp only
      rw [hrows]
      exact List.mem_append_left _ hmem

/-! What the two writing operations do to the outcome. -/

/-- A second outcome of the attempt replaces the first one. -/
theorem withOutcome_withOutcome_iff {other : CheckedOutcomeRecord} :
    (attempt.withOutcome other.toAttemptOutcomeRecord).withOutcome
        outcome.toAttemptOutcomeRecord =
      attempt.withOutcome other.toAttemptOutcomeRecord ↔ SameOutcome other outcome := by
  rw [AttemptRow.withOutcome_eq_self_iff]
  simp only [AttemptRow.withOutcome, Option.some.injEq]
  constructor
  · rintro ⟨hfinished, hstatus, herror, hmetadata, hpayload⟩
    exact ⟨hfinished, hstatus, herror, hmetadata, hpayload⟩
  · intro h
    exact ⟨h.finishedAt_eq, h.outcomeStatus_eq, h.errorKind_eq, h.validationMetadata_eq,
      h.llmOutputPayload_eq⟩

/-- The row of an attempt that the recovery closes. -/
def AttemptRow.closed (attempt : AttemptRow) (now : Int) : AttemptRow :=
  { attempt with
    finishedAt := attempt.finishedAt.or (some now)
    outcomeStatus := attempt.outcomeStatus.or (some .retryableFailed)
    errorKind := attempt.errorKind.or (some "lease_expired") }

/-- Closing an attempt that has its outcome changes it exactly for a success. -/
theorem closed_withOutcome_iff {now : Int}
    (h : attempt.withOutcome outcome.toAttemptOutcomeRecord = attempt) :
    (attempt.closed now).withOutcome outcome.toAttemptOutcomeRecord = attempt.closed now ↔
      outcome.outcomeStatus ≠ .succeeded := by
  rw [AttemptRow.withOutcome_eq_self_iff] at h
  obtain ⟨hfinished, hstatus, herror, hmetadata, hpayload⟩ := h
  rw [AttemptRow.withOutcome_eq_self_iff, ← outcome.errorKind_iff]
  unfold AttemptRow.closed
  dsimp only
  rw [hfinished, hstatus, herror, hmetadata, hpayload]
  cases outcome.errorKind with
  | none => simp
  | some errorKind => simp

/-! One operation. -/

/-- An attempt whose row is as before is still read back. -/
theorem readsBack_of_attempt_eq {operation : StoreOperation}
    (h : HoldsOutcome outcome store attempt)
    (hfind : (performStore store operation).attempts.find? outcome.attemptId = some attempt) :
    ReadsBack outcome (performStore store operation) := by
  obtain ⟨_, hitem, hnumber, houtcome, row, hrow⟩ := h
  obtain ⟨next, hnext, _⟩ := itemStep_performStore operation hrow
  exact readsBack_of_holdsOutcome ⟨hfind, hitem, hnumber, houtcome, next, hnext⟩

/-- An attempt whose row was written is read back exactly if it holds the outcome
still. -/
theorem readsBack_of_attempt_written {operation : StoreOperation} {written : AttemptRow}
    (h : HoldsOutcome outcome store attempt)
    (hfind : (performStore store operation).attempts.find? outcome.attemptId = some written)
    (hitem : written.workItemId = attempt.workItemId)
    (hnumber : written.attemptNumber = attempt.attemptNumber) :
    ReadsBack outcome (performStore store operation) ↔
      written.withOutcome outcome.toAttemptOutcomeRecord = written := by
  obtain ⟨_, hattemptItem, hattemptNumber, _, row, hrow⟩ := h
  obtain ⟨next, hnext, _⟩ := itemStep_performStore operation hrow
  rw [readsBack_iff]
  constructor
  · rintro ⟨found, hfound, _, _, houtcome, _⟩
    rw [hfind] at hfound
    cases hfound
    exact houtcome
  · intro houtcome
    exact ⟨written, hfind, hitem.trans hattemptItem, hnumber.trans hattemptNumber, houtcome, next,
      hnext⟩

/-- The state machine takes every outcome of a leased item. -/
theorem transitionWorkItem_of_leased (other : CheckedOutcomeRecord) {current : WorkItem}
    (hleased : current.status = .leased) :
    ∃ item, transitionWorkItem current other.toAttemptOutcomeRecord = .ok item := by
  have hrequired : ∀ action, WorkItemStateMachine.requireLeased current action = .ok () := by
    intro action
    unfold WorkItemStateMachine.requireLeased
    rw [if_neg (not_not.mpr hleased)]
  have herror := other.errorKind_iff
  have hblank := other.errorKind_ne
  have hplan := other.retryPlan_iff
  unfold transitionWorkItem
  cases hstatus : other.outcomeStatus with
  | succeeded => exact ⟨current, rfl⟩
  | retryableFailed =>
    rw [hstatus] at herror hplan
    obtain ⟨errorKind, hkind⟩ := Option.isSome_iff_exists.mp (herror.mpr nofun)
    obtain ⟨plan, hsome⟩ := Option.isSome_iff_exists.mp (hplan.mpr rfl)
    rw [hkind] at hblank
    have hnonempty : WorkItemStateMachine.requireErrorKind errorKind = .ok () :=
      WorkItemStateMachine.requireErrorKind_of_text hblank
    rw [hkind, hsome]
    dsimp only
    unfold WorkItemStateMachine.failLeasedRetryable
    rw [hrequired, hnonempty]
    exact ⟨_, rfl⟩
  | terminalFailed =>
    rw [hstatus] at herror
    obtain ⟨errorKind, hkind⟩ := Option.isSome_iff_exists.mp (herror.mpr nofun)
    rw [hkind] at hblank
    have hnonempty : WorkItemStateMachine.requireErrorKind errorKind = .ok () :=
      WorkItemStateMachine.requireErrorKind_of_text hblank
    rw [hkind]
    dsimp only
    unfold WorkItemStateMachine.failLeasedTerminal
    rw [hrequired, hnonempty]
    exact ⟨_, rfl⟩

theorem readsBack_record_iff {other : CheckedOutcomeRecord} {now : Int}
    (h : HoldsOutcome outcome store attempt) :
    ReadsBack outcome (performStore store (.record other now)) ↔
      SparesOutcome outcome store (.record other now) := by
  have hfind := h.attempt_eq
  cases hbefore : endsBeforeStart store other.toAttemptOutcomeRecord with
  | true =>
    have hsame : performStore store (.record other now) = store := if_pos hbefore
    apply iff_of_true
    · apply readsBack_of_attempt_eq h
      rw [hsame]
      exact hfind
    · intro _ hnot
      rw [hbefore] at hnot
      cases hnot
  | false =>
    have hperform : performStore store (.record other now) = committedStore store
        ((recordAttemptOutcome store other.toAttemptOutcomeRecord now).map Prod.snd) := by
      unfold performStore
      dsimp only
      rw [hbefore]
      exact if_neg Bool.false_ne_true
    cases hrecord : recordAttemptOutcome store other.toAttemptOutcomeRecord now with
    | error fault =>
      rw [hrecord] at hperform
      apply iff_of_true
      · apply readsBack_of_attempt_eq h
        rw [hperform]
        exact hfind
      · intro _ _ hheld
        obtain ⟨item, next, hok⟩ := recordAttemptOutcome_of_transition now hheld
          fun current hleased => transitionWorkItem_of_leased other hleased
        rw [hrecord] at hok
        cases hok
    | ok result =>
      obtain ⟨item, next⟩ := result
      obtain ⟨row, recordedAttempt, hrecorded⟩ := outcomeRecorded_of_recordAttemptOutcome hrecord
      rw [hrecord] at hperform
      have hattempts : (performStore store (.record other now)).attempts.find?
          outcome.attemptId = (store.attempts.find? outcome.attemptId).map fun attempt =>
            if attempt.attemptId = other.attemptId && attempt.workItemId = other.workItemId &&
              attempt.attemptNumber = other.attemptNumber then
                attempt.withOutcome other.toAttemptOutcomeRecord
            else attempt := by
        rw [hperform]
        unfold committedStore
        dsimp only [Except.map]
        rw [eq_of_recordAttemptOutcome hrecord]
        exact UniqueTable.find?_updateWhere store.attempts _
          (fun attempt => attempt.withOutcome other.toAttemptOutcomeRecord) (fun _ => rfl)
          (fun _ => rfl) outcome.attemptId
      rw [hfind, Option.map_some] at hattempts
      by_cases heq : other.attemptId = outcome.attemptId
      · have hsame : recordedAttempt = attempt := by
          have hother := hrecorded.attempt_eq
          rw [heq, hfind] at hother
          exact (Option.some.inj hother).symm
        have hid := (Table.find?_eq_some_iff.mp hfind).2
        have hwritten := hrecorded.next_attempt
        rw [hsame, heq] at hwritten
        have hafter : (performStore store (.record other now)).attempts.find? outcome.attemptId =
            some (attempt.withOutcome other.toAttemptOutcomeRecord) := by
          rw [hperform]
          exact hwritten
        rw [readsBack_of_attempt_written h hafter rfl rfl, withOutcome_withOutcome_iff]
        constructor
        · intro hsameOutcome _ _ _
          exact hsameOutcome
        · intro hspares
          exact hspares heq hbefore hrecorded.heldFor
      · apply iff_of_true
        · apply readsBack_of_attempt_eq h
          rw [hattempts, if_neg]
          have hid : attempt.attemptId = outcome.attemptId := (Table.find?_eq_some_iff.mp hfind).2
          rw [Bool.and_eq_true, Bool.and_eq_true, decide_eq_true_eq, hid]
          exact fun hmatch => heq hmatch.1.1.symm
        · exact fun hid => absurd hid heq

theorem readsBack_recover_iff {locked : String → Bool} {now : Int} {limit : Nat}
    (h : HoldsOutcome outcome store attempt) :
    ReadsBack outcome (performStore store (.recover locked now limit)) ↔
      SparesOutcome outcome store (.recover locked now limit) := by
  have hfind := h.attempt_eq
  cases hbefore : closesBeforeStart store locked now limit with
  | true =>
    have hsame : performStore store (.recover locked now limit) = store := if_pos hbefore
    apply iff_of_true
    · apply readsBack_of_attempt_eq h
      rw [hsame]
      exact hfind
    · intro _ hnot
      rw [hbefore] at hnot
      cases hnot
  | false =>
    have hperform : performStore store (.recover locked now limit) =
        reclaimExpired store locked now limit := by
      unfold performStore
      dsimp only
      rw [hbefore]
      exact if_neg Bool.false_ne_true
    have hattempts : (performStore store (.recover locked now limit)).attempts.find?
        outcome.attemptId = (store.attempts.find? outcome.attemptId).map fun attempt =>
          if (expiredRows store locked now limit).any fun row =>
              attempt.workItemId = row.workItemId &&
                attempt.attemptNumber = row.item.attemptCount then attempt.closed now
          else attempt := by
      rw [hperform]
      exact UniqueTable.find?_updateWhere store.attempts _ (fun attempt => attempt.closed now)
        (fun _ => rfl) (fun _ => rfl) outcome.attemptId
    rw [hfind, Option.map_some] at hattempts
    by_cases htaken : ∃ row ∈ expiredRows store locked now limit,
        row.workItemId = outcome.workItemId ∧ row.item.attemptCount = outcome.attemptNumber
    · obtain ⟨row, hrow, hid, hcount⟩ := htaken
      rw [if_pos] at hattempts
      · rw [readsBack_of_attempt_written h hattempts rfl rfl, closed_withOutcome_iff h.outcome_eq]
        constructor
        · intro hfailed hsucceeded
          exact absurd hsucceeded hfailed
        · intro hspares hsucceeded
          exact hspares hsucceeded hbefore row hrow ⟨hid, hcount⟩
      · apply List.any_eq_true.mpr
        refine ⟨row, hrow, ?_⟩
        rw [Bool.and_eq_true, decide_eq_true_eq, decide_eq_true_eq, h.item_eq, h.number_eq]
        exact ⟨hid.symm, hcount.symm⟩
    · apply iff_of_true
      · apply readsBack_of_attempt_eq h
        rw [hattempts, if_neg]
        intro hany
        obtain ⟨row, hrow, hmatch⟩ := List.any_eq_true.mp hany
        rw [Bool.and_eq_true, decide_eq_true_eq, decide_eq_true_eq, h.item_eq, h.number_eq]
          at hmatch
        exact htaken ⟨row, hrow, hmatch.1.symm, hmatch.2.symm⟩
      · intro _ _ row hrow hmatch
        exact htaken ⟨row, hrow, hmatch⟩

/-- An operation keeps the outcome readable exactly when it spares it. -/
theorem readsBack_performStore_iff {operation : StoreOperation} (h : ReadsBack outcome store) :
    ReadsBack outcome (performStore store operation) ↔ SparesOutcome outcome store operation := by
  obtain ⟨attempt, hholds⟩ := holdsOutcome_of_readsBack h
  have hkept : (performStore store operation).attempts = store.attempts →
      ReadsBack outcome (performStore store operation) := by
    intro hsame
    apply readsBack_of_attempt_eq hholds
    rw [hsame]
    exact hholds.attempt_eq
  cases operation with
  | leaseDue => exact iff_of_true (hkept attempts_leaseDue) trivial
  | leaseById => exact iff_of_true (hkept attempts_leaseById) trivial
  | start record startedAt =>
    exact iff_of_true (readsBack_of_attempt_eq hholds (attempt_start hholds.attempt_eq)) trivial
  | record other now => exact readsBack_record_iff hholds
  | complete => exact iff_of_true (hkept attempts_complete) trivial
  | recover locked now limit => exact readsBack_recover_iff hholds
  | supersede => exact iff_of_true (hkept attempts_supersede) trivial

/-! Runs -/

/-- A recorded outcome can be read. -/
theorem readsBack_of_recordAttemptOutcome {now : Int} {item : WorkItem}
    (h : recordAttemptOutcome store outcome.toAttemptOutcomeRecord now = .ok (item, next)) :
    ReadsBack outcome next := by
  obtain ⟨row, attempt, hrecorded⟩ := outcomeRecorded_of_recordAttemptOutcome h
  exact readsBack_of_holdsOutcome ⟨hrecorded.next_attempt, hrecorded.attempt_item,
    hrecorded.attempt_number, rfl, _, hrecorded.next_row⟩

/-- A recorded outcome is read back after every later operation exactly when no
further outcome replaces it and no recovery takes the lease of a success. -/
theorem outcomeKept_iff {now : Int} {item : WorkItem}
    (h : recordAttemptOutcome store outcome.toAttemptOutcomeRecord now = .ok (item, next))
    (later : List StoreOperation) :
    ReadsBack outcome next ∧
        EveryStep performStore
          (fun store operation => ReadsBack outcome (performStore store operation)) next later ↔
      EveryStep performStore (SparesOutcome outcome) next later := by
  have hread := readsBack_of_recordAttemptOutcome h
  have hstep : ∀ store operation, ReadsBack outcome store →
      (ReadsBack outcome (performStore store operation) ↔
        SparesOutcome outcome store operation) := fun _ _ => readsBack_performStore_iff
  rw [everyStep_iff_of_keeps hstep hread]
  exact and_iff_right hread

/-! A success whose lease runs out before its domain result is applied. -/

def succeededOutcome : CheckedOutcomeRecord where
  attemptId := "attempt-1"
  workItemId := "item"
  attemptNumber := 1
  leaseToken := "token-1"
  finishedAt := 2
  outcomeStatus := .succeeded
  errorKind := none
  retryPlan := none
  validationMetadata := none
  llmOutputPayload := some []
  errorKind_iff := by decide
  retryPlan_iff := by decide
  attemptId_ne := Eq.refl false
  attemptNumber_pos := Nat.one_pos
  errorKind_ne := by decide

/-- The item is leased until ten and its first attempt has started. -/
def startedStore : ExecutionStore :=
  [.leaseById (fun _ => false) "work" "item" "worker" "token-1" 10 0, .start firstDispatch 1].foldl
    performStore (freshStore "item" "work" (Eq.refl false))

theorem completedOutcome_kept :
    ∃ item next, recordAttemptOutcome startedStore succeededOutcome.toAttemptOutcomeRecord 2 =
        .ok (item, next) ∧
      ReadsBack succeededOutcome (performStore next (.complete "item" "token-1" 3)) := by
  obtain ⟨item, next, hrecord⟩ : ∃ item next, recordAttemptOutcome startedStore
      succeededOutcome.toAttemptOutcomeRecord 2 = .ok (item, next) := ⟨_, _, rfl⟩
  have hkept := (outcomeKept_iff hrecord [.complete "item" "token-1" 3]).mpr ⟨trivial, trivial⟩
  exact ⟨item, next, hrecord, hkept.2.1⟩

/-- The recovery writes an error kind to the successful attempt. -/
theorem recoveredOutcome_not_kept :
    ∃ item next, recordAttemptOutcome startedStore succeededOutcome.toAttemptOutcomeRecord 2 =
        .ok (item, next) ∧
      getRecordedAttemptOutcome (performStore next (.recover (fun _ => false) 20 1)) "attempt-1" =
        .error (.valueError "error_kind must be None for succeeded outcome") ∧
      ¬ ReadsBack succeededOutcome (performStore next (.recover (fun _ => false) 20 1)) := by
  refine ⟨_, _, rfl, rfl, ?_⟩
  rintro ⟨recorded, hread, _⟩
  cases hread

end CrmBot.ExecutionRuntime
