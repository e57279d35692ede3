import CrmBot.KnowledgeExtraction.ReconcileProgress
import CrmBot.KnowledgeExtraction.WorkflowWriters

/-! When a manual pause is kept. -/

namespace CrmBot.KnowledgeExtraction

open Relational CrmBot.Python Runs

/-! What a writer decides on a row. -/

theorem pauseRow_eq_some {row next : WorkflowRow} {projectId reason : String} {occurredAt : Int}
    (h : pauseRow row projectId reason occurredAt = .ok (some next)) :
    row.status ≠ .paused ∧ next.status = .paused ∧ next.workflowRunId = row.workflowRunId := by
  unfold pauseRow at h
  split at h
  · cases h
  · split at h
    · cases h
    · split at h
      · cases h
      · next hopen =>
        cases h
        exact ⟨hopen, rfl, rfl⟩

theorem resumeRow_eq_some {row next : WorkflowRow} {projectId : String} {occurredAt : Int}
    (h : resumeRow row projectId occurredAt = .ok (some next)) :
    row.status = .paused ∧ next.workflowRunId = row.workflowRunId := by
  unfold resumeRow at h
  split at h
  · cases h
  · split at h
    · cases h
    · split at h
      · cases h
      · split at h
        · cases h
        · next hpaused =>
          cases h
          exact ⟨not_not.mp hpaused, rfl⟩

/-- A reconcile leaves the status, runs the workflow or pauses it. -/
theorem reconciledRow_status (setting : SagaSetting) (row : WorkflowRow)
    (sources : SourceSnapshot) (occurredAt : Int) :
    (reconciledRow setting row sources occurredAt).status = row.status ∨
      (reconciledRow setting row sources occurredAt).status = .running ∨
      (reconciledRow setting row sources occurredAt).status = .paused := by
  unfold reconciledRow
  dsimp only
  split
  · exact .inr (.inl rfl)
  · unfold rowAfterSources sourceReconciledRow
    split
    · split
      · exact .inr (.inr rfl)
      · split
        · exact .inr (.inr rfl)
        · exact .inr (.inl rfl)
    · exact .inl rfl

variable {useCase : UseCase} {row next : WorkflowRow} {occurredAt : Int}

theorem decide_workflowRunId (h : useCase.decide row occurredAt = .ok (some next)) :
    next.workflowRunId = row.workflowRunId := by
  cases useCase with
  | pause projectId reason => exact (pauseRow_eq_some h).2.2
  | resume projectId => exact (resumeRow_eq_some h).2
  | reconcile setting sources checkpointsChange =>
    simp only [UseCase.decide, Except.ok.injEq] at h
    split at h
    · cases h
    · cases h
      exact reconciledRow_workflowRunId setting row sources occurredAt
  | openWorkspace =>
    cases h
    rfl
  | publishWorkspace publicationRef =>
    cases h
    rfl

/-- A pause saves a paused row. -/
theorem decide_isPause (h : useCase.decide row occurredAt = .ok (some next))
    (hpause : useCase.isPause = true) : next.status = .paused := by
  cases useCase with
  | pause projectId reason => exact (pauseRow_eq_some h).2.1
  | resume _ | reconcile _ _ _ | openWorkspace | publishWorkspace _ => cases hpause

/-- From a paused row only a resume runs on, and only a publication ends. -/
theorem decide_mayRelease_iff (h : useCase.decide row occurredAt = .ok (some next))
    (hpaused : row.status = .paused) :
    ((∃ projectId, useCase = .resume projectId) ∨ next.status.isTerminal = true) ↔
      useCase.mayRelease = true := by
  cases useCase with
  | pause projectId reason => exact absurd hpaused (pauseRow_eq_some h).1
  | resume projectId => exact ⟨fun _ => rfl, fun _ => .inl ⟨projectId, rfl⟩⟩
  | reconcile setting sources checkpointsChange =>
    constructor
    · rintro (⟨projectId, heq⟩ | hterminal)
      · cases heq
      · simp only [UseCase.decide, Except.ok.injEq] at h
        split at h
        · cases h
        · cases h
          rcases reconciledRow_status setting row sources occurredAt with hsame | hother | hother
          · rw [hsame, hpaused] at hterminal
            cases hterminal
          all_goals
            rw [hother] at hterminal
            cases hterminal
    · exact nofun
  | openWorkspace =>
    cases h
    constructor
    · rintro (⟨projectId, heq⟩ | hterminal)
      · cases heq
      · cases hterminal
    · exact nofun
  | publishWorkspace publicationRef =>
    cases h
    exact ⟨fun _ => rfl, fun _ => .inr rfl⟩

/-! What a commit leaves. -/

variable {allowedPhases : List PhaseKey} {before after : WriterSystem} {isPause : Bool}

/-- The row is saved and counted. -/
structure Committed (before : WriterSystem) (row : WorkflowRow) (isPause : Bool)
    (after : WriterSystem) : Prop where
  found : ∀ workflowRunId, after.saga.runs.find? workflowRunId =
    if workflowRunId = row.workflowRunId then some row
    else before.saga.runs.find? workflowRunId
  versions : after.versions =
    Function.update before.versions row.workflowRunId (before.versions row.workflowRunId + 1)
  pauses : after.pauses = Function.update before.pauses row.workflowRunId
    (if isPause then some (before.versions row.workflowRunId + 1)
    else if row.status = .paused then before.pauses row.workflowRunId else none)
  sessions : after.sessions = before.sessions

theorem commitRow_of_refused {constraint : String}
    (h : row.violatedConstraint allowedPhases = some constraint) :
    commitRow allowedPhases before row isPause = before := by
  simp [commitRow, saveWorkflowState, h]

theorem commitRow_committed (before : WriterSystem) (isPause : Bool)
    (h : row.violatedConstraint allowedPhases = none) :
    Committed before row isPause (commitRow allowedPhases before row isPause) := by
  unfold commitRow
  cases hsave : saveWorkflowState allowedPhases before.saga row with
  | error fault =>
    simp only [saveWorkflowState, h] at hsave
    cases hsave
  | ok saga => exact ⟨find?_saveWorkflowState hsave, rfl, rfl, rfl⟩

namespace Committed

variable (h : Committed before row isPause after)

include h

theorem paused_iff : after.Paused row.workflowRunId ↔ row.status = .paused := by
  unfold WriterSystem.Paused
  rw [h.found, if_pos rfl]
  constructor
  · rintro ⟨found, hfound, hstatus⟩
    cases hfound
    exact hstatus
  · intro hstatus
    exact ⟨row, rfl, hstatus⟩

theorem paused_of_ne {workflowRunId : String} (hne : workflowRunId ≠ row.workflowRunId) :
    after.Paused workflowRunId ↔ before.Paused workflowRunId := by
  unfold WriterSystem.Paused
  rw [h.found, if_neg hne]

theorem pauses_of_ne {workflowRunId : String} (hne : workflowRunId ≠ row.workflowRunId) :
    after.pauses workflowRunId = before.pauses workflowRunId := by
  rw [h.pauses, Function.update_of_ne hne]

theorem versions_le (workflowRunId : String) :
    before.versions workflowRunId ≤ after.versions workflowRunId := by
  rw [h.versions]
  by_cases heq : workflowRunId = row.workflowRunId
  · rw [heq, Function.update_self]
    omega
  · rw [Function.update_of_ne heq]

/-- A pause is in force from this commit on, or it was before. -/
theorem pauses_eq_some {workflowRunId : String} {pausedAt : Nat}
    (hpause : after.pauses workflowRunId = some pausedAt) :
    (workflowRunId = row.workflowRunId ∧ isPause = true ∧
      pausedAt = before.versions row.workflowRunId + 1) ∨
    (before.pauses workflowRunId = some pausedAt ∧
      (workflowRunId = row.workflowRunId → row.status = .paused)) := by
  by_cases heq : workflowRunId = row.workflowRunId
  · rw [heq, h.pauses, Function.update_self] at hpause
    split at hpause
    · next hnew =>
      cases hpause
      exact .inl ⟨heq, hnew, rfl⟩
    · split at hpause
      · next hstatus =>
        rw [heq]
        exact .inr ⟨hpause, fun _ => hstatus⟩
      · cases hpause
  · rw [h.pauses_of_ne heq] at hpause
    exact .inr ⟨hpause, fun hsame => absurd hsame heq⟩

/-- A pause stays in force while the row stays paused. -/
theorem pauses_isSome {workflowRunId : String}
    (hpause : (before.pauses workflowRunId).isSome = true)
    (hpaused : after.Paused workflowRunId) : (after.pauses workflowRunId).isSome = true := by
  by_cases heq : workflowRunId = row.workflowRunId
  · rw [heq] at hpause hpaused ⊢
    rw [h.pauses, Function.update_self]
    split
    · rfl
    · rwa [if_pos (h.paused_iff.mp hpaused)]
  · rwa [h.pauses_of_ne heq]

end Committed

/-! The sessions and the pauses in force. -/

/-- A writer that has loaded its row saves what it decided on that row. If it
loaded the row under the pause in force, the row was paused. -/
def Session.Agrees (system : WriterSystem) : Session → Prop
  | .checked _ _ => True
  | .loaded useCase seen base next =>
    (∃ occurredAt, useCase.decide base occurredAt = .ok (some next)) ∧
      seen ≤ system.versions next.workflowRunId ∧
      ∀ pausedAt, system.pauses next.workflowRunId = some pausedAt → pausedAt ≤ seen →
        base.status = .paused

structure PausesAgree (system : WriterSystem) : Prop where
  counted : ∀ workflowRunId pausedAt, system.pauses workflowRunId = some pausedAt →
    pausedAt ≤ system.versions workflowRunId
  paused : ∀ workflowRunId, (system.pauses workflowRunId).isSome = true →
    system.Paused workflowRunId
  sessions : ∀ session state, system.sessions session = some state → state.Agrees system

/-- Nothing is under way and no pause is in force. -/
theorem pausesAgree_of_idle {start : WriterSystem} (hsessions : start.sessions = fun _ => none)
    (hpauses : start.pauses = fun _ => none) : PausesAgree start := by
  constructor
  · intro workflowRunId pausedAt h
    rw [hpauses] at h
    cases h
  · intro workflowRunId h
    rw [hpauses] at h
    cases h
  · intro session state h
    rw [hsessions] at h
    cases h

@[simp] theorem WriterSystem.setSession_self (system : WriterSystem) (session : Nat)
    (state : Option Session) : (system.setSession session state).sessions session = state := by
  simp [WriterSystem.setSession]

theorem WriterSystem.setSession_of_ne (system : WriterSystem) {session other : Nat}
    (state : Option Session) (hne : other ≠ session) :
    (system.setSession session state).sessions other = system.sessions other := by
  simp [WriterSystem.setSession, hne]

namespace PausesAgree

theorem setSession (h : PausesAgree before) (session : Nat) {state : Option Session}
    (hstate : ∀ opened, state = some opened → opened.Agrees before) :
    PausesAgree (before.setSession session state) := by
  refine ⟨h.counted, h.paused, ?_⟩
  intro other opened hopened
  have hagrees : opened.Agrees before := by
    by_cases heq : other = session
    · rw [heq, before.setSession_self] at hopened
      exact hstate opened hopened
    · rw [before.setSession_of_ne state heq] at hopened
      exact h.sessions other opened hopened
  cases opened with
  | checked useCase workflowRunId => trivial
  | loaded useCase seen base next => exact hagrees

/-- A writer that loads the row now agrees with the pauses. -/
theorem loadedSession (h : PausesAgree before) {workflowRunId : String}
    (hrow : before.saga.runs.find? workflowRunId = some row) {opened : Session}
    (hopened : loadedSession useCase (before.versions workflowRunId) row occurredAt =
      some opened) : opened.Agrees before := by
  unfold KnowledgeExtraction.loadedSession at hopened
  split at hopened
  · next next hdecide =>
    cases hopened
    have hrun : next.workflowRunId = workflowRunId :=
      (decide_workflowRunId hdecide).trans (Table.find?_eq_some_iff.mp hrow).2
    refine ⟨⟨occurredAt, hdecide⟩, ?_, ?_⟩
    · rw [hrun]
    · intro pausedAt hpause _
      rw [hrun] at hpause
      obtain ⟨found, hfound, hstatus⟩ := h.paused workflowRunId (by rw [hpause]; rfl)
      rw [hrow] at hfound
      cases hfound
      exact hstatus
  · cases hopened
  · cases hopened

theorem committed (h : PausesAgree before) (hcommit : Committed before row isPause after)
    (hstatus : isPause = true → row.status = .paused) : PausesAgree after := by
  constructor
  · intro workflowRunId pausedAt hpause
    rcases hcommit.pauses_eq_some hpause with ⟨heq, _, hnew⟩ | ⟨hold, _⟩
    · rw [heq, hcommit.versions, Function.update_self]
      omega
    · have hle := h.counted workflowRunId pausedAt hold
      exact hle.trans (hcommit.versions_le workflowRunId)
  · intro workflowRunId hpause
    obtain ⟨pausedAt, hpause⟩ := Option.isSome_iff_exists.mp hpause
    rcases hcommit.pauses_eq_some hpause with ⟨heq, hnew, _⟩ | ⟨hold, hrow⟩
    · rw [heq]
      exact hcommit.paused_iff.mpr (hstatus hnew)
    · by_cases heq : workflowRunId = row.workflowRunId
      · rw [heq]
        exact hcommit.paused_iff.mpr (hrow heq)
      · apply (hcommit.paused_of_ne heq).mpr
        apply h.paused
        rw [hold]
        rfl
  · intro session state hopened
    rw [hcommit.sessions] at hopened
    have hagrees := h.sessions session state hopened
    cases state with
    | checked useCase workflowRunId => trivial
    | loaded useCase seen base next =>
      obtain ⟨hdecide, hseen, hbase⟩ := hagrees
      refine ⟨hdecide, hseen.trans (hcommit.versions_le _), ?_⟩
      intro pausedAt hpause hle
      rcases hcommit.pauses_eq_some hpause with ⟨heq, _, hnew⟩ | ⟨hold, _⟩
      · -- the writer loaded the row before this pause was saved
        rw [heq] at hseen
        omega
      · exact hbase pausedAt hold hle

theorem commitRow (h : PausesAgree before) (hstatus : isPause = true → row.status = .paused) :
    PausesAgree (commitRow allowedPhases before row isPause) := by
  cases hviolated : row.violatedConstraint allowedPhases with
  | some constraint => rwa [commitRow_of_refused hviolated]
  | none => exact h.committed (commitRow_committed before isPause hviolated) hstatus

theorem perform (h : PausesAgree before) (event : WriterEvent) :
    PausesAgree (performWriter allowedPhases before event) := by
  cases event with
  | start session useCase workflowRunId occurredAt =>
    simp only [performWriter]
    split
    · next row hrow =>
      split
      · exact h
      · exact h.setSession session fun opened hopened => h.loadedSession hrow hopened
    · exact h
  | check session useCase workflowRunId =>
    simp only [performWriter]
    split
    · split
      · apply h.setSession session
        intro opened hopened
        cases hopened
        trivial
      · exact h
    · exact h
  | load session occurredAt =>
    simp only [performWriter]
    split
    · split
      · next row hrow =>
        exact h.setSession session fun opened hopened => h.loadedSession hrow hopened
      · exact h.setSession session fun opened hopened => by cases hopened
    · exact h
  | save session =>
    simp only [performWriter]
    split
    · next useCase seen base next hsession =>
      obtain ⟨occurredAt, hdecide⟩ := (h.sessions session _ hsession).1
      apply setSession
      · exact h.commitRow (decide_isPause hdecide)
      · exact fun opened hopened => by cases hopened
    · exact h
  | abort session => exact h.setSession session fun opened hopened => by cases hopened
  | ingest workflowRunId projectId sourceDocumentRef unitsCreated occurredAt =>
    exact h.commitRow (by simp)

end PausesAgree

/-! One event. -/

/-- The event keeps every pause in force that it does not release. -/
def StepKeepsPause (allowedPhases : List PhaseKey) (before : WriterSystem) (event : WriterEvent) :
    Prop :=
  ∀ workflowRunId, (before.pauses workflowRunId).isSome = true →
    ¬ Releases workflowRunId before event →
    (performWriter allowedPhases before event).Paused workflowRunId

/-- Whether a commit loses a pause depends on its row alone. -/
theorem committed_keeps_iff (h : PausesAgree before) (hcommit : Committed before row isPause after)
    (released : String → Prop) :
    (∀ workflowRunId, (before.pauses workflowRunId).isSome = true → ¬ released workflowRunId →
        after.Paused workflowRunId) ↔
      ((before.pauses row.workflowRunId).isSome = true → row.status ≠ .paused →
        released row.workflowRunId) := by
  constructor
  · intro hkeeps hpause hstatus
    by_contra hreleased
    exact hstatus (hcommit.paused_iff.mp (hkeeps row.workflowRunId hpause hreleased))
  · intro hrow workflowRunId hpause hreleased
    by_cases heq : workflowRunId = row.workflowRunId
    · rw [heq] at hpause hreleased ⊢
      apply hcommit.paused_iff.mpr
      by_contra hstatus
      exact hreleased (hrow hpause hstatus)
    · exact (hcommit.paused_of_ne heq).mpr (h.paused workflowRunId hpause)

/-- A saved row releases a pause when it was loaded under that pause by a writer
that may release it. -/
theorem releases_save_iff (h : PausesAgree before) {session seen pausedAt : Nat}
    {base : WorkflowRow}
    (hsession : before.sessions session = some (.loaded useCase seen base next))
    (hpause : before.pauses next.workflowRunId = some pausedAt) :
    Releases next.workflowRunId before (.save session) ↔
      pausedAt ≤ seen ∧ useCase.mayRelease = true := by
  obtain ⟨⟨occurredAt, hdecide⟩, _, hbase⟩ := h.sessions session _ hsession
  constructor
  · rintro ⟨useCase', seen', base', next', pausedAt', hsession', _, hpause', hle, hpaused, hend⟩
    rw [hsession] at hsession'
    rw [hpause] at hpause'
    cases hsession'
    cases hpause'
    exact ⟨hle, (decide_mayRelease_iff hdecide hpaused).mp hend⟩
  · rintro ⟨hle, hmay⟩
    have hpaused := hbase pausedAt hpause hle
    exact ⟨useCase, seen, base, next, pausedAt, hsession, rfl, hpause, hle, hpaused,
      (decide_mayRelease_iff hdecide hpaused).mpr hmay⟩

/-- Nothing is lost when no row is written. -/
theorem stepKeepsPause_of_saga_eq (h : PausesAgree before) {event : WriterEvent}
    (hsaga : (performWriter allowedPhases before event).saga = before.saga) :
    StepKeepsPause allowedPhases before event := by
  intro workflowRunId hpause _
  unfold WriterSystem.Paused
  rw [hsaga]
  exact h.paused workflowRunId hpause

theorem save_keeps_iff (h : PausesAgree before) (session : Nat) :
    StepKeepsPause allowedPhases before (.save session) ↔
      KeepsPause allowedPhases before (.save session) := by
  cases hsession : before.sessions session with
  | none =>
    have hsaga : (performWriter allowedPhases before (.save session)).saga = before.saga := by
      simp [performWriter, hsession]
    simp [KeepsPause, hsession, stepKeepsPause_of_saga_eq h hsaga]
  | some state =>
    cases state with
    | checked useCase workflowRunId =>
      have hsaga : (performWriter allowedPhases before (.save session)).saga = before.saga := by
        simp [performWriter, hsession]
      simp [KeepsPause, hsession, stepKeepsPause_of_saga_eq h hsaga]
    | loaded useCase seen base next =>
      simp only [KeepsPause, hsession]
      cases hviolated : next.violatedConstraint allowedPhases with
      | some constraint =>
        have hsaga : (performWriter allowedPhases before (.save session)).saga = before.saga := by
          simp [performWriter, hsession, commitRow_of_refused hviolated, WriterSystem.setSession]
        simp [stepKeepsPause_of_saga_eq h hsaga]
      | none =>
        have hcommit := commitRow_committed before useCase.isPause hviolated
        have hkeeps := committed_keeps_iff h hcommit
          fun workflowRunId => Releases workflowRunId before (.save session)
        unfold StepKeepsPause
        simp only [performWriter, hsession, forall_const]
        refine hkeeps.trans ?_
        constructor
        · intro hreleased pausedAt hpause hstatus
          apply (releases_save_iff h hsession hpause).mp
          apply hreleased _ hstatus
          rw [hpause]
          rfl
        · intro hmay hpause hstatus
          obtain ⟨pausedAt, hpause⟩ := Option.isSome_iff_exists.mp hpause
          exact (releases_save_iff h hsession hpause).mpr (hmay pausedAt hpause hstatus)

theorem ingest_keeps_iff (h : PausesAgree before)
    (workflowRunId projectId sourceDocumentRef : String) (unitsCreated : Bool)
    (occurredAt : Int) :
    StepKeepsPause allowedPhases before
        (.ingest workflowRunId projectId sourceDocumentRef unitsCreated occurredAt) ↔
      KeepsPause allowedPhases before
        (.ingest workflowRunId projectId sourceDocumentRef unitsCreated occurredAt) := by
  simp only [KeepsPause]
  cases hviolated : (ingestedRow workflowRunId projectId sourceDocumentRef unitsCreated
      occurredAt).violatedConstraint allowedPhases with
  | some constraint =>
    have hsaga : (performWriter allowedPhases before (.ingest workflowRunId projectId
        sourceDocumentRef unitsCreated occurredAt)).saga = before.saga := by
      simp [performWriter, commitRow_of_refused hviolated]
    simp [stepKeepsPause_of_saga_eq h hsaga]
  | none =>
    have hcommit := commitRow_committed before false hviolated
    have hkeeps := committed_keeps_iff h hcommit fun _ => False
    refine hkeeps.trans ?_
    simp [ingestedRow]

/-- The condition says exactly which events keep the pauses. -/
theorem stepKeepsPause_iff (h : PausesAgree before) (event : WriterEvent) :
    StepKeepsPause allowedPhases before event ↔ KeepsPause allowedPhases before event := by
  cases event with
  | save session => exact save_keeps_iff h session
  | ingest workflowRunId projectId sourceDocumentRef unitsCreated occurredAt =>
    exact ingest_keeps_iff h workflowRunId projectId sourceDocumentRef unitsCreated occurredAt
  | start session useCase workflowRunId occurredAt | check session useCase workflowRunId
  | load session occurredAt | abort session =>
    refine ⟨fun _ => trivial, fun _ => stepKeepsPause_of_saga_eq h ?_⟩
    simp only [performWriter, WriterSystem.setSession]
    repeat' split
    all_goals rfl

/-- A pause stays in force while its workflow stays paused. -/
theorem pauses_performWriter {workflowRunId : String} {event : WriterEvent}
    (hpause : (before.pauses workflowRunId).isSome = true)
    (hpaused : (performWriter allowedPhases before event).Paused workflowRunId) :
    ((performWriter allowedPhases before event).pauses workflowRunId).isSome = true := by
  have hcommit : ∀ row isPause, (commitRow allowedPhases before row isPause).Paused workflowRunId →
      ((commitRow allowedPhases before row isPause).pauses workflowRunId).isSome = true := by
    intro row isPause hafter
    cases hviolated : row.violatedConstraint allowedPhases with
    | some constraint => rwa [commitRow_of_refused hviolated]
    | none => exact (commitRow_committed before isPause hviolated).pauses_isSome hpause hafter
  cases event with
  | save session =>
    simp only [performWriter] at hpaused ⊢
    split
    · next useCase seen base next hsession =>
      simp only [hsession] at hpaused
      exact hcommit next useCase.isPause hpaused
    · exact hpause
  | ingest workflowRunId projectId sourceDocumentRef unitsCreated occurredAt =>
    exact hcommit _ false hpaused
  | start session useCase workflowRunId occurredAt | check session useCase workflowRunId
  | load session occurredAt | abort session =>
    simp only [performWriter, WriterSystem.setSession]
    repeat' split
    all_goals exact hpause

/-! The runs. -/

theorem paused_of_everyStep {later : List WriterEvent} {reached : WriterSystem}
    {workflowRunId : String} (hagree : PausesAgree reached)
    (hkeeps : EveryStep (performWriter allowedPhases) (StepKeepsPause allowedPhases) reached later)
    (hunreleased : EveryStep (performWriter allowedPhases)
      (fun before event => ¬ Releases workflowRunId before event) reached later)
    (hpause : (reached.pauses workflowRunId).isSome = true) :
    (later.foldl (performWriter allowedPhases) reached).Paused workflowRunId := by
  induction later generalizing reached with
  | nil => exact hagree.paused workflowRunId hpause
  | cons event rest ih =>
    have hpaused := hkeeps.1 workflowRunId hpause hunreleased.1
    exact ih (hagree.perform event) hkeeps.2 hunreleased.2 (pauses_performWriter hpause hpaused)

/-- A run loses no pause exactly when none of its events does. -/
theorem pauseNotLost_iff_everyStep {start : WriterSystem} {events : List WriterEvent}
    (hagree : PausesAgree start) :
    PauseNotLost allowedPhases start events ↔
      EveryStep (performWriter allowedPhases) (StepKeepsPause allowedPhases) start events := by
  constructor
  · intro hkept
    apply everyStep_of_forall
    intro earlier event rest heq workflowRunId hpause hunreleased
    exact hkept earlier [event] rest (by simp [heq]) workflowRunId hpause ⟨hunreleased, trivial⟩
  · intro hkeeps earlier later rest heq reached workflowRunId hpause hunreleased
    rw [heq, everyStep_append, everyStep_append] at hkeeps
    have hreached : PausesAgree reached :=
      hkeeps.1.1.invariant (fun _ event hbefore _ => hbefore.perform event) hagree
    exact paused_of_everyStep hreached hkeeps.1.2 hunreleased hpause

/-- From a start without writers and without pauses, the manual pauses are kept
in exactly the runs that meet the condition. -/
theorem pauseNotLost_iff (allowedPhases : List PhaseKey) (start : WriterSystem)
    (events : List WriterEvent) (hsessions : start.sessions = fun _ => none)
    (hpauses : start.pauses = fun _ => none) :
    PauseNotLost allowedPhases start events ↔
      EveryStep (performWriter allowedPhases) (KeepsPause allowedPhases) start events := by
  have hagree : PausesAgree start := pausesAgree_of_idle hsessions hpauses
  rw [pauseNotLost_iff_everyStep hagree]
  have hperform : ∀ before event, PausesAgree before →
      PausesAgree (performWriter allowedPhases before event) :=
    fun _ event hbefore => hbefore.perform event
  constructor
  · intro hkeeps
    apply hkeeps.of_invariant _ _ hagree
    · exact fun before event hbefore _ => hperform before event hbefore
    · exact fun before event hbefore hstep => (stepKeepsPause_iff hbefore event).mp hstep
  · intro hkeeps
    apply hkeeps.of_invariant _ _ hagree
    · exact fun before event hbefore _ => hperform before event hbefore
    · exact fun before event hbefore hstep => (stepKeepsPause_iff hbefore event).mpr hstep

/-- One running workflow. -/
def sampleWriters : WriterSystem where
  saga := (sampleWorld acceptedRow).saga
  versions := fun _ => 1
  pauses := fun _ => none
  sessions := fun _ => none

def pauseEvents (session : Nat) (occurredAt : Int) : List WriterEvent :=
  [.start session (.pause sampleProject "manual_pause") "knowledge-extraction:doc" occurredAt,
    .save session]

def resumeEvents (session : Nat) (occurredAt : Int) : List WriterEvent :=
  [.start session (.resume sampleProject) "knowledge-extraction:doc" occurredAt, .save session]

/-- A pause and a resume, one after the other. -/
theorem pauseAndResume_pauseNotLost :
    PauseNotLost migratedPhases sampleWriters (pauseEvents 0 3 ++ resumeEvents 1 4) := by
  apply (pauseNotLost_iff migratedPhases sampleWriters _ rfl rfl).mpr
  refine ⟨trivial, ?_, trivial, ?_, trivial⟩
  · intro pausedAt hpause
    cases hpause
  · intro pausedAt hpause _ _
    cases hpause
    exact ⟨Nat.le_refl 2, rfl⟩

/-- The drain has checked a running workflow and its handler has loaded it before
the pause is saved. -/
def latePauseRun : List WriterEvent :=
  [.check 0 .openWorkspace "knowledge-extraction:doc", .load 0 3] ++ pauseEvents 1 4 ++ [.save 0]

theorem latePauseRun_not_pauseNotLost :
    ¬ PauseNotLost migratedPhases sampleWriters latePauseRun := by
  intro h
  have hunreleased : EveryStep (performWriter migratedPhases)
      (fun before event => ¬ Releases "knowledge-extraction:doc" before event)
      ((latePauseRun.take 4).foldl (performWriter migratedPhases) sampleWriters) [.save 0] := by
    refine ⟨?_, trivial⟩
    rintro ⟨useCase, seen, base, next, pausedAt, hsession, _, hpause, hle, _⟩
    cases hsession
    cases hpause
    -- the row was loaded at the first save, the pause is the second one
    have hlater : ¬ 2 ≤ 1 := by omega
    exact hlater hle
  obtain ⟨row, hrow, hstatus⟩ := h (latePauseRun.take 4) [.save 0] [] rfl
    "knowledge-extraction:doc" rfl hunreleased
  cases hrow
  cases hstatus

end CrmBot.KnowledgeExtraction
