import CrmBot.ManagerDesk.DeskState

/-! A ticket is in the hands of a manager or of the assistant, never of both.

A claim writes the row before the session, and a close deletes the session before it writes the
row. So an attempt that stops halfway leaves no session on a thread that is not in manual
mode. -/

namespace CrmBot.ManagerDesk

open Relational Runs

variable {ThreadId ClientId UserId ChatId : Type} [DecidableEq ThreadId] [DecidableEq ClientId]
  [DecidableEq ChatId] {desk : Desk ThreadId ClientId UserId ChatId}
  {row : ThreadRow ThreadId ClientId UserId ChatId} {thread : ThreadId}

/-! Rows. -/

omit [DecidableEq ClientId] in
theorem mem_updateThread {update : ThreadUpdate UserId ChatId} :
    row ∈ ((DeskOp.updateThread thread update).apply desk).threads.rows ↔
      ∃ old ∈ desk.threads.rows,
        (if old.id = thread then update.apply desk.now old else old) = row := by
  refine Iff.trans (@Table.mem_updateWhere _ _ _ _ _ _ (id_apply update desk.now) _) ?_
  simp only [decide_eq_true_eq]

omit [DecidableEq ClientId] in
theorem mem_updateThread_of_mem (update : ThreadUpdate UserId ChatId)
    (hrow : row ∈ desk.threads.rows) :
    update.apply desk.now row ∈
      ((DeskOp.updateThread row.id update).apply desk).threads.rows :=
  mem_updateThread.mpr ⟨row, hrow, if_pos rfl⟩

/-! Custody. -/

/-- The thread is in the hands of a manager. -/
def IsManual (desk : Desk ThreadId ClientId UserId ChatId) (thread : ThreadId) : Prop :=
  ∃ row ∈ desk.threads.rows, row.id = thread ∧ row.status = .manual

/-- A thread in manual mode has a manager, and a session belongs to such a thread, or to one
that was archived. -/
structure Custody (desk : Desk ThreadId ClientId UserId ChatId) : Prop where
  manager : ∀ row ∈ desk.threads.rows, row.status = .manual → row.managerUserId.isSome
  session : ∀ thread, (desk.sessions thread).isSome → ∃ row ∈ desk.threads.rows,
    row.id = thread ∧ (row.status = .manual ∨ row.status = .archived)

/-- What an update of a row has to meet while a session may be live. -/
def ThreadUpdate.FitsSession (desk : Desk ThreadId ClientId UserId ChatId) (thread : ThreadId) :
    ThreadUpdate UserId ChatId → Prop
  | .setStatus status =>
    status ≠ .manual ∧ (status ≠ .archived → desk.sessions thread = none)
  | .close => desk.sessions thread = none
  | .claim _ _ | .touch => True

/-- What a write has to meet so that it leaves the custody in order. -/
def DeskOp.KeepsCustody (desk : Desk ThreadId ClientId UserId ChatId) :
    DeskOp ThreadId ClientId UserId ChatId → Prop
  | .updateThread thread update => update.FitsSession desk thread
  | .setSession thread _ _ => IsManual desk thread
  | _ => True

omit [DecidableEq ThreadId] [DecidableEq ClientId] [DecidableEq ChatId] in
/-- An update names a manager whenever it leaves a thread in manual mode. -/
theorem ThreadUpdate.FitsSession.manager {update : ThreadUpdate UserId ChatId}
    (hfits : update.FitsSession desk thread)
    (hrow : row.status = .manual → row.managerUserId.isSome)
    (hmanual : (update.apply desk.now row).status = .manual) :
    (update.apply desk.now row).managerUserId.isSome := by
  cases update with
  | setStatus status => exact absurd hmanual hfits.1
  | claim user chat => rfl
  | close => cases hmanual
  | touch => exact hrow hmanual

omit [DecidableEq ThreadId] [DecidableEq ClientId] [DecidableEq ChatId] in
theorem ThreadUpdate.FitsSession.status {update : ThreadUpdate UserId ChatId}
    (hfits : update.FitsSession desk thread) (hsession : (desk.sessions thread).isSome)
    (hrow : row.status = .manual ∨ row.status = .archived) :
    (update.apply desk.now row).status = .manual ∨
      (update.apply desk.now row).status = .archived := by
  have hlive : desk.sessions thread ≠ none := Option.isSome_iff_ne_none.mp hsession
  cases update with
  | setStatus status => exact .inr (not_not.mp fun hne => hlive (hfits.2 hne))
  | claim user chat => exact .inl rfl
  | close => exact absurd hfits hlive
  | touch => exact hrow

omit [DecidableEq ClientId] in
theorem Custody.updateThread (h : Custody desk) {update : ThreadUpdate UserId ChatId}
    (hfits : update.FitsSession desk thread) :
    Custody ((DeskOp.updateThread thread update).apply desk) := by
  constructor
  · intro row hrow hmanual
    obtain ⟨old, hold, rfl⟩ := mem_updateThread.mp hrow
    split_ifs at hmanual ⊢
    · exact hfits.manager (h.manager old hold) hmanual
    · exact h.manager old hold hmanual
  · intro value hvalue
    obtain ⟨old, hold, hid, hstatus⟩ := h.session value hvalue
    refine ⟨_, mem_updateThread.mpr ⟨old, hold, rfl⟩, ?_⟩
    split_ifs with hthread
    · refine ⟨(id_apply update desk.now old).trans hid, ?_⟩
      rw [← hid, hthread] at hvalue
      exact hfits.status hvalue hstatus
    · exact ⟨hid, hstatus⟩

omit [DecidableEq ClientId] in
/-- A write that meets its condition leaves the custody in order. -/
theorem Custody.apply (h : Custody desk) {op : DeskOp ThreadId ClientId UserId ChatId}
    (hop : op.KeepsCustody desk) : Custody (op.apply desk) := by
  cases op with
  | createThread thread client =>
    constructor
    · intro row hrow hmanual
      rcases Table.mem_insertOrIgnore.mp hrow with hold | ⟨_, rfl⟩
      · exact h.manager row hold hmanual
      · cases hmanual
    · intro value hvalue
      obtain ⟨row, hrow, hstatus⟩ := h.session value hvalue
      exact ⟨row, Table.mem_insertOrIgnore.mpr (.inl hrow), hstatus⟩
  | updateThread thread update => exact h.updateThread hop
  | setSession thread session seconds =>
    refine ⟨h.manager, fun value hvalue => ?_⟩
    by_cases heq : value = thread
    · obtain ⟨row, hrow, hid, hmanual⟩ := hop
      exact ⟨row, hrow, hid.trans heq.symm, .inl hmanual⟩
    · simp only [DeskOp.apply, Function.update_of_ne heq] at hvalue
      exact h.session value hvalue
  | deleteSession thread =>
    refine ⟨h.manager, fun value hvalue => ?_⟩
    by_cases heq : value = thread
    · simp [DeskOp.apply, heq] at hvalue
    · simp only [DeskOp.apply, Function.update_of_ne heq] at hvalue
      exact h.session value hvalue
  | setReplyThread chat thread seconds => exact ⟨h.manager, h.session⟩
  | deleteReplyThread chat => exact ⟨h.manager, h.session⟩
  | emit effect => exact h
  | wait seconds =>
    refine ⟨h.manager, fun value hvalue => h.session value ?_⟩
    obtain ⟨cached, hcached⟩ := Option.isSome_iff_exists.mp hvalue
    obtain ⟨earlier, hearlier, _⟩ := Option.bind_eq_some_iff.mp hcached
    exact Option.isSome_iff_exists.mpr ⟨earlier, hearlier⟩

/-- Every write of a list meets its condition, each at the desk that it finds. -/
abbrev KeepCustody (desk : Desk ThreadId ClientId UserId ChatId)
    (ops : List (DeskOp ThreadId ClientId UserId ChatId)) : Prop :=
  EveryStep DeskOp.apply DeskOp.KeepsCustody desk ops

/-! The commands of the managers. -/

omit [DecidableEq ClientId] in
theorem isManual_claim {user : UserId} {chat : Option ChatId} (h : thread ∈ desk.threads.keys) :
    IsManual ((DeskOp.updateThread thread (.claim user chat)).apply desk) thread := by
  obtain ⟨row, hrow, rfl⟩ := Table.mem_keys.mp h
  exact ⟨_, mem_updateThread_of_mem _ hrow, rfl, rfl⟩

omit [DecidableEq ClientId] [DecidableEq ChatId] in
theorem mem_of_manualThread (h : manualThread desk thread = some row) :
    row ∈ desk.threads.rows ∧ row.id = thread ∧ row.status = .manual := by
  obtain ⟨hfind, hmanual⟩ := Option.filter_eq_some_iff.mp h
  obtain ⟨hrow, hid⟩ := Table.find?_eq_some_iff.mp hfind
  exact ⟨hrow, hid, of_decide_eq_true hmanual⟩

omit [DecidableEq ClientId] in
theorem keepCustody_claimThreadForManager {user : UserId} {chat : Option ChatId}
    {session : ManagerReplySession UserId ChatId} {seconds : Option ℕ}
    {later : List (DeskOp ThreadId ClientId UserId ChatId)}
    (hlater : ∀ op ∈ later, ∃ chat thread seconds, op = .setReplyThread chat thread seconds) :
    KeepCustody desk (claimThreadForManager desk thread user chat
      (.setSession thread session seconds :: later)) := by
  refine ⟨trivial, ?_⟩
  split_ifs with hmem
  · refine ⟨isManual_claim hmem, everyStep_of_forall ?_⟩
    intro earlier op rest hsplit
    obtain ⟨_, _, _, rfl⟩ := hlater op (hsplit ▸ List.mem_append_right _ List.mem_cons_self)
    exact trivial
  · exact trivial

omit [DecidableEq ClientId] in
theorem keepCustody_managerReply {session : ManagerReplySession UserId ChatId}
    {seconds : Option ℕ} {name text : String}
    {later : List (DeskOp ThreadId ClientId UserId ChatId)}
    (hmanual : manualThread desk thread = some row)
    (hlater : later = [] ∨ ∃ chat seconds, later = [.setReplyThread chat thread seconds]) :
    KeepCustody desk
      (managerReply row name text ++ .setSession thread session seconds :: later) := by
  obtain ⟨hrow, rfl, hstatus⟩ := mem_of_manualThread hmanual
  refine ⟨trivial, trivial, trivial, ⟨_, mem_updateThread_of_mem .touch hrow, rfl, hstatus⟩, ?_⟩
  rcases hlater with rfl | ⟨chat, seconds, rfl⟩
  · exact trivial
  · exact ⟨trivial, trivial⟩

variable [DecidableEq UserId] (desk)

omit [DecidableEq ClientId] [DecidableEq UserId] in
theorem keepCustody_claimThread (chat : ChatId) (user : Option UserId) :
    KeepCustody desk (claimThread desk thread chat user) := by
  cases user with
  | none => exact trivial
  | some user =>
    apply keepCustody_claimThreadForManager
    intro op hop
    exact ⟨chat, thread, none, List.mem_singleton.mp hop⟩

omit [DecidableEq ClientId] [DecidableEq UserId] in
theorem keepCustody_closeThread (chat : ChatId) (user : Option UserId) :
    KeepCustody desk (closeThread thread chat user) := by
  cases user with
  | none => exact trivial
  | some user => exact ⟨trivial, trivial, Function.update_self .., trivial⟩

omit [DecidableEq ClientId] [DecidableEq UserId] in
theorem keepCustody_replyFromManager (chat : ChatId) (user : Option UserId)
    (name text : String) : KeepCustody desk (replyFromManager desk chat user name text) := by
  unfold replyFromManager
  split
  · exact trivial
  · exact trivial
  · rename_i user thread _
    split
    · exact ⟨trivial, trivial, trivial⟩
    · rename_i row hmanual
      exact keepCustody_managerReply hmanual (.inr ⟨chat, _, rfl⟩)

omit [DecidableEq ClientId] in
theorem keepCustody_claimTicket (user : UserId) :
    KeepCustody desk (claimTicket desk thread user) := by
  unfold claimTicket
  split
  · exact trivial
  · split_ifs
    · exact trivial
    · exact trivial
    · exact keepCustody_claimThreadForManager (List.forall_mem_nil _)

omit [DecidableEq ClientId] [DecidableEq UserId] in
theorem keepCustody_closeTicket : KeepCustody desk (closeTicket desk thread) := by
  unfold closeTicket
  split
  · exact trivial
  · split_ifs
    · exact trivial
    · split
      · exact ⟨trivial, trivial, Function.update_self .., trivial⟩
      · exact ⟨trivial, Function.update_self .., trivial⟩

omit [DecidableEq ClientId] [DecidableEq UserId] in
theorem keepCustody_replyToThread (user : UserId) (name text : String) :
    KeepCustody desk (replyToThread desk thread user name text) := by
  unfold replyToThread
  split
  · exact trivial
  · rename_i row hmanual
    exact keepCustody_managerReply hmanual (.inl rfl)

/-! A message of the client. -/

section Message

variable {desk} {client : ClientId} {fresh : ThreadId}
  {created : List (DeskOp ThreadId ClientId UserId ChatId)}

omit [DecidableEq ChatId] [DecidableEq UserId] in
/-- The row that a message meets: an open one, or a new one. -/
theorem getOrCreateThread_eq_some (h : getOrCreateThread desk client fresh = some (created, row)) :
    created = [] ∧ row ∈ desk.threads.rows ∧ row.status ≠ .archived ∨
      created = [.createThread fresh client] ∧ row = newThread desk.now fresh client ∧
        fresh ∉ desk.threads.keys := by
  unfold getOrCreateThread at h
  split at h
  · rename_i found hfound
    obtain ⟨rfl, rfl⟩ := Prod.mk.injEq .. ▸ Option.some.inj h
    obtain ⟨hactive, _⟩ := Option.filter_eq_some_iff.mp hfound
    obtain ⟨hmem, hopen⟩ := Table.mem_select.mp (List.mem_of_mem_head? hactive)
    simp only [Bool.and_eq_true, decide_eq_true_eq] at hopen
    exact .inl ⟨rfl, hmem, hopen.2⟩
  · split_ifs at h with hfresh
    obtain ⟨rfl, rfl⟩ := Prod.mk.injEq .. ▸ Option.some.inj h
    exact .inr ⟨rfl, rfl, hfresh⟩

omit [DecidableEq ChatId] [DecidableEq UserId] in
/-- A session on the thread of a message belongs to a thread in manual mode. -/
theorem Custody.manual_of_session (h : Custody desk)
    (hrow : getOrCreateThread desk client fresh = some (created, row))
    (hsession : (desk.sessions row.id).isSome) : row.status = .manual := by
  obtain ⟨held, hheld, hid, hstatus⟩ := h.session row.id hsession
  rcases getOrCreateThread_eq_some hrow with ⟨_, hmem, hopen⟩ | ⟨_, rfl, hfresh⟩
  · obtain rfl := desk.threads.eq_of_key_eq hheld hmem hid
    exact hstatus.resolve_right hopen
  · exact absurd (Table.mem_keys.mpr ⟨held, hheld, hid⟩) hfresh

omit [DecidableEq ChatId] [DecidableEq UserId] in
theorem Custody.manager_of_manual (h : Custody desk)
    (hrow : getOrCreateThread desk client fresh = some (created, row))
    (hmanual : row.status = .manual) : row.managerUserId.isSome := by
  rcases getOrCreateThread_eq_some hrow with ⟨_, hmem, _⟩ | ⟨_, rfl, _⟩
  · exact h.manager row hmem hmanual
  · cases hmanual

variable (desk row)

/-- Who answers on a thread: the session in Redis, or else the manager of the row. -/
def ticketHolder : Option (ManagerReplySession UserId ChatId) :=
  (desk.sessions row.id).map Cached.value <|> manualTicketFallbackSession row

/-- The notification of the holder, if he is reached by Telegram. -/
def notification (text : String) : List (DeskEffect ThreadId ClientId UserId ChatId) :=
  ((ticketHolder desk row).bind fun session =>
    session.managerChatId.map fun chat =>
      .notifyManager row.id text chat session.managerUserId).toList

variable {desk row}

omit [DecidableEq ThreadId] [DecidableEq ClientId] [DecidableEq ChatId] [DecidableEq UserId] in
theorem ticketHolder_eq_none (hsession : (desk.sessions row.id).isSome → row.status = .manual)
    (h : row.status ≠ .manual) : desk.sessions row.id = none ∧ ticketHolder desk row = none := by
  have hnone : desk.sessions row.id = none :=
    Option.not_isSome_iff_eq_none.mp fun hlive => h (hsession hlive)
  refine ⟨hnone, ?_⟩
  rw [ticketHolder, hnone, manualTicketFallbackSession, if_pos h]
  rfl

omit [DecidableEq ThreadId] [DecidableEq ClientId] [DecidableEq ChatId] [DecidableEq UserId] in
theorem ticketHolder_isSome (hmanager : row.managerUserId.isSome)
    (h : row.status = .manual) : (ticketHolder desk row).isSome := by
  rw [ticketHolder, manualTicketFallbackSession, if_neg (not_not.mpr h)]
  cases desk.sessions row.id with
  | none => simpa using hmanager
  | some cached => rfl

omit [DecidableEq ThreadId] [DecidableEq ClientId] [DecidableEq ChatId] [DecidableEq UserId] in
/-- In custody no session is stale, and no message is recorded before it goes to the graph. -/
theorem tryRedirectToManager_eq {text : String}
    (hsession : (desk.sessions row.id).isSome → row.status = .manual)
    (hmanager : row.status = .manual → row.managerUserId.isSome) :
    tryRedirectToManager desk row text =
      if row.status = .manual then
        (recordUserMessage row.id text ++ (notification desk row text).map .emit, true)
      else ([], false) := by
  split_ifs with hmanual
  · obtain ⟨session, hholder⟩ :=
      Option.isSome_iff_exists.mp
        (ticketHolder_isSome (hmanager hmanual) hmanual : (ticketHolder desk row).isSome)
    have hsession : ((desk.sessions row.id).map Cached.value <|>
        manualTicketFallbackSession row) = some session := hholder
    cases hchat : session.managerChatId <;>
      simp [tryRedirectToManager, notification, hmanual, hholder, hsession, hchat]
  · obtain ⟨hnone, _⟩ := ticketHolder_eq_none hsession hmanual
    simp [tryRedirectToManager, hnone, manualTicketFallbackSession, hmanual]

/-- The writes of a turn: what is said, and the status or the time of a row. -/
def DeskOp.IsTurn (thread : ThreadId) : DeskOp ThreadId ClientId UserId ChatId → Prop
  | .emit _ | .updateThread _ .touch => True
  | .updateThread other (.setStatus status) => other = thread ∧ status = .waitingManager
  | _ => False

omit [DecidableEq ClientId] [DecidableEq UserId] in
theorem keepCustody_turn {ops : List (DeskOp ThreadId ClientId UserId ChatId)}
    (hops : ∀ op ∈ ops, op.IsTurn thread) (hnone : desk.sessions thread = none) :
    KeepCustody desk ops := by
  induction ops generalizing desk with
  | nil => exact trivial
  | cons op rest ih =>
    obtain ⟨hop, hrest⟩ := List.forall_mem_cons.mp hops
    cases op with
    | emit effect => exact ⟨trivial, ih hrest hnone⟩
    | updateThread other update =>
      refine ⟨?_, ih hrest hnone⟩
      cases update with
      | setStatus status =>
        obtain ⟨rfl, rfl⟩ := hop
        exact ⟨by simp, fun _ => hnone⟩
      | touch => exact trivial
      | _ => exact hop.elim
    | _ => exact hop.elim

omit [DecidableEq ThreadId] [DecidableEq ClientId] [DecidableEq ChatId] [DecidableEq UserId] in
theorem isTurn_processQuestions {text : String} {escalations : ℕ → Option Escalation}
    {op : DeskOp ThreadId ClientId UserId ChatId}
    (hop : op ∈ processQuestions thread text escalations) : op.IsTurn thread := by
  obtain ⟨⟨question, position⟩, _, hop⟩ := List.mem_flatMap.mp hop
  simp only [processSingleQuestion, List.mem_cons, List.mem_append, List.mem_ite_nil_right,
    List.not_mem_nil, or_false] at hop
  rcases hop with rfl | (⟨_, rfl⟩ | ⟨_, rfl⟩) | rfl
  · exact trivial
  · exact ⟨rfl, rfl⟩
  · exact trivial
  · exact trivial

omit [DecidableEq ClientId] [DecidableEq UserId] in
theorem keepCustody_recordUserMessage {text : String}
    {effects : List (DeskEffect ThreadId ClientId UserId ChatId)} :
    KeepCustody desk (recordUserMessage thread text ++ effects.map .emit) := by
  refine ⟨trivial, trivial, everyStep_of_forall ?_⟩
  intro earlier op rest hsplit
  obtain ⟨effect, _, rfl⟩ := List.mem_map.mp (hsplit ▸ List.mem_append_right _ List.mem_cons_self)
  exact trivial

omit [DecidableEq ChatId] [DecidableEq UserId] in
/-- What a message does once its row is known. -/
theorem Custody.processWithThreadSlot_eq (h : Custody desk)
    (hrow : getOrCreateThread desk client fresh = some (created, row)) (text : String)
    (escalations : ℕ → Option Escalation) :
    processWithThreadSlot desk row text escalations =
      recordUserMessage row.id text ++
        if row.status = .manual then
          (notification desk row text ++
            [DeskEffect.returned row.clientId managerHandoffText]).map DeskOp.emit
        else processQuestions row.id text escalations := by
  have hredirect : tryRedirectToManager desk row text = _ :=
    tryRedirectToManager_eq (h.manual_of_session hrow) (h.manager_of_manual hrow)
  by_cases hmanual : row.status = .manual
  · simp [processWithThreadSlot, hredirect, hmanual]
  · simp [processWithThreadSlot, hredirect, hmanual]

omit [DecidableEq UserId] in
theorem Custody.keepCustody_message (h : Custody desk) (text : String)
    (refusal : Option Refusal) (escalations : ℕ → Option Escalation) :
    KeepCustody desk (processMessage desk client text fresh refusal escalations) := by
  unfold processMessage
  split
  · exact trivial
  · rename_i created row hrow
    have hcreated : KeepCustody desk created ∧
        (created.foldl DeskOp.apply desk).sessions = desk.sessions := by
      rcases getOrCreateThread_eq_some hrow with ⟨rfl, _⟩ | ⟨rfl, _⟩
      · exact ⟨trivial, rfl⟩
      · exact ⟨⟨trivial, trivial⟩, rfl⟩
    refine everyStep_append.mpr ⟨hcreated.1, ?_⟩
    cases refusal with
    | some refusal => exact ⟨trivial, trivial⟩
    | none =>
      dsimp only
      rw [h.processWithThreadSlot_eq hrow]
      split_ifs with hmanual
      · exact keepCustody_recordUserMessage
      · have hnone : (created.foldl DeskOp.apply desk).sessions row.id = none := by
          rw [hcreated.2]
          exact (ticketHolder_eq_none (h.manual_of_session hrow) hmanual).1
        refine keepCustody_turn ?_ hnone
        intro op hop
        rcases List.mem_append.mp hop with hop | hop
        · simp [recordUserMessage] at hop
          rcases hop with rfl | rfl <;> exact trivial
        · exact isTurn_processQuestions hop

omit [DecidableEq ThreadId] [DecidableEq ClientId] [DecidableEq ChatId] [DecidableEq UserId] in
@[simp] theorem filterMap_effect?_map_emit
    (effects : List (DeskEffect ThreadId ClientId UserId ChatId)) :
    (effects.map DeskOp.emit).filterMap DeskOp.effect? = effects :=
  (List.filterMap_map ..).trans List.filterMap_some

omit [DecidableEq ThreadId] [DecidableEq ClientId] [DecidableEq ChatId] [DecidableEq UserId] in
@[simp] theorem filterMap_effect?_recordUserMessage (text : String) :
    (recordUserMessage thread text :
      List (DeskOp ThreadId ClientId UserId ChatId)).filterMap DeskOp.effect? =
        [.userMessage thread text] := rfl

/-- What is seen of a turn of the assistant: the turn, and the notice of all managers if it
hands the dialog over. -/
def turnEffects (thread : ThreadId) (question : String) (escalation : Option Escalation) :
    List (DeskEffect ThreadId ClientId UserId ChatId) :=
  .assistantTurn thread question ::
    if escalation.any Escalation.notifies then [.notifyManagers thread question] else []

omit [DecidableEq ThreadId] [DecidableEq ClientId] [DecidableEq ChatId] [DecidableEq UserId] in
/-- The graph takes the questions one after the other, and each of them once. -/
theorem effects_processQuestions (text : String) (escalations : ℕ → Option Escalation) :
    (processQuestions thread text escalations :
      List (DeskOp ThreadId ClientId UserId ChatId)).filterMap DeskOp.effect? =
      (questions text).zipIdx.flatMap fun turn =>
        turnEffects thread turn.1 (escalations turn.2) := by
  rw [processQuestions, List.filterMap_flatMap]
  refine List.flatMap_congr fun turn _ => ?_
  dsimp only [processSingleQuestion, turnEffects]
  cases (escalations turn.2).any Escalation.waits <;>
    cases (escalations turn.2).any Escalation.notifies <;> rfl

omit [DecidableEq ChatId] [DecidableEq UserId] in
/-- A refused message is answered with the refusal. -/
theorem effects_refused
    (hrow : getOrCreateThread desk client fresh = some (created, row)) (text : String)
    (refusal : Refusal) (escalations : ℕ → Option Escalation) :
    (processMessage desk client text fresh (some refusal) escalations).filterMap DeskOp.effect? =
      [.returned row.clientId refusal.text] := by
  rw [processMessage, hrow]
  rcases getOrCreateThread_eq_some hrow with ⟨rfl, _⟩ | ⟨rfl, _⟩ <;> rfl

omit [DecidableEq ChatId] [DecidableEq UserId] in
/-- A message that is let through is recorded once, and goes to the holder of the ticket or to
the graph. -/
theorem Custody.effects_message (h : Custody desk)
    (hrow : getOrCreateThread desk client fresh = some (created, row)) (text : String)
    (escalations : ℕ → Option Escalation) :
    (processMessage desk client text fresh none escalations).filterMap DeskOp.effect? =
      .userMessage row.id text ::
        if row.status = .manual then
          notification desk row text ++ [.returned row.clientId managerHandoffText]
        else (questions text).zipIdx.flatMap fun turn =>
          turnEffects row.id turn.1 (escalations turn.2) := by
  have hcreated : created.filterMap DeskOp.effect? = [] := by
    rcases getOrCreateThread_eq_some hrow with ⟨rfl, _⟩ | ⟨rfl, _⟩ <;> rfl
  rw [processMessage, hrow]
  dsimp only
  rw [h.processWithThreadSlot_eq hrow, List.filterMap_append, List.filterMap_append, hcreated,
    filterMap_effect?_recordUserMessage]
  split_ifs with hmanual
  · rw [filterMap_effect?_map_emit]
    rfl
  · rw [effects_processQuestions]
    rfl

/-! Runs. -/

theorem Custody.keepCustody_ops (h : Custody desk)
    (command : DeskCommand ThreadId ClientId UserId ChatId) :
    KeepCustody desk (command.ops desk) := by
  cases command with
  | message client text fresh refusal escalations =>
    exact h.keepCustody_message text refusal escalations
  | claimThread thread chat user => exact keepCustody_claimThread desk chat user
  | closeThread thread chat user => exact keepCustody_closeThread desk chat user
  | replyFromManager chat user name text =>
    exact keepCustody_replyFromManager desk chat user name text
  | claimTicket thread user => exact keepCustody_claimTicket desk user
  | closeTicket thread => exact keepCustody_closeTicket desk
  | replyToThread thread user name text => exact keepCustody_replyToThread desk user name text
  | archiveThread thread => exact ⟨⟨by simp, fun hne => absurd rfl hne⟩, trivial⟩
  | wait seconds => exact ⟨trivial, trivial⟩

/-- An attempt leaves the custody in order wherever it stops. -/
theorem Custody.perform (h : Custody desk) (attempt : Attempt ThreadId ClientId UserId ChatId) :
    Custody (perform desk attempt) := by
  have hops := h.keepCustody_ops attempt.command
  rw [← List.take_append_drop attempt.completed (attempt.command.ops desk)] at hops
  exact (everyStep_append.mp hops).1.invariant (fun _ _ hkeeps hop => hkeeps.apply hop) h

theorem custody_run (now : ℕ) (attempts : List (Attempt ThreadId ClientId UserId ChatId)) :
    Custody (attempts.foldl ManagerDesk.perform (emptyDesk now)) := by
  induction attempts using List.reverseRecOn with
  | nil =>
    refine ⟨List.forall_mem_nil _, ?_⟩
    intro thread hthread
    cases hthread
  | append_singleton attempts attempt ih =>
    rw [List.foldl_append]
    exact ih.perform attempt

end Message

/-- After any run of attempts, a message that the guards refuse is answered with the refusal and
not recorded. One that they let through is recorded once. On a thread in manual mode it goes to the
holder of the ticket, who exists, and the client gets the handoff text. On every other thread the
assistant takes each of its questions. -/
theorem message_outcome (now : ℕ) (attempts : List (Attempt ThreadId ClientId UserId ChatId))
    (client : ClientId) (text : String) (fresh : ThreadId)
    (escalations : ℕ → Option Escalation)
    {created : List (DeskOp ThreadId ClientId UserId ChatId)}
    {row : ThreadRow ThreadId ClientId UserId ChatId}
    (hrow : getOrCreateThread (attempts.foldl perform (emptyDesk now)) client fresh =
      some (created, row)) :
    let desk := attempts.foldl perform (emptyDesk now)
    ((ticketHolder desk row).isSome ↔ row.status = .manual) ∧
      (∀ refusal,
        (processMessage desk client text fresh (some refusal) escalations).filterMap
          DeskOp.effect? = [.returned row.clientId refusal.text]) ∧
      (processMessage desk client text fresh none escalations).filterMap DeskOp.effect? =
        .userMessage row.id text ::
          if row.status = .manual then
            notification desk row text ++ [.returned row.clientId managerHandoffText]
          else (questions text).zipIdx.flatMap fun turn =>
            turnEffects row.id turn.1 (escalations turn.2) := by
  intro desk
  have h : Custody desk := custody_run now attempts
  refine ⟨⟨fun hholder => ?_, fun hmanual => ?_⟩,
    fun refusal => effects_refused hrow text refusal escalations,
    h.effects_message hrow text escalations⟩
  · by_contra hmanual
    rw [(ticketHolder_eq_none (h.manual_of_session hrow) hmanual).2] at hholder
    cases hholder
  · exact ticketHolder_isSome (h.manager_of_manual hrow hmanual) hmanual

/-- A message that stops once its thread is there, and a claim that stops before its session. -/
def cutClaim : List (Attempt ℕ ℕ ℕ ℕ) :=
  [⟨.message 7 "Hello" 1 none fun _ => none, 1⟩, ⟨.claimThread 1 50 (some 3), 1⟩]

/-- The next message goes to the manager of the row. -/
theorem message_outcome_cutClaim :
    (processMessage (cutClaim.foldl perform (emptyDesk 0)) 7 "Price?" 2 none
      fun _ => none).filterMap DeskOp.effect? =
      [.userMessage 1 "Price?", .notifyManager 1 "Price?" 50 3, .returned 7 managerHandoffText] :=
  (message_outcome 0 cutClaim 7 "Price?" 2 (fun _ => none)
    (rfl : getOrCreateThread (cutClaim.foldl perform (emptyDesk 0)) 7 2 =
      some ([], ⟨1, 7, .manual, some 3, some 50, 0⟩))).2.2

end CrmBot.ManagerDesk
