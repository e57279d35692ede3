import CrmBot.ManagerDesk.TicketCustody

/-! Who holds a ticket: whom a message of the client goes to, and to whom the reply of a manager
goes. -/

namespace CrmBot.ManagerDesk

open Relational Runs

variable {ThreadId ClientId UserId ChatId : Type} [DecidableEq ThreadId] [DecidableEq ClientId]
  [DecidableEq ChatId] {desk : Desk ThreadId ClientId UserId ChatId}
  {row : ThreadRow ThreadId ClientId UserId ChatId} {thread : ThreadId} {user : UserId}
  {chat : ChatId} {op : DeskOp ThreadId ClientId UserId ChatId}

/-- What a key holds later it held before: a value may only expire. -/
theorem map_value_of_at? {Value : Type} {slot : Option (Cached Value)} {now : ℕ} {value : Value}
    (h : (slot.bind (Cached.at? now)).map Cached.value = some value) :
    slot.map Cached.value = some value := by
  obtain ⟨later, hlater, rfl⟩ := Option.map_eq_some_iff.mp h
  obtain ⟨cached, hcached, hlive⟩ := Option.bind_eq_some_iff.mp hlater
  unfold Cached.at? at hlive
  split_ifs at hlive
  obtain rfl := Option.some.inj hlive
  exact Option.map_eq_some_iff.mpr ⟨cached, hcached, rfl⟩

/-! The session and the row name a manager and his chat. -/

/-- The chat of a manager is named for the thread, by the session or by the row. -/
def Holds (desk : Desk ThreadId ClientId UserId ChatId) (thread : ThreadId) (user : UserId)
    (chat : ChatId) : Prop :=
  (∃ session, (desk.sessions thread).map Cached.value = some session ∧
      session.managerUserId = user ∧ session.managerChatId = some chat) ∨
    ∃ row ∈ desk.threads.rows, row.id = thread ∧ row.status = .manual ∧
      row.managerUserId = some user ∧ row.managerChatId = some chat

/-- The write names the chat of a manager for the thread, or puts a row that names him back in
manual mode. -/
def DeskOp.Gives (thread : ThreadId) (user : UserId) (chat : ChatId) :
    DeskOp ThreadId ClientId UserId ChatId → Prop
  | .updateThread other (.claim manager managerChat) =>
    other = thread ∧ manager = user ∧ managerChat = some chat
  | .updateThread other (.setStatus .manual) => other = thread
  | .setSession other session _ =>
    other = thread ∧ session.managerUserId = user ∧ session.managerChatId = some chat
  | _ => False

omit [DecidableEq ClientId] in
theorem gives_or_holds_updateThread {other : ThreadId} {update : ThreadUpdate UserId ChatId}
    (h : Holds ((DeskOp.updateThread other update).apply desk) thread user chat) :
    (DeskOp.updateThread other update :
      DeskOp ThreadId ClientId UserId ChatId).Gives thread user chat ∨
      Holds desk thread user chat := by
  rcases h with hsession | ⟨row, hrow, hid, hmanual, huser, hchat⟩
  · exact .inr (.inl hsession)
  obtain ⟨old, hold, rfl⟩ := mem_updateThread.mp hrow
  split_ifs at hid hmanual huser hchat with hother
  · rw [id_apply] at hid
    cases update with
    | setStatus status =>
      obtain rfl : status = .manual := hmanual
      exact .inl (hother.symm.trans hid)
    | claim manager managerChat =>
      exact .inl ⟨hother.symm.trans hid, Option.some.inj huser, hchat⟩
    | close => cases hmanual
    | touch => exact .inr (.inr ⟨old, hold, hid, hmanual, huser, hchat⟩)
  · exact .inr (.inr ⟨old, hold, hid, hmanual, huser, hchat⟩)

omit [DecidableEq ClientId] in
theorem gives_or_holds_apply (desk : Desk ThreadId ClientId UserId ChatId)
    (op : DeskOp ThreadId ClientId UserId ChatId) (h : Holds (op.apply desk) thread user chat) :
    op.Gives thread user chat ∨ Holds desk thread user chat ∧ True := by
  rw [and_true]
  cases op with
  | createThread other client =>
    rcases h with hsession | ⟨row, hrow, hid, hmanual, hnamed⟩
    · exact .inr (.inl hsession)
    · rcases Table.mem_insertOrIgnore.mp hrow with hold | ⟨_, rfl⟩
      · exact .inr (.inr ⟨row, hold, hid, hmanual, hnamed⟩)
      · cases hmanual
  | updateThread other update => exact gives_or_holds_updateThread h
  | setSession other session seconds =>
    rcases h with ⟨held, hheld, huser, hchat⟩ | hrow
    · by_cases heq : thread = other
      · subst heq
        simp only [DeskOp.apply, Function.update_self, Option.map_some, Option.some.injEq] at hheld
        subst hheld
        exact .inl ⟨rfl, huser, hchat⟩
      · simp only [DeskOp.apply, Function.update_of_ne heq] at hheld
        exact .inr (.inl ⟨held, hheld, huser, hchat⟩)
    · exact .inr (.inr hrow)
  | deleteSession other =>
    rcases h with ⟨held, hheld, huser, hchat⟩ | hrow
    · by_cases heq : thread = other
      · simp [DeskOp.apply, heq] at hheld
      · simp only [DeskOp.apply, Function.update_of_ne heq] at hheld
        exact .inr (.inl ⟨held, hheld, huser, hchat⟩)
    · exact .inr (.inr hrow)
  | setReplyThread other value seconds => exact .inr h
  | deleteReplyThread other => exact .inr h
  | emit effect => exact .inr h
  | wait seconds =>
    rcases h with ⟨held, hheld, huser, hchat⟩ | hrow
    · exact .inr (.inl ⟨held, map_value_of_at? hheld, huser, hchat⟩)
    · exact .inr (.inr hrow)

/-! The commands. -/

/-- The thread that a chat replies to. -/
def replyThread (desk : Desk ThreadId ClientId UserId ChatId) (chat : ChatId) : Option ThreadId :=
  (desk.replyThreads chat).map Cached.value

/-- The manager takes the ticket from his chat: by a claim, or by a reply on his ticket. -/
def DeskCommand.TakesTicket (desk : Desk ThreadId ClientId UserId ChatId) (thread : ThreadId)
    (user : UserId) (chat : ChatId) : DeskCommand ThreadId ClientId UserId ChatId → Prop
  | .claimThread other managerChat manager =>
    other = thread ∧ managerChat = chat ∧ manager = some user
  | .replyFromManager managerChat manager _ _ =>
    replyThread desk chat = some thread ∧ managerChat = chat ∧ manager = some user
  | _ => False

def DeskCommand.ClosesTicket (thread : ThreadId) :
    DeskCommand ThreadId ClientId UserId ChatId → Prop
  | .closeThread other _ _ | .closeTicket other => other = thread
  | _ => False

/-- The text is what the client reads of a manager's reply on the thread. -/
def DeskCommand.RepliesTo (desk : Desk ThreadId ClientId UserId ChatId) (text : String)
    (thread : ThreadId) : DeskCommand ThreadId ClientId UserId ChatId → Prop
  | .replyFromManager chat _ name said =>
    replyThread desk chat = some thread ∧ prefixedManagerText name said = text
  | .replyToThread other _ name said => other = thread ∧ prefixedManagerText name said = text
  | _ => False

/-- What each write tells of the command that makes it. -/
def DeskCommand.Writes (desk : Desk ThreadId ClientId UserId ChatId)
    (command : DeskCommand ThreadId ClientId UserId ChatId) :
    DeskOp ThreadId ClientId UserId ChatId → Prop
  | .updateThread thread (.claim user chat) =>
    ∀ telegram ∈ chat, command.TakesTicket desk thread user telegram
  | .updateThread thread .close => command.ClosesTicket thread
  | .updateThread _ (.setStatus status) => status ≠ .manual
  | .setSession thread session _ =>
    ∀ telegram ∈ session.managerChatId,
      command.TakesTicket desk thread session.managerUserId telegram
  | .setReplyThread chat thread _ => ∃ user, command.TakesTicket desk thread user chat
  | .emit (.notifyManager _ _ _ _) =>
    ∃ client text fresh escalations, command = .message client text fresh none escalations
  | .emit (.sentToClient client text) => ∃ thread row, manualThread desk thread = some row ∧
      row.clientId = client ∧ command.RepliesTo desk text thread
  | _ => True

section Message

variable {command : DeskCommand ThreadId ClientId UserId ChatId} {text : String}
  {refusal : Option Refusal} {escalations : ℕ → Option Escalation}

omit [DecidableEq ClientId] [DecidableEq ChatId] in
theorem writes_recordUserMessage :
    ∀ op ∈ (recordUserMessage thread text : List (DeskOp ThreadId ClientId UserId ChatId)),
      command.Writes desk op := by
  simp [recordUserMessage, DeskCommand.Writes]

omit [DecidableEq ClientId] [DecidableEq ChatId] in
theorem writes_processQuestions :
    ∀ op ∈ (processQuestions thread text escalations :
      List (DeskOp ThreadId ClientId UserId ChatId)), command.Writes desk op := by
  refine List.forall_mem_flatMap.mpr fun turn _ => ?_
  cases hwaits : (escalations turn.2).any Escalation.waits <;>
    cases hnotifies : (escalations turn.2).any Escalation.notifies <;>
      simp [processSingleQuestion, hwaits, hnotifies, DeskCommand.Writes]

omit [DecidableEq ClientId] [DecidableEq ChatId] in
theorem writes_tryRedirectToManager {client : ClientId} {fresh : ThreadId} :
    ∀ op ∈ (tryRedirectToManager desk row text).1,
      (DeskCommand.message client text fresh none escalations).Writes desk op := by
  have hcleared : ∀ op ∈ (if ((desk.sessions row.id).map Cached.value).isSome &&
      row.status = .active then [.deleteSession row.id] else [] :
        List (DeskOp ThreadId ClientId UserId ChatId)),
          (DeskCommand.message client text fresh none escalations).Writes desk op := by
    split_ifs <;> simp [DeskCommand.Writes]
  unfold tryRedirectToManager
  dsimp only
  split
  · exact hcleared
  · split
    · simp only [List.forall_mem_append]
      exact ⟨⟨hcleared, writes_recordUserMessage⟩, by simp [DeskCommand.Writes]⟩
    · exact List.forall_mem_append.mpr ⟨hcleared, writes_recordUserMessage⟩

omit [DecidableEq ChatId] in
theorem writes_processMessage {client : ClientId} {fresh : ThreadId} :
    ∀ op ∈ processMessage desk client text fresh refusal escalations,
      (DeskCommand.message client text fresh refusal escalations).Writes desk op := by
  unfold processMessage
  split
  · exact List.forall_mem_nil _
  · rename_i created row hrow
    have hcreated : ∀ op ∈ created,
        (DeskCommand.message client text fresh refusal escalations).Writes desk op := by
      rcases getOrCreateThread_eq_some hrow with ⟨rfl, _⟩ | ⟨rfl, _⟩
      · exact List.forall_mem_nil _
      · simp [DeskCommand.Writes]
    refine List.forall_mem_append.mpr ⟨hcreated, ?_⟩
    cases refusal with
    | some refusal => simp [DeskCommand.Writes]
    | none =>
      unfold processWithThreadSlot
      dsimp only
      split_ifs
      · exact List.forall_mem_append.mpr
          ⟨writes_tryRedirectToManager, by simp [DeskCommand.Writes]⟩
      · simp only [List.forall_mem_append]
        exact ⟨⟨writes_tryRedirectToManager, writes_recordUserMessage⟩, writes_processQuestions⟩

end Message

omit [DecidableEq ClientId] [DecidableEq ChatId] in
theorem writes_managerReply {command : DeskCommand ThreadId ClientId UserId ChatId}
    {name text : String} (hmanual : manualThread desk thread = some row)
    (hreplies : command.RepliesTo desk (prefixedManagerText name text) thread) :
    ∀ op ∈ managerReply row name text, command.Writes desk op := by
  have hsent : command.Writes desk
      (.emit (.sentToClient row.clientId (prefixedManagerText name text))) :=
    ⟨thread, row, hmanual, rfl, hreplies⟩
  simp only [managerReply, List.forall_mem_cons]
  exact ⟨trivial, trivial, hsent, List.forall_mem_nil _⟩

variable [DecidableEq UserId]

omit [DecidableEq ChatId] in
/-- Every write of a command tells of it what it should. -/
theorem writes_ops {command : DeskCommand ThreadId ClientId UserId ChatId} :
    ∀ op ∈ command.ops desk, command.Writes desk op := by
  cases command with
  | message client text fresh refusal escalations => exact writes_processMessage
  | claimThread thread chat user =>
    cases user with
    | none => exact List.forall_mem_nil _
    | some user =>
      simp only [DeskCommand.ops, claimThread, claimThreadForManager]
      split_ifs <;> simp [DeskCommand.Writes, DeskCommand.TakesTicket]
  | closeThread thread chat user =>
    cases user with
    | none => exact List.forall_mem_nil _
    | some user =>
      simp [DeskCommand.ops, closeThread, DeskCommand.Writes, DeskCommand.ClosesTicket]
  | replyFromManager chat user name text =>
    simp only [DeskCommand.ops, replyFromManager]
    split
    · exact List.forall_mem_nil _
    · exact List.forall_mem_nil _
    · rename_i user thread hthread
      split
      · simp [DeskCommand.Writes]
      · rename_i row hmanual
        have hreply : replyThread desk chat = some thread := hthread
        refine List.forall_mem_append.mpr ⟨writes_managerReply hmanual ⟨hreply, rfl⟩, ?_⟩
        simp [DeskCommand.Writes, DeskCommand.TakesTicket, hreply]
  | claimTicket thread user =>
    simp only [DeskCommand.ops, claimTicket]
    split
    · exact List.forall_mem_nil _
    · simp only [claimThreadForManager]
      split_ifs <;> simp [DeskCommand.Writes]
  | closeTicket thread =>
    simp only [DeskCommand.ops, closeTicket]
    split
    · exact List.forall_mem_nil _
    · split_ifs
      · exact List.forall_mem_nil _
      · split <;> simp [DeskCommand.Writes, DeskCommand.ClosesTicket]
  | replyToThread thread user name text =>
    simp only [DeskCommand.ops, replyToThread]
    split
    · exact List.forall_mem_nil _
    · rename_i row hmanual
      refine List.forall_mem_append.mpr ⟨writes_managerReply hmanual ⟨rfl, rfl⟩, ?_⟩
      simp [DeskCommand.Writes]
  | archiveThread thread => simp [DeskCommand.ops, DeskCommand.Writes]
  | wait seconds => simp [DeskCommand.ops, DeskCommand.Writes]

omit [DecidableEq ChatId] in
/-- Only a manager who takes the ticket is named for it. -/
theorem takesTicket_of_gives {command : DeskCommand ThreadId ClientId UserId ChatId}
    (hop : op ∈ command.ops desk) (hgives : op.Gives thread user chat) :
    command.TakesTicket desk thread user chat := by
  have hwrites := writes_ops op hop
  cases op with
  | updateThread other update =>
    cases update with
    | setStatus status => cases status <;> first | exact absurd rfl hwrites | exact hgives.elim
    | claim manager managerChat =>
      obtain ⟨rfl, rfl, hchat⟩ := hgives
      exact hwrites chat hchat
    | _ => exact hgives.elim
  | setSession other session seconds =>
    obtain ⟨rfl, rfl, hchat⟩ := hgives
    exact hwrites chat hchat
  | _ => exact hgives.elim

/-! A close. -/

/-- A list that ends with its only close is whole if it was cut after the close. -/
theorem take_eq_self_of_mem {α : Type*} {init : List α} {last : α} {count : ℕ}
    (hinit : last ∉ init) (h : last ∈ (init ++ [last]).take count) :
    (init ++ [last]).take count = init ++ [last] := by
  apply List.take_of_length_le
  by_contra hlt
  rw [List.length_append, List.length_singleton, not_le, Nat.lt_succ_iff] at hlt
  rw [List.take_append_of_le_length hlt] at h
  exact hinit (List.mem_of_mem_take h)

/-- The attempt names the chat of the manager for the thread, in a claim or a reply of his. -/
def Attempt.TakesTicket (desk : Desk ThreadId ClientId UserId ChatId) (thread : ThreadId)
    (user : UserId) (chat : ChatId) (attempt : Attempt ThreadId ClientId UserId ChatId) : Prop :=
  attempt.command.TakesTicket desk thread user chat ∧
    ∃ op ∈ attempt.ops desk, op.Gives thread user chat

/-- The attempt gets as far as the row, the last write of a close. -/
def Attempt.ClosesTicket (desk : Desk ThreadId ClientId UserId ChatId) (thread : ThreadId)
    (attempt : Attempt ThreadId ClientId UserId ChatId) : Prop :=
  .updateThread thread .close ∈ attempt.ops desk

omit [DecidableEq ClientId] [DecidableEq UserId] in
/-- Nobody holds a ticket whose session was deleted and whose row was closed. -/
theorem not_holds_close {ops : List (DeskOp ThreadId ClientId UserId ChatId)}
    (hsession : (ops.foldl DeskOp.apply desk).sessions thread = none) :
    ¬ Holds ((ops ++ [DeskOp.updateThread thread .close]).foldl DeskOp.apply desk) thread user
      chat := by
  rw [List.foldl_append]
  rintro (⟨session, hheld, _⟩ | ⟨row, hrow, hid, hmanual, _⟩)
  · have hnone : ((ops.foldl DeskOp.apply desk).sessions thread).map Cached.value = some session :=
      hheld
    simp [hsession] at hnone
  · obtain ⟨old, _, rfl⟩ := mem_updateThread.mp hrow
    split_ifs at hid hmanual with hthread
    · cases hmanual
    · exact hthread hid

theorem not_holds_perform {attempt : Attempt ThreadId ClientId UserId ChatId}
    (h : attempt.ClosesTicket desk thread) : ¬ Holds (perform desk attempt) thread user chat := by
  obtain ⟨command, completed⟩ := attempt
  have hcloses := writes_ops _ (List.mem_of_mem_take h)
  unfold Attempt.ClosesTicket Attempt.ops at h
  unfold perform Attempt.ops
  dsimp only at h hcloses ⊢
  cases command with
  | closeThread other managerChat manager =>
    obtain rfl : other = thread := hcloses
    cases manager with
    | none => simp [DeskCommand.ops, closeThread] at h
    | some manager =>
      have hops : DeskCommand.ops desk (.closeThread other managerChat (some manager)) =
          [.deleteSession other, .deleteReplyThread managerChat] ++ [.updateThread other .close] :=
        rfl
      rw [hops] at h ⊢
      rw [take_eq_self_of_mem (by simp) h]
      exact not_holds_close (by simp [DeskOp.apply])
  | closeTicket other =>
    obtain rfl : other = thread := hcloses
    have hops : ∃ earlier : List (DeskOp ThreadId ClientId UserId ChatId),
        DeskCommand.ops desk (.closeTicket other) = earlier ++ [.updateThread other .close] ∧
          .updateThread other .close ∉ earlier ∧
            (earlier.foldl DeskOp.apply desk).sessions other = none := by
      replace h := List.mem_of_mem_take h
      simp only [DeskCommand.ops, closeTicket] at h ⊢
      split at h
      · simp at h
      · split_ifs at h ⊢
        · simp at h
        · split
          · exact ⟨[_, _], rfl, by simp, by simp [DeskOp.apply]⟩
          · exact ⟨[_], rfl, by simp, by simp [DeskOp.apply]⟩
    obtain ⟨earlier, hops, hearlier, hsession⟩ := hops
    rw [hops] at h ⊢
    rw [take_eq_self_of_mem hearlier h]
    exact not_holds_close hsession
  | _ => exact hcloses.elim

/-! Notifications. -/

omit [DecidableEq ChatId] in
theorem emit_mem_ops {attempt : Attempt ThreadId ClientId UserId ChatId}
    {effect : DeskEffect ThreadId ClientId UserId ChatId} (h : effect ∈ attempt.effects desk) :
    .emit effect ∈ attempt.ops desk := by
  obtain ⟨op, hop, heffect⟩ := List.mem_filterMap.mp h
  cases op with
  | emit other =>
    obtain rfl : other = effect := Option.some.inj heffect
    exact hop
  | _ => cases heffect

omit [DecidableEq ChatId] [DecidableEq UserId] in
theorem holds_of_notification {client : ClientId} {fresh : ThreadId} {text : String}
    {created : List (DeskOp ThreadId ClientId UserId ChatId)}
    (hrow : getOrCreateThread desk client fresh = some (created, row))
    (hmanual : row.status = .manual) {told : String}
    (h : .notifyManager thread told chat user ∈ notification desk row text) :
    Holds desk thread user chat := by
  obtain ⟨session, hholder, hnotify⟩ := Option.bind_eq_some_iff.mp (Option.mem_toList.mp h)
  obtain ⟨managerChat, hchat, heffect⟩ := Option.map_eq_some_iff.mp hnotify
  injection heffect with hid htold hmanagerChat huser
  subst hid hmanagerChat huser
  cases hsession : desk.sessions row.id with
  | some cached =>
    rw [ticketHolder, hsession] at hholder
    exact .inl ⟨session, (congrArg (Option.map Cached.value) hsession).trans hholder, rfl, hchat⟩
  | none =>
    rw [ticketHolder, hsession] at hholder
    have hfallback : manualTicketFallbackSession row = some session := hholder
    rw [manualTicketFallbackSession, if_neg (not_not.mpr hmanual)] at hfallback
    obtain ⟨manager, hmanager, rfl⟩ := Option.map_eq_some_iff.mp hfallback
    rcases getOrCreateThread_eq_some hrow with ⟨_, hmem, _⟩ | ⟨_, rfl, _⟩
    · exact .inr ⟨row, hmem, rfl, hmanual, hmanager, hchat⟩
    · cases hmanual

omit [DecidableEq ChatId] in
theorem Custody.holds_of_notified (hcustody : Custody desk)
    {attempt : Attempt ThreadId ClientId UserId ChatId} {text : String}
    (h : .notifyManager thread text chat user ∈ attempt.effects desk) :
    Holds desk thread user chat := by
  obtain ⟨command, completed⟩ := attempt
  obtain ⟨client, said, fresh, escalations, rfl⟩ :=
    writes_ops _ (List.mem_of_mem_take (emit_mem_ops h))
  have heffect : .notifyManager thread text chat user ∈
      (processMessage desk client said fresh none escalations).filterMap DeskOp.effect? :=
    List.mem_filterMap.mpr ⟨_, List.mem_of_mem_take (emit_mem_ops h), rfl⟩
  cases hrow : getOrCreateThread desk client fresh with
  | none =>
    rw [processMessage, hrow] at heffect
    cases heffect
  | some found =>
    obtain ⟨created, row⟩ := found
    rw [hcustody.effects_message hrow] at heffect
    split_ifs at heffect with hmanual
    · simp only [List.mem_cons, List.mem_append, reduceCtorEq, List.not_mem_nil, or_false,
        false_or] at heffect
      exact holds_of_notification hrow hmanual heffect
    · rcases List.mem_cons.mp heffect with heffect | heffect
      · cases heffect
      · obtain ⟨turn, _, heffect⟩ := List.mem_flatMap.mp heffect
        rw [turnEffects] at heffect
        split_ifs at heffect <;> simp at heffect

/-- Whoever holds the ticket after an attempt took it in the attempt, or held it before an attempt
that did not close it. -/
theorem takes_or_holds (desk : Desk ThreadId ClientId UserId ChatId)
    (attempt : Attempt ThreadId ClientId UserId ChatId)
    (h : Holds (perform desk attempt) thread user chat) :
    attempt.TakesTicket desk thread user chat ∨
      Holds desk thread user chat ∧ ¬ attempt.ClosesTicket desk thread := by
  rcases raised_or_spared (fun desk => Holds desk thread user chat) gives_or_holds_apply h with
    ⟨op, hop, hgives⟩ | ⟨hholds, _⟩
  · exact .inl ⟨takesTicket_of_gives (List.mem_of_mem_take hop) hgives, op, hop, hgives⟩
  · exact .inr ⟨hholds, fun hcloses => not_holds_perform hcloses h⟩

/-- A message of the client is redirected only to a chat that took the ticket before: an attempt at
a claim or a reply of the same manager got as far as to name it. No attempt since then closed the
ticket. -/
theorem notified_took_ticket (now : ℕ)
    (attempts : List (Attempt ThreadId ClientId UserId ChatId))
    (attempt : Attempt ThreadId ClientId UserId ChatId) {thread : ThreadId} {text : String}
    {chat : ChatId} {user : UserId}
    (h : .notifyManager thread text chat user ∈
      attempt.effects (attempts.foldl perform (emptyDesk now))) :
    ∃ before taking after, attempts = before ++ taking :: after ∧
      taking.TakesTicket (before.foldl perform (emptyDesk now)) thread user chat ∧
      EveryStep perform (fun desk later => ¬ later.ClosesTicket desk thread)
        (perform (before.foldl perform (emptyDesk now)) taking) after := by
  refine exists_cause (fun desk => Holds desk thread user chat) takes_or_holds ?_
    ((custody_run now attempts).holds_of_notified h)
  rintro (⟨session, hnone, _⟩ | ⟨row, hrow, _⟩)
  · cases hnone
  · cases hrow

/-- The chat of the row, whose claim stopped before the session, is told of the next message. -/
theorem notified_took_ticket_cutClaim :
    ∃ before taking after, cutClaim = before ++ taking :: after ∧
      taking.TakesTicket (before.foldl perform (emptyDesk 0)) 1 3 50 ∧
      EveryStep perform (fun desk later => ¬ later.ClosesTicket desk 1)
        (perform (before.foldl perform (emptyDesk 0)) taking) after := by
  refine notified_took_ticket 0 cutClaim ⟨.message 7 "Price?" 2 none fun _ => none, 4⟩
    (?_ : DeskEffect.notifyManager 1 "Price?" 50 3 ∈ _)
  have heffects : Attempt.effects (cutClaim.foldl perform (emptyDesk 0))
      ⟨.message 7 "Price?" 2 none fun _ => none, 4⟩ =
        [.userMessage 1 "Price?", .notifyManager 1 "Price?" 50 3,
          .returned 7 managerHandoffText] := rfl
  rw [heffects]
  exact List.mem_cons_of_mem _ List.mem_cons_self

/-! Replies. -/

/-- What the write leaves as the thread that the chat replies to. -/
def DeskOp.replyThread? (chat : ChatId) :
    DeskOp ThreadId ClientId UserId ChatId → Option (Option ThreadId)
  | .setReplyThread other thread _ => if other = chat then some (some thread) else none
  | .deleteReplyThread other => if other = chat then some none else none
  | _ => none

omit [DecidableEq ClientId] [DecidableEq UserId] in
theorem replyThread_apply (desk : Desk ThreadId ClientId UserId ChatId)
    (op : DeskOp ThreadId ClientId UserId ChatId)
    (h : replyThread (op.apply desk) chat = some thread) :
    op.replyThread? chat = some (some thread) ∨
      replyThread desk chat = some thread ∧ op.replyThread? chat = none := by
  cases op with
  | setReplyThread other value seconds =>
    by_cases heq : other = chat
    · subst heq
      have hvalue : value = thread := by simpa [replyThread, DeskOp.apply] using h
      exact .inl (by rw [DeskOp.replyThread?, if_pos rfl, hvalue])
    · refine .inr ⟨?_, if_neg heq⟩
      simpa [replyThread, DeskOp.apply, Function.update_of_ne (Ne.symm heq)] using h
  | deleteReplyThread other =>
    by_cases heq : other = chat
    · subst heq
      simp [replyThread, DeskOp.apply] at h
    · refine .inr ⟨?_, if_neg heq⟩
      simpa [replyThread, DeskOp.apply, Function.update_of_ne (Ne.symm heq)] using h
  | wait seconds => exact .inr ⟨map_value_of_at? h, rfl⟩
  | _ => exact .inr ⟨h, rfl⟩

/-- The attempt claims the thread for the chat, up to the chat's own key. -/
def Attempt.Claims (desk : Desk ThreadId ClientId UserId ChatId) (thread : ThreadId)
    (chat : ChatId) (attempt : Attempt ThreadId ClientId UserId ChatId) : Prop :=
  (∃ user, attempt.command = .claimThread thread chat (some user)) ∧
    .setReplyThread chat thread none ∈ attempt.ops desk

/-- The attempt neither clears the key of the chat nor sets it to another thread. Only the chat's
own key counts: another chat may claim the thread meanwhile. -/
def Attempt.LeavesChat (desk : Desk ThreadId ClientId UserId ChatId) (thread : ThreadId)
    (chat : ChatId) (attempt : Attempt ThreadId ClientId UserId ChatId) : Prop :=
  .deleteReplyThread chat ∉ attempt.ops desk ∧
    ∀ other seconds, .setReplyThread chat other seconds ∈ attempt.ops desk → other = thread

omit [DecidableEq ThreadId] [DecidableEq ClientId] [DecidableEq UserId] in
theorem DeskOp.eq_setReplyThread (h : op.replyThread? chat = some (some thread)) :
    ∃ seconds, op = .setReplyThread chat thread seconds := by
  unfold DeskOp.replyThread? at h
  split at h
  · rename_i other value seconds
    split_ifs at h with heq
    cases h
    exact ⟨seconds, by rw [heq]⟩
  · split_ifs at h
    cases h
  · cases h

omit [DecidableEq ChatId] in
/-- A reply that sets the key of its chat sets it to the thread that it already has. -/
theorem leavesChat_replyFromManager {manager : Option UserId} {name text : String} {completed : ℕ}
    {seconds : Option ℕ} (hthread : replyThread desk chat = some thread)
    (hset : .setReplyThread chat thread seconds ∈ replyFromManager desk chat manager name text) :
    (⟨.replyFromManager chat manager name text, completed⟩ :
      Attempt ThreadId ClientId UserId ChatId).LeavesChat desk thread chat := by
  have hmap : (desk.replyThreads chat).map Cached.value = some thread := hthread
  cases manager with
  | none => simp [replyFromManager] at hset
  | some user =>
    cases hmanual : manualThread desk thread with
    | none => simp [replyFromManager, hmap, hmanual] at hset
    | some row =>
      refine ⟨fun hdelete => ?_, fun other later hother => ?_⟩
      · replace hdelete := List.mem_of_mem_take hdelete
        simp [DeskCommand.ops, replyFromManager, hmap, hmanual, managerReply] at hdelete
      · replace hother := List.mem_of_mem_take hother
        simp [DeskCommand.ops, replyFromManager, hmap, hmanual, managerReply] at hother
        exact hother.1

theorem claims_or_leavesChat (desk : Desk ThreadId ClientId UserId ChatId)
    (attempt : Attempt ThreadId ClientId UserId ChatId)
    (h : replyThread (perform desk attempt) chat = some thread) :
    attempt.Claims desk thread chat ∨
      replyThread desk chat = some thread ∧ attempt.LeavesChat desk thread chat := by
  rcases raised_or_spared (fun desk => replyThread desk chat = some thread) replyThread_apply h
    with ⟨op, hop, hset⟩ | ⟨hthread, hspares⟩
  · obtain ⟨seconds, rfl⟩ := DeskOp.eq_setReplyThread hset
    obtain ⟨command, completed⟩ := attempt
    obtain ⟨user, htakes⟩ := writes_ops _ (List.mem_of_mem_take hop)
    dsimp only at htakes
    cases command with
    | claimThread other managerChat manager =>
      obtain ⟨rfl, rfl, rfl⟩ := htakes
      have hmem := List.mem_of_mem_take hop
      simp [DeskCommand.ops, claimThread, claimThreadForManager] at hmem
      obtain ⟨_, rfl⟩ := hmem
      exact .inl ⟨⟨user, rfl⟩, hop⟩
    | replyFromManager managerChat manager name text =>
      obtain ⟨hthread, rfl, rfl⟩ := htakes
      exact .inr ⟨hthread, leavesChat_replyFromManager hthread (List.mem_of_mem_take hop)⟩
    | _ => exact htakes.elim
  · refine .inr ⟨hthread, fun hdelete => ?_, fun other seconds hset => ?_⟩
    · have hnone := hspares _ hdelete
      rw [DeskOp.replyThread?, if_pos rfl] at hnone
      cases hnone
    · have hnone := hspares _ hset
      rw [DeskOp.replyThread?, if_pos rfl] at hnone
      cases hnone

/-- What a manager writes in his chat reaches the client of a thread in manual mode. The chat
claimed that thread before, and since then its key was neither cleared nor set to another thread,
whoever else claimed the thread. -/
theorem reply_reaches_claimed_client (now : ℕ)
    (attempts : List (Attempt ThreadId ClientId UserId ChatId)) (chat : ChatId)
    (manager : Option UserId) (name said : String) (completed : ℕ) {client : ClientId}
    {text : String}
    (h : .sentToClient client text ∈
      (⟨.replyFromManager chat manager name said, completed⟩ :
        Attempt ThreadId ClientId UserId ChatId).effects
          (attempts.foldl perform (emptyDesk now))) :
    text = prefixedManagerText name said ∧
      ∃ row ∈ (attempts.foldl perform (emptyDesk now)).threads.rows,
        row.clientId = client ∧ row.status = .manual ∧
        ∃ before claim after, attempts = before ++ claim :: after ∧
          claim.Claims (before.foldl perform (emptyDesk now)) row.id chat ∧
          EveryStep perform (fun desk later => later.LeavesChat desk row.id chat)
            (perform (before.foldl perform (emptyDesk now)) claim) after := by
  obtain ⟨thread, row, hmanual, hclient, hreply, rfl⟩ :=
    writes_ops _ (List.mem_of_mem_take (emit_mem_ops h))
  obtain ⟨hrow, rfl, hstatus⟩ := mem_of_manualThread hmanual
  refine ⟨rfl, row, hrow, hclient, hstatus, ?_⟩
  refine exists_cause (fun desk => replyThread desk chat = some row.id) claims_or_leavesChat ?_
    hreply
  intro hnone
  cases hnone

/-- A thread, and a claim of it that gets to its end. -/
def claimed : List (Attempt ℕ ℕ ℕ ℕ) :=
  [⟨.message 7 "Hello" 1 none fun _ => none, 1⟩, ⟨.claimThread 1 50 (some 3), 3⟩]

theorem reply_reaches_claimed_client_claimed :
    "[Менеджер]: Hi" = prefixedManagerText "Менеджер" "Hi" ∧
      ∃ row ∈ (claimed.foldl perform (emptyDesk 0)).threads.rows,
        row.clientId = 7 ∧ row.status = .manual ∧
        ∃ before claim after, claimed = before ++ claim :: after ∧
          claim.Claims (before.foldl perform (emptyDesk 0)) row.id 50 ∧
          EveryStep perform (fun desk later => later.LeavesChat desk row.id 50)
            (perform (before.foldl perform (emptyDesk 0)) claim) after := by
  refine reply_reaches_claimed_client 0 claimed 50 (some 3) "Менеджер" "Hi" 5 ?_
  have heffects : Attempt.effects (claimed.foldl perform (emptyDesk 0))
      ⟨.replyFromManager 50 (some 3) "Менеджер" "Hi", 5⟩ =
        [.managerMessage 1 "[Менеджер]: Hi", .sentToClient 7 "[Менеджер]: Hi"] := rfl
  rw [heffects]
  exact List.mem_cons_of_mem _ List.mem_cons_self

end CrmBot.ManagerDesk
