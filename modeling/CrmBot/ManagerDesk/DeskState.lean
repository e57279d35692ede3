import CrmBot.Library.Runs
import CrmBot.Library.Table
import CrmBot.Python.Text

/-! The desk of the managers: the rows of the threads, the reply sessions in Redis, and what the
client, the managers and their tickets do to both.

A command is a list of writes, each of which takes effect on its own. An attempt at a command
may stop after any of them. -/

namespace CrmBot.ManagerDesk

open Python Relational

/-- The values of the column `status`. The archive is not one of `ThreadStatus`. -/
inductive ThreadStatus
  | active
  | waitingManager
  | manual
  | closed
  | archived
  deriving DecidableEq

structure ThreadRow (ThreadId ClientId UserId ChatId : Type) where
  id : ThreadId
  clientId : ClientId
  status : ThreadStatus
  managerUserId : Option UserId
  managerChatId : Option ChatId
  updatedAt : ℕ

/-- A session as the commands write it: its user is known. -/
structure ManagerReplySession (UserId ChatId : Type) where
  managerUserId : UserId
  managerChatId : Option ChatId
  hasManagerReply : Bool

/-- A value in Redis, with the second in which it expires. -/
structure Cached (Value : Type) where
  value : Value
  deadline : Option ℕ

/-- `CLIENT_THREAD_SESSION_TIMEOUT` in seconds. -/
def clientThreadSessionTimeout : ℕ := 2 * 24 * 60 * 60

def managerClaimIdleTimeoutSeconds : ℕ := 15 * 60

/-- `MANAGER_HANDOFF_TEXT`. -/
def managerHandoffText : String :=
  "Ваше обращение уже у менеджера. " ++
    "Если вопрос решён или вы хотите снова пообщаться с AI-ассистентом, " ++
    "напишите «закрыть обращение: решено» или «вернуться к ассистенту». " ++
    "Если менеджер долго не отвечает, напишите «долго жду» — мы зафиксируем это в обращении."

/-- Why `process_message` lets a message go no further: the lock of the thread is held, or the
project has used up its requests or its threads. -/
inductive Refusal
  | threadLocked
  | requestLimit
  | concurrencyLimit
  deriving DecidableEq

def Refusal.text : Refusal → String
  | .threadLocked => "Your request is already being processed. Please wait a moment."
  | .requestLimit =>
    "This project is receiving too many messages right now. Please try again later."
  | .concurrencyLimit =>
    "This project already has too many active conversations in progress. Please try again later."

/-- What the escalation of a question gets done. Each of its calls may raise and is then left
out. -/
structure Escalation where
  waits : Bool
  notifies : Bool
  deriving DecidableEq

variable {ThreadId ClientId UserId ChatId : Type}

/-- The desk: the table `threads` and the keys `awaiting_reply_thread` and `awaiting_reply`. -/
structure Desk (ThreadId ClientId UserId ChatId : Type) where
  now : ℕ
  threads : Table (ThreadRow.id : ThreadRow ThreadId ClientId UserId ChatId → ThreadId)
  sessions : ThreadId → Option (Cached (ManagerReplySession UserId ChatId))
  replyThreads : ChatId → Option (Cached ThreadId)

/-! Writes. -/

/-- The updates of a row of `threads`. Each of them sets `updated_at`. -/
inductive ThreadUpdate (UserId ChatId : Type)
  | setStatus (status : ThreadStatus)
  | claim (user : UserId) (chat : Option ChatId)
  | close
  | touch

def ThreadUpdate.apply (update : ThreadUpdate UserId ChatId) (now : ℕ)
    (row : ThreadRow ThreadId ClientId UserId ChatId) :
    ThreadRow ThreadId ClientId UserId ChatId :=
  match update with
  | .setStatus status => { row with status := status, updatedAt := now }
  | .claim user chat =>
    { row with
      status := .manual
      managerUserId := some user
      managerChatId := chat
      updatedAt := now }
  | .close =>
    { row with status := .closed, managerUserId := none, managerChatId := none, updatedAt := now }
  | .touch => { row with updatedAt := now }

@[simp] theorem id_apply (update : ThreadUpdate UserId ChatId) (now : ℕ)
    (row : ThreadRow ThreadId ClientId UserId ChatId) : (update.apply now row).id = row.id := by
  cases update <;> rfl

/-- What others see of the desk. -/
inductive DeskEffect (ThreadId ClientId UserId ChatId : Type)
  | userMessage (thread : ThreadId) (text : String)
  | assistantTurn (thread : ThreadId) (text : String)
  | managerMessage (thread : ThreadId) (text : String)
  | notifyManager (thread : ThreadId) (text : String) (chat : ChatId) (user : UserId)
  | notifyManagers (thread : ThreadId) (text : String)
  | returned (client : ClientId) (text : String)
  | sentToClient (client : ClientId) (text : String)

inductive DeskOp (ThreadId ClientId UserId ChatId : Type)
  | createThread (thread : ThreadId) (client : ClientId)
  | updateThread (thread : ThreadId) (update : ThreadUpdate UserId ChatId)
  | setSession (thread : ThreadId) (session : ManagerReplySession UserId ChatId)
      (seconds : Option ℕ)
  | deleteSession (thread : ThreadId)
  | setReplyThread (chat : ChatId) (thread : ThreadId) (seconds : Option ℕ)
  | deleteReplyThread (chat : ChatId)
  | emit (effect : DeskEffect ThreadId ClientId UserId ChatId)
  | wait (seconds : ℕ)

variable [DecidableEq ThreadId] [DecidableEq ClientId] [DecidableEq ChatId]

/-- A cached value at a later time. -/
def Cached.at? {Value : Type} (now : ℕ) (cached : Cached Value) : Option (Cached Value) :=
  if cached.deadline.all fun deadline => now < deadline then some cached else none

def newThread (now : ℕ) (thread : ThreadId) (client : ClientId) :
    ThreadRow ThreadId ClientId UserId ChatId :=
  ⟨thread, client, .active, none, none, now⟩

def DeskOp.apply (desk : Desk ThreadId ClientId UserId ChatId) :
    DeskOp ThreadId ClientId UserId ChatId → Desk ThreadId ClientId UserId ChatId
  | .createThread thread client =>
    { desk with threads := desk.threads.insertOrIgnore (newThread desk.now thread client) }
  | .updateThread thread update =>
    { desk with
      threads := desk.threads.updateWhere (fun row => row.id = thread) (update.apply desk.now)
        (id_apply update desk.now) }
  | .setSession thread session seconds =>
    { desk with
      sessions := Function.update desk.sessions thread
        (some ⟨session, seconds.map (desk.now + ·)⟩) }
  | .deleteSession thread =>
    { desk with sessions := Function.update desk.sessions thread none }
  | .setReplyThread chat thread seconds =>
    { desk with
      replyThreads := Function.update desk.replyThreads chat
        (some ⟨thread, seconds.map (desk.now + ·)⟩) }
  | .deleteReplyThread chat =>
    { desk with replyThreads := Function.update desk.replyThreads chat none }
  | .emit _ => desk
  | .wait seconds =>
    { desk with
      now := desk.now + seconds
      sessions := fun thread => (desk.sessions thread).bind (Cached.at? (desk.now + seconds))
      replyThreads := fun chat => (desk.replyThreads chat).bind (Cached.at? (desk.now + seconds)) }

def DeskOp.effect? : DeskOp ThreadId ClientId UserId ChatId →
    Option (DeskEffect ThreadId ClientId UserId ChatId)
  | .emit effect => some effect
  | _ => none

/-! A message of the client. -/

section Message

variable (desk : Desk ThreadId ClientId UserId ChatId)

/-- `get_active_thread`. -/
def getActiveThread (client : ClientId) : Option (ThreadRow ThreadId ClientId UserId ChatId) :=
  (desk.threads.select
    (fun row => row.clientId = client && row.status ≠ .closed && row.status ≠ .archived)
    fun first second => second.updatedAt ≤ first.updatedAt).head?

def shouldCreateFreshThread (row : ThreadRow ThreadId ClientId UserId ChatId) : Bool :=
  match row.status with
  | .closed => true
  | .waitingManager | .manual => false
  | .active | .archived => row.updatedAt + clientThreadSessionTimeout < desk.now

/-- The writes and the row of `_get_or_create_thread`, unless the insert is refused. -/
def getOrCreateThread (client : ClientId) (fresh : ThreadId) :
    Option (List (DeskOp ThreadId ClientId UserId ChatId) ×
      ThreadRow ThreadId ClientId UserId ChatId) :=
  match (getActiveThread desk client).filter fun row => !shouldCreateFreshThread desk row with
  | some row => some ([], row)
  | none =>
    if fresh ∈ desk.threads.keys then none
    else some ([.createThread fresh client], newThread desk.now fresh client)

/-- `_record_user_message`. -/
def recordUserMessage (thread : ThreadId) (text : String) :
    List (DeskOp ThreadId ClientId UserId ChatId) :=
  [.emit (.userMessage thread text), .updateThread thread .touch]

def manualTicketFallbackSession (row : ThreadRow ThreadId ClientId UserId ChatId) :
    Option (ManagerReplySession UserId ChatId) :=
  if row.status ≠ .manual then none
  else row.managerUserId.map fun user => ⟨user, row.managerChatId, false⟩

/-- The writes of `_try_redirect_to_manager`, and whether it answers the message. -/
def tryRedirectToManager (row : ThreadRow ThreadId ClientId UserId ChatId) (text : String) :
    List (DeskOp ThreadId ClientId UserId ChatId) × Bool :=
  let session := (desk.sessions row.id).map Cached.value
  let isStale := session.isSome && row.status = .active
  let cleared : List (DeskOp ThreadId ClientId UserId ChatId) :=
    if isStale then [.deleteSession row.id] else []
  match (if isStale then none else session) <|> manualTicketFallbackSession row with
  | none => (cleared, false)
  | some session =>
    match session.managerChatId with
    | some chat =>
      (cleared ++ recordUserMessage row.id text ++
        [.emit (.notifyManager row.id text chat session.managerUserId)], true)
    | none =>
      (cleared ++ recordUserMessage row.id text,
        row.status = .manual || row.status = .waitingManager)

/-- `split_questions`. A run of separators leaves empty parts between them, and blank parts are
dropped. -/
def splitQuestions (text : String) : List String :=
  ((text.toList.splitOnP fun c => c = '?' || c = '!' || c = '\n').map String.ofList).filterMap
    fun part => if strip part = "" then none else some (strip part)

/-- The questions of a message: the parts of its text, or the text itself. -/
def questions (text : String) : List String :=
  if splitQuestions text = [] then [text] else splitQuestions text

/-- `_process_single_question`, by the graph. The graph may hand the dialog over, with a job
that notifies every manager of the project. -/
def processSingleQuestion (thread : ThreadId) (question : String)
    (escalation : Option Escalation) : List (DeskOp ThreadId ClientId UserId ChatId) :=
  .emit (.assistantTurn thread question) ::
    ((if escalation.any Escalation.waits then
        [.updateThread thread (.setStatus .waitingManager)] else []) ++
      (if escalation.any Escalation.notifies then
        [.emit (.notifyManagers thread question)] else []) ++
      [.updateThread thread .touch])

/-- `_process_questions`. Which of the questions are handed over is for the graph to say. -/
def processQuestions (thread : ThreadId) (text : String)
    (escalations : ℕ → Option Escalation) : List (DeskOp ThreadId ClientId UserId ChatId) :=
  (questions text).zipIdx.flatMap fun (question, position) =>
    processSingleQuestion thread question (escalations position)

def processWithThreadSlot (row : ThreadRow ThreadId ClientId UserId ChatId) (text : String)
    (escalations : ℕ → Option Escalation) : List (DeskOp ThreadId ClientId UserId ChatId) :=
  let redirect := tryRedirectToManager desk row text
  if redirect.2 then redirect.1 ++ [.emit (.returned row.clientId managerHandoffText)]
  else redirect.1 ++ recordUserMessage row.id text ++ processQuestions row.id text escalations

/-- `process_message`. Whether the guards refuse the message is not for the desk to say. -/
def processMessage (client : ClientId) (text : String) (fresh : ThreadId)
    (refusal : Option Refusal) (escalations : ℕ → Option Escalation) :
    List (DeskOp ThreadId ClientId UserId ChatId) :=
  match getOrCreateThread desk client fresh with
  | none => []
  | some (created, row) => created ++ match refusal with
    | some refusal => [.emit (.returned row.clientId refusal.text)]
    | none => processWithThreadSlot desk row text escalations

end Message

/-! What a manager does. -/

section Manager

variable (desk : Desk ThreadId ClientId UserId ChatId)

/-- `claim_thread_for_manager`, and what follows a claim that is found persisted. -/
def claimThreadForManager (thread : ThreadId) (user : UserId) (chat : Option ChatId)
    (sessionOps : List (DeskOp ThreadId ClientId UserId ChatId)) :
    List (DeskOp ThreadId ClientId UserId ChatId) :=
  .updateThread thread (.claim user chat) ::
    if thread ∈ desk.threads.keys then sessionOps else []

/-- `ManagerBotService.claim_thread`. -/
def claimThread (thread : ThreadId) (chat : ChatId) (user : Option UserId) :
    List (DeskOp ThreadId ClientId UserId ChatId) :=
  match user with
  | none => []
  | some user =>
    claimThreadForManager desk thread user (some chat)
      [.setSession thread ⟨user, some chat, false⟩ none, .setReplyThread chat thread none]

/-- `ManagerBotService.close_thread`. -/
def closeThread (thread : ThreadId) (chat : ChatId) (user : Option UserId) :
    List (DeskOp ThreadId ClientId UserId ChatId) :=
  match user with
  | none => []
  | some _ => [.deleteSession thread, .deleteReplyThread chat, .updateThread thread .close]

def prefixedManagerText (managerDisplayName managerText : String) : String :=
  "[" ++ managerDisplayName ++ "]: " ++ managerText

/-- `ManagerReplyService.manager_reply`, on a thread in manual mode, by a manager whose name was
resolved. -/
def managerReply (row : ThreadRow ThreadId ClientId UserId ChatId) (name text : String) :
    List (DeskOp ThreadId ClientId UserId ChatId) :=
  [.updateThread row.id .touch, .emit (.managerMessage row.id (prefixedManagerText name text)),
    .emit (.sentToClient row.clientId (prefixedManagerText name text))]

def manualThread (thread : ThreadId) : Option (ThreadRow ThreadId ClientId UserId ChatId) :=
  (desk.threads.find? thread).filter fun row => row.status = .manual

/-- `ManagerBotService.reply_from_manager`. -/
def replyFromManager (chat : ChatId) (user : Option UserId) (name text : String) :
    List (DeskOp ThreadId ClientId UserId ChatId) :=
  match user, (desk.replyThreads chat).map Cached.value with
  | none, _ | _, none => []
  | some user, some thread =>
    match manualThread desk thread with
    | none => [.deleteSession thread, .deleteReplyThread chat]
    | some row =>
      managerReply row name text ++
        [.setSession thread ⟨user, some chat, true⟩ (some managerClaimIdleTimeoutSeconds),
          .setReplyThread chat thread (some managerClaimIdleTimeoutSeconds)]

/-- `TicketCommandService.claim_ticket`, behind the route of the panel. -/
def claimTicket (thread : ThreadId) [DecidableEq UserId] (user : UserId) :
    List (DeskOp ThreadId ClientId UserId ChatId) :=
  match desk.threads.find? thread with
  | none => []
  | some row =>
    if row.status = .closed then []
    else if row.status = .manual ∧ row.managerUserId = some user then []
    else claimThreadForManager desk thread user none [.setSession thread ⟨user, none, false⟩ none]

/-- `TicketCommandService.close_ticket`, behind the route of the panel. -/
def closeTicket (thread : ThreadId) : List (DeskOp ThreadId ClientId UserId ChatId) :=
  match desk.threads.find? thread with
  | none => []
  | some row =>
    if row.status = .closed then []
    else
      (match (desk.sessions thread).bind fun cached => cached.value.managerChatId with
        | some chat => [.deleteReplyThread chat]
        | none => []) ++ [.deleteSession thread, .updateThread thread .close]

/-- `reply_to_thread` of the panel. -/
def replyToThread (thread : ThreadId) (user : UserId) (name text : String) :
    List (DeskOp ThreadId ClientId UserId ChatId) :=
  match manualThread desk thread with
  | none => []
  | some row =>
    managerReply row name text ++
      [.setSession thread ⟨user, none, true⟩ (some managerClaimIdleTimeoutSeconds)]

end Manager

/-! Runs. -/

inductive DeskCommand (ThreadId ClientId UserId ChatId : Type)
  | message (client : ClientId) (text : String) (fresh : ThreadId) (refusal : Option Refusal)
      (escalations : ℕ → Option Escalation)
  | claimThread (thread : ThreadId) (chat : ChatId) (user : Option UserId)
  | closeThread (thread : ThreadId) (chat : ChatId) (user : Option UserId)
  | replyFromManager (chat : ChatId) (user : Option UserId) (name text : String)
  | claimTicket (thread : ThreadId) (user : UserId)
  | closeTicket (thread : ThreadId)
  | replyToThread (thread : ThreadId) (user : UserId) (name text : String)
  | archiveThread (thread : ThreadId)
  | wait (seconds : ℕ)

/-- A command, and how many of its writes take effect before it stops. -/
structure Attempt (ThreadId ClientId UserId ChatId : Type) where
  command : DeskCommand ThreadId ClientId UserId ChatId
  completed : ℕ

variable [DecidableEq UserId]

def DeskCommand.ops (desk : Desk ThreadId ClientId UserId ChatId) :
    DeskCommand ThreadId ClientId UserId ChatId → List (DeskOp ThreadId ClientId UserId ChatId)
  | .message client text fresh refusal escalations =>
    processMessage desk client text fresh refusal escalations
  | .claimThread thread chat user => ManagerDesk.claimThread desk thread chat user
  | .closeThread thread chat user => ManagerDesk.closeThread thread chat user
  | .replyFromManager chat user name text =>
    ManagerDesk.replyFromManager desk chat user name text
  | .claimTicket thread user => ManagerDesk.claimTicket desk thread user
  | .closeTicket thread => ManagerDesk.closeTicket desk thread
  | .replyToThread thread user name text =>
    ManagerDesk.replyToThread desk thread user name text
  | .archiveThread thread => [.updateThread thread (.setStatus .archived)]
  | .wait seconds => [.wait seconds]

def Attempt.ops (desk : Desk ThreadId ClientId UserId ChatId)
    (attempt : Attempt ThreadId ClientId UserId ChatId) :
    List (DeskOp ThreadId ClientId UserId ChatId) :=
  (attempt.command.ops desk).take attempt.completed

def perform (desk : Desk ThreadId ClientId UserId ChatId)
    (attempt : Attempt ThreadId ClientId UserId ChatId) : Desk ThreadId ClientId UserId ChatId :=
  (attempt.ops desk).foldl DeskOp.apply desk

/-- What others see of an attempt. -/
def Attempt.effects (desk : Desk ThreadId ClientId UserId ChatId)
    (attempt : Attempt ThreadId ClientId UserId ChatId) :
    List (DeskEffect ThreadId ClientId UserId ChatId) :=
  (attempt.ops desk).filterMap DeskOp.effect?

def emptyDesk (now : ℕ) : Desk ThreadId ClientId UserId ChatId where
  now := now
  threads := .empty
  sessions := fun _ => none
  replyThreads := fun _ => none

end CrmBot.ManagerDesk
