import CrmBot.Library.Runs
import CrmBot.WorkflowRuntime.AppendAgain

/-! Events that transactions append, and consumers that read them by their number.

An event takes its number before its transaction commits, so events become
visible in another order than that of their numbers. Consumers read and save
their cursor in statements of their own. -/

namespace CrmBot.WorkflowRuntime

open Relational CrmBot.Python Runs

/-- A row, and the transaction that inserted it while that one is open. -/
structure OutboxRow where
  event : WorkflowEvent
  openIn : Option String
  deriving DecidableEq

def OutboxRow.eventId (row : OutboxRow) : String := row.event.eventId

def OutboxRow.sequenceNumber (row : OutboxRow) : Nat := row.event.sequenceNumber

abbrev OutboxTable := UniqueTable OutboxRow.eventId OutboxRow.sequenceNumber

structure WorkflowEventCursor where
  consumerRef : String
  lastSeenSequenceNumber : Nat
  updatedAt : Int
  deriving DecidableEq

abbrev CursorTable := Table WorkflowEventCursor.consumerRef

/-! `PostgresOutboxRepository` -/

/-- `append_event` in an open transaction, with the number its `INSERT` took.
It waits while another transaction has the event id in an open row. -/
def appendOpen (outbox : OutboxTable) (transaction : String) (event : EventObject)
    (sequenceNumber : Nat) : Option (Except Fault (WorkflowEvent × OutboxTable)) :=
  match outbox.find? event.eventId with
  | some row =>
    if row.openIn = none ∨ row.openIn = some transaction then
      some do
        assertIdempotentEventIsSame event row.event
        return (row.event, outbox)
    else none
  | none =>
    match outbox.insertOrIgnore?
        { event := event.stored sequenceNumber, openIn := some transaction } with
    | none => some (.error (.uniqueViolation "workflow_runtime_outbox_events_pkey"))
    | some next => some (.ok (event.stored sequenceNumber, next))

/-- What the end of a transaction does with its rows. -/
def commitRows (outbox : OutboxTable) (transaction : String) : OutboxTable :=
  outbox.updateWhere (fun row => row.openIn = some transaction)
    (fun row => { row with openIn := none }) (fun _ => rfl) fun _ => rfl

def rollbackRows (outbox : OutboxTable) (transaction : String) : OutboxTable :=
  outbox.deleteWhere fun row => row.openIn = some transaction

/-- The rows a statement of another transaction sees. -/
def committedEvents (outbox : OutboxTable) : List WorkflowEvent :=
  (outbox.rows.filter fun row => row.openIn = none).map OutboxRow.event

/-- The rows of the query, before its `LIMIT`. -/
def rowsAfter (outbox : OutboxTable) (afterSequenceNumber : Int) : List OutboxRow :=
  outbox.select (fun row => row.openIn = none ∧ afterSequenceNumber < row.sequenceNumber)
    fun first second => first.sequenceNumber ≤ second.sequenceNumber

def listEventsAfter (outbox : OutboxTable) (_consumerRef : String)
    (afterSequenceNumber limit : Int) : Except Fault (List WorkflowEvent) :=
  if afterSequenceNumber < 0 then
    .error (.valueError "after_sequence_number must be >= 0")
  else if limit ≤ 0 then .error (.valueError "limit must be > 0")
  else
    .ok (((rowsAfter outbox afterSequenceNumber).take limit.toNat).map OutboxRow.event)

/-! `PostgresEventCursorRepository` -/

def WorkflowEventCursor.advanceTo (cursor : WorkflowEventCursor) (sequenceNumber : Nat)
    (updatedAt : Int) : Except Fault WorkflowEventCursor :=
  if sequenceNumber < cursor.lastSeenSequenceNumber then
    .error (.valueError "cannot move cursor backwards")
  else
    .ok { cursor with lastSeenSequenceNumber := sequenceNumber, updatedAt := updatedAt }

/-- The first half of `save_cursor`: `get_cursor`, and the cursor to be written. -/
def effectiveCursor (cursors : CursorTable) (cursor : WorkflowEventCursor) :
    Except Fault WorkflowEventCursor :=
  match cursors.find? cursor.consumerRef with
  | some existing => existing.advanceTo cursor.lastSeenSequenceNumber cursor.updatedAt
  | none => .ok cursor

/-- The second half of `save_cursor`. -/
def upsertCursor (cursors : CursorTable) (cursor : WorkflowEventCursor) : CursorTable :=
  cursors.upsert cursor
    (fun old =>
      { old with
        lastSeenSequenceNumber := cursor.lastSeenSequenceNumber
        updatedAt := cursor.updatedAt })
    fun _ => rfl

/-- The number a consumer reads on from. -/
def lastSeen (cursors : CursorTable) (consumerRef : String) : Nat :=
  match cursors.find? consumerRef with
  | some cursor => cursor.lastSeenSequenceNumber
  | none => 0

/-! Transactions and consumers side by side. -/

/-- One round of a consumer: it reads its cursor, lists the events after it, and
saves the number of the last event it processed in two statements. `round` counts
the rounds before it, and `visible` is what was committed when it listed. -/
inductive ConsumerSession
  | idle
  | positioned (consumerRef : String) (after round : Nat)
  | processing (consumerRef : String) (round : Nat) (events visible : List WorkflowEvent)
  | saving (cursor : WorkflowEventCursor) (round : Nat) (visible : List WorkflowEvent)

/-- The two tables, the next number of the sequence and what is under way. An
append has its number before its row. `listed` and `rounds` are histories: what
was listed to whom, and how many rounds each consumer completed one after another. -/
structure Delivery where
  outbox : OutboxTable
  sequence : Nat
  appending : String → Option (EventObject × Nat)
  cursors : CursorTable
  sessions : String → ConsumerSession
  listed : List (String × WorkflowEvent)
  rounds : String → Nat

def Delivery.empty : Delivery where
  outbox := .empty
  sequence := 1
  appending := fun _ => none
  cursors := .empty
  sessions := fun _ => .idle
  listed := []
  rounds := fun _ => 0

inductive DeliveryStep
  | takeNumber (transaction : String) (event : EventObject)
  | insert (transaction : String)
  | commit (transaction : String)
  | rollback (transaction : String)
  | getCursor (session consumerRef : String)
  | listEvents (session : String) (limit : Int)
  | advanceCursor (session : String) (event : WorkflowEvent) (updatedAt : Int)
  | writeCursor (session : String)

def Delivery.setSession (state : Delivery) (session : String) (value : ConsumerSession) :
    Delivery :=
  { state with sessions := Function.update state.sessions session value }

def Delivery.setAppending (state : Delivery) (transaction : String)
    (value : Option (EventObject × Nat)) : Delivery :=
  { state with appending := Function.update state.appending transaction value }

/-- A statement that raises ends its round or its append. -/
def deliveryStep (state : Delivery) : DeliveryStep → Delivery
  | .takeNumber transaction event =>
    match state.appending transaction with
    | some _ => state
    | none =>
      { state with sequence := state.sequence + 1 }.setAppending transaction
        (some (event, state.sequence))
  | .insert transaction =>
    match state.appending transaction with
    | none => state
    | some (event, sequenceNumber) =>
      match appendOpen state.outbox transaction event sequenceNumber with
      | none => state
      | some (.error _) => state.setAppending transaction none
      | some (.ok (_, next)) => { state with outbox := next }.setAppending transaction none
  | .commit transaction => { state with outbox := commitRows state.outbox transaction }
  | .rollback transaction =>
    { state with outbox := rollbackRows state.outbox transaction }.setAppending transaction none
  | .getCursor session consumerRef =>
    state.setSession session
      (.positioned consumerRef (lastSeen state.cursors consumerRef) (state.rounds consumerRef))
  | .listEvents session limit =>
    match state.sessions session with
    | .positioned consumerRef after round =>
      match listEventsAfter state.outbox consumerRef after limit with
      | .error _ => state.setSession session .idle
      | .ok events =>
        { state with listed := state.listed ++ events.map fun event => (consumerRef, event)
        }.setSession session
          (.processing consumerRef round events (committedEvents state.outbox))
    | _ => state
  | .advanceCursor session event updatedAt =>
    match state.sessions session with
    | .processing consumerRef round events visible =>
      if event ∈ events then
        match effectiveCursor state.cursors
            ⟨consumerRef, event.sequenceNumber, updatedAt⟩ with
        | .error _ => state.setSession session .idle
        | .ok cursor => state.setSession session (.saving cursor round visible)
      else state
    | _ => state
  | .writeCursor session =>
    match state.sessions session with
    | .saving cursor round _ =>
      { state with
        cursors := upsertCursor state.cursors cursor
        rounds := Function.update state.rounds cursor.consumerRef
          (max (state.rounds cursor.consumerRef) (round + 1))
      }.setSession session .idle
    | _ => state

/-! The property. -/

/-- Every committed event was listed to the consumer, or it is ahead of the
cursor, and then fewer rounds than its number are completed. -/
def NoneSkipped (state : Delivery) : Prop :=
  ∀ consumerRef, ∀ event ∈ committedEvents state.outbox,
    (consumerRef, event) ∈ state.listed ∨
      (lastSeen state.cursors consumerRef < event.sequenceNumber ∧
        state.rounds consumerRef < event.sequenceNumber)

/-- A poll lists something while a committed event waits for the consumer. -/
def ListsWaiting (state : Delivery) : DeliveryStep → Prop
  | .listEvents session limit =>
    match state.sessions session with
    | .positioned consumerRef after _ =>
      ∀ events, listEventsAfter state.outbox consumerRef after limit = .ok events →
        (∃ event ∈ committedEvents state.outbox, (consumerRef, event) ∉ state.listed) →
        events ≠ []
    | _ => True
  | _ => True

def Delivers (state : Delivery) (step : DeliveryStep) : Prop :=
  NoneSkipped (deliveryStep state step) ∧ ListsWaiting state step ∧
    ∀ consumerRef, lastSeen state.cursors consumerRef ≤
      lastSeen (deliveryStep state step).cursors consumerRef

/-- A commit comes before any stored cursor has passed a number of the
transaction. A cursor is written while the stored one is not above it, and while
no unlisted event that it passes became visible after the poll. -/
def InOrder (state : Delivery) : DeliveryStep → Prop
  | .commit transaction =>
    ∀ row ∈ state.outbox.rows, row.openIn = some transaction →
      ∀ cursor ∈ state.cursors.rows, cursor.lastSeenSequenceNumber < row.sequenceNumber
  | .writeCursor session =>
    match state.sessions session with
    | .saving cursor _ visible =>
      lastSeen state.cursors cursor.consumerRef ≤ cursor.lastSeenSequenceNumber ∧
        ∀ event ∈ committedEvents state.outbox, event ∉ visible →
          event.sequenceNumber ≤ cursor.lastSeenSequenceNumber →
          (cursor.consumerRef, event) ∈ state.listed
    | _ => True
  | _ => True

/-! What the statements do to the tables. -/

variable {outbox next : OutboxTable} {cursors later : CursorTable} {state : Delivery}
  {consumerRef : String}

@[simp] theorem mem_committedEvents {event : WorkflowEvent} :
    event ∈ committedEvents outbox ↔ { event := event, openIn := none } ∈ outbox.rows := by
  unfold committedEvents
  rw [List.mem_map]
  constructor
  · rintro ⟨⟨found, openIn⟩, hmem, rfl⟩
    obtain ⟨hrow, hopen⟩ := List.mem_filter.mp hmem
    simp only [decide_eq_true_eq] at hopen
    rw [hopen] at hrow
    exact hrow
  · intro hrow
    exact ⟨_, List.mem_filter.mpr ⟨hrow, by simp⟩, rfl⟩

/-- An append adds at most an open row with the number that it took. -/
theorem rows_appendOpen {transaction : String} {event : EventObject} {sequenceNumber : Nat}
    {stored : WorkflowEvent}
    (h : appendOpen outbox transaction event sequenceNumber = some (.ok (stored, next))) :
    next.rows = outbox.rows ∨
      next.rows = outbox.rows ++
        [{ event := event.stored sequenceNumber, openIn := some transaction }] := by
  unfold appendOpen at h
  split at h
  · split at h
    · next row _ _ =>
      cases hassert : assertIdempotentEventIsSame event row.event with
      | error fault =>
        rw [hassert] at h
        cases h
      | ok _ =>
        rw [hassert] at h
        cases h
        exact .inl rfl
    · cases h
  · split at h
    · cases h
    · next inserted hinsert =>
      cases h
      rcases UniqueTable.rows_of_insertOrIgnore? hinsert with ⟨_, hsame⟩ | ⟨_, _, hrows⟩
      · exact .inl (congrArg (fun table : OutboxTable => table.rows) hsame)
      · exact .inr hrows

theorem mem_rowsAfter {after : Int} {row : OutboxRow} :
    row ∈ rowsAfter outbox after ↔
      row.event ∈ committedEvents outbox ∧ row.openIn = none ∧
        after < row.event.sequenceNumber := by
  unfold rowsAfter
  rw [Table.mem_select, decide_eq_true_eq, mem_committedEvents]
  constructor
  · rintro ⟨hmem, hopen, hafter⟩
    obtain ⟨event, openIn⟩ := row
    cases hopen
    exact ⟨hmem, rfl, hafter⟩
  · rintro ⟨hmem, hopen, hafter⟩
    obtain ⟨event, openIn⟩ := row
    cases hopen
    exact ⟨hmem, rfl, hafter⟩

/-- A `LIMIT` cuts off no row with a smaller number than one it keeps. -/
theorem mem_take_rowsAfter {after : Int} {limit : Nat} {row other : OutboxRow}
    (hrow : row ∈ (rowsAfter outbox after).take limit) (hother : other ∈ rowsAfter outbox after)
    (hle : other.sequenceNumber ≤ row.sequenceNumber) :
    other ∈ (rowsAfter outbox after).take limit := by
  have htotal : Std.Total fun first second : OutboxRow =>
      first.sequenceNumber ≤ second.sequenceNumber := ⟨fun _ _ => Nat.le_total _ _⟩
  have htrans : IsTrans OutboxRow fun first second =>
      first.sequenceNumber ≤ second.sequenceNumber := ⟨fun _ _ _ => Nat.le_trans⟩
  apply Table.mem_take_select hrow hother
  intro hge
  have hmem := (Table.mem_select.mp hother).1
  have hrowMem := (Table.mem_select.mp (List.mem_of_mem_take hrow)).1
  exact outbox.eq_of_unique_eq hmem hrowMem (Nat.le_antisymm hle hge)

theorem listEventsAfter_eq_ok {after limit : Int} {events : List WorkflowEvent}
    (h : listEventsAfter outbox consumerRef after limit = .ok events) :
    0 < limit ∧
      events = ((rowsAfter outbox after).take limit.toNat).map OutboxRow.event := by
  unfold listEventsAfter at h
  split at h
  · cases h
  · split at h
    · cases h
    · cases h
      exact ⟨by omega, rfl⟩

/-- A poll lists committed events after its position. -/
theorem mem_listEventsAfter {after limit : Int} {events : List WorkflowEvent}
    (h : listEventsAfter outbox consumerRef after limit = .ok events) {event : WorkflowEvent}
    (hevent : event ∈ events) :
    event ∈ committedEvents outbox ∧ after < event.sequenceNumber := by
  obtain ⟨_, rfl⟩ := listEventsAfter_eq_ok h
  obtain ⟨row, hrow, rfl⟩ := List.mem_map.mp hevent
  obtain ⟨hcommitted, _, hafter⟩ := mem_rowsAfter.mp (List.mem_of_mem_take hrow)
  exact ⟨hcommitted, hafter⟩

/-- A poll leaves out no event between its position and one that it lists. -/
theorem mem_listEventsAfter_of_le {after limit : Int} {events : List WorkflowEvent}
    (h : listEventsAfter outbox consumerRef after limit = .ok events)
    {event other : WorkflowEvent} (hevent : event ∈ events)
    (hother : other ∈ committedEvents outbox) (hafter : after < other.sequenceNumber)
    (hle : other.sequenceNumber ≤ event.sequenceNumber) : other ∈ events := by
  obtain ⟨_, rfl⟩ := listEventsAfter_eq_ok h
  obtain ⟨row, hrow, rfl⟩ := List.mem_map.mp hevent
  have hselected : { event := other, openIn := none } ∈ rowsAfter outbox after :=
    mem_rowsAfter.mpr ⟨hother, rfl, hafter⟩
  exact List.mem_map.mpr ⟨_, mem_take_rowsAfter hrow hselected hle, rfl⟩

/-- A poll lists something when a committed event comes after its position. -/
theorem listEventsAfter_ne_nil {after limit : Int} {events : List WorkflowEvent}
    (h : listEventsAfter outbox consumerRef after limit = .ok events) {event : WorkflowEvent}
    (hevent : event ∈ committedEvents outbox) (hafter : after < event.sequenceNumber) :
    events ≠ [] := by
  obtain ⟨hlimit, rfl⟩ := listEventsAfter_eq_ok h
  have hselected : { event := event, openIn := none } ∈ rowsAfter outbox after :=
    mem_rowsAfter.mpr ⟨hevent, rfl, hafter⟩
  intro hnil
  rw [List.map_eq_nil_iff, List.take_eq_nil_iff] at hnil
  rcases hnil with hzero | hnone
  · omega
  · rw [hnone] at hselected
    cases hselected

theorem effectiveCursor_eq_ok {cursor effective : WorkflowEventCursor}
    (h : effectiveCursor cursors cursor = .ok effective) :
    effective.consumerRef = cursor.consumerRef ∧
      effective.lastSeenSequenceNumber = cursor.lastSeenSequenceNumber := by
  unfold effectiveCursor at h
  split at h
  · next existing hfind =>
    have hkey := (Table.find?_eq_some_iff.mp hfind).2
    unfold WorkflowEventCursor.advanceTo at h
    split at h
    · cases h
    · cases h
      exact ⟨hkey, rfl⟩
  · cases h
    exact ⟨rfl, rfl⟩

theorem lastSeen_of_mem {cursor : WorkflowEventCursor} (hmem : cursor ∈ cursors.rows) :
    lastSeen cursors cursor.consumerRef = cursor.lastSeenSequenceNumber := by
  unfold lastSeen
  rw [Table.find?_eq_some_iff.mpr ⟨hmem, rfl⟩]

/-- Whatever bounds the stored cursors from above bounds every position. -/
theorem lastSeen_lt {bound : Nat} (hpositive : 0 < bound)
    (h : ∀ cursor ∈ cursors.rows, cursor.lastSeenSequenceNumber < bound) :
    lastSeen cursors consumerRef < bound := by
  unfold lastSeen
  split
  · next cursor hfind => exact h cursor (Table.find?_eq_some_iff.mp hfind).1
  · exact hpositive

theorem lastSeen_upsertCursor (cursor : WorkflowEventCursor) :
    lastSeen (upsertCursor cursors cursor) consumerRef =
      if consumerRef = cursor.consumerRef then cursor.lastSeenSequenceNumber
      else lastSeen cursors consumerRef := by
  unfold lastSeen upsertCursor
  split_ifs with hkey
  · rw [hkey, Table.find?_upsert_self]
    cases cursors.find? cursor.consumerRef with
    | none => rfl
    | some old => rfl
  · rw [Table.find?_upsert_of_ne hkey]

/-! What holds between the steps. -/

/-- What a round that is under way relies on. -/
def SessionKept (cursors : CursorTable) (listed : List (String × WorkflowEvent)) :
    ConsumerSession → Prop
  | .idle => True
  | .positioned consumerRef after round => after ≤ lastSeen cursors consumerRef ∧ round ≤ after
  | .processing consumerRef round events visible =>
    ∀ event ∈ events, round < event.sequenceNumber ∧
      ∀ other ∈ visible, other.sequenceNumber ≤ event.sequenceNumber →
        (consumerRef, other) ∈ listed
  | .saving cursor round visible =>
    round < cursor.lastSeenSequenceNumber ∧
      ∀ other ∈ visible, other.sequenceNumber ≤ cursor.lastSeenSequenceNumber →
        (cursor.consumerRef, other) ∈ listed

structure DeliveryKept (state : Delivery) : Prop where
  positive : ∀ row ∈ state.outbox.rows, 0 < row.sequenceNumber
  taken : ∀ transaction event sequenceNumber,
    state.appending transaction = some (event, sequenceNumber) → 0 < sequenceNumber
  sequence : 0 < state.sequence
  listed : ∀ consumerRef event,
    (consumerRef, event) ∈ state.listed → event ∈ committedEvents state.outbox
  waiting : ∀ consumerRef, ∀ event ∈ committedEvents state.outbox,
    (consumerRef, event) ∈ state.listed ∨
      lastSeen state.cursors consumerRef < event.sequenceNumber
  rounds : ∀ consumerRef, state.rounds consumerRef ≤ lastSeen state.cursors consumerRef
  sessions : ∀ session, SessionKept state.cursors state.listed (state.sessions session)

theorem DeliveryKept.noneSkipped (hkept : DeliveryKept state) : NoneSkipped state := by
  intro consumerRef event hevent
  rcases hkept.waiting consumerRef event hevent with hlisted | hahead
  · exact .inl hlisted
  · exact .inr ⟨hahead, Nat.lt_of_le_of_lt (hkept.rounds consumerRef) hahead⟩

/-- Every event up to the cursor was listed. -/
theorem DeliveryKept.listed_of_le (hkept : DeliveryKept state) {event : WorkflowEvent}
    (hevent : event ∈ committedEvents state.outbox)
    (hle : event.sequenceNumber ≤ lastSeen state.cursors consumerRef) :
    (consumerRef, event) ∈ state.listed := by
  rcases hkept.waiting consumerRef event hevent with hlisted | hahead
  · exact hlisted
  · omega

/-- Cursors that rise and a history that grows leave a round as it was. -/
theorem SessionKept.mono {listed moreListed : List (String × WorkflowEvent)}
    (hcursors : ∀ consumerRef, lastSeen cursors consumerRef ≤ lastSeen later consumerRef)
    (hlisted : ∀ entry ∈ listed, entry ∈ moreListed) {session : ConsumerSession}
    (h : SessionKept cursors listed session) : SessionKept later moreListed session := by
  cases session with
  | idle => trivial
  | positioned consumerRef after round =>
    obtain ⟨hafter, hround⟩ := h
    exact ⟨Nat.le_trans hafter (hcursors consumerRef), hround⟩
  | processing consumerRef round events visible =>
    intro event hevent
    obtain ⟨hround, hpassed⟩ := h event hevent
    exact ⟨hround, fun other hother hle => hlisted _ (hpassed other hother hle)⟩
  | saving cursor round visible =>
    obtain ⟨hround, hpassed⟩ := h
    exact ⟨hround, fun other hother hle => hlisted _ (hpassed other hother hle)⟩

theorem DeliveryKept.setSession (hkept : DeliveryKept state) {session : String}
    {value : ConsumerSession} (hvalue : SessionKept state.cursors state.listed value) :
    DeliveryKept (state.setSession session value) := by
  have hsessions : ∀ other, SessionKept state.cursors state.listed
      (Function.update state.sessions session value other) := by
    intro other
    rcases eq_or_ne other session with rfl | hne
    · rw [Function.update_self]
      exact hvalue
    · rw [Function.update_of_ne hne]
      exact hkept.sessions other
  exact { hkept with sessions := hsessions }

theorem DeliveryKept.setAppending (hkept : DeliveryKept state) {transaction : String}
    {value : Option (EventObject × Nat)}
    (hvalue : ∀ event sequenceNumber, value = some (event, sequenceNumber) →
      0 < sequenceNumber) : DeliveryKept (state.setAppending transaction value) := by
  have htaken : ∀ other event sequenceNumber,
      Function.update state.appending transaction value other = some (event, sequenceNumber) →
      0 < sequenceNumber := by
    intro other event sequenceNumber h
    rcases eq_or_ne other transaction with rfl | hne
    · rw [Function.update_self] at h
      exact hvalue event sequenceNumber h
    · rw [Function.update_of_ne hne] at h
      exact hkept.taken other event sequenceNumber h
  exact { hkept with taken := htaken }

/-- Rows may change while the committed ones stay. -/
theorem DeliveryKept.setOutbox (hkept : DeliveryKept state)
    (hpositive : ∀ row ∈ next.rows, 0 < row.sequenceNumber)
    (hsame : ∀ event, event ∈ committedEvents next ↔ event ∈ committedEvents state.outbox) :
    DeliveryKept { state with outbox := next } where
  positive := hpositive
  taken := hkept.taken
  sequence := hkept.sequence
  listed := fun consumerRef event hlisted =>
    (hsame event).mpr (hkept.listed consumerRef event hlisted)
  waiting := fun consumerRef event hevent =>
    hkept.waiting consumerRef event ((hsame event).mp hevent)
  rounds := hkept.rounds
  sessions := hkept.sessions

theorem deliveryKept_empty : DeliveryKept .empty where
  positive := fun _ hrow => absurd hrow List.not_mem_nil
  taken := nofun
  sequence := Nat.zero_lt_one
  listed := fun _ _ hlisted => absurd hlisted List.not_mem_nil
  waiting := fun _ _ hevent => absurd hevent List.not_mem_nil
  rounds := fun _ => Nat.le_refl 0
  sessions := fun _ => trivial

/-! The steps of a transaction. -/

theorem deliveryKept_takeNumber (hkept : DeliveryKept state) (transaction : String)
    (event : EventObject) : DeliveryKept (deliveryStep state (.takeNumber transaction event)) := by
  simp only [deliveryStep]
  split
  · exact hkept
  · have hsequence : DeliveryKept { state with sequence := state.sequence + 1 } :=
      { hkept with sequence := Nat.succ_pos _ }
    apply hsequence.setAppending
    intro _ _ heq
    cases heq
    exact hkept.sequence

theorem deliveryKept_insert (hkept : DeliveryKept state) (transaction : String) :
    DeliveryKept (deliveryStep state (.insert transaction)) := by
  simp only [deliveryStep]
  split
  · exact hkept
  · next event sequenceNumber htaken =>
    have hnumber := hkept.taken transaction event sequenceNumber htaken
    split
    · exact hkept
    · exact hkept.setAppending nofun
    · next stored next happend =>
      have houtbox : DeliveryKept { state with outbox := next } := by
        rcases rows_appendOpen happend with hrows | hrows
        · apply hkept.setOutbox
          · rw [hrows]
            exact hkept.positive
          · intro other
            rw [mem_committedEvents, mem_committedEvents, hrows]
        · apply hkept.setOutbox
          · intro row hrow
            rw [hrows, List.mem_append, List.mem_singleton] at hrow
            rcases hrow with hold | rfl
            · exact hkept.positive row hold
            · exact hnumber
          · intro other
            rw [mem_committedEvents, mem_committedEvents, hrows, List.mem_append]
            simp
      exact houtbox.setAppending nofun

/-- A rollback takes open rows away. -/
theorem deliveryKept_rollback (hkept : DeliveryKept state) (transaction : String) :
    DeliveryKept (deliveryStep state (.rollback transaction)) := by
  simp only [deliveryStep]
  have houtbox : DeliveryKept { state with outbox := rollbackRows state.outbox transaction } := by
    apply hkept.setOutbox
    · intro row hrow
      exact hkept.positive row (UniqueTable.mem_deleteWhere.mp hrow).1
    · intro event
      rw [mem_committedEvents, mem_committedEvents, rollbackRows, UniqueTable.mem_deleteWhere]
      simp
  exact houtbox.setAppending nofun

theorem rows_commitRows (transaction : String) :
    (commitRows outbox transaction).rows = outbox.rows.map fun row =>
      if row.openIn = some transaction then { row with openIn := none } else row := by
  apply List.map_congr_left
  intro row _
  simp only [decide_eq_true_eq]

/-- What a commit makes visible. -/
theorem mem_committedEvents_commitRows {transaction : String} {event : WorkflowEvent} :
    event ∈ committedEvents (commitRows outbox transaction) ↔
      event ∈ committedEvents outbox ∨
        { event := event, openIn := some transaction } ∈ outbox.rows := by
  rw [mem_committedEvents, mem_committedEvents, rows_commitRows, List.mem_map]
  constructor
  · rintro ⟨⟨found, openIn⟩, hmem, heq⟩
    split at heq
    · next hopen =>
      cases heq
      cases hopen
      exact .inr hmem
    · cases heq
      exact .inl hmem
  · rintro (hmem | hmem)
    · exact ⟨_, hmem, if_neg (by simp)⟩
    · exact ⟨_, hmem, if_pos rfl⟩

theorem deliveryKept_commit (hkept : DeliveryKept state) {transaction : String}
    (hinOrder : InOrder state (.commit transaction)) :
    DeliveryKept (deliveryStep state (.commit transaction)) where
  positive := by
    intro row hrow
    have hrows : row ∈ (commitRows state.outbox transaction).rows := hrow
    rw [rows_commitRows, List.mem_map] at hrows
    obtain ⟨old, hold, rfl⟩ := hrows
    have hpositive := hkept.positive old hold
    split
    · exact hpositive
    · exact hpositive
  taken := hkept.taken
  sequence := hkept.sequence
  listed := by
    intro consumerRef event hlisted
    exact mem_committedEvents_commitRows.mpr (.inl (hkept.listed consumerRef event hlisted))
  waiting := by
    intro consumerRef event hevent
    rcases mem_committedEvents_commitRows.mp hevent with hold | hopen
    · exact hkept.waiting consumerRef event hold
    · exact .inr (lastSeen_lt (hkept.positive _ hopen) (hinOrder _ hopen rfl))
  rounds := hkept.rounds
  sessions := hkept.sessions

/-! The steps of a consumer. -/

theorem deliveryKept_getCursor (hkept : DeliveryKept state) (session consumerRef : String) :
    DeliveryKept (deliveryStep state (.getCursor session consumerRef)) := by
  apply hkept.setSession
  exact ⟨Nat.le_refl _, hkept.rounds consumerRef⟩

/-- What a poll lists extends the history of the consumer without a gap. -/
theorem DeliveryKept.addListed (hkept : DeliveryKept state) {events : List WorkflowEvent}
    (hevents : ∀ event ∈ events, event ∈ committedEvents state.outbox) :
    DeliveryKept { state with
      listed := state.listed ++ events.map fun event => (consumerRef, event) } where
  positive := hkept.positive
  taken := hkept.taken
  sequence := hkept.sequence
  listed := by
    intro other event hlisted
    rcases List.mem_append.mp hlisted with hold | hnew
    · exact hkept.listed other event hold
    · obtain ⟨found, hfound, heq⟩ := List.mem_map.mp hnew
      rw [← (Prod.mk.inj heq).2]
      exact hevents found hfound
  waiting := by
    intro other event hevent
    rcases hkept.waiting other event hevent with hlisted | hahead
    · exact .inl (List.mem_append_left _ hlisted)
    · exact .inr hahead
  rounds := hkept.rounds
  sessions := fun session =>
    (hkept.sessions session).mono (fun _ => Nat.le_refl _) fun _ => List.mem_append_left _

theorem deliveryKept_listEvents (hkept : DeliveryKept state) (session : String) (limit : Int) :
    DeliveryKept (deliveryStep state (.listEvents session limit)) := by
  simp only [deliveryStep]
  split
  · next consumerRef after round hsession =>
    have hposition := hkept.sessions session
    rw [hsession] at hposition
    obtain ⟨hafter, hround⟩ := hposition
    split
    · exact hkept.setSession trivial
    · next events hevents =>
      have hlisted : DeliveryKept { state with
          listed := state.listed ++ events.map fun event => (consumerRef, event) } :=
        hkept.addListed fun event hevent => (mem_listEventsAfter hevents hevent).1
      apply hlisted.setSession
      intro event hevent
      have hpast := (mem_listEventsAfter hevents hevent).2
      refine ⟨by omega, ?_⟩
      intro other hother hle
      -- an event up to the position was listed before, any other one is listed now
      rcases Nat.lt_or_ge after other.sequenceNumber with hahead | hpassed
      · have hnow : other ∈ events :=
          mem_listEventsAfter_of_le hevents hevent hother (by omega) hle
        exact List.mem_append_right _ (List.mem_map_of_mem hnow)
      · exact List.mem_append_left _
          (hkept.listed_of_le hother (Nat.le_trans hpassed hafter))
  · exact hkept

theorem deliveryKept_advanceCursor (hkept : DeliveryKept state) (session : String)
    (event : WorkflowEvent) (updatedAt : Int) :
    DeliveryKept (deliveryStep state (.advanceCursor session event updatedAt)) := by
  simp only [deliveryStep]
  split
  · next consumerRef round events visible hsession =>
    have hprocessing := hkept.sessions session
    rw [hsession] at hprocessing
    split
    · next hevent =>
      split
      · exact hkept.setSession trivial
      · next cursor hcursor =>
        obtain ⟨hconsumer, hnumber⟩ := effectiveCursor_eq_ok hcursor
        apply hkept.setSession
        simp only [SessionKept, hconsumer, hnumber]
        exact hprocessing event hevent
    · exact hkept
  · exact hkept

/-- The events that a written cursor passes are listed. -/
theorem listed_of_saving (hkept : DeliveryKept state) {session : String}
    {cursor : WorkflowEventCursor} {round : Nat} {visible : List WorkflowEvent}
    (hsession : state.sessions session = .saving cursor round visible)
    (hinOrder : InOrder state (.writeCursor session)) {event : WorkflowEvent}
    (hevent : event ∈ committedEvents state.outbox)
    (hle : event.sequenceNumber ≤ cursor.lastSeenSequenceNumber) :
    (cursor.consumerRef, event) ∈ state.listed := by
  have hsaving := hkept.sessions session
  rw [hsession] at hsaving
  simp only [InOrder, hsession] at hinOrder
  by_cases hvisible : event ∈ visible
  · exact hsaving.2 event hvisible hle
  · exact hinOrder.2 event hevent hvisible hle

/-- A cursor written in order does not fall. -/
theorem lastSeen_le_writeCursor {session : String}
    (hinOrder : InOrder state (.writeCursor session)) (consumerRef : String) :
    lastSeen state.cursors consumerRef ≤
      lastSeen (deliveryStep state (.writeCursor session)).cursors consumerRef := by
  simp only [deliveryStep]
  split
  · next cursor round visible hsession =>
    simp only [InOrder, hsession] at hinOrder
    simp only [Delivery.setSession, lastSeen_upsertCursor]
    split_ifs with hconsumer
    · rw [hconsumer]
      exact hinOrder.1
    · exact Nat.le_refl _
  · exact Nat.le_refl _

theorem deliveryKept_writeCursor (hkept : DeliveryKept state) {session : String}
    (hinOrder : InOrder state (.writeCursor session)) :
    DeliveryKept (deliveryStep state (.writeCursor session)) := by
  have hrises := lastSeen_le_writeCursor hinOrder
  cases hsession : state.sessions session with
  | saving cursor round visible =>
    have hpassed : ∀ event ∈ committedEvents state.outbox,
        event.sequenceNumber ≤ cursor.lastSeenSequenceNumber →
        (cursor.consumerRef, event) ∈ state.listed :=
      fun event hevent hle => listed_of_saving hkept hsession hinOrder hevent hle
    have hsaving := hkept.sessions session
    rw [hsession] at hsaving
    obtain ⟨hround, _⟩ := hsaving
    simp only [deliveryStep, hsession] at hrises ⊢
    simp only [Delivery.setSession] at hrises
    have hwritten : DeliveryKept { state with
        cursors := upsertCursor state.cursors cursor
        rounds := Function.update state.rounds cursor.consumerRef
          (max (state.rounds cursor.consumerRef) (round + 1)) } :=
      { positive := hkept.positive
        taken := hkept.taken
        sequence := hkept.sequence
        listed := hkept.listed
        waiting := by
          intro consumerRef event hevent
          simp only [lastSeen_upsertCursor]
          split_ifs with hconsumer
          · rcases Nat.lt_or_ge cursor.lastSeenSequenceNumber event.sequenceNumber with hlt | hle
            · exact .inr hlt
            · rw [hconsumer]
              exact .inl (hpassed event hevent hle)
          · exact hkept.waiting consumerRef event hevent
        rounds := by
          intro consumerRef
          have hrounds := hkept.rounds consumerRef
          have hrise := hrises consumerRef
          dsimp only
          rw [lastSeen_upsertCursor] at hrise ⊢
          rcases eq_or_ne consumerRef cursor.consumerRef with rfl | hne
          · rw [Function.update_self]
            rw [if_pos rfl] at hrise ⊢
            omega
          · rw [Function.update_of_ne hne, if_neg hne]
            exact hrounds
        sessions := fun other => (hkept.sessions other).mono hrises fun _ hlisted => hlisted }
    exact hwritten.setSession trivial
  | idle =>
    simp only [deliveryStep, hsession]
    exact hkept
  | positioned consumerRef after round =>
    simp only [deliveryStep, hsession]
    exact hkept
  | processing consumerRef round events visible =>
    simp only [deliveryStep, hsession]
    exact hkept

/-! A step, and a run. -/

theorem deliveryKept_step (hkept : DeliveryKept state) {step : DeliveryStep}
    (hinOrder : InOrder state step) : DeliveryKept (deliveryStep state step) := by
  cases step with
  | takeNumber transaction event => exact deliveryKept_takeNumber hkept transaction event
  | insert transaction => exact deliveryKept_insert hkept transaction
  | commit transaction => exact deliveryKept_commit hkept hinOrder
  | rollback transaction => exact deliveryKept_rollback hkept transaction
  | getCursor session consumerRef => exact deliveryKept_getCursor hkept session consumerRef
  | listEvents session limit => exact deliveryKept_listEvents hkept session limit
  | advanceCursor session event updatedAt =>
    exact deliveryKept_advanceCursor hkept session event updatedAt
  | writeCursor session => exact deliveryKept_writeCursor hkept hinOrder

/-- Only `writeCursor` writes the cursors. -/
theorem cursors_deliveryStep {step : DeliveryStep}
    (hstep : ∀ session, step ≠ .writeCursor session) :
    (deliveryStep state step).cursors = state.cursors := by
  cases step with
  | takeNumber transaction event =>
    simp only [deliveryStep]
    split <;> rfl
  | insert transaction =>
    simp only [deliveryStep]
    split
    · rfl
    · split <;> rfl
  | commit transaction => rfl
  | rollback transaction => rfl
  | getCursor session consumerRef => rfl
  | listEvents session limit =>
    simp only [deliveryStep]
    split
    · split <;> rfl
    · rfl
  | advanceCursor session event updatedAt =>
    simp only [deliveryStep]
    split
    · split
      · split <;> rfl
      · rfl
    · rfl
  | writeCursor session => exact absurd rfl (hstep session)

theorem lastSeen_le_step {step : DeliveryStep} (hinOrder : InOrder state step)
    (consumerRef : String) :
    lastSeen state.cursors consumerRef ≤
      lastSeen (deliveryStep state step).cursors consumerRef := by
  by_cases hwrites : ∃ session, step = .writeCursor session
  · obtain ⟨session, rfl⟩ := hwrites
    exact lastSeen_le_writeCursor hinOrder consumerRef
  · rw [cursors_deliveryStep fun session heq => hwrites ⟨session, heq⟩]

/-- A waiting event comes after every position that a consumer took. -/
theorem DeliveryKept.listsWaiting (hkept : DeliveryKept state) (step : DeliveryStep) :
    ListsWaiting state step := by
  cases step with
  | listEvents session limit =>
    have hposition := hkept.sessions session
    simp only [ListsWaiting]
    cases hsession : state.sessions session with
    | positioned consumerRef after round =>
      rw [hsession] at hposition
      obtain ⟨hafter, _⟩ := hposition
      rintro events hevents ⟨event, hevent, hunlisted⟩
      rcases hkept.waiting consumerRef event hevent with hlisted | hahead
      · exact absurd hlisted hunlisted
      · exact listEventsAfter_ne_nil hevents hevent (by omega)
    | idle | processing _ _ _ _ | saving _ _ _ => trivial
  | takeNumber _ _ | insert _ | commit _ | rollback _ | getCursor _ _ | advanceCursor _ _ _
  | writeCursor _ => trivial

theorem delivers_of_inOrder (hkept : DeliveryKept state) {step : DeliveryStep}
    (hinOrder : InOrder state step) : Delivers state step :=
  ⟨(deliveryKept_step hkept hinOrder).noneSkipped, hkept.listsWaiting step,
    lastSeen_le_step hinOrder⟩

/-- A step out of order skips an event or moves a cursor back. -/
theorem inOrder_of_delivers (hkept : DeliveryKept state) {step : DeliveryStep}
    (hdelivers : Delivers state step) : InOrder state step := by
  obtain ⟨hnone, _, hrises⟩ := hdelivers
  cases step with
  | commit transaction =>
    intro row hrow hopen cursor hcursor
    obtain ⟨event, openIn⟩ := row
    cases hopen
    have hevent : event ∈ committedEvents (commitRows state.outbox transaction) :=
      mem_committedEvents_commitRows.mpr (.inr hrow)
    rcases hnone cursor.consumerRef event hevent with hlisted | ⟨hahead, _⟩
    · -- a listed event is committed, and this one was open
      have hcommitted := hkept.listed cursor.consumerRef event hlisted
      rw [mem_committedEvents] at hcommitted
      cases state.outbox.eq_of_key_eq hcommitted hrow rfl
    · rw [← lastSeen_of_mem hcursor]
      exact hahead
  | writeCursor session =>
    simp only [InOrder]
    cases hsession : state.sessions session with
    | saving cursor round visible =>
      have hcursors : (deliveryStep state (.writeCursor session)).cursors =
          upsertCursor state.cursors cursor := by
        simp only [deliveryStep, hsession]
        rfl
      have hwritten : lastSeen (deliveryStep state (.writeCursor session)).cursors
          cursor.consumerRef = cursor.lastSeenSequenceNumber := by
        rw [hcursors, lastSeen_upsertCursor, if_pos rfl]
      have hsame : (deliveryStep state (.writeCursor session)).outbox = state.outbox ∧
          (deliveryStep state (.writeCursor session)).listed = state.listed := by
        simp only [deliveryStep, hsession]
        exact ⟨rfl, rfl⟩
      constructor
      · rw [← hwritten]
        exact hrises cursor.consumerRef
      · intro event hevent _ hle
        rw [← hsame.1] at hevent
        rcases hnone cursor.consumerRef event hevent with hlisted | ⟨hahead, _⟩
        · rw [← hsame.2]
          exact hlisted
        · omega
    | idle | positioned _ _ _ | processing _ _ _ _ => trivial
  | takeNumber _ _ | insert _ | rollback _ | getCursor _ _ | listEvents _ _
  | advanceCursor _ _ _ => trivial

/-- In every run of transactions and consumers, no event is skipped and no cursor
falls exactly while transactions commit, and cursors are written, in order. -/
theorem delivers_iff (steps : List DeliveryStep) :
    EveryStep deliveryStep Delivers .empty steps ↔
      EveryStep deliveryStep InOrder .empty steps := by
  constructor
  · intro h
    have hstep : ∀ state step, DeliveryKept state → Delivers state step →
        DeliveryKept (deliveryStep state step) :=
      fun _ _ hkept hdelivers => deliveryKept_step hkept (inOrder_of_delivers hkept hdelivers)
    exact h.of_invariant hstep (fun _ _ hkept => inOrder_of_delivers hkept) deliveryKept_empty
  · intro h
    have hstep : ∀ state step, DeliveryKept state → InOrder state step →
        DeliveryKept (deliveryStep state step) :=
      fun _ _ hkept hinOrder => deliveryKept_step hkept hinOrder
    exact h.of_invariant hstep (fun _ _ hkept => delivers_of_inOrder hkept) deliveryKept_empty

def appendedEvent (eventId : String) : EventObject where
  eventId := eventId
  eventType := "ClaimBuilderDispatchBatchPreparedZero"
  workflowRunId := "run"
  payload := []
  occurredAt := 1
  causationCommandId := none
  correlationId := none

/-- The transaction with the smaller number commits after a consumer saved the
larger one. -/
def lateCommit : List DeliveryStep :=
  [.takeNumber "slow" (appendedEvent "first"), .insert "slow",
    .takeNumber "fast" (appendedEvent "second"), .insert "fast", .commit "fast",
    .getCursor "session" "consumer-1", .listEvents "session" 10,
    .advanceCursor "session" ((appendedEvent "second").stored 2) 5, .writeCursor "session",
    .commit "slow"]

/-- Two sessions of one consumer read its cursor before either writes it. -/
def concurrentSaves : List DeliveryStep :=
  [.takeNumber "writer" (appendedEvent "first"), .insert "writer",
    .takeNumber "writer" (appendedEvent "second"), .insert "writer", .commit "writer",
    .getCursor "slow" "consumer-1", .getCursor "fast" "consumer-1",
    .listEvents "slow" 1, .listEvents "fast" 10,
    .advanceCursor "slow" ((appendedEvent "first").stored 1) 5,
    .advanceCursor "fast" ((appendedEvent "second").stored 2) 5, .writeCursor "fast",
    .writeCursor "slow"]

/-- The late event is behind the cursor and was never listed, and the slow session
moves the cursor back from the second event to the first. -/
theorem lateCommit_concurrentSaves_not_delivers :
    (∃ event ∈ committedEvents (lateCommit.foldl deliveryStep .empty).outbox,
      ("consumer-1", event) ∉ (lateCommit.foldl deliveryStep .empty).listed ∧
        event.sequenceNumber <
          lastSeen (lateCommit.foldl deliveryStep .empty).cursors "consumer-1") ∧
      lastSeen (concurrentSaves.foldl deliveryStep .empty).cursors "consumer-1" <
        lastSeen (concurrentSaves.dropLast.foldl deliveryStep .empty).cursors "consumer-1" ∧
      ¬ EveryStep deliveryStep Delivers .empty lateCommit ∧
      ¬ EveryStep deliveryStep Delivers .empty concurrentSaves := by
  have hlisted : (lateCommit.foldl deliveryStep .empty).listed =
      [("consumer-1", (appendedEvent "second").stored 2)] := rfl
  have hcommitted : committedEvents (lateCommit.foldl deliveryStep .empty).outbox =
      [(appendedEvent "first").stored 1, (appendedEvent "second").stored 2] := rfl
  have hlate : lastSeen (lateCommit.foldl deliveryStep .empty).cursors "consumer-1" = 2 := rfl
  have hbefore : lastSeen (concurrentSaves.dropLast.foldl deliveryStep .empty).cursors
      "consumer-1" = 2 := rfl
  have hafter : lastSeen (concurrentSaves.foldl deliveryStep .empty).cursors "consumer-1" = 1 :=
    rfl
  have hskipped : ("consumer-1", (appendedEvent "first").stored 1) ∉
      (lateCommit.foldl deliveryStep .empty).listed := by
    rw [hlisted, List.mem_singleton]
    intro heq
    have hnumbers : (1 : Nat) = 2 :=
      congrArg (fun entry : String × WorkflowEvent => entry.2.sequenceNumber) heq
    omega
  have hvisible : (appendedEvent "first").stored 1 ∈
      committedEvents (lateCommit.foldl deliveryStep .empty).outbox := by
    rw [hcommitted]
    exact List.mem_cons_self
  refine ⟨⟨_, hvisible, hskipped, ?_⟩, ?_, ?_, ?_⟩
  · rw [hlate]
    exact Nat.one_lt_two
  · rw [hbefore, hafter]
    exact Nat.one_lt_two
  · intro h
    have hsplit : EveryStep deliveryStep Delivers .empty
        (lateCommit.dropLast ++ [.commit "slow"]) := h
    obtain ⟨_, ⟨hnone, _⟩, _⟩ := everyStep_append.mp hsplit
    rcases hnone "consumer-1" _ hvisible with hfound | ⟨hahead, _⟩
    · exact hskipped hfound
    · exact absurd hahead (Nat.not_lt.mpr (Nat.le_succ 1))
  · intro h
    have hsplit : EveryStep deliveryStep Delivers .empty
        (concurrentSaves.dropLast ++ [.writeCursor "slow"]) := h
    obtain ⟨_, ⟨_, _, hrises⟩, _⟩ := everyStep_append.mp hsplit
    have hfalls : 2 ≤ 1 := hrises "consumer-1"
    omega

end CrmBot.WorkflowRuntime
