import CrmBot.Library.Runs
import Mathlib.Data.Finset.Card

/-! The handlers of client messages, and the keys in Redis that guard them: the lock of a
thread, the request counters of a project and the slots of its threads.

Every call to Redis is a step of its own, so that the handlers interleave between any two
calls. -/

namespace CrmBot.RuntimeGuards

/-- The limits of the profile of a project. -/
structure ProjectRuntimeProfile where
  requestsPerMinute : Option ℕ
  maxConcurrentThreads : Option ℕ

/-- The requests of a minute, with the second in which the key expires. -/
structure RequestCounter where
  count : ℕ
  deadline : Option ℕ

/-- The keys of the guards. Of a lock and of a slot only the second matters in which the key
expires. -/
structure GuardStore (ThreadId : Type*) where
  now : ℕ
  locks : ThreadId → Option ℕ
  requests : ℕ → Option RequestCounter
  slots : ThreadId → Option ℕ
  activeThreads : Finset ThreadId
  activeDeadline : Option ℕ

/-- `ttl` of `acquire_thread_lock`. -/
def lockSeconds : ℕ := 30

/-- The seconds after which the keys of `ProjectRuntimeGuards` expire. -/
def guardSeconds : ℕ := 70

/-! Calls. -/

section Calls

variable {ThreadId : Type*} [DecidableEq ThreadId] (store : GuardStore ThreadId)

def GuardStore.setLock (thread : ThreadId) : GuardStore ThreadId :=
  { store with locks := Function.update store.locks thread (some (store.now + lockSeconds)) }

def GuardStore.deleteLock (thread : ThreadId) : GuardStore ThreadId :=
  { store with locks := Function.update store.locks thread none }

def GuardStore.requestCount (minute : ℕ) : ℕ :=
  ((store.requests minute).map RequestCounter.count).getD 0

def GuardStore.incrRequests (minute : ℕ) : GuardStore ThreadId :=
  { store with
    requests := Function.update store.requests minute
      (some ⟨store.requestCount minute + 1, (store.requests minute).bind RequestCounter.deadline⟩) }

def GuardStore.expireRequests (minute : ℕ) : GuardStore ThreadId :=
  { store with
    requests := Function.update store.requests minute
      ((store.requests minute).map fun counter =>
        { counter with deadline := some (store.now + guardSeconds) }) }

def GuardStore.setSlot (thread : ThreadId) : GuardStore ThreadId :=
  { store with slots := Function.update store.slots thread (some (store.now + guardSeconds)) }

def GuardStore.expireSlot (thread : ThreadId) : GuardStore ThreadId :=
  if (store.slots thread).isSome then store.setSlot thread else store

def GuardStore.deleteSlot (thread : ThreadId) : GuardStore ThreadId :=
  { store with slots := Function.update store.slots thread none }

def GuardStore.addThread (thread : ThreadId) : GuardStore ThreadId :=
  { store with activeThreads := insert thread store.activeThreads }

/-- `srem`: a set that is left empty is deleted with its deadline. -/
def GuardStore.removeThread (thread : ThreadId) : GuardStore ThreadId :=
  { store with
    activeThreads := store.activeThreads.erase thread
    activeDeadline := if store.activeThreads.erase thread = ∅ then none else store.activeDeadline }

def GuardStore.expireThreads : GuardStore ThreadId :=
  if store.activeThreads = ∅ then store
  else { store with activeDeadline := some (store.now + guardSeconds) }

/-- One second passes, and the keys whose second it is expire. -/
def GuardStore.tick : GuardStore ThreadId :=
  let now := store.now + 1
  { now := now
    locks := fun thread => (store.locks thread).filter fun deadline => now < deadline
    requests := fun minute => (store.requests minute).filter fun counter =>
      counter.deadline.all fun deadline => now < deadline
    slots := fun thread => (store.slots thread).filter fun deadline => now < deadline
    activeThreads :=
      if store.activeDeadline.all fun deadline => now < deadline then store.activeThreads else ∅
    activeDeadline := store.activeDeadline.filter fun deadline => now < deadline }

end Calls

/-! Handlers. -/

/-- Where a handler that holds the lock of its thread is: the call that it makes next. -/
inductive Place
  | loading
  | allowing (minute : ℕ)
  | expiring (minute : ℕ)
  | checking
  | refreshingSlot
  | refreshingThreads
  | adding
  | marking
  | counting
  | lasting (activeCount : ℕ)
  | withdrawing
  | unmarking
  | processing
  | releasing
  | releasingSlot
  | unlocking
  deriving DecidableEq

structure Handler (ThreadId : Type*) where
  thread : ThreadId
  since : ℕ
  profile : ProjectRuntimeProfile
  place : Place

section Handlers

variable {ThreadId : Type*} [DecidableEq ThreadId] (handler : Handler ThreadId)

def Handler.go (place : Place) : Handler ThreadId := { handler with place := place }

/-- The start of `try_acquire_thread_slot`. -/
def Handler.acquireSlot : Handler ThreadId :=
  handler.go (if handler.profile.maxConcurrentThreads.isNone then .processing else .checking)

/-- The end of `allow_request`. -/
def Handler.allowRequest (current : ℕ) : Handler ThreadId :=
  if handler.profile.requestsPerMinute.all fun limit => current ≤ limit then handler.acquireSlot
  else handler.go .unlocking

/-- The next call of a handler, and the place that it leads to. -/
def Handler.call (store : GuardStore ThreadId) : GuardStore ThreadId × Option (Handler ThreadId) :=
  match handler.place with
  | .loading =>
    (store, some (if handler.profile.requestsPerMinute.isNone then handler.acquireSlot
      else handler.go (.allowing (store.now / 60))))
  | .allowing minute =>
    (store.incrRequests minute, some (
      if store.requestCount minute + 1 = 1 then handler.go (.expiring minute)
      else handler.allowRequest (store.requestCount minute + 1)))
  | .expiring minute => (store.expireRequests minute, some (handler.allowRequest 1))
  | .checking =>
    (store, some (handler.go
      (if (store.slots handler.thread).isSome then .refreshingSlot else .adding)))
  | .refreshingSlot => (store.expireSlot handler.thread, some (handler.go .refreshingThreads))
  | .refreshingThreads => (store.expireThreads, some (handler.go .processing))
  | .adding => (store.addThread handler.thread, some (handler.go .marking))
  | .marking => (store.setSlot handler.thread, some (handler.go .counting))
  | .counting => (store, some (handler.go (.lasting store.activeThreads.card)))
  | .lasting activeCount =>
    (store.expireThreads, some (handler.go
      (if handler.profile.maxConcurrentThreads.all fun limit => activeCount ≤ limit then .processing
        else .withdrawing)))
  | .withdrawing => (store.removeThread handler.thread, some (handler.go .unmarking))
  | .unmarking => (store.deleteSlot handler.thread, some (handler.go .unlocking))
  | .processing => (store, some (handler.go .releasing))
  | .releasing => (store.removeThread handler.thread, some (handler.go .releasingSlot))
  | .releasingSlot => (store.deleteSlot handler.thread, some (handler.go .unlocking))
  | .unlocking => (store.deleteLock handler.thread, none)

/-- Where a handler goes on when its call raises: the guards fail closed. -/
def Place.afterFailure : Place → Option Place
  | .processing => some .releasing
  | .unlocking => none
  | _ => some .unlocking

end Handlers

/-! Runs. -/

structure GuardState (HandlerId ThreadId : Type*) where
  store : GuardStore ThreadId
  handlers : HandlerId → Option (Handler ThreadId)

/-- What happens: a message arrives, a handler makes its next call, the call raises (before it
takes effect or after), the process of a handler dies, a second passes. -/
inductive GuardEvent (HandlerId ThreadId : Type*)
  | arrive (id : HandlerId) (thread : ThreadId) (profile : ProjectRuntimeProfile)
  | call (id : HandlerId)
  | fail (id : HandlerId) (applied : Bool)
  | crash (id : HandlerId)
  | tick

section Runs

variable {HandlerId ThreadId : Type*} [DecidableEq HandlerId] [DecidableEq ThreadId]

/-- `acquire_thread_lock` of a message, and the steps of `_process_locked_message`. -/
def perform (state : GuardState HandlerId ThreadId) :
    GuardEvent HandlerId ThreadId → GuardState HandlerId ThreadId
  | .arrive id thread profile =>
    if (state.handlers id).isSome ∨ (state.store.locks thread).isSome then state
    else
      { store := state.store.setLock thread
        handlers := Function.update state.handlers id
          (some ⟨thread, state.store.now, profile, .loading⟩) }
  | .call id =>
    match state.handlers id with
    | none => state
    | some handler =>
      { store := (handler.call state.store).1
        handlers := Function.update state.handlers id (handler.call state.store).2 }
  | .fail id applied =>
    match state.handlers id with
    | none => state
    | some handler =>
      { store := if applied then (handler.call state.store).1 else state.store
        handlers := Function.update state.handlers id
          (handler.place.afterFailure.map handler.go) }
  | .crash id => { state with handlers := Function.update state.handlers id none }
  | .tick => { state with store := state.store.tick }

/-- No key is set and no handler runs. -/
def quietState (now : ℕ) : GuardState HandlerId ThreadId where
  store := ⟨now, fun _ => none, fun _ => none, fun _ => none, ∅, none⟩
  handlers := fun _ => none

end Runs

end CrmBot.RuntimeGuards
