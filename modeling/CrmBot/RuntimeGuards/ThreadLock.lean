import CrmBot.RuntimeGuards.MessageHandler

/-! One handler at a time works on a thread.

The lock of a thread carries no owner, and the handler that ends deletes whatever lock is
there. What keeps the handlers of a thread apart is that each of them ends before its own lock
expires. -/

namespace CrmBot.RuntimeGuards

open Runs

section Handlers

variable {HandlerId ThreadId : Type*} [DecidableEq HandlerId] {handler : Handler ThreadId}

theorem update_eq_some {handlers : HandlerId → Option (Handler ThreadId)} {id other : HandlerId}
    {value : Option (Handler ThreadId)} :
    Function.update handlers id value other = some handler ↔
      other = id ∧ value = some handler ∨ other ≠ id ∧ handlers other = some handler := by
  rw [Function.update_apply]
  split_ifs with h <;> simp [h]

end Handlers

section Places

variable {ThreadId : Type*} {handler : Handler ThreadId}

@[simp] theorem go_thread (place : Place) : (handler.go place).thread = handler.thread := rfl

@[simp] theorem go_since (place : Place) : (handler.go place).since = handler.since := rfl

@[simp] theorem go_profile (place : Place) : (handler.go place).profile = handler.profile := rfl

@[simp] theorem go_place (place : Place) : (handler.go place).place = place := rfl

/-- What a handler is led to by `allow_request`. -/
theorem allowRequest_cases (handler : Handler ThreadId) (current : ℕ) :
    handler.allowRequest current = handler.go .unlocking ∨
      handler.allowRequest current = handler.go .checking ∨
      handler.profile.maxConcurrentThreads = none ∧
        handler.allowRequest current = handler.go .processing := by
  unfold Handler.allowRequest Handler.acquireSlot
  split_ifs with _ hnone
  · exact .inr (.inr ⟨Option.isNone_iff_eq_none.mp hnone, rfl⟩)
  · exact .inr (.inl rfl)
  · exact .inl rfl

end Places

variable {HandlerId ThreadId : Type*} [DecidableEq HandlerId] [DecidableEq ThreadId]
  {thread : ThreadId} {state : GuardState HandlerId ThreadId} {store : GuardStore ThreadId}
  {handler next : Handler ThreadId} {id : HandlerId}

/-! Calls. -/

/-- A call ends a handler that gives its lock back, and leads any other handler to a place. -/
theorem call_eq_go (handler : Handler ThreadId) (store : GuardStore ThreadId) :
    (handler.call store).2 = none ∧ handler.place = .unlocking ∨
      ∃ place, (handler.call store).2 = some (handler.go place) := by
  unfold Handler.call
  cases hplace : handler.place with
  | loading =>
    right
    unfold Handler.acquireSlot
    dsimp only
    split_ifs <;> exact ⟨_, rfl⟩
  | allowing minute =>
    right
    dsimp only
    split_ifs
    · exact ⟨_, rfl⟩
    · rcases allowRequest_cases handler (store.requestCount minute + 1) with
        h | h | ⟨-, h⟩ <;> exact ⟨_, congrArg some h⟩
  | expiring minute =>
    right
    rcases allowRequest_cases handler 1 with h | h | ⟨-, h⟩ <;>
      exact ⟨_, congrArg some h⟩
  | unlocking => exact .inl ⟨rfl, rfl⟩
  | _ => exact .inr ⟨_, rfl⟩

theorem call_now : (handler.call store).1.now = store.now := by
  unfold Handler.call GuardStore.expireSlot GuardStore.expireThreads
  cases handler.place <;> dsimp only <;> first | rfl | (split_ifs <;> rfl)

theorem call_locks (h : handler.place ≠ .unlocking) :
    (handler.call store).1.locks = store.locks := by
  unfold Handler.call GuardStore.expireSlot GuardStore.expireThreads
  cases hplace : handler.place <;> dsimp only <;>
    first | rfl | (split_ifs <;> rfl) | exact absurd hplace h

theorem call_locks_of_ne (h : handler.thread ≠ thread) :
    (handler.call store).1.locks thread = store.locks thread := by
  by_cases hplace : handler.place = .unlocking
  · rw [Handler.call, hplace]
    exact Function.update_of_ne (Ne.symm h) _ _
  · rw [call_locks hplace]

/-! The lock. -/

/-- No handler of the thread outlives its lock. -/
def TimelyOn (thread : ThreadId) (state : GuardState HandlerId ThreadId)
    (event : GuardEvent HandlerId ThreadId) : Prop :=
  event = .tick → ∀ id handler, state.handlers id = some handler → handler.thread = thread →
    state.store.now + 1 < handler.since + lockSeconds

/-- The lock of the thread belongs to the only handler that works on it. -/
structure LockKept (thread : ThreadId) (state : GuardState HandlerId ThreadId) : Prop where
  held : ∀ id handler, state.handlers id = some handler → handler.thread = thread →
    state.store.locks thread = some (handler.since + lockSeconds)
  alone : ∀ id other handler next, state.handlers id = some handler →
    state.handlers other = some next → handler.thread = thread → next.thread = thread → id = other

omit [DecidableEq ThreadId] in
/-- A handler that goes on keeps its lock, and one that ends leaves the thread to nobody. -/
theorem LockKept.move (h : LockKept thread state) (hhandler : state.handlers id = some handler)
    {value : Option (Handler ThreadId)}
    (hvalue : ∀ next, value = some next → next.thread = handler.thread ∧
      next.since = handler.since)
    (hlocks : store.locks thread = state.store.locks thread ∨
      handler.thread = thread ∧ value = none) :
    LockKept thread ⟨store, Function.update state.handlers id value⟩ := by
  refine ⟨?_, ?_⟩
  · intro other next hnext hthread
    rcases update_eq_some.mp hnext with ⟨rfl, hsome⟩ | ⟨hne, hsome⟩
    · obtain ⟨hsame, hsince⟩ := hvalue next hsome
      rcases hlocks with hlocks | ⟨-, hnone⟩
      · rw [hlocks, hsince]
        exact h.held _ handler hhandler (hsame.symm.trans hthread)
      · rw [hnone] at hsome
        cases hsome
    · rcases hlocks with hlocks | ⟨hmine, -⟩
      · rw [hlocks]
        exact h.held other next hsome hthread
      · exact absurd (h.alone other id next handler hsome hhandler hthread hmine) hne
  · have hold {other : HandlerId} {next : Handler ThreadId}
        (hnext : Function.update state.handlers id value other = some next)
        (hthread : next.thread = thread) :
        ∃ old, state.handlers other = some old ∧ old.thread = thread := by
      rcases update_eq_some.mp hnext with ⟨rfl, hsome⟩ | ⟨-, hsome⟩
      · exact ⟨handler, hhandler, (hvalue next hsome).1.symm.trans hthread⟩
      · exact ⟨next, hsome, hthread⟩
    intro first second one two hone htwo hfirst hsecond
    obtain ⟨oldOne, hone, hfirst⟩ := hold hone hfirst
    obtain ⟨oldTwo, htwo, hsecond⟩ := hold htwo hsecond
    exact h.alone first second oldOne oldTwo hone htwo hfirst hsecond

theorem LockKept.call (h : LockKept thread state) (id : HandlerId) :
    LockKept thread (perform state (.call id)) := by
  simp only [perform]
  cases hhandler : state.handlers id with
  | none => exact h
  | some handler =>
    have hgoes := call_eq_go handler state.store
    refine h.move hhandler ?_ ?_
    · intro next hnext
      rcases hgoes with ⟨hnone, -⟩ | ⟨place, hgo⟩
      · rw [hnone] at hnext
        cases hnext
      · rw [hgo] at hnext
        cases hnext
        exact ⟨rfl, rfl⟩
    · by_cases hmine : handler.thread = thread
      · rcases hgoes with ⟨hnone, -⟩ | ⟨place, hgo⟩
        · exact .inr ⟨hmine, hnone⟩
        · left
          rw [call_locks]
          intro hplace
          rw [Handler.call, hplace] at hgo
          cases hgo
      · exact .inl (call_locks_of_ne hmine)

theorem LockKept.fail (h : LockKept thread state) (id : HandlerId) (applied : Bool) :
    LockKept thread (perform state (.fail id applied)) := by
  simp only [perform]
  cases hhandler : state.handlers id with
  | none => exact h
  | some handler =>
    refine h.move hhandler ?_ ?_
    · intro next hnext
      obtain ⟨place, -, rfl⟩ := Option.map_eq_some_iff.mp hnext
      exact ⟨rfl, rfl⟩
    · split_ifs
      · by_cases hmine : handler.thread = thread
        · by_cases hplace : handler.place = .unlocking
          · exact .inr ⟨hmine, by rw [hplace]; rfl⟩
          · exact .inl (by rw [call_locks hplace])
        · exact .inl (call_locks_of_ne hmine)
      · exact .inl rfl

theorem LockKept.crash (h : LockKept thread state) (id : HandlerId) :
    LockKept thread (perform state (.crash id)) := by
  simp only [perform]
  cases hhandler : state.handlers id with
  | none => rwa [← hhandler, Function.update_eq_self]
  | some handler =>
    refine h.move hhandler (fun next hnext => ?_) (.inl rfl)
    cases hnext

/-- A message takes the lock only when nobody has it. -/
theorem LockKept.arrive (h : LockKept thread state) (id : HandlerId) (other : ThreadId)
    (profile : ProjectRuntimeProfile) :
    LockKept thread (perform state (.arrive id other profile)) := by
  simp only [perform]
  split_ifs with htaken
  · exact h
  obtain ⟨hidle, hfree⟩ := not_or.mp htaken
  simp only [Option.not_isSome_iff_eq_none] at hidle hfree
  by_cases hmine : other = thread
  · subst hmine
    -- Nobody works on the thread, as the lock would be held.
    have hnobody {id : HandlerId} {handler : Handler ThreadId}
        (hhandler : state.handlers id = some handler) : handler.thread ≠ other := by
      intro hthread
      rw [h.held id handler hhandler hthread] at hfree
      cases hfree
    have honly {first : HandlerId} {one : Handler ThreadId}
        (hone : Function.update state.handlers id
          (some ⟨other, state.store.now, profile, .loading⟩) first = some one)
        (hthread : one.thread = other) :
        first = id ∧ one = ⟨other, state.store.now, profile, .loading⟩ := by
      rcases update_eq_some.mp hone with ⟨hid, hsome⟩ | ⟨-, hsome⟩
      · exact ⟨hid, (Option.some.inj hsome).symm⟩
      · exact absurd hthread (hnobody hsome)
    refine ⟨fun first one hone hthread => ?_, ?_⟩
    · obtain ⟨-, rfl⟩ := honly hone hthread
      exact Function.update_self _ _ _
    · intro first second one two hone htwo hfirst hsecond
      exact (honly hone hfirst).1.trans (honly htwo hsecond).1.symm
  · have hold {first : HandlerId} {one : Handler ThreadId}
        (hone : Function.update state.handlers id
          (some ⟨other, state.store.now, profile, .loading⟩) first = some one)
        (hthread : one.thread = thread) : state.handlers first = some one := by
      rcases update_eq_some.mp hone with ⟨-, hsome⟩ | ⟨-, hsome⟩
      · cases hsome
        exact absurd hthread hmine
      · exact hsome
    refine ⟨fun first one hone hthread => ?_, ?_⟩
    · rw [← h.held first one (hold hone hthread) hthread]
      exact Function.update_of_ne (Ne.symm hmine) _ _
    · intro first second one two hone htwo hfirst hsecond
      exact h.alone first second one two (hold hone hfirst) (hold htwo hsecond) hfirst hsecond

theorem LockKept.tick (h : LockKept thread state) (htimely : TimelyOn thread state .tick) :
    LockKept thread (perform state .tick) := by
  refine ⟨fun id handler hhandler hthread => ?_, h.alone⟩
  have hheld := h.held id handler hhandler hthread
  change (state.store.locks thread).filter (fun deadline => state.store.now + 1 < deadline) = _
  rw [hheld, Option.filter_some, if_pos]
  exact decide_eq_true (htimely rfl id handler hhandler hthread)

theorem LockKept.perform {event : GuardEvent HandlerId ThreadId} (h : LockKept thread state)
    (htimely : TimelyOn thread state event) : LockKept thread (perform state event) := by
  cases event with
  | arrive id other profile => exact h.arrive id other profile
  | call id => exact h.call id
  | fail id applied => exact h.fail id applied
  | crash id => exact h.crash id
  | tick => exact h.tick htimely

omit [DecidableEq HandlerId] [DecidableEq ThreadId] in
theorem quietState_lockKept (thread : ThreadId) (now : ℕ) :
    LockKept thread (quietState now : GuardState HandlerId ThreadId) where
  held _ _ h := by cases h
  alone _ _ _ _ h := by cases h

/-- The handlers that work on a thread. -/
def workers (state : GuardState HandlerId ThreadId) (thread : ThreadId) : Set HandlerId :=
  {id | ∃ handler, state.handlers id = some handler ∧ handler.thread = thread}

/-- At most one handler works on a thread at a time, however the handlers interleave, fail or
die, as long as none of the thread outlives its lock. -/
theorem one_handler_per_thread {events : List (GuardEvent HandlerId ThreadId)} {now : ℕ}
    (htimely : EveryStep perform (TimelyOn thread) (quietState now) events) :
    (workers (events.foldl perform (quietState now)) thread).Subsingleton := by
  have hkept : LockKept thread (events.foldl perform (quietState now)) :=
    htimely.invariant (fun state event => LockKept.perform) (quietState_lockKept thread now)
  rintro id ⟨handler, hhandler, hthread⟩ other ⟨next, hnext, hsame⟩
  exact hkept.alone id other handler next hhandler hnext hthread hsame

/-! Two messages of one thread. -/

/-- The second message finds the lock taken until the first one is done. -/
def messagesInTurn : List (GuardEvent ℕ ℕ) :=
  [.arrive 1 10 ⟨none, none⟩, .arrive 2 10 ⟨none, none⟩, .tick, .call 1, .call 1, .call 1, .call 1,
    .call 1, .arrive 3 10 ⟨none, none⟩]

theorem messagesInTurn_timely :
    EveryStep perform (TimelyOn 10) (quietState 0) messagesInTurn := by
  have hother {state : GuardState ℕ ℕ} {event : GuardEvent ℕ ℕ} (h : event ≠ .tick) :
      TimelyOn 10 state event := fun htick => absurd htick h
  refine ⟨hother (by simp), hother (by simp), ?_, hother (by simp), hother (by simp),
    hother (by simp), hother (by simp), hother (by simp), hother (by simp), trivial⟩
  rintro - id handler hhandler -
  rcases update_eq_some.mp hhandler with ⟨-, hsome⟩ | ⟨-, hsome⟩
  · cases hsome
    decide
  · cases hsome

theorem one_handler_per_thread_inTurn :
    (workers (messagesInTurn.foldl perform (quietState 0)) 10).Subsingleton :=
  one_handler_per_thread messagesInTurn_timely

end CrmBot.RuntimeGuards
