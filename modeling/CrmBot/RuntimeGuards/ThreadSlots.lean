import CrmBot.RuntimeGuards.ThreadLock
import Mathlib.Data.Set.Card

/-! No more threads are worked on than the project allows.

A handler puts its thread into the set of active threads first and counts the set afterwards,
so that of two handlers which come at once the later count sees both. A handler that finds a
slot of its thread does not count: it relies on the one that set the slot. -/

namespace CrmBot.RuntimeGuards

open Runs

variable {HandlerId ThreadId : Type*} [DecidableEq HandlerId] [DecidableEq ThreadId]

/-- A handler is in the middle of changing its slot: the slot and the set of active threads may
not agree. -/
def Place.changesSlot : Place → Bool
  | .refreshingSlot | .refreshingThreads | .marking | .counting | .lasting _ | .withdrawing
  | .unmarking | .releasingSlot => true
  | _ => false

/-- The call of a handler starts to change its slot. -/
def Place.startsChange : Place → Bool
  | .adding | .releasing => true
  | _ => false

/-- Handlers end in time and have a limit, and a change of a slot is made without a second that
passes or a call that fails in between. -/
def Orderly (limit : ℕ) (state : GuardState HandlerId ThreadId) :
    GuardEvent HandlerId ThreadId → Prop
  | .arrive _ _ profile => ∃ own ∈ profile.maxConcurrentThreads, own ≤ limit
  | .call _ => True
  | .fail id applied => ∀ handler, state.handlers id = some handler →
      handler.place.changesSlot = false ∧ (applied = true → handler.place.startsChange = false)
  | .crash id => ∀ handler, state.handlers id = some handler → handler.place.changesSlot = false
  | .tick => ∀ id handler, state.handlers id = some handler →
      state.store.now + 1 < handler.since + lockSeconds ∧ handler.place.changesSlot = false

/-- What holds of a handler at its place. -/
def Placed (store : GuardStore ThreadId) (counted : Finset ThreadId)
    (handler : Handler ThreadId) : Prop :=
  match handler.place with
  | .refreshingSlot | .refreshingThreads => handler.thread ∈ counted
  | .processing | .releasing => handler.thread ∈ counted ∧
      ∀ deadline, store.activeDeadline = some deadline → handler.since + guardSeconds ≤ deadline
  | .marking | .counting => handler.thread ∈ store.activeThreads
  | .lasting activeCount => handler.thread ∈ store.activeThreads ∧
      ((handler.profile.maxConcurrentThreads.all fun limit => activeCount ≤ limit) = true →
        handler.thread ∈ counted)
  | _ => True

/-- The slots are backed by a set of threads that were counted within the limit. -/
structure Counted (limit : ℕ) (state : GuardState HandlerId ThreadId)
    (counted : Finset ThreadId) : Prop where
  subset : counted ⊆ state.store.activeThreads
  card_le : counted.card ≤ limit
  placed : ∀ id handler, state.handlers id = some handler →
    Placed state.store counted handler
  backed : ∀ thread deadline, state.store.slots thread = some deadline →
    (∃ id handler, state.handlers id = some handler ∧ handler.thread = thread ∧
      handler.place.changesSlot = true) ∨
    thread ∈ counted ∧ ∀ last, state.store.activeDeadline = some last → deadline ≤ last
  slot_le : ∀ thread deadline, state.store.slots thread = some deadline →
    deadline ≤ state.store.now + guardSeconds
  since_le : ∀ id handler, state.handlers id = some handler → handler.since ≤ state.store.now
  limited : ∀ id handler, state.handlers id = some handler →
    ∃ own ∈ handler.profile.maxConcurrentThreads, own ≤ limit

variable {limit : ℕ} {state : GuardState HandlerId ThreadId} {store : GuardStore ThreadId}
  {counted more : Finset ThreadId} {handler next : Handler ThreadId} {id : HandlerId}

/-! Moves. -/

omit [DecidableEq HandlerId] [DecidableEq ThreadId] in
theorem Placed.mono (h : Placed state.store counted handler)
    (hcounted : handler.thread ∈ counted → handler.thread ∈ more)
    (hactive : handler.thread ∈ state.store.activeThreads → handler.thread ∈ store.activeThreads)
    (hlast : ∀ last, store.activeDeadline = some last →
      state.store.activeDeadline = some last ∨ last = state.store.now + guardSeconds)
    (hsince : handler.since ≤ state.store.now) : Placed store more handler := by
  unfold Placed at h ⊢
  have hlong (hold : ∀ deadline, state.store.activeDeadline = some deadline →
      handler.since + guardSeconds ≤ deadline) (last : ℕ)
      (hnew : store.activeDeadline = some last) : handler.since + guardSeconds ≤ last := by
    rcases hlast last hnew with hsame | hnow
    · exact hold last hsame
    · omega
  cases hplace : handler.place <;> simp only [hplace] at h ⊢
  case refreshingSlot => exact hcounted h
  case refreshingThreads => exact hcounted h
  case marking => exact hactive h
  case counting => exact hactive h
  case lasting activeCount => exact ⟨hactive h.1, fun hwithin => hcounted (h.2 hwithin)⟩
  case processing => exact ⟨hcounted h.1, hlong h.2⟩
  case releasing => exact ⟨hcounted h.1, hlong h.2⟩

/-- A handler that goes on changes the slot of its own thread only. -/
theorem Counted.move (h : Counted limit state counted) (hkept : ∀ thread, LockKept thread state)
    (hhandler : state.handlers id = some handler) {value : Option (Handler ThreadId)}
    (hvalue : ∀ next, value = some next → ∃ place, next = handler.go place)
    (hnow : store.now = state.store.now)
    (hsubset : more ⊆ store.activeThreads) (hcard : more.card ≤ limit)
    (hcounted : ∀ thread ≠ handler.thread, thread ∈ counted → thread ∈ more)
    (hactive : ∀ thread ≠ handler.thread, thread ∈ state.store.activeThreads →
      thread ∈ store.activeThreads)
    (hlast : ∀ last, store.activeDeadline = some last →
      state.store.activeDeadline = some last ∨ last = state.store.now + guardSeconds)
    (hslots : ∀ thread ≠ handler.thread, store.slots thread = state.store.slots thread)
    (hslot : ∀ deadline, store.slots handler.thread = some deadline →
      deadline ≤ state.store.now + guardSeconds ∧
        ((∃ next, value = some next ∧ next.place.changesSlot = true) ∨
          handler.thread ∈ more ∧ ∀ last, store.activeDeadline = some last → deadline ≤ last))
    (hown : ∀ next, value = some next → Placed store more next) :
    Counted limit ⟨store, Function.update state.handlers id value⟩ more where
  subset := hsubset
  card_le := hcard
  placed other next hnext := by
    rcases update_eq_some.mp hnext with ⟨-, hsome⟩ | ⟨hne, hsome⟩
    · exact hown next hsome
    · have hapart : next.thread ≠ handler.thread := fun hthread =>
        hne ((hkept handler.thread).alone other id next handler hsome hhandler hthread rfl)
      exact (h.placed other next hsome).mono (hcounted _ hapart) (hactive _ hapart) hlast
        (h.since_le other next hsome)
  backed thread deadline hdeadline := by
    by_cases hthread : thread = handler.thread
    · subst hthread
      rcases (hslot deadline hdeadline).2 with ⟨next, hsome, hchanges⟩ | hright
      · obtain ⟨place, rfl⟩ := hvalue next hsome
        exact .inl ⟨id, _, update_eq_some.mpr (.inl ⟨rfl, hsome⟩), rfl, hchanges⟩
      · exact .inr hright
    · rw [hslots thread hthread] at hdeadline
      rcases h.backed thread deadline hdeadline with ⟨other, next, hsome, hsame, hchanges⟩ |
        ⟨hmem, hlong⟩
      · have hne : other ≠ id := by
          rintro rfl
          rw [hsome] at hhandler
          cases hhandler
          exact hthread hsame.symm
        exact .inl ⟨other, next, update_eq_some.mpr (.inr ⟨hne, hsome⟩), hsame, hchanges⟩
      · refine .inr ⟨hcounted thread hthread hmem, fun last hnew => ?_⟩
        rcases hlast last hnew with hsame | hnow
        · exact hlong last hsame
        · rw [hnow]
          exact h.slot_le thread deadline hdeadline
  slot_le thread deadline hdeadline := by
    rw [hnow]
    by_cases hthread : thread = handler.thread
    · subst hthread
      exact (hslot deadline hdeadline).1
    · exact h.slot_le thread deadline (by rw [← hslots thread hthread]; exact hdeadline)
  since_le other next hnext := by
    rw [hnow]
    rcases update_eq_some.mp hnext with ⟨-, hsome⟩ | ⟨-, hsome⟩
    · obtain ⟨place, rfl⟩ := hvalue next hsome
      exact h.since_le id handler hhandler
    · exact h.since_le other next hsome
  limited other next hnext := by
    rcases update_eq_some.mp hnext with ⟨-, hsome⟩ | ⟨-, hsome⟩
    · obtain ⟨place, rfl⟩ := hvalue next hsome
      exact h.limited id handler hhandler
    · exact h.limited other next hsome

omit [DecidableEq HandlerId] [DecidableEq ThreadId] in
/-- The slot of a thread is backed, unless the handler of the thread is about to change it. -/
theorem Counted.backed_or (h : Counted limit state counted)
    (hkept : ∀ thread, LockKept thread state) (hhandler : state.handlers id = some handler)
    {deadline : ℕ} (hdeadline : state.store.slots handler.thread = some deadline) :
    handler.place.changesSlot = true ∨ handler.thread ∈ counted ∧
      ∀ last, state.store.activeDeadline = some last → deadline ≤ last := by
  rcases h.backed handler.thread deadline hdeadline with
    ⟨other, next, hsome, hsame, hchanges⟩ | hright
  · left
    have hid : other = id :=
      (hkept handler.thread).alone other id next handler hsome hhandler hsame rfl
    rw [hid, hhandler] at hsome
    cases hsome
    exact hchanges
  · exact .inr hright

/-- A call that leaves the slots and the set of active threads as they are. -/
theorem Counted.stay (h : Counted limit state counted) (hkept : ∀ thread, LockKept thread state)
    (hhandler : state.handlers id = some handler) {value : Option (Handler ThreadId)}
    (hvalue : ∀ next, value = some next → ∃ place, next = handler.go place)
    (hnow : store.now = state.store.now)
    (hthreads : store.activeThreads = state.store.activeThreads)
    (hlast : store.activeDeadline = state.store.activeDeadline)
    (hslots : store.slots = state.store.slots)
    (hchanges : handler.place.changesSlot = true →
      ∃ next, value = some next ∧ next.place.changesSlot = true)
    (hown : ∀ next, value = some next → Placed store counted next) :
    Counted limit ⟨store, Function.update state.handlers id value⟩ counted := by
  refine h.move hkept hhandler hvalue hnow (hthreads ▸ h.subset) h.card_le (fun _ _ hmem => hmem)
    (fun _ _ hmem => hthreads ▸ hmem) (fun last hnew => .inl (hlast ▸ hnew))
    (fun thread _ => congrFun hslots thread) (fun deadline hdeadline => ?_) hown
  rw [hslots] at hdeadline
  refine ⟨h.slot_le _ deadline hdeadline, ?_⟩
  rcases h.backed_or hkept hhandler hdeadline with hmiddle | ⟨hmem, hlong⟩
  · exact .inl (hchanges hmiddle)
  · exact .inr ⟨hmem, fun last hnew => hlong last (hlast ▸ hnew)⟩

/-- A handler that goes on without changing its slot. -/
theorem Counted.pass (h : Counted limit state counted) (hkept : ∀ thread, LockKept thread state)
    (hhandler : state.handlers id = some handler) {place : Place}
    (hnow : store.now = state.store.now)
    (hthreads : store.activeThreads = state.store.activeThreads)
    (hlast : store.activeDeadline = state.store.activeDeadline)
    (hslots : store.slots = state.store.slots)
    (hchanges : handler.place.changesSlot = true → place.changesSlot = true)
    (hown : Placed store counted (handler.go place)) :
    Counted limit ⟨store, Function.update state.handlers id (some (handler.go place))⟩ counted := by
  refine h.stay hkept hhandler ?_ hnow hthreads hlast hslots
    (fun hmiddle => ⟨_, rfl, hchanges hmiddle⟩) ?_
  · rintro next ⟨⟩
    exact ⟨place, rfl⟩
  · rintro next ⟨⟩
    exact hown

/-- A thread that leaves the set of active threads. -/
theorem Counted.remove (h : Counted limit state counted) (hkept : ∀ thread, LockKept thread state)
    (hhandler : state.handlers id = some handler) {place : Place}
    (hchanges : place.changesSlot = true)
    (hown : Placed (state.store.removeThread handler.thread) (counted.erase handler.thread)
      (handler.go place)) :
    Counted limit ⟨state.store.removeThread handler.thread,
      Function.update state.handlers id (some (handler.go place))⟩
      (counted.erase handler.thread) := by
  refine h.move hkept hhandler ?_ rfl (Finset.erase_subset_erase _ h.subset)
    ((Finset.card_erase_le).trans h.card_le) (fun thread hne => Finset.mem_erase_of_ne_of_mem hne)
    (fun thread hne => Finset.mem_erase_of_ne_of_mem hne) ?_ (fun _ _ => rfl) ?_ ?_
  · rintro next ⟨⟩
    exact ⟨place, rfl⟩
  · intro last hnew
    unfold GuardStore.removeThread at hnew
    dsimp only at hnew
    split_ifs at hnew
    exact .inl hnew
  · intro deadline hdeadline
    exact ⟨h.slot_le _ deadline hdeadline, .inl ⟨_, rfl, hchanges⟩⟩
  · rintro next ⟨⟩
    exact hown

/-- A slot that is set. -/
theorem Counted.mark (h : Counted limit state counted) (hkept : ∀ thread, LockKept thread state)
    (hhandler : state.handlers id = some handler) {place : Place}
    (hchanges : place.changesSlot = true)
    (hown : Placed (state.store.setSlot handler.thread) counted (handler.go place)) :
    Counted limit ⟨state.store.setSlot handler.thread,
      Function.update state.handlers id (some (handler.go place))⟩ counted := by
  refine h.move hkept hhandler ?_ rfl h.subset h.card_le (fun _ _ hmem => hmem)
    (fun _ _ hmem => hmem) (fun _ hnew => .inl hnew)
    (fun thread hne => Function.update_of_ne hne _ _) ?_ ?_
  · rintro next ⟨⟩
    exact ⟨place, rfl⟩
  · intro deadline hdeadline
    unfold GuardStore.setSlot at hdeadline
    dsimp only at hdeadline
    rw [Function.update_self] at hdeadline
    cases hdeadline
    exact ⟨Nat.le_refl _, .inl ⟨_, rfl, hchanges⟩⟩
  · rintro next ⟨⟩
    exact hown

/-- A slot that is deleted. -/
theorem Counted.delete (h : Counted limit state counted) (hkept : ∀ thread, LockKept thread state)
    (hhandler : state.handlers id = some handler) :
    Counted limit ⟨state.store.deleteSlot handler.thread,
      Function.update state.handlers id (some (handler.go .unlocking))⟩ counted := by
  refine h.move hkept hhandler ?_ rfl h.subset h.card_le (fun _ _ hmem => hmem)
    (fun _ _ hmem => hmem) (fun _ hnew => .inl hnew)
    (fun thread hne => Function.update_of_ne hne _ _) ?_ ?_
  · rintro next ⟨⟩
    exact ⟨_, rfl⟩
  · intro deadline hdeadline
    unfold GuardStore.deleteSlot at hdeadline
    dsimp only at hdeadline
    rw [Function.update_self] at hdeadline
    cases hdeadline
  · rintro next ⟨⟩
    exact trivial

/-- The set of active threads is kept for a while, with the thread in it. -/
theorem Counted.expire (h : Counted limit state counted) (hkept : ∀ thread, LockKept thread state)
    (hhandler : state.handlers id = some handler) {place : Place}
    (hmem : handler.thread ∈ state.store.activeThreads)
    (hplace : handler.thread ∈ counted ∧ place = .processing ∨ place = .withdrawing) :
    Counted limit ⟨state.store.expireThreads,
      Function.update state.handlers id (some (handler.go place))⟩ counted := by
  have hstore : state.store.expireThreads =
      { state.store with activeDeadline := some (state.store.now + guardSeconds) } :=
    if_neg (Finset.ne_empty_of_mem hmem)
  rw [hstore]
  refine h.move hkept hhandler ?_ rfl h.subset h.card_le (fun _ _ hmem => hmem)
    (fun _ _ hmem => hmem) ?_ (fun _ _ => rfl) ?_ ?_
  · rintro next ⟨⟩
    exact ⟨place, rfl⟩
  · rintro last ⟨⟩
    exact .inr rfl
  · intro deadline hdeadline
    have hle := h.slot_le _ deadline hdeadline
    refine ⟨hle, ?_⟩
    rcases hplace with ⟨hcounted, -⟩ | rfl
    · right
      refine ⟨hcounted, ?_⟩
      rintro last ⟨⟩
      exact hle
    · exact .inl ⟨_, rfl, rfl⟩
  · rintro next ⟨⟩
    rcases hplace with ⟨hcounted, rfl⟩ | rfl
    · refine ⟨hcounted, ?_⟩
      rintro last ⟨⟩
      exact Nat.add_le_add_right (h.since_le id handler hhandler) guardSeconds
    · exact trivial

/-- A thread that is counted within the limit belongs to those that back the slots: they are
all in the set that was counted. -/
theorem Counted.count (h : Counted limit state counted) (hkept : ∀ thread, LockKept thread state)
    (hhandler : state.handlers id = some handler) {own : ℕ}
    (hown : own ∈ handler.profile.maxConcurrentThreads) (hle : own ≤ limit)
    (hmem : handler.thread ∈ state.store.activeThreads) :
    ∃ more, Counted limit ⟨state.store, Function.update state.handlers id
      (some (handler.go (.lasting state.store.activeThreads.card)))⟩ more := by
  by_cases hwithin : state.store.activeThreads.card ≤ own
  · have hsubset : insert handler.thread counted ⊆ state.store.activeThreads :=
      Finset.insert_subset hmem h.subset
    refine ⟨insert handler.thread counted, h.move hkept hhandler ?_ rfl hsubset
      ((Finset.card_le_card hsubset).trans (hwithin.trans hle))
      (fun _ _ hcounted => Finset.mem_insert_of_mem hcounted) (fun _ _ hactive => hactive)
      (fun _ hnew => .inl hnew) (fun _ _ => rfl)
      (fun deadline hdeadline => ⟨h.slot_le _ deadline hdeadline, .inl ⟨_, rfl, rfl⟩⟩) ?_⟩
    · rintro next ⟨⟩
      exact ⟨_, rfl⟩
    · rintro next ⟨⟩
      exact ⟨hmem, fun _ => Finset.mem_insert_self _ _⟩
  · refine ⟨counted, h.pass hkept hhandler rfl rfl rfl rfl (fun _ => rfl) ⟨hmem, ?_⟩⟩
    intro hall
    rw [go_profile, Option.mem_def.mp hown] at hall
    exact absurd (of_decide_eq_true hall) hwithin

/-! Calls. -/

omit [DecidableEq ThreadId] in
theorem acquireSlot_of_limited {own : ℕ} (hown : own ∈ handler.profile.maxConcurrentThreads) :
    handler.acquireSlot = handler.go .checking := by
  rw [Handler.acquireSlot, Option.mem_def.mp hown]
  rfl

omit [DecidableEq ThreadId] in
/-- A handler with a limit does not go on without a slot. -/
theorem allowRequest_of_limited {own : ℕ} (hown : own ∈ handler.profile.maxConcurrentThreads)
    (current : ℕ) : handler.allowRequest current = handler.go .unlocking ∨
      handler.allowRequest current = handler.go .checking := by
  rcases allowRequest_cases handler current with h | h | ⟨hnone, -⟩
  · exact .inl h
  · exact .inr h
  · rw [hnone] at hown
    cases hown

theorem Counted.call (h : Counted limit state counted) (hkept : ∀ thread, LockKept thread state)
    (id : HandlerId) : ∃ more, Counted limit (perform state (.call id)) more := by
  simp only [perform]
  cases hhandler : state.handlers id with
  | none => exact ⟨counted, h⟩
  | some handler =>
    obtain ⟨own, hown, hle⟩ := h.limited id handler hhandler
    have hplaced := h.placed id handler hhandler
    have hbacked {deadline : ℕ} (hdeadline : state.store.slots handler.thread = some deadline) :=
      h.backed_or hkept hhandler hdeadline
    have hstays {place : Place} (hno : handler.place.changesSlot = false)
        (hmiddle : handler.place.changesSlot = true) : place.changesSlot = true :=
      absurd (hno.symm.trans hmiddle) Bool.false_ne_true
    unfold Placed at hplaced
    simp only [Handler.call]
    cases hplace : handler.place <;> simp only [hplace] at hplaced hbacked ⊢
    case loading =>
      refine ⟨counted, ?_⟩
      split_ifs
      · rw [acquireSlot_of_limited hown]
        exact h.pass hkept hhandler rfl rfl rfl rfl (hstays (by rw [hplace]; rfl)) trivial
      · exact h.pass hkept hhandler rfl rfl rfl rfl (hstays (by rw [hplace]; rfl)) trivial
    case allowing minute =>
      refine ⟨counted, ?_⟩
      split_ifs
      · exact h.pass hkept hhandler rfl rfl rfl rfl (hstays (by rw [hplace]; rfl)) trivial
      · rcases allowRequest_of_limited hown (state.store.requestCount minute + 1) with hgo | hgo
        · rw [hgo]
          exact h.pass hkept hhandler rfl rfl rfl rfl (hstays (by rw [hplace]; rfl)) trivial
        · rw [hgo]
          exact h.pass hkept hhandler rfl rfl rfl rfl (hstays (by rw [hplace]; rfl)) trivial
    case expiring minute =>
      refine ⟨counted, ?_⟩
      rcases allowRequest_of_limited hown 1 with hgo | hgo
      · rw [hgo]
        exact h.pass hkept hhandler rfl rfl rfl rfl (hstays (by rw [hplace]; rfl)) trivial
      · rw [hgo]
        exact h.pass hkept hhandler rfl rfl rfl rfl (hstays (by rw [hplace]; rfl)) trivial
    case checking =>
      refine ⟨counted, ?_⟩
      split_ifs with hslot
      · obtain ⟨deadline, hdeadline⟩ := Option.isSome_iff_exists.mp hslot
        rcases hbacked hdeadline with hmiddle | ⟨hmem, -⟩
        · cases hmiddle
        · exact h.pass hkept hhandler rfl rfl rfl rfl (hstays (by rw [hplace]; rfl)) hmem
      · exact h.pass hkept hhandler rfl rfl rfl rfl (hstays (by rw [hplace]; rfl)) trivial
    case refreshingSlot =>
      refine ⟨counted, ?_⟩
      unfold GuardStore.expireSlot
      split_ifs with hslot
      · exact h.mark hkept hhandler rfl hplaced
      · exact h.pass hkept hhandler rfl rfl rfl rfl (fun _ => rfl) hplaced
    case refreshingThreads =>
      exact ⟨counted, h.expire hkept hhandler (h.subset hplaced) (.inl ⟨hplaced, rfl⟩)⟩
    case adding =>
      refine ⟨counted, h.move hkept hhandler ?_ rfl
        (h.subset.trans (Finset.subset_insert _ _)) h.card_le (fun _ _ hmem => hmem)
        (fun _ _ hmem => Finset.mem_insert_of_mem hmem) (fun _ hnew => .inl hnew)
        (fun _ _ => rfl) (fun deadline hdeadline => ⟨h.slot_le _ deadline hdeadline, ?_⟩) ?_⟩
      · rintro next ⟨⟩
        exact ⟨_, rfl⟩
      · exact .inl ⟨_, rfl, rfl⟩
      · rintro next ⟨⟩
        exact Finset.mem_insert_self _ _
    case marking => exact ⟨counted, h.mark hkept hhandler rfl hplaced⟩
    case counting => exact h.count hkept hhandler hown hle hplaced
    case lasting activeCount =>
      refine ⟨counted, ?_⟩
      split_ifs with hwithin
      · exact h.expire hkept hhandler hplaced.1 (.inl ⟨hplaced.2 hwithin, rfl⟩)
      · exact h.expire hkept hhandler hplaced.1 (.inr rfl)
    case withdrawing => exact ⟨_, h.remove hkept hhandler rfl trivial⟩
    case unmarking => exact ⟨counted, h.delete hkept hhandler⟩
    case processing =>
      exact ⟨counted, h.pass hkept hhandler rfl rfl rfl rfl (hstays (by rw [hplace]; rfl)) hplaced⟩
    case releasing => exact ⟨_, h.remove hkept hhandler rfl trivial⟩
    case releasingSlot => exact ⟨counted, h.delete hkept hhandler⟩
    case unlocking =>
      refine ⟨counted, h.stay hkept hhandler ?_ rfl rfl rfl rfl ?_ ?_⟩
      · intro next hnext
        cases hnext
      · intro hmiddle
        rw [hplace] at hmiddle
        cases hmiddle
      · intro next hnext
        cases hnext

/-! Other events. -/

/-- A call that neither starts nor goes on with a change leaves what the slots are kept in. -/
theorem call_of_unchanging (hchanges : handler.place.changesSlot = false)
    (hstarts : handler.place.startsChange = false) :
    (handler.call store).1.activeThreads = store.activeThreads ∧
      (handler.call store).1.activeDeadline = store.activeDeadline ∧
      (handler.call store).1.slots = store.slots := by
  revert hchanges hstarts
  unfold Handler.call
  cases handler.place <;> intro hchanges hstarts <;>
    first
    | exact ⟨rfl, rfl, rfl⟩
    | (cases hchanges; done)
    | cases hstarts

omit [DecidableEq ThreadId] in
/-- A handler whose call raises relies on its slot only where it has not changed it yet. -/
theorem placed_afterFailure {place : Place} (hafter : handler.place.afterFailure = some place)
    (h : Placed store counted handler) : Placed store counted (handler.go place) := by
  unfold Placed at h ⊢
  unfold Place.afterFailure at hafter
  cases hplace : handler.place <;> simp only [hplace] at hafter h <;> cases hafter <;>
    first
    | exact trivial
    | exact h

theorem Counted.halt (h : Counted limit state counted) (hkept : ∀ thread, LockKept thread state)
    (hhandler : state.handlers id = some handler) (hchanges : handler.place.changesSlot = false)
    (hnow : store.now = state.store.now)
    (hthreads : store.activeThreads = state.store.activeThreads)
    (hlast : store.activeDeadline = state.store.activeDeadline)
    (hslots : store.slots = state.store.slots) :
    Counted limit ⟨store, Function.update state.handlers id
      (handler.place.afterFailure.map handler.go)⟩ counted := by
  refine h.stay hkept hhandler ?_ hnow hthreads hlast hslots ?_ ?_
  · intro next hnext
    obtain ⟨place, -, rfl⟩ := Option.map_eq_some_iff.mp hnext
    exact ⟨place, rfl⟩
  · intro hmiddle
    exact absurd (hchanges.symm.trans hmiddle) Bool.false_ne_true
  · intro next hnext
    obtain ⟨place, hafter, rfl⟩ := Option.map_eq_some_iff.mp hnext
    have hplaced : Placed store counted handler :=
      (h.placed id handler hhandler).mono (fun hmem => hmem) (fun hmem => hthreads ▸ hmem)
        (fun last hnew => .inl (hlast ▸ hnew)) (h.since_le id handler hhandler)
    exact placed_afterFailure hafter hplaced

theorem Counted.fail (h : Counted limit state counted) (hkept : ∀ thread, LockKept thread state)
    {applied : Bool} (horderly : Orderly limit state (.fail id applied)) :
    Counted limit (perform state (.fail id applied)) counted := by
  simp only [perform]
  cases hhandler : state.handlers id with
  | none => exact h
  | some handler =>
    obtain ⟨hchanges, hstarts⟩ := horderly handler hhandler
    dsimp only
    split_ifs with happlied
    · obtain ⟨hthreads, hlast, hslots⟩ := call_of_unchanging hchanges (hstarts happlied)
      exact h.halt hkept hhandler hchanges call_now hthreads hlast hslots
    · exact h.halt hkept hhandler hchanges rfl rfl rfl rfl

theorem Counted.crash (h : Counted limit state counted) (hkept : ∀ thread, LockKept thread state)
    (horderly : Orderly limit state (.crash id)) :
    Counted limit (perform state (.crash id)) counted := by
  simp only [perform]
  cases hhandler : state.handlers id with
  | none => rwa [← hhandler, Function.update_eq_self]
  | some handler =>
    refine h.stay hkept hhandler ?_ rfl rfl rfl rfl ?_ ?_
    · intro next hnext
      cases hnext
    · intro hmiddle
      exact absurd ((horderly handler hhandler).symm.trans hmiddle) Bool.false_ne_true
    · intro next hnext
      cases hnext

theorem Counted.arrive (h : Counted limit state counted) {thread : ThreadId}
    {profile : ProjectRuntimeProfile} (horderly : Orderly limit state (.arrive id thread profile)) :
    Counted limit (perform state (.arrive id thread profile)) counted := by
  simp only [perform]
  split_ifs with htaken
  · exact h
  have hidle := Option.not_isSome_iff_eq_none.mp (not_or.mp htaken).1
  have hold {other : HandlerId} {next : Handler ThreadId}
      (hnext : Function.update state.handlers id
        (some ⟨thread, state.store.now, profile, .loading⟩) other = some next) :
      next = ⟨thread, state.store.now, profile, .loading⟩ ∨ state.handlers other = some next := by
    rcases update_eq_some.mp hnext with ⟨-, hsome⟩ | ⟨-, hsome⟩
    · exact .inl (Option.some.inj hsome).symm
    · exact .inr hsome
  refine ⟨h.subset, h.card_le, ?_, ?_, h.slot_le, ?_, ?_⟩
  · intro other next hnext
    rcases hold hnext with rfl | hsome
    · exact trivial
    · exact h.placed other next hsome
  · intro thread deadline hdeadline
    rcases h.backed thread deadline hdeadline with ⟨other, next, hsome, hrest⟩ | hright
    · have hne : other ≠ id := by
        rintro rfl
        rw [hidle] at hsome
        cases hsome
      exact .inl ⟨other, next, update_eq_some.mpr (.inr ⟨hne, hsome⟩), hrest⟩
    · exact .inr hright
  · intro other next hnext
    rcases hold hnext with rfl | hsome
    · exact Nat.le_refl _
    · exact h.since_le other next hsome
  · intro other next hnext
    rcases hold hnext with rfl | hsome
    · exact horderly
    · exact h.limited other next hsome

/-- When the set of active threads expires, nobody is left who relies on it. -/
theorem Counted.tick (h : Counted limit state counted) (horderly : Orderly limit state .tick) :
    ∃ more, Counted limit (perform state .tick) more := by
  have hbacked {thread : ThreadId} {deadline : ℕ}
      (hdeadline : state.store.slots thread = some deadline) : thread ∈ counted ∧
        ∀ last, state.store.activeDeadline = some last → deadline ≤ last := by
    rcases h.backed thread deadline hdeadline with ⟨id, handler, hhandler, -, hchanges⟩ | hright
    · exact absurd ((horderly id handler hhandler).2.symm.trans hchanges) Bool.false_ne_true
    · exact hright
  have hslot {thread : ThreadId} {deadline : ℕ}
      (hdeadline : state.store.tick.slots thread = some deadline) :
      state.store.slots thread = some deadline ∧ state.store.now + 1 < deadline := by
    obtain ⟨hsome, hlasts⟩ := Option.filter_eq_some_iff.mp hdeadline
    exact ⟨hsome, of_decide_eq_true hlasts⟩
  have hslot_le (thread : ThreadId) (deadline : ℕ)
      (hdeadline : state.store.tick.slots thread = some deadline) :
      deadline ≤ state.store.now + 1 + guardSeconds := by
    have hle := h.slot_le thread deadline (hslot hdeadline).1
    omega
  have hsince (id : HandlerId) (handler : Handler ThreadId)
      (hhandler : state.handlers id = some handler) : handler.since ≤ state.store.now + 1 :=
    (h.since_le id handler hhandler).trans (Nat.le_succ _)
  have hlast (last : ℕ) (hnew : state.store.tick.activeDeadline = some last) :
      state.store.activeDeadline = some last := (Option.filter_eq_some_iff.mp hnew).1
  by_cases hlasts : (state.store.activeDeadline.all fun deadline =>
      decide (state.store.now + 1 < deadline)) = true
  · have hthreads : state.store.tick.activeThreads = state.store.activeThreads := if_pos hlasts
    refine ⟨counted, (hthreads ▸ h.subset : counted ⊆ state.store.tick.activeThreads), h.card_le,
      ?_, ?_, hslot_le, hsince, h.limited⟩
    · intro id handler hhandler
      exact (h.placed id handler hhandler).mono (fun hmem => hmem) (fun hmem => hthreads ▸ hmem)
        (fun last hnew => .inl (hlast last hnew)) (h.since_le id handler hhandler)
    · intro thread deadline hdeadline
      obtain ⟨hmem, hlong⟩ := hbacked (hslot hdeadline).1
      exact .inr ⟨hmem, fun last hnew => hlong last (hlast last hnew)⟩
  · obtain ⟨last, hdeadline, hover⟩ : ∃ last, state.store.activeDeadline = some last ∧
        last ≤ state.store.now + 1 := by
      cases hdeadline : state.store.activeDeadline with
      | none => rw [hdeadline] at hlasts; exact absurd rfl hlasts
      | some last =>
        rw [hdeadline, Option.all_some, decide_eq_true_eq] at hlasts
        exact ⟨last, rfl, Nat.not_lt.mp hlasts⟩
    refine ⟨∅, Finset.empty_subset _, Nat.zero_le _, ?_, ?_, hslot_le, hsince, h.limited⟩
    · intro id handler hhandler
      obtain ⟨htimely, hchanges⟩ := horderly id handler hhandler
      have hplaced := h.placed id handler hhandler
      unfold Placed at hplaced ⊢
      have hgone (hlong : ∀ deadline, state.store.activeDeadline = some deadline →
          handler.since + guardSeconds ≤ deadline) : False := by
        have hle := hlong last hdeadline
        unfold lockSeconds at htimely
        unfold guardSeconds at hle
        omega
      cases hplace : handler.place <;> simp only [hplace] at hplaced hchanges ⊢ <;>
        first
        | exact (hgone hplaced.2).elim
        | cases hchanges
    · intro thread deadline hslots
      obtain ⟨hsome, hlong⟩ := hslot hslots
      have hle := (hbacked hsome).2 last hdeadline
      omega

/-! Runs. -/

/-- Every thread has one handler at most, and the threads that are worked on are counted. -/
def Guarded (limit : ℕ) (state : GuardState HandlerId ThreadId) : Prop :=
  (∀ thread, LockKept thread state) ∧ ∃ counted, Counted limit state counted

omit [DecidableEq HandlerId] [DecidableEq ThreadId] in
theorem Orderly.timelyOn {event : GuardEvent HandlerId ThreadId} (h : Orderly limit state event)
    (thread : ThreadId) : TimelyOn thread state event := by
  rintro rfl id handler hhandler -
  exact (h id handler hhandler).1

theorem Guarded.perform {event : GuardEvent HandlerId ThreadId} (h : Guarded limit state)
    (horderly : Orderly limit state event) : Guarded limit (perform state event) := by
  obtain ⟨hkept, counted, hcounted⟩ := h
  refine ⟨fun thread => (hkept thread).perform (horderly.timelyOn thread), ?_⟩
  cases event with
  | arrive id thread profile => exact ⟨counted, hcounted.arrive horderly⟩
  | call id => exact hcounted.call hkept id
  | fail id applied => exact ⟨counted, hcounted.fail hkept horderly⟩
  | crash id => exact ⟨counted, hcounted.crash hkept horderly⟩
  | tick => exact hcounted.tick horderly

omit [DecidableEq HandlerId] [DecidableEq ThreadId] in
theorem quietState_guarded (limit now : ℕ) :
    Guarded limit (quietState now : GuardState HandlerId ThreadId) := by
  refine ⟨fun thread => quietState_lockKept thread now, ∅, Finset.empty_subset _, Nat.zero_le _,
    ?_, ?_, ?_, ?_, ?_⟩ <;>
    (intro _ _ h; cases h)

/-- The handlers that process a message. -/
def processing (state : GuardState HandlerId ThreadId) : Set HandlerId :=
  {id | ∃ handler, state.handlers id = some handler ∧ handler.place = .processing}

omit [DecidableEq HandlerId] [DecidableEq ThreadId] in
/-- Handlers that process a message are on different threads that were counted. -/
theorem Guarded.encard_processing_le (h : Guarded limit state) :
    (processing state).encard ≤ limit := by
  obtain ⟨hkept, counted, hcounted⟩ := h
  have hmaps : Set.MapsTo (fun id => (state.handlers id).map Handler.thread) (processing state)
      (counted.map Function.Embedding.some) := by
    rintro id ⟨handler, hhandler, hplace⟩
    have hplaced := hcounted.placed id handler hhandler
    unfold Placed at hplaced
    rw [hplace] at hplaced
    dsimp only
    rw [hhandler]
    exact Finset.mem_coe.mpr (Finset.mem_map_of_mem _ hplaced.1)
  have hinjective : Set.InjOn (fun id => (state.handlers id).map Handler.thread)
      (processing state) := by
    rintro first ⟨one, hone, -⟩ second ⟨two, htwo, -⟩ hsame
    dsimp only at hsame
    rw [hone, htwo] at hsame
    exact (hkept two.thread).alone first second one two hone htwo (Option.some.inj hsame) rfl
  calc (processing state).encard
      ≤ (counted.map Function.Embedding.some : Set (Option ThreadId)).encard :=
        Set.encard_le_encard_of_injOn hmaps hinjective
    _ = counted.card := by rw [Set.encard_coe_eq_coe_finsetCard, Finset.card_map]
    _ ≤ limit := by exact_mod_cast hcounted.card_le

/-- The messages of a project are processed on no more threads at a time than its limit allows,
however the handlers interleave. -/
theorem threads_within_limit {events : List (GuardEvent HandlerId ThreadId)} {now : ℕ}
    (horderly : EveryStep perform (Orderly limit) (quietState now) events) :
    (processing (events.foldl perform (quietState now))).encard ≤ limit := by
  have hguarded : Guarded limit (events.foldl perform (quietState now)) :=
    horderly.invariant (fun state event => Guarded.perform) (quietState_guarded limit now)
  exact hguarded.encard_processing_le

/-! Two messages at once, and a limit of one thread. -/

def oneThread : ProjectRuntimeProfile := ⟨none, some 1⟩

/-- The second message has to wait for the first one, which gets the slot. -/
def twoMessages : List (GuardEvent ℕ ℕ) :=
  [.arrive 1 10 oneThread, .arrive 2 20 oneThread, .call 1, .call 2, .call 1, .call 1, .call 1,
    .call 1, .call 2, .call 2, .call 1]

theorem twoMessages_orderly : EveryStep perform (Orderly 1) (quietState 0) twoMessages := by
  have hlimit : ∃ own ∈ oneThread.maxConcurrentThreads, own ≤ 1 := ⟨1, rfl, Nat.le_refl 1⟩
  exact ⟨hlimit, hlimit, trivial, trivial, trivial, trivial, trivial, trivial, trivial, trivial,
    trivial, trivial⟩

theorem threads_within_limit_twoMessages :
    (processing (twoMessages.foldl perform (quietState 0))).encard ≤ (1 : ℕ) :=
  threads_within_limit twoMessages_orderly

/-- The first message is processed by now. -/
example : 1 ∈ processing (twoMessages.foldl perform (quietState 0)) :=
  ⟨⟨10, 0, oneThread, .processing⟩, rfl, rfl⟩

/-- A count that fails leaves the slot behind, and the next message of the thread does not
count. -/
def countFails : List (GuardEvent ℕ ℕ) :=
  twoMessages ++ [.call 2, .fail 2 false, .call 2, .arrive 3 20 oneThread, .call 3, .call 3,
    .call 3, .call 3]

/-- Then two threads are worked on. -/
example : 1 ∈ processing (countFails.foldl perform (quietState 0)) ∧
    3 ∈ processing (countFails.foldl perform (quietState 0)) :=
  ⟨⟨⟨10, 0, oneThread, .processing⟩, rfl, rfl⟩, ⟨20, 0, oneThread, .processing⟩, rfl, rfl⟩

end CrmBot.RuntimeGuards
