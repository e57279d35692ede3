import Mathlib.Algebra.Group.Basic
import Mathlib.Data.List.Induction
import Mathlib.Logic.Relation

/-! Runs of a step relation, and runs of a system that takes labelled events. -/

namespace Runs

section Relations

variable {State : Type*} {step : State → State → Prop}

/-- What every step preserves holds at the end of every run that starts with it. -/
theorem invariant {holds : State → Prop}
    (hstep : ∀ before after, holds before → step before after → holds after)
    {first last : State} (hrun : Relation.ReflTransGen step first last)
    (hfirst : holds first) : holds last := by
  induction hrun with
  | refl => exact hfirst
  | tail _ hlast ih => exact hstep _ _ ih hlast

end Relations

section Events

variable {State Event : Type*} (perform : State → Event → State)

/-- Every step of the run meets a condition on the event and on the state the
event meets. -/
def EveryStep (holds : State → Event → Prop) : State → List Event → Prop
  | _, [] => True
  | state, event :: rest => holds state event ∧ EveryStep holds (perform state event) rest

variable {perform} {holds other : State → Event → Prop}

@[simp] theorem everyStep_nil (state : State) : EveryStep perform holds state [] := trivial

@[simp] theorem everyStep_cons {state : State} {event : Event} {rest : List Event} :
    EveryStep perform holds state (event :: rest) ↔
      holds state event ∧ EveryStep perform holds (perform state event) rest := Iff.rfl

theorem everyStep_append {first second : List Event} {state : State} :
    EveryStep perform holds state (first ++ second) ↔
      EveryStep perform holds state first ∧
        EveryStep perform holds (first.foldl perform state) second := by
  induction first generalizing state with
  | nil => simp
  | cons event rest ih => rw [List.cons_append, everyStep_cons, everyStep_cons, ih, and_assoc,
      List.foldl_cons]

theorem EveryStep.mono {events : List Event} {state : State}
    (himp : ∀ state event, holds state event → other state event)
    (h : EveryStep perform holds state events) : EveryStep perform other state events := by
  induction events generalizing state with
  | nil => exact trivial
  | cons event rest ih => exact ⟨himp _ _ h.1, ih h.2⟩

theorem everyStep_congr (hiff : ∀ state event, holds state event ↔ other state event)
    {events : List Event} {state : State} :
    EveryStep perform holds state events ↔ EveryStep perform other state events :=
  ⟨EveryStep.mono fun state event => (hiff state event).mp,
    EveryStep.mono fun state event => (hiff state event).mpr⟩

theorem everyStep_of_forall {events : List Event} {start : State}
    (h : ∀ earlier event rest, events = earlier ++ event :: rest →
      holds (earlier.foldl perform start) event) : EveryStep perform holds start events := by
  induction events generalizing start with
  | nil => exact trivial
  | cons event rest ih =>
    refine ⟨h [] event rest rfl, ih ?_⟩
    intro earlier next later heq
    exact h (event :: earlier) next later (congrArg (event :: ·) heq)

/-- An invariant that the allowed events keep holds at the end of the run. -/
theorem EveryStep.invariant {keeps : State → Prop} {events : List Event} {state : State}
    (hstep : ∀ state event, keeps state → holds state event → keeps (perform state event))
    (h : EveryStep perform holds state events) (hstart : keeps state) :
    keeps (events.foldl perform state) := by
  induction events generalizing state with
  | nil => exact hstart
  | cons event rest ih => exact ih h.2 (hstep _ _ hstart h.1)

/-- What follows from an invariant at one step holds at every step. -/
theorem EveryStep.of_invariant {keeps : State → Prop} {events : List Event} {state : State}
    (hstep : ∀ state event, keeps state → holds state event → keeps (perform state event))
    (himp : ∀ state event, keeps state → holds state event → other state event)
    (h : EveryStep perform holds state events) (hstart : keeps state) :
    EveryStep perform other state events := by
  induction events generalizing state with
  | nil => exact trivial
  | cons event rest ih =>
    exact ⟨himp _ _ hstart h.1, ih h.2 (hstep _ _ hstart h.1)⟩

/-- What exactly the allowed events keep holds after every step exactly when
every event is allowed. -/
theorem everyStep_iff_of_keeps {keeps : State → Prop}
    (hstep : ∀ state event, keeps state → (keeps (perform state event) ↔ holds state event))
    {events : List Event} {state : State} (hstart : keeps state) :
    EveryStep perform (fun state event => keeps (perform state event)) state events ↔
      EveryStep perform holds state events := by
  induction events generalizing state with
  | nil => exact Iff.rfl
  | cons event rest ih =>
    rw [everyStep_cons, everyStep_cons, hstep state event hstart]
    apply and_congr_right
    intro hevent
    exact ih ((hstep state event hstart).mpr hevent)

/-- A condition on the events alone. -/
theorem everyStep_event_iff {allowed : Event → Prop} {events : List Event} {state : State} :
    EveryStep perform (fun _ event => allowed event) state events ↔
      ∀ event ∈ events, allowed event := by
  induction events generalizing state with
  | nil => simp
  | cons event rest ih => rw [everyStep_cons, ih, List.forall_mem_cons]

variable {causes : State → Event → Prop} {start : State} (flag : State → Prop)

/-- A flag that is up after a run has a cause in the run, and every later event keeps it. -/
theorem exists_cause
    (hstep : ∀ state event, flag (perform state event) →
      causes state event ∨ flag state ∧ holds state event)
    (hstart : ¬ flag start) {events : List Event} (h : flag (events.foldl perform start)) :
    ∃ before event after, events = before ++ event :: after ∧
      causes (before.foldl perform start) event ∧
      EveryStep perform holds (perform (before.foldl perform start) event) after := by
  induction events using List.reverseRecOn with
  | nil => exact absurd h hstart
  | append_singleton events last ih =>
    rw [List.foldl_append, List.foldl_cons, List.foldl_nil] at h
    rcases hstep _ _ h with hcause | ⟨hflag, hkeeps⟩
    · exact ⟨events, last, [], rfl, hcause, trivial⟩
    · obtain ⟨before, event, after, hsplit, hcause, hafter⟩ := ih hflag
      refine ⟨before, event, after ++ [last], by rw [hsplit, List.append_assoc, List.cons_append],
        hcause, everyStep_append.mpr ⟨hafter, ?_, trivial⟩⟩
      rwa [hsplit, List.foldl_append, List.foldl_cons] at hkeeps

/-- A flag that is up after a run was raised in it, or was up before and spared by every event. -/
theorem raised_or_spared {raises spares : Event → Prop}
    (hstep : ∀ state event, flag (perform state event) →
      raises event ∨ flag state ∧ spares event)
    {events : List Event} {state : State} (h : flag (events.foldl perform state)) :
    (∃ event ∈ events, raises event) ∨ flag state ∧ ∀ event ∈ events, spares event := by
  induction events generalizing state with
  | nil => exact .inr ⟨h, List.forall_mem_nil _⟩
  | cons event rest ih =>
    rcases ih h with ⟨raising, hmem, hraises⟩ | ⟨hflag, hrest⟩
    · exact .inl ⟨raising, List.mem_cons_of_mem _ hmem, hraises⟩
    · rcases hstep state event hflag with hraises | ⟨hstate, hspares⟩
      · exact .inl ⟨event, List.mem_cons_self, hraises⟩
      · exact .inr ⟨hstate, List.forall_mem_cons.mpr ⟨hspares, hrest⟩⟩

/-- A cause raises the flag, and events that keep it leave it up. -/
theorem flag_of_cause (hcauses : ∀ state event, causes state event → flag (perform state event))
    (hkeeps : ∀ state event, flag state → holds state event → flag (perform state event))
    {before after : List Event} {event : Event} (hcause : causes (before.foldl perform start) event)
    (hafter : EveryStep perform holds (perform (before.foldl perform start) event) after) :
    flag ((before ++ event :: after).foldl perform start) := by
  rw [List.foldl_append, List.foldl_cons]
  exact hafter.invariant (fun state event => hkeeps state event) (hcauses _ _ hcause)

/-- The costs of the events, each read at the state that the event meets. -/
def totalCost {Cost : Type*} [AddMonoid Cost] (perform : State → Event → State)
    (cost : State → Event → Cost) : State → List Event → Cost
  | _, [] => 0
  | state, event :: rest => cost state event + totalCost perform cost (perform state event) rest

/-- One more event adds its cost at the end of the run so far. -/
theorem totalCost_append_singleton {Cost : Type*} [AddMonoid Cost]
    (cost : State → Event → Cost) (state : State) (events : List Event) (event : Event) :
    totalCost perform cost state (events ++ [event]) =
      totalCost perform cost state events + cost (events.foldl perform state) event := by
  induction events generalizing state with
  | nil => exact (add_zero _).trans (zero_add _).symm
  | cons first rest ih =>
    rw [List.cons_append, totalCost, totalCost, List.foldl_cons, ih, add_assoc]

/-- What the events put out, each at the state that it meets. -/
def outputs {Output : Type*} (perform : State → Event → State)
    (output : State → Event → List Output) : State → List Event → List Output
  | _, [] => []
  | state, event :: rest => output state event ++ outputs perform output (perform state event) rest

theorem outputs_append_singleton {Output : Type*} (output : State → Event → List Output)
    (state : State) (events : List Event) (event : Event) :
    outputs perform output state (events ++ [event]) =
      outputs perform output state events ++ output (events.foldl perform state) event := by
  induction events generalizing state with
  | nil => simp [outputs]
  | cons first rest ih =>
    rw [List.cons_append, outputs, outputs, List.foldl_cons, ih, List.append_assoc]

end Events

end Runs
