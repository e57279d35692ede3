import Mathlib.Data.List.Forall2

/-! Folds whose steps may fail.

A successful fold is compared with a pure fold of a view of its state, and a
fact about every successful step becomes a fact about the whole fold. -/

namespace FailingFold

universe u

variable {Fault State View Item : Type*}

/-- A successful sequence is a success of its first part followed by a success
of the rest. -/
theorem bind_eq_ok {Value Result : Type u} {first : Except Fault Value}
    {next : Value → Except Fault Result} {result : Result} :
    (first >>= next) = .ok result ↔ ∃ value, first = .ok value ∧ next value = .ok result := by
  cases first with
  | error fault => simp [bind, Except.bind]
  | ok value => simp [bind, Except.bind]

theorem map_eq_ok {Value Result : Type*} {first : Except Fault Value} {change : Value → Result}
    {result : Result} :
    first.map change = .ok result ↔ ∃ value, first = .ok value ∧ change value = result := by
  cases first with
  | error fault => simp [Except.map]
  | ok value => simp [Except.map]

/-- If every successful step acts on the view as a pure step does, a successful
fold acts on it as the pure fold. -/
theorem view_foldlM (view : State → View) (pureStep : View → Item → View)
    {step : State → Item → Except Fault State} {items : List Item}
    (hstep : ∀ item ∈ items, ∀ before after, step before item = .ok after →
      view after = pureStep (view before) item)
    {first last : State} (hrun : items.foldlM step first = .ok last) :
    view last = items.foldl pureStep (view first) := by
  induction items generalizing first with
  | nil =>
    simp only [List.foldlM_nil, pure, Except.pure, Except.ok.injEq] at hrun
    rw [hrun, List.foldl_nil]
  | cons item rest ih =>
    rw [List.foldlM_cons, bind_eq_ok] at hrun
    obtain ⟨middle, hfirst, hrest⟩ := hrun
    have htail := ih (fun other hother => hstep other (List.mem_cons_of_mem item hother)) hrest
    rw [htail, hstep item List.mem_cons_self first middle hfirst, List.foldl_cons]

/-- A view that no successful step changes is the same after the fold. -/
theorem view_foldlM_eq (view : State → View) {step : State → Item → Except Fault State}
    {items : List Item}
    (hstep : ∀ item ∈ items, ∀ before after, step before item = .ok after →
      view after = view before)
    {first last : State} (hrun : items.foldlM step first = .ok last) : view last = view first := by
  have hview := view_foldlM view (fun current _ => current) hstep hrun
  rw [hview]
  exact List.foldl_fixed _

/-- What every successful step preserves holds after the fold. -/
theorem invariant_foldlM (holds : State → Prop) {step : State → Item → Except Fault State}
    {items : List Item}
    (hstep : ∀ item ∈ items, ∀ before after, step before item = .ok after →
      holds before → holds after)
    {first last : State} (hrun : items.foldlM step first = .ok last) (hfirst : holds first) :
    holds last := by
  induction items generalizing first with
  | nil =>
    simp only [List.foldlM_nil, pure, Except.pure, Except.ok.injEq] at hrun
    rwa [← hrun]
  | cons item rest ih =>
    rw [List.foldlM_cons, bind_eq_ok] at hrun
    obtain ⟨middle, hmiddle, hrest⟩ := hrun
    exact ih (fun other hother => hstep other (List.mem_cons_of_mem item hother)) hrest
      (hstep item List.mem_cons_self first middle hmiddle hfirst)

/-- What holds of the items done so far and the state, and is preserved by every
successful step, holds of all items and the last state. -/
theorem prefix_foldlM (holds : List Item → State → Prop)
    {step : State → Item → Except Fault State} {items done : List Item}
    (hstep : ∀ item ∈ items, ∀ done before after, step before item = .ok after →
      holds done before → holds (done ++ [item]) after)
    {first last : State} (hrun : items.foldlM step first = .ok last) (hfirst : holds done first) :
    holds (done ++ items) last := by
  induction items generalizing first done with
  | nil =>
    simp only [List.foldlM_nil, pure, Except.pure, Except.ok.injEq] at hrun
    rw [← hrun, List.append_nil]
    exact hfirst
  | cons item rest ih =>
    rw [List.foldlM_cons, bind_eq_ok] at hrun
    obtain ⟨middle, hmiddle, hrest⟩ := hrun
    have hnext := hstep item List.mem_cons_self done first middle hmiddle hfirst
    rw [List.append_cons]
    exact ih (fun other hother => hstep other (List.mem_cons_of_mem item hother)) hrest hnext

/-- A fold succeeds when each step does, from whatever state. -/
theorem exists_foldlM_eq_ok {step : State → Item → Except Fault State} {items : List Item}
    (hstep : ∀ item ∈ items, ∀ before, ∃ after, step before item = .ok after) (first : State) :
    ∃ last, items.foldlM step first = .ok last := by
  induction items generalizing first with
  | nil => exact ⟨first, rfl⟩
  | cons item rest ih =>
    obtain ⟨middle, hmiddle⟩ := hstep item List.mem_cons_self first
    obtain ⟨last, hlast⟩ :=
      ih (fun other hother => hstep other (List.mem_cons_of_mem item hother)) middle
    refine ⟨last, ?_⟩
    rw [List.foldlM_cons, bind_eq_ok]
    exact ⟨middle, hmiddle, hlast⟩

/-- A step that commutes with a map on all items makes the fold commute with it. -/
theorem map_foldlM {Other : Type*} {change : State → Other}
    {step : State → Item → Except Fault State} {other : Other → Item → Except Fault Other}
    {items : List Item}
    (hstep : ∀ item ∈ items, ∀ before, other (change before) item =
      (step before item).map change) (first : State) :
    items.foldlM other (change first) = (items.foldlM step first).map change := by
  induction items generalizing first with
  | nil => rfl
  | cons item rest ih =>
    rw [List.foldlM_cons, List.foldlM_cons, hstep item List.mem_cons_self]
    cases step first item with
    | error fault => rfl
    | ok middle => exact ih (fun next hnext => hstep next (List.mem_cons_of_mem _ hnext)) middle

/-- Every item of a successful fold was processed by a successful step. -/
theorem exists_step_of_foldlM {step : State → Item → Except Fault State} {items : List Item}
    {first last : State} (hrun : items.foldlM step first = .ok last) :
    ∀ item ∈ items, ∃ before after, step before item = .ok after := by
  induction items generalizing first with
  | nil => simp
  | cons item rest ih =>
    rw [List.foldlM_cons, bind_eq_ok] at hrun
    obtain ⟨middle, hfirst, hrest⟩ := hrun
    intro other hother
    rcases List.mem_cons.mp hother with rfl | hmem
    · exact ⟨first, middle, hfirst⟩
    · exact ih hrest other hmem

/-- A successful `mapM` has one result for each item, in order. -/
theorem forall₂_of_mapM {Value Result : Type u} {read : Value → Except Fault Result}
    {items : List Value} {results : List Result} (hrun : items.mapM read = .ok results) :
    List.Forall₂ (fun item result => read item = .ok result) items results := by
  induction items generalizing results with
  | nil =>
    simp only [List.mapM_nil, pure, Except.pure, Except.ok.injEq] at hrun
    rw [← hrun]
    exact .nil
  | cons item rest ih =>
    rw [List.mapM_cons, bind_eq_ok] at hrun
    obtain ⟨result, hresult, hrest⟩ := hrun
    rw [bind_eq_ok] at hrest
    obtain ⟨others, hothers, heq⟩ := hrest
    simp only [pure, Except.pure, Except.ok.injEq] at heq
    rw [← heq]
    exact .cons hresult (ih hothers)

/-- A list is read as its results exactly when each item is. -/
theorem mapM_eq_ok_iff {Value Result : Type u} {read : Value → Except Fault Result}
    {items : List Value} {results : List Result} :
    items.mapM read = .ok results ↔
      List.Forall₂ (fun item result => read item = .ok result) items results := by
  refine ⟨forall₂_of_mapM, fun hall => ?_⟩
  induction hall with
  | nil => rfl
  | cons hhead _ ih =>
    rw [List.mapM_cons, hhead, ih]
    rfl

/-- A property of the results alone is one of each result. -/
theorem forall₂_and_right {Value Result : Type*} {relates : Value → Result → Prop}
    {holds : Result → Prop} {items : List Value} {results : List Result} :
    List.Forall₂ (fun item result => relates item result ∧ holds result) items results ↔
      List.Forall₂ relates items results ∧ ∀ result ∈ results, holds result := by
  induction items generalizing results with
  | nil => cases results <;> simp
  | cons item rest ih =>
    cases results with
    | nil => simp
    | cons result others =>
      rw [List.forall₂_cons, List.forall₂_cons, ih, List.forall_mem_cons]
      exact and_and_and_comm

/-- Every item has its result. -/
theorem exists_of_mem_forall₂ {Value Result : Type*} {relates : Value → Result → Prop}
    {items : List Value} {results : List Result} (hall : List.Forall₂ relates items results)
    {item : Value} (hmem : item ∈ items) : ∃ result ∈ results, relates item result := by
  induction hall with
  | nil => simp at hmem
  | cons hhead _ ih =>
    rcases List.mem_cons.mp hmem with rfl | hrest
    · exact ⟨_, List.mem_cons_self, hhead⟩
    · obtain ⟨result, hresult, hrelates⟩ := ih hrest
      exact ⟨result, List.mem_cons_of_mem _ hresult, hrelates⟩

/-- What every result shows of its item, the results show of the items. -/
theorem map_eq_of_mapM {Value Result : Type u} {View : Type*} {read : Value → Except Fault Result}
    (shown : Value → View) (view : Result → View)
    (hread : ∀ item result, read item = .ok result → view result = shown item)
    {items : List Value} {results : List Result} (hrun : items.mapM read = .ok results) :
    results.map view = items.map shown := by
  have hall := forall₂_of_mapM hrun
  clear hrun
  induction hall with
  | nil => rfl
  | cons hhead _ ih => rw [List.map_cons, List.map_cons, hread _ _ hhead, ih]

/-- If each item is read as its result, the list is read as the results. -/
theorem mapM_map_eq_ok_map {Item Value Result : Type u} {read : Value → Except Fault Result}
    {write : Item → Value} {result : Item → Result} {items : List Item}
    (hread : ∀ item ∈ items, read (write item) = .ok (result item)) :
    (items.map write).mapM read = .ok (items.map result) := by
  induction items with
  | nil => rfl
  | cons item rest ih =>
    rw [List.map_cons, List.mapM_cons, hread item List.mem_cons_self,
      ih fun other hother => hread other (List.mem_cons_of_mem item hother)]
    rfl

/-- If each item is read back as a value, so is the list. -/
theorem mapM_map_eq_ok {Value Result : Type u} {read : Value → Except Fault Result}
    {write : Result → Value} {values : List Result}
    (hread : ∀ value ∈ values, read (write value) = .ok value) :
    (values.map write).mapM read = .ok values := by
  have hmap : (values.map write).mapM read = .ok (values.map id) := mapM_map_eq_ok_map hread
  rwa [List.map_id] at hmap

/-- If every item has a result, so has the sequence. -/
theorem exists_mapM_eq_ok {Value Result : Type u} {read : Value → Except Fault Result}
    {relates : Value → Result → Prop} {items : List Value}
    (hread : ∀ item ∈ items, ∃ result, read item = .ok result ∧ relates item result) :
    ∃ results, items.mapM read = .ok results ∧ List.Forall₂ relates items results := by
  induction items with
  | nil => exact ⟨[], rfl, .nil⟩
  | cons item rest ih =>
    obtain ⟨result, hresult, hrelates⟩ := hread item List.mem_cons_self
    obtain ⟨results, hresults, hall⟩ := ih fun other hother =>
      hread other (List.mem_cons_of_mem item hother)
    refine ⟨result :: results, ?_, .cons hrelates hall⟩
    rw [List.mapM_cons, hresult, hresults]
    rfl

/-- How a computation ends: a result of it satisfies `holds`, a fault `fails`. -/
def Ends {Value : Type u} (holds : Value → Prop) (fails : Fault → Prop) : Except Fault Value → Prop
  | .ok value => holds value
  | .error fault => fails fault

namespace Ends

variable {fails : Fault → Prop}

@[simp] theorem ok_iff {Value : Type u} {holds : Value → Prop} {value : Value} :
    Ends holds fails (.ok value) ↔ holds value := Iff.rfl

@[simp] theorem error_iff {Value : Type u} {holds : Value → Prop} {fault : Fault} :
    Ends holds fails (.error fault) ↔ fails fault := Iff.rfl

/-- The rule of sequencing. -/
theorem bind {Value Result : Type u} {holds : Value → Prop} {last : Result → Prop}
    {first : Except Fault Value} {next : Value → Except Fault Result}
    (hfirst : Ends holds fails first)
    (hnext : ∀ value, first = .ok value → holds value → Ends last fails (next value)) :
    Ends last fails (first >>= next) := by
  cases first with
  | error fault => exact hfirst
  | ok value => exact hnext value rfl hfirst

/-- The rule of consequence. -/
theorem mono {Value : Type u} {holds weaker : Value → Prop} {fails' : Fault → Prop}
    {computation : Except Fault Value} (h : Ends holds fails computation)
    (hholds : ∀ value, holds value → weaker value) (hfails : ∀ fault, fails fault → fails' fault) :
    Ends weaker fails' computation := by
  cases computation with
  | error fault => exact hfails fault h
  | ok value => exact hholds value h

/-- The rule of the loop, whose invariant may speak about the number of items
before: `holds` is kept by every step on the item at that position. -/
theorem foldlM {holds : Nat → State → Prop} {step : State → Item → Except Fault State}
    {items : List Item} {offset : Nat}
    (hstep : ∀ index item, items[index]? = some item → ∀ before, holds (offset + index) before →
      Ends (holds (offset + index + 1)) fails (step before item))
    {first : State} (hfirst : holds offset first) :
    Ends (holds (offset + items.length)) fails (items.foldlM step first) := by
  induction items generalizing offset first with
  | nil => exact hfirst
  | cons item rest ih =>
    rw [List.foldlM_cons]
    have hhead := hstep 0 item rfl first hfirst
    refine Ends.bind hhead fun middle _ hmiddle => ?_
    have hrest : ∀ index other, rest[index]? = some other → ∀ before,
        holds (offset + 1 + index) before →
          Ends (holds (offset + 1 + index + 1)) fails (step before other) := by
      intro index other hother before hbefore
      have hshift : offset + 1 + index = offset + (index + 1) := by omega
      rw [hshift] at hbefore ⊢
      exact hstep (index + 1) other hother before hbefore
    have htail := ih hrest hmiddle
    have hlength : offset + (rest.length + 1) = offset + 1 + rest.length := by omega
    rw [List.length_cons, hlength]
    exact htail

/-- The rule of the loop for an invariant of the state alone. -/
theorem foldlM_keeps {keeps : State → Prop} {step : State → Item → Except Fault State}
    {items : List Item} (hstep : ∀ item ∈ items, ∀ before, keeps before →
      Ends keeps fails (step before item)) {first : State} (hfirst : keeps first) :
    Ends keeps fails (items.foldlM step first) :=
  @foldlM Fault State Item fails (fun _ => keeps) step items 0
    (fun _ item hitem => hstep item (List.mem_of_getElem? hitem)) first hfirst

/-- The rule of a loop that adds something for each item: what is added stays. -/
theorem foldlM_forall {keeps : State → Prop} {added : Item → State → Prop}
    {step : State → Item → Except Fault State} {items : List Item}
    (hstep : ∀ item ∈ items, ∀ before, keeps before →
      Ends (fun after => keeps after ∧ added item after ∧
        ∀ other, added other before → added other after) fails (step before item))
    {first : State} (hfirst : keeps first) :
    Ends (fun last => keeps last ∧ (∀ item ∈ items, added item last) ∧
      ∀ other, added other first → added other last) fails (items.foldlM step first) := by
  induction items generalizing first with
  | nil => exact ⟨hfirst, List.forall_mem_nil _, fun _ h => h⟩
  | cons item rest ih =>
    rw [List.foldlM_cons]
    refine Ends.bind (hstep item List.mem_cons_self first hfirst) fun middle _ hmiddle => ?_
    obtain ⟨hkeeps, hadded, hold⟩ := hmiddle
    have hrest := ih (fun other hother => hstep other (List.mem_cons_of_mem item hother)) hkeeps
    refine hrest.mono (fun last hlast => ?_) fun _ h => h
    obtain ⟨hlastKeeps, hall, hstays⟩ := hlast
    refine ⟨hlastKeeps, ?_, fun other hother => hstays other (hold other hother)⟩
    exact List.forall_mem_cons.mpr ⟨hstays item hadded, hall⟩

/-- A sequence of independent computations ends as each of them may. -/
theorem mapM {Value : Type u} {Result : Type u} {holds : Result → Prop}
    {read : Value → Except Fault Result} {items : List Value}
    (hread : ∀ item ∈ items, Ends holds fails (read item)) :
    Ends (fun results => ∀ result ∈ results, holds result) fails (items.mapM read) := by
  induction items with
  | nil => simp [pure, Except.pure]
  | cons item rest ih =>
    rw [List.mapM_cons]
    refine Ends.bind (hread item List.mem_cons_self) fun result _ hresult => ?_
    refine Ends.bind (ih fun other hother => hread other (List.mem_cons_of_mem item hother))
      fun results _ hresults => ?_
    intro other hother
    rcases List.mem_cons.mp hother with rfl | hmem
    · exact hresult
    · exact hresults other hmem

end Ends

end FailingFold
