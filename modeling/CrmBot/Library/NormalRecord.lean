import CrmBot.Library.Fold
import Mathlib.Data.List.Nodup

/-! Records of named fields, where a reader of each field normalises it.

A record is the list of its entries in the order of the fields. Updates edit
some of the fields, and the record is read again as a whole. -/

namespace NormalRecord

open FailingFold

universe u

variable {Fault Key Value : Type u}

/-- What a reader gives is read again as it is. -/
def Settles (read : Value → Except Fault Value) : Prop :=
  ∀ value normal, read value = .ok normal → read normal = .ok normal

/-- One entry of a record, from the value that is found for its field. -/
def readField (look : Key → Value) (field : Key × (Value → Except Fault Value)) :
    Except Fault (Key × Value) :=
  (field.2 (look field.1)).map (Prod.mk field.1)

def normalise (fields : List (Key × (Value → Except Fault Value))) (look : Key → Value) :
    Except Fault (List (Key × Value)) :=
  fields.mapM (readField look)

section Read

variable {fields : List (Key × (Value → Except Fault Value))} {look : Key → Value}
  {record : List (Key × Value)}

theorem keys_normalise (hread : normalise fields look = .ok record) :
    record.map Prod.fst = fields.map Prod.fst := by
  refine map_eq_of_mapM Prod.fst Prod.fst (fun field entry hentry => ?_) hread
  obtain ⟨value, -, rfl⟩ := map_eq_ok.mp hentry
  rfl

variable [DecidableEq Key]

theorem lookup_cons_of_ne {key name : Key} (hne : key ≠ name) (value : Value)
    (rest : List (Key × Value)) : ((name, value) :: rest).lookup key = rest.lookup key := by
  rw [List.lookup_cons, beq_eq_false_iff_ne.mpr hne]

/-- A record is read exactly when each of its values is. -/
theorem normalise_eq_ok_iff (hnodup : (fields.map Prod.fst).Nodup) :
    normalise fields look = .ok record ↔
      record.map Prod.fst = fields.map Prod.fst ∧
        ∀ field ∈ fields, ∃ value, record.lookup field.1 = some value ∧
          field.2 (look field.1) = .ok value := by
  unfold normalise
  rw [mapM_eq_ok_iff]
  induction fields generalizing record with
  | nil =>
    simp only [List.forall₂_nil_left_iff, List.map_nil, List.map_eq_nil_iff, List.not_mem_nil]
    exact ⟨fun h => ⟨h, nofun⟩, fun h => h.1⟩
  | cons field rest ih =>
    obtain ⟨hfresh, hrest⟩ := List.nodup_cons.mp hnodup
    cases record with
    | nil => exact iff_of_false (fun hall => by cases hall) fun hall => by simp at hall
    | cons entry entries =>
      obtain ⟨name, value⟩ := entry
      -- the key of the first entry is none of the later ones
      have hlater : ∀ other ∈ rest, name = field.1 →
          ((name, value) :: entries).lookup other.1 = entries.lookup other.1 := by
        intro other hother hname
        exact lookup_cons_of_ne (fun heq =>
          hfresh (List.mem_map.mpr ⟨other, hother, heq.trans hname⟩)) value entries
      rw [List.forall₂_cons, ih hrest, List.map_cons, List.map_cons, List.cons.injEq,
        List.forall_mem_cons]
      constructor
      · rintro ⟨hfirst, hkeys, hall⟩
        obtain ⟨read, hread, heq⟩ := map_eq_ok.mp hfirst
        obtain ⟨rfl, rfl⟩ := Prod.mk.inj heq
        refine ⟨⟨rfl, hkeys⟩, ⟨read, List.lookup_cons_self, hread⟩, ?_⟩
        intro other hother
        rw [hlater other hother rfl]
        exact hall other hother
      · rintro ⟨⟨hname, hkeys⟩, ⟨read, hlook, hread⟩, hall⟩
        change name = field.1 at hname
        subst hname
        rw [List.lookup_cons_self, Option.some.injEq] at hlook
        refine ⟨map_eq_ok.mpr ⟨read, hread, by rw [hlook]⟩, hkeys, ?_⟩
        intro other hother
        rw [← hlater other hother rfl]
        exact hall other hother

/-- The record is read again from values that are either found as before or
were already normal. -/
theorem normalise_again (hnodup : (fields.map Prod.fst).Nodup) {other : Key → Value}
    (hread : normalise fields look = .ok record)
    (hother : ∀ field ∈ fields, other field.1 = look field.1 ∨
      Settles field.2 ∧ record.lookup field.1 = some (other field.1)) :
    normalise fields other = .ok record := by
  rw [normalise_eq_ok_iff hnodup] at hread ⊢
  obtain ⟨hkeys, hall⟩ := hread
  refine ⟨hkeys, fun field hfield => ?_⟩
  obtain ⟨value, hlook, hvalue⟩ := hall field hfield
  obtain hsame | ⟨hsettles, hnormal⟩ := hother field hfield
  · exact ⟨value, hlook, by rw [hsame, hvalue]⟩
  · obtain rfl := Option.some.inj (hlook.symm.trans hnormal)
    exact ⟨_, hlook, hsettles _ _ hvalue⟩

end Read

/-! Assignments to a dictionary. -/

section Assign

variable [DecidableEq Key]

/-- `record[key] = value`. -/
def assign (key : Key) (value : Value) : List (Key × Value) → List (Key × Value)
  | [] => [(key, value)]
  | (name, old) :: rest =>
    if name = key then (name, value) :: rest else (name, old) :: assign key value rest

@[simp] theorem lookup_assign_self (key : Key) (value : Value) (record : List (Key × Value)) :
    (assign key value record).lookup key = some value := by
  induction record with
  | nil => simp [assign]
  | cons entry rest ih =>
    obtain ⟨name, old⟩ := entry
    by_cases hname : name = key
    · simp [assign, hname]
    · rw [assign, if_neg hname, lookup_cons_of_ne (Ne.symm hname), ih]

theorem lookup_assign_of_ne {key other : Key} (hne : other ≠ key) (value : Value)
    (record : List (Key × Value)) :
    (assign key value record).lookup other = record.lookup other := by
  induction record with
  | nil => simp [assign, hne]
  | cons entry rest ih =>
    obtain ⟨name, old⟩ := entry
    by_cases hname : name = key
    · subst hname
      rw [assign, if_pos rfl, lookup_cons_of_ne hne, lookup_cons_of_ne hne]
    · rw [assign, if_neg hname, List.lookup_cons, List.lookup_cons, ih]

theorem keys_assign_of_mem {key : Key} (value : Value) {record : List (Key × Value)}
    (hmem : key ∈ record.map Prod.fst) :
    (assign key value record).map Prod.fst = record.map Prod.fst := by
  induction record with
  | nil => simp at hmem
  | cons entry rest ih =>
    obtain ⟨name, old⟩ := entry
    by_cases hname : name = key
    · simp [assign, hname]
    · have hrest : key ∈ rest.map Prod.fst := by
        simpa [Ne.symm hname] using hmem
      simp [assign, hname, ih hrest]

theorem mem_assign {key : Key} {value : Value} {record : List (Key × Value)} {entry : Key × Value}
    (hmem : entry ∈ assign key value record) : entry ∈ record ∨ entry.2 = value := by
  induction record with
  | nil =>
    obtain rfl := List.mem_singleton.mp hmem
    exact Or.inr rfl
  | cons first rest ih =>
    obtain ⟨name, old⟩ := first
    unfold assign at hmem
    split at hmem
    · rcases List.mem_cons.mp hmem with rfl | hrest
      · exact Or.inr rfl
      · exact Or.inl (List.mem_cons_of_mem _ hrest)
    · rcases List.mem_cons.mp hmem with rfl | hrest
      · exact Or.inl List.mem_cons_self
      · exact (ih hrest).imp_left (List.mem_cons_of_mem _)

/-! A run of edits, where an edit does not depend on the record. -/

variable {edit : Key → Value → Except Fault Value}

def assignEdited (edit : Key → Value → Except Fault Value) (record : List (Key × Value))
    (update : Key × Value) : Except Fault (List (Key × Value)) :=
  (edit update.1 update.2).map fun edited => assign update.1 edited record

variable {updates : List (Key × Value)} {first next : List (Key × Value)}

theorem lookup_edits_of_notMem (hrun : updates.foldlM (assignEdited edit) first = .ok next)
    {key : Key} (hkey : key ∉ updates.map Prod.fst) : next.lookup key = first.lookup key := by
  refine view_foldlM_eq (fun record => record.lookup key) (fun update hupdate before after hstep =>
    ?_) hrun
  obtain ⟨edited, -, rfl⟩ := map_eq_ok.mp hstep
  have hne : key ≠ update.1 := fun heq => hkey (List.mem_map.mpr ⟨update, hupdate, heq.symm⟩)
  exact lookup_assign_of_ne hne edited before

theorem keys_edits (hrun : updates.foldlM (assignEdited edit) first = .ok next)
    (hkeys : updates.map Prod.fst ⊆ first.map Prod.fst) :
    next.map Prod.fst = first.map Prod.fst := by
  refine invariant_foldlM (fun record => record.map Prod.fst = first.map Prod.fst)
    (fun update hupdate before after hstep hbefore => ?_) hrun rfl
  obtain ⟨edited, -, rfl⟩ := map_eq_ok.mp hstep
  have hmem : update.1 ∈ before.map Prod.fst :=
    hbefore ▸ hkeys (List.mem_map_of_mem hupdate)
  exact (keys_assign_of_mem edited hmem).trans hbefore

/-- What holds of the values of a record and of every edited value holds after
the edits. -/
theorem forall_value_edits {holds : Value → Prop}
    (hedit : ∀ key value edited, edit key value = .ok edited → holds edited)
    (hrun : updates.foldlM (assignEdited edit) first = .ok next)
    (hfirst : ∀ entry ∈ first, holds entry.2) : ∀ entry ∈ next, holds entry.2 := by
  refine invariant_foldlM (fun record => ∀ entry ∈ record, holds entry.2)
    (fun update _ before after hstep hbefore entry hentry => ?_) hrun hfirst
  obtain ⟨edited, hedited, rfl⟩ := map_eq_ok.mp hstep
  rcases mem_assign hentry with hold | hvalue
  · exact hbefore entry hold
  · exact hvalue ▸ hedit update.1 update.2 edited hedited

/-- The value of a named field is an edited one. -/
theorem lookup_edits_of_mem (hrun : updates.foldlM (assignEdited edit) first = .ok next)
    {key : Key} (hkey : key ∈ updates.map Prod.fst) :
    ∃ value edited, (key, value) ∈ updates ∧ edit key value = .ok edited ∧
      next.lookup key = some edited := by
  induction updates generalizing first with
  | nil => simp at hkey
  | cons update rest ih =>
    obtain ⟨name, value⟩ := update
    rw [List.foldlM_cons, bind_eq_ok] at hrun
    obtain ⟨middle, hstep, hrest⟩ := hrun
    by_cases hlater : key ∈ rest.map Prod.fst
    · obtain ⟨later, edited, hmem, hedit, hlook⟩ := ih hrest hlater
      exact ⟨later, edited, List.mem_cons_of_mem _ hmem, hedit, hlook⟩
    · have hname : key = name := by simpa [hlater] using hkey
      subst hname
      obtain ⟨edited, hedit, rfl⟩ := map_eq_ok.mp hstep
      refine ⟨value, edited, List.mem_cons_self, hedit, ?_⟩
      rw [lookup_edits_of_notMem hrest hlater, lookup_assign_self]

/-- The same updates succeed from any other record, with the same value for
each field that they name or on which the two records agree. -/
theorem edits_agree (hrun : updates.foldlM (assignEdited edit) first = .ok next)
    (second : List (Key × Value)) :
    ∃ other, updates.foldlM (assignEdited edit) second = .ok other ∧
      ∀ key, key ∈ updates.map Prod.fst ∨ second.lookup key = first.lookup key →
        other.lookup key = next.lookup key := by
  induction updates generalizing first second with
  | nil =>
    simp only [List.foldlM_nil, pure, Except.pure, Except.ok.injEq] at hrun
    subst hrun
    exact ⟨second, rfl, fun key hkey => by simpa using hkey⟩
  | cons update rest ih =>
    rw [List.foldlM_cons, bind_eq_ok] at hrun
    obtain ⟨middle, hstep, hrest⟩ := hrun
    obtain ⟨edited, hedit, rfl⟩ := map_eq_ok.mp hstep
    obtain ⟨other, hother, hagree⟩ := ih hrest (assign update.1 edited second)
    refine ⟨other, ?_, fun key hkey => hagree key ?_⟩
    · rw [List.foldlM_cons, bind_eq_ok]
      exact ⟨_, map_eq_ok.mpr ⟨edited, hedit, rfl⟩, hother⟩
    · rw [List.map_cons, List.mem_cons, or_assoc] at hkey
      by_cases hname : key = update.1
      · subst hname
        simp
      · rw [lookup_assign_of_ne hname, lookup_assign_of_ne hname]
        exact hkey.resolve_left hname

end Assign

end NormalRecord
