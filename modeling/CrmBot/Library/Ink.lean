import Mathlib.Data.List.DropRight

/-! Texts in which some characters are blank.

The ink of a text is what it has besides its blanks. Trimming a text keeps its
ink, as does cutting it at blanks; joining texts with blanks adds none. -/

namespace Ink

variable {α : Type*} (blank : α → Bool)

/-- The characters of a text that are not blank, in order. -/
def ink (text : List α) : List α := text.filter (! blank ·)

/-- The text without the blanks at its ends. -/
def trim (text : List α) : List α := (text.dropWhile blank).rdropWhile blank

/-- The words of a text, the runs between its blanks. -/
def words (text : List α) : List (List α) :=
  (text.splitOnP blank).filter (! ·.isEmpty)

@[simp] theorem ink_nil : ink blank ([] : List α) = [] := rfl

@[simp] theorem ink_append (front rest : List α) :
    ink blank (front ++ rest) = ink blank front ++ ink blank rest :=
  List.filter_append front rest

theorem ink_cons (c : α) (text : List α) :
    ink blank (c :: text) = if blank c then ink blank text else c :: ink blank text := by
  cases h : blank c <;> simp [ink, h]

theorem ink_flatten (texts : List (List α)) :
    ink blank texts.flatten = texts.flatMap (ink blank) := by
  rw [ink, List.filter_flatten, List.flatMap_def]
  rfl

variable {blank}

theorem ink_eq_nil_iff {text : List α} : ink blank text = [] ↔ ∀ c ∈ text, blank c = true := by
  simp [ink]

theorem ink_of_blank {text : List α} (h : ∀ c ∈ text, blank c = true) : ink blank text = [] :=
  ink_eq_nil_iff.mpr h

variable (blank)

theorem ink_dropWhile (text : List α) : ink blank (text.dropWhile blank) = ink blank text := by
  have hfront : ink blank (text.takeWhile blank) = [] :=
    ink_of_blank fun c hc => List.mem_takeWhile_imp hc
  conv_rhs => rw [← @List.takeWhile_append_dropWhile _ blank text]
  rw [ink_append, hfront, List.nil_append]

theorem ink_rdropWhile (text : List α) : ink blank (text.rdropWhile blank) = ink blank text := by
  have hend : ink blank (text.rtakeWhile blank) = [] :=
    ink_of_blank fun c hc => List.mem_rtakeWhile_imp hc
  conv_rhs => rw [← @List.rdropWhile_append_rtakeWhile _ blank text]
  rw [ink_append, hend, List.append_nil]

@[simp] theorem ink_trim (text : List α) : ink blank (trim blank text) = ink blank text := by
  rw [trim, ink_rdropWhile, ink_dropWhile]

variable {blank}

theorem rdropWhile_append_of_blank {rest : List α} (h : ∀ c ∈ rest, blank c = true)
    (front : List α) : (front ++ rest).rdropWhile blank = front.rdropWhile blank := by
  have hrest : ∀ c ∈ rest.reverse, blank c = true := by simpa using h
  rw [List.rdropWhile, List.reverse_append, List.dropWhile_append_of_pos hrest, List.rdropWhile]

theorem rdropWhile_append_of_ink {rest : List α} (h : ink blank rest ≠ []) (front : List α) :
    (front ++ rest).rdropWhile blank = front ++ rest.rdropWhile blank := by
  have hne : (rest.reverse.dropWhile blank).isEmpty = false := by
    rw [Bool.eq_false_iff, Ne, List.isEmpty_iff, List.dropWhile_eq_nil_iff]
    simpa [ink_eq_nil_iff] using h
  rw [List.rdropWhile, List.reverse_append, List.dropWhile_append, hne, if_neg nofun,
    List.reverse_append, List.reverse_reverse, List.rdropWhile]

/-- Blanks at the end of a text are trimmed once. -/
theorem trim_rdropWhile {text : List α} (h : ink blank text ≠ []) :
    trim blank (text.rdropWhile blank) = trim blank text := by
  have hfront : ∀ c ∈ text.takeWhile blank, blank c = true := fun c hc => List.mem_takeWhile_imp hc
  cases hrest : text.dropWhile blank with
  | nil =>
    rw [List.dropWhile_eq_nil_iff] at hrest
    exact absurd (ink_of_blank hrest) h
  | cons first more =>
    have hfirst : blank first = false := by
      have hhead := List.head?_dropWhile_not blank text
      rw [hrest] at hhead
      simpa using hhead
    have hink : ink blank (first :: more) ≠ [] := by simp [ink_cons, hfirst]
    have hwhole : text.rdropWhile blank =
        text.takeWhile blank ++ (first :: more).rdropWhile blank := by
      rw [← rdropWhile_append_of_ink hink, ← hrest, List.takeWhile_append_dropWhile]
    obtain ⟨last, hlast⟩ : ∃ last, (first :: more).rdropWhile blank = first :: last := by
      by_cases hmore : ink blank more = []
      · have hblank := rdropWhile_append_of_blank (ink_eq_nil_iff.mp hmore) [first]
        refine ⟨[], ?_⟩
        rw [List.singleton_append] at hblank
        rw [hblank, List.rdropWhile_singleton, if_neg (by simp [hfirst])]
      · exact ⟨_, rdropWhile_append_of_ink hmore [first]⟩
    rw [trim, trim, hwhole, List.dropWhile_append_of_pos hfront, hlast,
      List.dropWhile_cons_of_neg (by simp [hfirst]), hrest, ← hlast,
      List.rdropWhile_idempotent]

/-- A blank separator adds nothing to what is joined. -/
theorem ink_intercalate {separator : List α} (h : ∀ c ∈ separator, blank c = true)
    (texts : List (List α)) :
    ink blank (separator.intercalate texts) = texts.flatMap (ink blank) := by
  induction texts with
  | nil => rfl
  | cons text rest ih =>
    cases rest with
    | nil => simp [List.intercalate]
    | cons next others =>
      rw [List.intercalate_cons_cons, ink_append, ink_append, ih, ink_of_blank h,
        List.append_nil, ← List.flatMap_cons]

/-- Nothing is lost where a text is cut at blanks. -/
theorem flatMap_ink_splitOnP {p : α → Bool} (h : ∀ c, p c = true → blank c = true)
    (text : List α) : (text.splitOnP p).flatMap (ink blank) = ink blank text := by
  induction text with
  | nil => rfl
  | cons c rest ih =>
    rw [List.splitOnP_cons_eq_if_modifyHead]
    split
    · next hp =>
      rw [List.flatMap_cons, ih, ink_cons, if_pos (h c hp), ink_nil, List.nil_append]
    · obtain ⟨first, others, hparts⟩ := List.exists_cons_of_ne_nil (List.splitOnP_ne_nil p rest)
      rw [hparts, List.flatMap_cons] at ih
      rw [hparts, List.modifyHead_cons, List.flatMap_cons, ← List.singleton_append, ink_append,
        List.append_assoc, ih, ← ink_append, List.singleton_append]

/-- What is cut out holds no character at which it was cut. -/
theorem notMem_of_mem_splitOnP {p : α → Bool} {text part : List α}
    (h : part ∈ text.splitOnP p) : ∀ c ∈ part, p c = false := by
  induction text generalizing part with
  | nil => simp_all
  | cons c rest ih =>
    rw [List.splitOnP_cons_eq_if_modifyHead] at h
    split at h
    · rcases List.mem_cons.mp h with rfl | h
      · exact nofun
      · exact ih h
    · next hp =>
      obtain ⟨first, others, hparts⟩ := List.exists_cons_of_ne_nil (List.splitOnP_ne_nil p rest)
      rw [hparts, List.modifyHead_cons, List.mem_cons] at h
      rw [hparts] at ih
      rcases h with rfl | h
      · intro d hd
        rcases List.mem_cons.mp hd with rfl | hd
        · simpa using hp
        · exact ih List.mem_cons_self d hd
      · exact ih (List.mem_cons_of_mem first h)

/-- What is cut out of a text was in it. -/
theorem mem_of_mem_splitOnP {p : α → Bool} {text part : List α} (h : part ∈ text.splitOnP p)
    {c : α} (hc : c ∈ part) : c ∈ text := by
  have hpart : c ∈ ink p part := by
    refine List.mem_filter.mpr ⟨hc, ?_⟩
    simp [notMem_of_mem_splitOnP h c hc]
  have hflat : c ∈ (text.splitOnP p).flatMap (ink p) := List.mem_flatMap.mpr ⟨part, h, hpart⟩
  rw [flatMap_ink_splitOnP fun _ hsep => hsep] at hflat
  exact List.mem_of_mem_filter hflat

/-- The words of a text are its ink. -/
theorem flatten_words (text : List α) : (words blank text).flatten = ink blank text := by
  rw [← flatMap_ink_splitOnP (p := blank) (fun _ hc => hc) text, words]
  have hparts : ∀ part ∈ text.splitOnP blank, ink blank part = part := by
    intro part hpart
    refine List.filter_eq_self.mpr fun c hc => ?_
    simp [notMem_of_mem_splitOnP hpart c hc]
  have hink : (text.splitOnP blank).flatMap (ink blank) = (text.splitOnP blank).flatten := by
    rw [List.flatMap_def, List.map_congr_left hparts, List.map_id']
  rw [hink]
  exact List.flatten_filter_not_isEmpty

/-! Trimmed texts. -/

/-- A text is trimmed when it neither begins nor ends with a blank. -/
theorem trim_eq_self_iff {text : List α} :
    trim blank text = text ↔
      (∀ c ∈ text.head?, blank c = false) ∧ ∀ c ∈ text.getLast?, blank c = false := by
  have hfront : text.dropWhile blank = text ↔ ∀ c ∈ text.head?, blank c = false := by
    cases text <;> simp
  have hback : text.rdropWhile blank = text ↔ ∀ c ∈ text.getLast?, blank c = false := by
    rw [List.rdropWhile_eq_self_iff]
    cases htext : text.getLast? with
    | none => simp [List.getLast?_eq_none_iff.mp htext]
    | some last =>
      obtain ⟨hne, hlast⟩ := List.mem_getLast?_eq_getLast htext
      simp [hne, ← hlast]
  rw [← hfront, ← hback]
  constructor
  · intro h
    have hlength := congrArg List.length h
    have hdropped := (text.dropWhile_suffix blank).length_le
    have htrimmed : (trim blank text).length ≤ (text.dropWhile blank).length :=
      (List.rdropWhile_prefix blank _).length_le
    have hkept : text.dropWhile blank = text :=
      (text.dropWhile_suffix blank).eq_of_length (by omega)
    refine ⟨hkept, ?_⟩
    rwa [trim, hkept] at h
  · rintro ⟨hdrop, hrdrop⟩
    rw [trim, hdrop, hrdrop]

/-- White space at the end does not matter to what is trimmed. -/
theorem trim_append_of_blank {rest : List α} (h : ∀ c ∈ rest, blank c = true) (text : List α) :
    trim blank (text ++ rest) = trim blank text := by
  unfold trim
  rw [List.dropWhile_append]
  split
  · next hempty =>
    have hrest : rest.dropWhile blank = [] := List.dropWhile_eq_nil_iff.mpr h
    rw [hrest, List.isEmpty_iff.mp hempty]
  · exact rdropWhile_append_of_blank h _

theorem trim_trim (text : List α) : trim blank (trim blank text) = trim blank text := by
  have hdropped : (text.dropWhile blank).dropWhile blank = text.dropWhile blank :=
    List.dropWhile_idempotent blank text
  have hkept : (trim blank text).dropWhile blank = trim blank text := by
    obtain ⟨back, hback⟩ := List.rdropWhile_prefix blank (text.dropWhile blank)
    cases htrim : trim blank text with
    | nil => rfl
    | cons c rest =>
      rw [trim] at htrim
      rw [← hback, htrim, List.cons_append, List.dropWhile_cons] at hdropped
      split at hdropped
      · have hlength := congrArg List.length hdropped
        have hle := ((rest ++ back).dropWhile_suffix blank).length_le
        simp only [List.length_cons] at hlength
        omega
      · next hc => rw [List.dropWhile_cons_of_neg hc]
  rw [trim, hkept, trim, List.rdropWhile_idempotent]

/-- Trimmed texts that are joined are trimmed. -/
theorem trim_intercalate (separator : List α) {texts : List (List α)}
    (h : ∀ text ∈ texts, text ≠ [] ∧ trim blank text = text) :
    trim blank (separator.intercalate texts) = separator.intercalate texts := by
  rw [trim_eq_self_iff]
  induction texts with
  | nil => simp
  | cons text rest ih =>
    obtain ⟨⟨hne, htrim⟩, hrest⟩ := List.forall_mem_cons.mp h
    obtain ⟨hfirst, hlast⟩ := trim_eq_self_iff.mp htrim
    cases rest with
    | nil => simpa using ⟨hfirst, hlast⟩
    | cons next others =>
      obtain ⟨c, letters, rfl⟩ := List.exists_cons_of_ne_nil hne
      obtain ⟨d, others', hnext⟩ := List.exists_cons_of_ne_nil (hrest next List.mem_cons_self).1
      have hends := (ih hrest).2
      rw [List.intercalate_cons_cons]
      refine ⟨by simpa using hfirst, fun last hmem => hends last ?_⟩
      rw [List.getLast?_append] at hmem
      rw [hnext, List.intercalate_cons_cons_left] at hmem ⊢
      simpa [List.getLast?_cons] using hmem

/-! Cutting a text at equal lengths. -/

/-- Consecutive slices of the given length, the last one perhaps shorter. -/
def slices (step : ℕ) (text : List α) : List (List α) :=
  (List.range ((text.length + step - 1) / step)).map fun k => (text.drop (k * step)).take step

theorem flatten_slices_upTo (step count : ℕ) (text : List α) :
    ((List.range count).map fun k => (text.drop (k * step)).take step).flatten =
      text.take (count * step) := by
  induction count with
  | zero => simp
  | succ count ih =>
    rw [List.range_succ, List.map_append, List.flatten_append, ih, Nat.succ_mul, List.take_add]
    simp

theorem flatten_slices {step : ℕ} (h : 0 < step) (text : List α) :
    (slices step text).flatten = text := by
  rw [slices, flatten_slices_upTo]
  refine List.take_of_length_le ?_
  have hdiv := Nat.div_add_mod (text.length + step - 1) step
  have hmod := Nat.mod_lt (text.length + step - 1) h
  have hcomm := Nat.mul_comm step ((text.length + step - 1) / step)
  omega

end Ink
