import CrmBot.Python.Builtins

/-! JSON values and the payloads of commands and schedules.

A payload is kept in the order of its keys, the form in which the command log
stores it (`sort_keys=True`), so two payloads are equal exactly when the
dictionaries are. Floats do not occur in the modelled payloads. -/

namespace CrmBot.Python

inductive PyValue where
  | none
  | bool (value : Bool)
  | int (value : Int)
  | str (value : String)
  | list (items : List PyValue)
  | dict (entries : List (String × PyValue))

namespace PyValue

mutual

def decEq : (first second : PyValue) → Decidable (first = second)
  | .none, .none => isTrue rfl
  | .bool first, .bool second =>
    if h : first = second then isTrue (h ▸ rfl) else isFalse fun heq => h (bool.inj heq)
  | .int first, .int second =>
    if h : first = second then isTrue (h ▸ rfl) else isFalse fun heq => h (int.inj heq)
  | .str first, .str second =>
    if h : first = second then isTrue (h ▸ rfl) else isFalse fun heq => h (str.inj heq)
  | .list first, .list second =>
    match decEqItems first second with
    | isTrue h => isTrue (h ▸ rfl)
    | isFalse h => isFalse fun heq => h (list.inj heq)
  | .dict first, .dict second =>
    match decEqEntries first second with
    | isTrue h => isTrue (h ▸ rfl)
    | isFalse h => isFalse fun heq => h (dict.inj heq)
  | .none, .bool _ | .none, .int _ | .none, .str _ | .none, .list _ | .none, .dict _
  | .bool _, .none | .bool _, .int _ | .bool _, .str _ | .bool _, .list _ | .bool _, .dict _
  | .int _, .none | .int _, .bool _ | .int _, .str _ | .int _, .list _ | .int _, .dict _
  | .str _, .none | .str _, .bool _ | .str _, .int _ | .str _, .list _ | .str _, .dict _
  | .list _, .none | .list _, .bool _ | .list _, .int _ | .list _, .str _ | .list _, .dict _
  | .dict _, .none | .dict _, .bool _ | .dict _, .int _ | .dict _, .str _ | .dict _, .list _ =>
    isFalse nofun

def decEqItems : (first second : List PyValue) → Decidable (first = second)
  | [], [] => isTrue rfl
  | [], _ :: _ => isFalse nofun
  | _ :: _, [] => isFalse nofun
  | first :: firstRest, second :: secondRest =>
    match decEq first second, decEqItems firstRest secondRest with
    | isTrue h, isTrue hrest => isTrue (h ▸ hrest ▸ rfl)
    | isFalse h, _ => isFalse fun heq => h (List.cons.inj heq).1
    | _, isFalse h => isFalse fun heq => h (List.cons.inj heq).2

def decEqEntries : (first second : List (String × PyValue)) → Decidable (first = second)
  | [], [] => isTrue rfl
  | [], _ :: _ => isFalse nofun
  | _ :: _, [] => isFalse nofun
  | (firstKey, first) :: firstRest, (secondKey, second) :: secondRest =>
    if hkey : firstKey = secondKey then
      match decEq first second, decEqEntries firstRest secondRest with
      | isTrue h, isTrue hrest => isTrue (hkey ▸ h ▸ hrest ▸ rfl)
      | isFalse h, _ => isFalse fun heq => h (Prod.mk.inj (List.cons.inj heq).1).2
      | _, isFalse h => isFalse fun heq => h (List.cons.inj heq).2
    else isFalse fun heq => hkey (Prod.mk.inj (List.cons.inj heq).1).1

end

instance : DecidableEq PyValue := decEq

end PyValue

abbrev Payload := List (String × PyValue)

namespace Payload

/-- `payload.get(key)`. -/
def get : Payload → String → Option PyValue
  | [], _ => none
  | (name, value) :: rest, key => if name = key then some value else get rest key

/-- `payload[key] = value`. -/
def set : Payload → String → PyValue → Payload
  | [], key, value => [(key, value)]
  | (name, old) :: rest, key, value =>
    if name = key then (key, value) :: rest
    else if key < name then (key, value) :: (name, old) :: rest
    else (name, old) :: set rest key value

/-- A dictionary display: later entries replace earlier ones. -/
def ofEntries (entries : List (String × PyValue)) : Payload :=
  entries.foldl (fun payload entry => payload.set entry.1 entry.2) []

@[simp] theorem get_nil (key : String) : get [] key = none := rfl

@[simp] theorem get_set_self (payload : Payload) (key : String) (value : PyValue) :
    (payload.set key value).get key = some value := by
  induction payload with
  | nil => simp [set, get]
  | cons entry rest ih =>
    obtain ⟨name, old⟩ := entry
    unfold set
    split
    · simp [get]
    · next hname =>
      split
      · simp [get]
      · simpa [get, hname] using ih

@[simp] theorem get_set_of_ne (payload : Payload) {key other : String} (value : PyValue)
    (hne : key ≠ other) : (payload.set key value).get other = payload.get other := by
  induction payload with
  | nil => simp [set, get, hne]
  | cons entry rest ih =>
    obtain ⟨name, old⟩ := entry
    unfold set
    split
    · next hname => simp [get, hname, hne]
    · split
      · simp [get, hne]
      · simp only [get, ih]

theorem get_foldl_set (entries : List (String × PyValue)) (start : Payload) (key : String) :
    get (entries.foldl (fun payload entry => payload.set entry.1 entry.2) start) key =
      ((entries.reverse.find? fun entry => entry.1 = key).map Prod.snd).or (start.get key) := by
  induction entries generalizing start with
  | nil => rfl
  | cons entry rest ih =>
    rw [List.foldl_cons, ih, List.reverse_cons, List.find?_append]
    cases hfind : rest.reverse.find? fun entry => entry.1 = key with
    | some found => rfl
    | none =>
      by_cases hkey : entry.1 = key
      · subst hkey
        simp
      · simp [hkey]

/-- The last entry of a key counts. -/
theorem get_ofEntries (entries : List (String × PyValue)) (key : String) :
    get (ofEntries entries) key =
      (entries.reverse.find? fun entry => entry.1 = key).map Prod.snd := by
  unfold ofEntries
  rw [get_foldl_set, get_nil, Option.or_none]

theorem set_set (payload : Payload) (key : String) (value other : PyValue) :
    (payload.set key value).set key other = payload.set key other := by
  induction payload with
  | nil => simp [set]
  | cons entry rest ih =>
    obtain ⟨name, old⟩ := entry
    by_cases hname : name = key
    · simp [set, hname]
    · by_cases hlt : key < name
      · simp [set, hname, hlt]
      · simp [set, hname, hlt, ih]

theorem set_comm (payload : Payload) {key other : String} (hne : key ≠ other)
    (value replacement : PyValue) :
    (payload.set key value).set other replacement =
      (payload.set other replacement).set key value := by
  induction payload with
  | nil =>
    rcases lt_or_gt_of_ne hne with h | h
    · simp [set, hne, hne.symm, h, h.not_gt]
    · simp [set, hne, hne.symm, h, h.not_gt]
  | cons entry rest ih =>
    obtain ⟨name, old⟩ := entry
    by_cases hkey : name = key
    · subst hkey
      by_cases hlt : other < name
      · simp [set, hne, hlt, hlt.not_gt, hne.symm]
      · simp [set, hne, hlt]
    · by_cases hother : name = other
      · subst hother
        by_cases hlt : key < name
        · simp [set, hne, hlt, hlt.not_gt, hne.symm]
        · simp [set, hlt, hkey]
      · by_cases hlt : key < name
        · by_cases hlt' : other < name
          · rcases lt_or_gt_of_ne hne with h | h
            · simp [set, hkey, hother, hlt, hlt', h, h.not_gt, hne, hne.symm]
            · simp [set, hkey, hother, hlt, hlt', h, h.not_gt, hne, hne.symm]
          · have h : key < other := lt_of_lt_of_le hlt (not_lt.mp hlt')
            simp [set, hkey, hother, hlt, hlt', h.not_gt, hne]
        · by_cases hlt' : other < name
          · have h : other < key := lt_of_lt_of_le hlt' (not_lt.mp hlt)
            simp [set, hkey, hother, hlt, hlt', h.not_gt, hne.symm]
          · simp [set, hkey, hother, hlt, hlt', ih]

/-- `payload.update(entries)`. -/
def update (payload : Payload) (entries : List (String × PyValue)) : Payload :=
  entries.foldl (fun payload entry => payload.set entry.1 entry.2) payload

theorem update_set_comm (payload : Payload) {key : String} {entries : List (String × PyValue)}
    (hkey : key ∉ entries.map Prod.fst) (value : PyValue) :
    (payload.set key value).update entries = (payload.update entries).set key value := by
  induction entries generalizing payload with
  | nil => rfl
  | cons entry rest ih =>
    rw [List.map_cons, List.mem_cons, not_or] at hkey
    change ((payload.set key value).set entry.1 entry.2).update rest =
      ((payload.set entry.1 entry.2).update rest).set key value
    rw [set_comm payload hkey.1, ih _ hkey.2]

/-- Only the last update of the same keys counts. -/
theorem update_update (payload : Payload) {entries others : List (String × PyValue)}
    (hkeys : entries.map Prod.fst = others.map Prod.fst) (hnodup : (entries.map Prod.fst).Nodup) :
    (payload.update others).update entries = payload.update entries := by
  induction entries generalizing payload others with
  | nil =>
    obtain rfl := List.map_eq_nil_iff.mp hkeys.symm
    rfl
  | cons entry rest ih =>
    cases others with
    | nil => cases hkeys
    | cons other otherRest =>
      obtain ⟨hkey, hrest⟩ := List.cons.inj hkeys
      obtain ⟨hnotMem, hnodupRest⟩ := List.nodup_cons.mp hnodup
      have hother : other.1 ∉ otherRest.map Prod.fst := hrest ▸ hkey ▸ hnotMem
      change (((payload.set other.1 other.2).update otherRest).set entry.1 entry.2).update rest =
        (payload.set entry.1 entry.2).update rest
      rw [update_set_comm payload hother, ← hkey, set_set, hkey,
        ← update_set_comm payload hother, ← hkey, ih _ hrest hnodupRest]

/-- Whether two payloads agree outside some keys does not depend on what these
are set to. -/
theorem update_eq_update_iff {payload second : Payload} {entries others : List (String × PyValue)}
    (hkeys : entries.map Prod.fst = others.map Prod.fst) (hnodup : (entries.map Prod.fst).Nodup) :
    payload.update entries = second.update entries ↔
      payload.update others = second.update others := by
  constructor
  · intro h
    have hothers := congrArg (fun whole => update whole others) h
    rwa [update_update payload hkeys.symm (hkeys ▸ hnodup),
      update_update second hkeys.symm (hkeys ▸ hnodup)] at hothers
  · intro h
    have hentries := congrArg (fun whole => update whole entries) h
    rwa [update_update payload hkeys hnodup, update_update second hkeys hnodup] at hentries

theorem get_update_of_notMem (payload : Payload) {key : String} {entries : List (String × PyValue)}
    (hkey : key ∉ entries.map Prod.fst) : (payload.update entries).get key = payload.get key := by
  induction entries generalizing payload with
  | nil => rfl
  | cons entry rest ih =>
    rw [List.map_cons, List.mem_cons, not_or] at hkey
    change ((payload.set entry.1 entry.2).update rest).get key = payload.get key
    rw [ih _ hkey.2, get_set_of_ne payload entry.2 (Ne.symm hkey.1)]

/-- The keys stand in order, each of them once. -/
def Sorted (payload : Payload) : Prop :=
  payload.Pairwise fun first second => first.1 < second.1

theorem mem_set {payload : Payload} {key : String} {value : PyValue} {entry : String × PyValue}
    (h : entry ∈ payload.set key value) : entry = (key, value) ∨ entry ∈ payload := by
  induction payload with
  | nil => exact .inl (List.mem_singleton.mp h)
  | cons head rest ih =>
    obtain ⟨name, old⟩ := head
    unfold set at h
    split at h
    · rcases List.mem_cons.mp h with rfl | hrest
      · exact .inl rfl
      · exact .inr (List.mem_cons_of_mem _ hrest)
    · split at h
      · rcases List.mem_cons.mp h with rfl | hrest
        · exact .inl rfl
        · exact .inr hrest
      · rcases List.mem_cons.mp h with rfl | hrest
        · exact .inr List.mem_cons_self
        · exact (ih hrest).imp id (List.mem_cons_of_mem _)

theorem Sorted.set {payload : Payload} (h : Sorted payload) (key : String) (value : PyValue) :
    Sorted (payload.set key value) := by
  unfold Sorted at h ⊢
  induction payload with
  | nil => exact List.pairwise_singleton _ _
  | cons head rest ih =>
    obtain ⟨name, old⟩ := head
    obtain ⟨hhead, hrest⟩ := List.pairwise_cons.mp h
    unfold Payload.set
    split
    · next hname =>
      exact List.pairwise_cons.mpr ⟨fun entry hentry => hname ▸ hhead entry hentry, hrest⟩
    · next hname =>
      split
      · next hlt =>
        refine List.pairwise_cons.mpr ⟨fun entry hentry => ?_, h⟩
        rcases List.mem_cons.mp hentry with rfl | hlater
        · exact hlt
        · exact lt_trans hlt (hhead entry hlater)
      · next hge =>
        refine List.pairwise_cons.mpr ⟨fun entry hentry => ?_, ih hrest⟩
        rcases mem_set hentry with rfl | hlater
        · exact lt_of_le_of_ne (not_lt.mp hge) hname
        · exact hhead entry hlater

theorem Sorted.update {payload : Payload} (h : Sorted payload) (entries : List (String × PyValue)) :
    Sorted (payload.update entries) := by
  induction entries generalizing payload with
  | nil => exact h
  | cons entry rest ih => exact ih (h.set entry.1 entry.2)

theorem sorted_ofEntries (entries : List (String × PyValue)) : Sorted (ofEntries entries) :=
  Sorted.update List.Pairwise.nil entries

/-- A key before all others is not there. -/
theorem get_eq_none_of_lt {payload : Payload} {key : String}
    (h : ∀ entry ∈ payload, key < entry.1) : payload.get key = none := by
  induction payload with
  | nil => rfl
  | cons head rest ih =>
    have hne : head.1 ≠ key := (h head List.mem_cons_self).ne'
    unfold get
    rw [if_neg hne]
    exact ih fun entry hentry => h entry (List.mem_cons_of_mem _ hentry)

/-- Sorted payloads with the same values are the same. -/
theorem Sorted.eq_of_get {first second : Payload} (hfirst : Sorted first) (hsecond : Sorted second)
    (h : ∀ key, first.get key = second.get key) : first = second := by
  induction first generalizing second with
  | nil =>
    cases second with
    | nil => rfl
    | cons head rest =>
      have hget := h head.1
      simp [get] at hget
  | cons head rest ih =>
    obtain ⟨hhead, hrest⟩ := List.pairwise_cons.mp hfirst
    cases second with
    | nil =>
      have hget := h head.1
      simp [get] at hget
    | cons other otherRest =>
      obtain ⟨hother, hotherRest⟩ := List.pairwise_cons.mp hsecond
      have hkey : head.1 = other.1 := by
        rcases lt_trichotomy head.1 other.1 with hlt | heq | hgt
        · have hnone : get (other :: otherRest) head.1 = none := by
            refine get_eq_none_of_lt fun entry hentry => ?_
            rcases List.mem_cons.mp hentry with rfl | hlater
            · exact hlt
            · exact lt_trans hlt (hother entry hlater)
          have hget := h head.1
          rw [hnone] at hget
          simp [get] at hget
        · exact heq
        · have hnone : get (head :: rest) other.1 = none := by
            refine get_eq_none_of_lt fun entry hentry => ?_
            rcases List.mem_cons.mp hentry with rfl | hlater
            · exact hgt
            · exact lt_trans hgt (hhead entry hlater)
          have hget := h other.1
          rw [hnone] at hget
          simp [get] at hget
      have hvalue : head.2 = other.2 := by
        have hget := h head.1
        simpa [get, hkey] using hget
      have htail : rest = otherRest := by
        refine ih hrest hotherRest fun key => ?_
        by_cases hsame : head.1 = key
        · rw [get_eq_none_of_lt (hsame ▸ hhead), get_eq_none_of_lt (hsame ▸ hkey ▸ hother)]
        · have hget := h key
          simpa [get, hsame, hkey ▸ hsame] using hget
      rw [htail, Prod.ext hkey hvalue]

end Payload

/-! Reading payload fields, as the command handlers do. -/

/-- `payload.get(key)` where a missing key and `None` are treated alike. -/
def payloadGet (payload : Payload) (key : String) : Option PyValue :=
  match payload.get key with
  | some .none => none
  | found => found

/-- `_payload_text`. The fallback replaces only a missing key. -/
def payloadText (payload : Payload) (key : String) (fallback : Option String) :
    Except Fault String :=
  let fault := Fault.valueError ("workflow command payload must include " ++ key)
  match payload.get key with
  | some (.str value) => if isBlank value then .error fault else .ok value
  | some _ => .error fault
  | none => match fallback with
    | some value => if isBlank value then .error fault else .ok value
    | none => .error fault

/-- `_payload_positive_int`. -/
def payloadPositiveInt (payload : Payload) (key : String) : Except Fault Nat :=
  match payload.get key with
  | some (.int value) =>
    if value ≤ 0 then
      .error (.valueError ("workflow command payload must include positive int " ++ key))
    else .ok value.toNat
  | _ => .error (.valueError ("workflow command payload must include positive int " ++ key))

/-- `_payload_non_negative_int`. -/
def payloadNonNegativeInt (payload : Payload) (key : String) : Except Fault Nat :=
  match payload.get key with
  | some (.int value) =>
    if value < 0 then
      .error (.valueError ("workflow command payload must include non-negative int " ++ key))
    else .ok value.toNat
  | _ => .error (.valueError ("workflow command payload must include non-negative int " ++ key))

/-- `_payload_mapping`. -/
def payloadMapping (payload : Payload) (key : String) : Except Fault Payload :=
  match payload.get key with
  | some (.dict entries) => .ok entries
  | _ => .error (.valueError ("workflow command payload must include mapping " ++ key))

/-- `_optional_payload_mapping`. -/
def optionalPayloadMapping (payload : Payload) (key : String) : Except Fault (Option Payload) :=
  match payloadGet payload key with
  | none => .ok none
  | some (.dict entries) => .ok (some entries)
  | some _ => .error (.valueError ("workflow command payload " ++ key ++ " must be mapping"))

/-- `_payload_mapping_sequence`. -/
def payloadMappingSequence (payload : Payload) (key : String) : Except Fault (List Payload) :=
  match payload.get key with
  | some (.list items) => items.mapM fun
    | .dict entries => .ok entries
    | _ => .error (.valueError ("workflow command payload " ++ key ++ " must contain mappings"))
  | _ => .error (.valueError ("workflow command payload must include sequence " ++ key))

end CrmBot.Python
