import CrmBot.Python.PyValue

/-! Payloads in memory, and what the database gives back of them.

A payload that a producer builds may hold more than JSON: tuples, and objects
that `json.dumps` writes through its `default=str`. Dictionaries are kept in the
order of their keys here too. -/

namespace CrmBot.Python

inductive PyObject where
  | none
  | bool (value : Bool)
  | int (value : Int)
  | str (value : String)
  | list (items : List PyObject)
  | tuple (items : List PyObject)
  | dict (entries : List (String × PyObject))
  /-- Any other object, such as a `datetime`, with its `str`. -/
  | other (text : String)

namespace PyObject

mutual

/-- `json.loads(json.dumps(value, default=str))`. -/
def decoded : PyObject → PyValue
  | .none => .none
  | .bool value => .bool value
  | .int value => .int value
  | .str value => .str value
  | .list items => .list (decodedItems items)
  | .tuple items => .list (decodedItems items)
  | .dict entries => .dict (decodedEntries entries)
  | .other text => .str text

def decodedItems : List PyObject → List PyValue
  | [] => []
  | item :: rest => decoded item :: decodedItems rest

def decodedEntries : List (String × PyObject) → List (String × PyValue)
  | [] => []
  | (key, value) :: rest => (key, decoded value) :: decodedEntries rest

end

def intOfBool (value : Bool) : Int := if value then 1 else 0

mutual

/-- `value == stored` where `stored` was read from JSON. A tuple is no list, and
any other object is no text. -/
def equals : PyObject → PyValue → Bool
  | .none, .none => true
  | .bool value, .bool stored => value == stored
  | .bool value, .int stored => intOfBool value == stored
  | .int value, .int stored => value == stored
  | .int value, .bool stored => value == intOfBool stored
  | .str value, .str stored => value == stored
  | .list items, .list stored => equalItems items stored
  | .dict entries, .dict stored => equalEntries entries stored
  | _, _ => false

def equalItems : List PyObject → List PyValue → Bool
  | [], [] => true
  | item :: rest, stored :: storedRest => equals item stored && equalItems rest storedRest
  | _, _ => false

def equalEntries : List (String × PyObject) → List (String × PyValue) → Bool
  | [], [] => true
  | (key, value) :: rest, (storedKey, stored) :: storedRest =>
    key == storedKey && equals value stored && equalEntries rest storedRest
  | _, _ => false

end

mutual

/-- Built from `None`, booleans, integers, texts, lists and dictionaries alone. -/
def isJson : PyObject → Bool
  | .none | .bool _ | .int _ | .str _ => true
  | .list items => jsonItems items
  | .dict entries => jsonEntries entries
  | .tuple _ | .other _ => false

def jsonItems : List PyObject → Bool
  | [] => true
  | item :: rest => isJson item && jsonItems rest

def jsonEntries : List (String × PyObject) → Bool
  | [] => true
  | (_, value) :: rest => isJson value && jsonEntries rest

end

theorem jsonEntries_append (first second : List (String × PyObject)) :
    jsonEntries (first ++ second) = (jsonEntries first && jsonEntries second) := by
  induction first with
  | nil => rfl
  | cons entry rest ih =>
    obtain ⟨key, value⟩ := entry
    simp only [List.cons_append, jsonEntries, ih, Bool.and_assoc]

/-! By recursion over a value, its items and its entries at once. -/

mutual

/-- A value equals what it is decoded to exactly when it is plain JSON. -/
theorem equals_decoded (value : PyObject) : value.equals value.decoded = value.isJson := by
  cases value with
  | none => rfl
  | bool value | int value | str value => simp [decoded, equals, isJson]
  | list items => exact equalItems_decoded items
  | dict entries => exact equalEntries_decoded entries
  | tuple items => rfl
  | other text => rfl

theorem equalItems_decoded (items : List PyObject) :
    equalItems items (decodedItems items) = jsonItems items := by
  cases items with
  | nil => rfl
  | cons item rest =>
    simp only [equalItems, decodedItems, jsonItems]
    rw [equals_decoded item, equalItems_decoded rest]

theorem equalEntries_decoded (entries : List (String × PyObject)) :
    equalEntries entries (decodedEntries entries) = jsonEntries entries := by
  cases entries with
  | nil => rfl
  | cons entry rest =>
    obtain ⟨key, value⟩ := entry
    simp only [equalEntries, decodedEntries, jsonEntries]
    rw [equals_decoded value, equalEntries_decoded rest, beq_self_eq_true, Bool.true_and]

end

mutual

/-- Only plain JSON equals anything that was read from JSON. -/
theorem isJson_of_equals {value : PyObject} {stored : PyValue}
    (h : value.equals stored = true) : value.isJson = true := by
  cases value with
  | none | bool _ | int _ | str _ => rfl
  | list items =>
    cases stored with
    | list stored => exact jsonItems_of_equalItems h
    | none | bool _ | int _ | str _ | dict _ => simp [equals] at h
  | dict entries =>
    cases stored with
    | dict stored => exact jsonEntries_of_equalEntries h
    | none | bool _ | int _ | str _ | list _ => simp [equals] at h
  | tuple _ | other _ => simp [equals] at h

theorem jsonItems_of_equalItems {items : List PyObject} {stored : List PyValue}
    (h : equalItems items stored = true) : jsonItems items = true := by
  cases items with
  | nil => rfl
  | cons item rest =>
    cases stored with
    | nil => simp [equalItems] at h
    | cons first storedRest =>
      unfold equalItems at h
      unfold jsonItems
      rw [Bool.and_eq_true] at h ⊢
      exact ⟨isJson_of_equals h.1, jsonItems_of_equalItems h.2⟩

theorem jsonEntries_of_equalEntries {entries : List (String × PyObject)}
    {stored : List (String × PyValue)} (h : equalEntries entries stored = true) :
    jsonEntries entries = true := by
  cases entries with
  | nil => rfl
  | cons entry rest =>
    obtain ⟨key, value⟩ := entry
    cases stored with
    | nil => simp [equalEntries] at h
    | cons first storedRest =>
      unfold equalEntries at h
      unfold jsonEntries
      rw [Bool.and_eq_true, Bool.and_eq_true] at h
      rw [Bool.and_eq_true]
      exact ⟨isJson_of_equals h.1.2, jsonEntries_of_equalEntries h.2⟩

end

mutual

/-- A value that was read from JSON. -/
def ofJson : PyValue → PyObject
  | .none => .none
  | .bool value => .bool value
  | .int value => .int value
  | .str value => .str value
  | .list items => .list (ofJsonItems items)
  | .dict entries => .dict (ofJsonEntries entries)

def ofJsonItems : List PyValue → List PyObject
  | [] => []
  | item :: rest => ofJson item :: ofJsonItems rest

def ofJsonEntries : List (String × PyValue) → List (String × PyObject)
  | [] => []
  | (key, value) :: rest => (key, ofJson value) :: ofJsonEntries rest

end

mutual

theorem isJson_ofJson (value : PyValue) : (ofJson value).isJson = true := by
  cases value with
  | none | bool _ | int _ | str _ => rfl
  | list items => exact jsonItems_ofJsonItems items
  | dict entries => exact jsonEntries_ofJsonEntries entries

theorem jsonItems_ofJsonItems (items : List PyValue) : jsonItems (ofJsonItems items) = true := by
  cases items with
  | nil => rfl
  | cons item rest =>
    simp only [ofJsonItems, jsonItems]
    rw [isJson_ofJson item, jsonItems_ofJsonItems rest, Bool.and_self]

theorem jsonEntries_ofJsonEntries (entries : List (String × PyValue)) :
    jsonEntries (ofJsonEntries entries) = true := by
  cases entries with
  | nil => rfl
  | cons entry rest =>
    obtain ⟨key, value⟩ := entry
    simp only [ofJsonEntries, jsonEntries]
    rw [isJson_ofJson value, jsonEntries_ofJsonEntries rest, Bool.and_self]

end

mutual

theorem decoded_ofJson (value : PyValue) : (ofJson value).decoded = value := by
  cases value with
  | none | bool _ | int _ | str _ => rfl
  | list items => exact congrArg PyValue.list (decodedItems_ofJsonItems items)
  | dict entries => exact congrArg PyValue.dict (decodedEntries_ofJsonEntries entries)

theorem decodedItems_ofJsonItems (items : List PyValue) :
    decodedItems (ofJsonItems items) = items := by
  cases items with
  | nil => rfl
  | cons item rest =>
    simp only [ofJsonItems, decodedItems]
    rw [decoded_ofJson item, decodedItems_ofJsonItems rest]

theorem decodedEntries_ofJsonEntries (entries : List (String × PyValue)) :
    decodedEntries (ofJsonEntries entries) = entries := by
  cases entries with
  | nil => rfl
  | cons entry rest =>
    obtain ⟨key, value⟩ := entry
    simp only [ofJsonEntries, decodedEntries]
    rw [decoded_ofJson value, decodedEntries_ofJsonEntries rest]

end

/-- `payload.get(key)` on a dictionary in memory. -/
def lookup : List (String × PyObject) → String → Option PyObject
  | [], _ => Option.none
  | (name, value) :: rest, key => if name = key then some value else lookup rest key

theorem lookup_ofJsonEntries (payload : Payload) (key : String) :
    lookup (ofJsonEntries payload) key = (payload.get key).map ofJson := by
  induction payload with
  | nil => rfl
  | cons entry rest ih =>
    obtain ⟨name, value⟩ := entry
    simp only [ofJsonEntries, lookup, Payload.get, ih]
    split <;> rfl

theorem get_decodedEntries (entries : List (String × PyObject)) (key : String) :
    Payload.get (decodedEntries entries) key = (lookup entries key).map decoded := by
  induction entries with
  | nil => rfl
  | cons entry rest ih =>
    obtain ⟨name, value⟩ := entry
    simp only [decodedEntries, lookup, Payload.get, ih]
    split <;> rfl

end PyObject

end CrmBot.Python
