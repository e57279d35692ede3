import Mathlib.Data.List.Nodup
import Mathlib.Data.List.Dedup
import Mathlib.Data.List.Sort

/-! Tables with a primary key.

Rows are kept in insertion order, but no result below depends on that order.
The primary key is part of the type: a table cannot hold two rows of one key,
so an insert has to say what happens on a conflict. -/

namespace Relational

variable {Row Key : Type*}

/-- A table whose rows have pairwise distinct keys. -/
structure Table (key : Row → Key) where
  rows : List Row
  key_nodup : (rows.map key).Nodup

namespace Table

variable {key : Row → Key}

/-- The keys a table holds. -/
def keys (table : Table key) : List Key := table.rows.map key

def empty : Table key := ⟨[], by simp⟩

@[simp] theorem rows_empty : (empty : Table key).rows = [] := rfl

@[simp] theorem mem_keys {table : Table key} {value : Key} :
    value ∈ table.keys ↔ ∃ row ∈ table.rows, key row = value := by
  simp [keys]

theorem nodup_rows (table : Table key) : table.rows.Nodup :=
  table.key_nodup.of_map

theorem eq_of_rows_eq {first second : Table key} (h : first.rows = second.rows) :
    first = second := by
  cases first
  cases second
  cases h
  rfl

/-- Two rows of one table with the same key are the same row. -/
theorem eq_of_key_eq (table : Table key) {first second : Row}
    (hfirst : first ∈ table.rows) (hsecond : second ∈ table.rows)
    (heq : key first = key second) : first = second :=
  List.inj_on_of_nodup_map table.key_nodup hfirst hsecond heq

section Insert

variable [DecidableEq Key]

/-- `SELECT … WHERE key = value`. -/
def find? (table : Table key) (value : Key) : Option Row :=
  table.rows.find? fun row => key row = value

theorem find?_eq_some_iff {table : Table key} {value : Key} {row : Row} :
    table.find? value = some row ↔ row ∈ table.rows ∧ key row = value := by
  constructor
  · intro h
    have hkey := List.find?_some h
    exact ⟨List.mem_of_find?_eq_some h, by simpa using hkey⟩
  · rintro ⟨hmem, hkey⟩
    have hsome : (table.find? value).isSome := by
      simp only [find?, List.find?_isSome]
      exact ⟨row, hmem, by simpa using hkey⟩
    obtain ⟨found, hfound⟩ := Option.isSome_iff_exists.mp hsome
    have hfoundMem := List.mem_of_find?_eq_some hfound
    have hfoundKey : key found = value := by simpa using List.find?_some hfound
    rw [hfound, table.eq_of_key_eq hfoundMem hmem (hfoundKey.trans hkey.symm)]

theorem find?_eq_none_iff {table : Table key} {value : Key} :
    table.find? value = none ↔ value ∉ table.keys := by
  simp [find?]

/-- `INSERT … ON CONFLICT (key) DO NOTHING`. -/
def insertOrIgnore (table : Table key) (row : Row) : Table key :=
  if h : key row ∈ table.keys then table
  else
    { rows := table.rows ++ [row]
      key_nodup := by
        rw [List.map_append, List.nodup_append]
        refine ⟨table.key_nodup, by simp, ?_⟩
        intro value hvalue other hother heq
        simp only [List.map_cons, List.map_nil, List.mem_singleton] at hother
        exact h (by simpa [keys, ← hother, ← heq] using hvalue) }

theorem insertOrIgnore_of_mem {table : Table key} {row : Row}
    (h : key row ∈ table.keys) : table.insertOrIgnore row = table := by
  unfold insertOrIgnore
  rw [dif_pos h]

theorem rows_insertOrIgnore_of_notMem {table : Table key} {row : Row}
    (h : key row ∉ table.keys) :
    (table.insertOrIgnore row).rows = table.rows ++ [row] := by
  unfold insertOrIgnore
  rw [dif_neg h]

theorem rows_insertOrIgnore (table : Table key) (row : Row) :
    (table.insertOrIgnore row).rows =
      table.rows ++ if key row ∈ table.keys then [] else [row] := by
  by_cases h : key row ∈ table.keys
  · rw [insertOrIgnore_of_mem h, if_pos h, List.append_nil]
  · rw [rows_insertOrIgnore_of_notMem h, if_neg h]

theorem mem_insertOrIgnore {table : Table key} {row other : Row} :
    other ∈ (table.insertOrIgnore row).rows ↔
      other ∈ table.rows ∨ (key row ∉ table.keys ∧ other = row) := by
  rw [rows_insertOrIgnore]
  split <;> simp_all

theorem keys_insertOrIgnore {table : Table key} {row : Row} {value : Key} :
    value ∈ (table.insertOrIgnore row).keys ↔ value ∈ table.keys ∨ value = key row := by
  by_cases h : key row ∈ table.keys
  · rw [insertOrIgnore_of_mem h]
    constructor
    · exact Or.inl
    · rintro (hold | rfl)
      · exact hold
      · exact h
  · simp only [keys, rows_insertOrIgnore_of_notMem h, List.map_append, List.mem_append,
      List.map_cons, List.map_nil, List.mem_singleton]

/-- Rows inserted one after the other. -/
theorem mem_keys_foldl_insertOrIgnore {table : Table key} {rows : List Row} {value : Key} :
    value ∈ (rows.foldl insertOrIgnore table).keys ↔
      value ∈ table.keys ∨ ∃ row ∈ rows, key row = value := by
  induction rows generalizing table with
  | nil => simp
  | cons row rest ih =>
    rw [List.foldl_cons, ih, keys_insertOrIgnore, List.exists_mem_cons_iff, or_assoc,
      eq_comm (a := value)]

theorem mem_of_mem_foldl_insertOrIgnore {table : Table key} {rows : List Row} {row : Row}
    (h : row ∈ (rows.foldl insertOrIgnore table).rows) : row ∈ table.rows ∨ row ∈ rows := by
  induction rows generalizing table with
  | nil => exact .inl h
  | cons first rest ih =>
    rw [List.foldl_cons] at h
    rcases ih h with hinserted | hrest
    · rcases mem_insertOrIgnore.mp hinserted with hold | ⟨_, rfl⟩
      · exact .inl hold
      · exact .inr List.mem_cons_self
    · exact .inr (List.mem_cons_of_mem first hrest)

/-- `INSERT` without a conflict clause: a row of an existing key is refused. -/
def insert? (table : Table key) (row : Row) : Option (Table key) :=
  if key row ∈ table.keys then none else some (table.insertOrIgnore row)

theorem insert?_eq_some_iff {table next : Table key} {row : Row} :
    table.insert? row = some next ↔
      key row ∉ table.keys ∧ next = table.insertOrIgnore row := by
  unfold insert?
  split <;> simp_all [eq_comm]

end Insert

/-- `UPDATE … SET … WHERE condition`, for an update that leaves the key alone. -/
def updateWhere (table : Table key) (condition : Row → Bool) (update : Row → Row)
    (hkey : ∀ row, key (update row) = key row) : Table key where
  rows := table.rows.map fun row => if condition row then update row else row
  key_nodup := by
    have hmap : (table.rows.map fun row => if condition row then update row else row).map key =
        table.rows.map key := by
      rw [List.map_map]
      apply List.map_congr_left
      intro row _
      simp only [Function.comp_apply]
      split
      · exact hkey row
      · rfl
    rw [hmap]
    exact table.key_nodup

theorem rows_updateWhere (table : Table key) (condition : Row → Bool) (update : Row → Row)
    (hkey : ∀ row, key (update row) = key row) :
    (table.updateWhere condition update hkey).rows =
      table.rows.map fun row => if condition row then update row else row := rfl

@[simp] theorem keys_updateWhere (table : Table key) (condition : Row → Bool)
    (update : Row → Row) (hkey : ∀ row, key (update row) = key row) :
    (table.updateWhere condition update hkey).keys = table.keys := by
  unfold keys updateWhere
  rw [List.map_map]
  apply List.map_congr_left
  intro row _
  simp only [Function.comp_apply]
  split
  · exact hkey row
  · rfl

theorem mem_updateWhere {table : Table key} {condition : Row → Bool} {update : Row → Row}
    {hkey : ∀ row, key (update row) = key row} {row : Row} :
    row ∈ (table.updateWhere condition update hkey).rows ↔
      ∃ old ∈ table.rows, (if condition old then update old else old) = row := by
  rw [rows_updateWhere, List.mem_map]

/-- A row stays as it is unless the update selects and changes it. -/
theorem mem_updateWhere_self {table : Table key} {condition : Row → Bool} {update : Row → Row}
    {hkey : ∀ row, key (update row) = key row} {row : Row} (hmem : row ∈ table.rows) :
    row ∈ (table.updateWhere condition update hkey).rows ↔
      (condition row = true → update row = row) := by
  rw [mem_updateWhere]
  constructor
  · rintro ⟨old, hold, heq⟩ hcondition
    have holdKey : key old = key row := by
      rw [← heq]
      split
      · exact (hkey old).symm
      · rfl
    rw [table.eq_of_key_eq hold hmem holdKey, if_pos hcondition] at heq
    exact heq
  · intro h
    refine ⟨row, hmem, ?_⟩
    split
    · next hcondition => exact h hcondition
    · rfl

theorem find?_updateWhere [DecidableEq Key] (table : Table key) (condition : Row → Bool)
    (update : Row → Row) (hkey : ∀ row, key (update row) = key row) (value : Key) :
    (table.updateWhere condition update hkey).find? value =
      (table.find? value).map fun row => if condition row then update row else row := by
  unfold find?
  rw [rows_updateWhere, List.find?_map]
  congr 2
  funext row
  simp only [Function.comp_apply]
  split
  · rw [hkey]
  · rfl

/-- `DELETE … WHERE condition`. -/
def deleteWhere (table : Table key) (condition : Row → Bool) : Table key where
  rows := table.rows.filter fun row => !condition row
  key_nodup := table.key_nodup.sublist (List.filter_sublist.map key)

theorem mem_deleteWhere {table : Table key} {condition : Row → Bool} {row : Row} :
    row ∈ (table.deleteWhere condition).rows ↔ row ∈ table.rows ∧ condition row = false := by
  simp [deleteWhere]

/-- `SELECT … WHERE condition ORDER BY …`. -/
def select (table : Table key) (condition : Row → Bool) (before : Row → Row → Prop)
    [DecidableRel before] : List Row :=
  (table.rows.filter condition).insertionSort before

theorem mem_select {table : Table key} {condition : Row → Bool} {before : Row → Row → Prop}
    [DecidableRel before] {row : Row} :
    row ∈ table.select condition before ↔ row ∈ table.rows ∧ condition row = true := by
  rw [select, List.mem_insertionSort, List.mem_filter]

/-- A `LIMIT` cuts off no row that comes before one it keeps. -/
theorem mem_take_select {table : Table key} {condition : Row → Bool} {before : Row → Row → Prop}
    [DecidableRel before] [Std.Total before] [IsTrans Row before] {limit : Nat}
    {first second : Row} (hsecond : second ∈ (table.select condition before).take limit)
    (hfirst : first ∈ table.select condition before)
    (hbefore : before second first → first = second) :
    first ∈ (table.select condition before).take limit := by
  have hsorted : (table.select condition before).Pairwise before :=
    List.pairwise_insertionSort before _
  rw [← List.take_append_drop limit (table.select condition before)] at hsorted hfirst
  rcases List.mem_append.mp hfirst with hkept | hcut
  · exact hkept
  · have hcross := (List.pairwise_append.mp hsorted).2.2
    rw [hbefore (hcross second hsecond first hcut)]
    exact hsecond

theorem rows_deleteWhere (table : Table key) (condition : Row → Bool) :
    (table.deleteWhere condition).rows = table.rows.filter fun row => !condition row := rfl

/-- A deletion commutes with an update that does not touch its condition. -/
theorem updateWhere_deleteWhere (table : Table key) {removed condition : Row → Bool}
    {update : Row → Row} {hkey : ∀ row, key (update row) = key row}
    (hremoved : ∀ row, removed (update row) = removed row) :
    (table.deleteWhere removed).updateWhere condition update hkey =
      (table.updateWhere condition update hkey).deleteWhere removed := by
  apply eq_of_rows_eq
  rw [rows_updateWhere, rows_deleteWhere, rows_deleteWhere, rows_updateWhere, List.filter_map]
  congr 1
  apply List.filter_congr
  intro row _
  simp only [Function.comp_apply]
  split
  · rw [hremoved]
  · rfl

theorem find?_deleteWhere [DecidableEq Key] (table : Table key) (condition : Row → Bool)
    (value : Key) :
    (table.deleteWhere condition).find? value =
      (table.find? value).filter fun row => !condition row := by
  apply Option.ext
  intro row
  rw [find?_eq_some_iff, mem_deleteWhere, Option.filter_eq_some_iff, find?_eq_some_iff]
  simp only [Bool.not_eq_true']
  constructor
  · rintro ⟨⟨hmem, hkept⟩, hkey⟩
    exact ⟨⟨hmem, hkey⟩, hkept⟩
  · rintro ⟨⟨hmem, hkey⟩, hkept⟩
    exact ⟨⟨hmem, hkept⟩, hkey⟩

/-- Deleted rows are missing from a selection, and the others keep their order. -/
theorem select_deleteWhere {table : Table key} {condition removed : Row → Bool}
    {before : Row → Row → Prop} [DecidableRel before] [Std.Total before] [IsTrans Row before]
    (hanti : ∀ first second, before first second → before second first → key first = key second) :
    (table.deleteWhere removed).select condition before =
      (table.select condition before).filter fun row => !removed row := by
  unfold select
  apply List.Perm.eq_of_pairwise
  · intro first second hfirst hsecond hle hge
    rw [List.mem_insertionSort, List.mem_filter, mem_deleteWhere] at hfirst
    rw [List.mem_filter, List.mem_insertionSort, List.mem_filter] at hsecond
    exact table.eq_of_key_eq hfirst.1.1 hsecond.1.1 (hanti first second hle hge)
  · exact List.pairwise_insertionSort before _
  · exact (List.pairwise_insertionSort before _).filter _
  · have hrows : (table.deleteWhere removed).rows.filter condition =
        (table.rows.filter condition).filter fun row => !removed row := by
      unfold deleteWhere
      rw [List.filter_filter, List.filter_filter]
      apply List.filter_congr
      intro row _
      exact Bool.and_comm _ _
    rw [hrows]
    exact (List.perm_insertionSort before _).trans
      ((List.perm_insertionSort before _).symm.filter _)

section Upsert

variable [DecidableEq Key]

/-- `INSERT … ON CONFLICT (key) DO UPDATE SET …`: the row that was there is
merged with the new one. -/
def upsert (table : Table key) (row : Row) (merge : Row → Row)
    (hmerge : ∀ old, key (merge old) = key old) : Table key :=
  if key row ∈ table.keys then
    table.updateWhere (fun old => key old = key row) merge hmerge
  else table.insertOrIgnore row

theorem find?_insertOrIgnore_of_ne {table : Table key} {row : Row} {value : Key}
    (hne : value ≠ key row) : (table.insertOrIgnore row).find? value = table.find? value := by
  apply Option.ext
  intro found
  rw [find?_eq_some_iff, find?_eq_some_iff, mem_insertOrIgnore]
  constructor
  · rintro ⟨hmem | ⟨_, rfl⟩, hkey⟩
    · exact ⟨hmem, hkey⟩
    · exact absurd hkey.symm hne
  · rintro ⟨hmem, hkey⟩
    exact ⟨.inl hmem, hkey⟩

theorem find?_insertOrIgnore_self {table : Table key} {row : Row} (h : key row ∉ table.keys) :
    (table.insertOrIgnore row).find? (key row) = some row :=
  find?_eq_some_iff.mpr ⟨mem_insertOrIgnore.mpr (.inr ⟨h, rfl⟩), rfl⟩

theorem find?_upsert_of_ne {table : Table key} {row : Row} {merge : Row → Row}
    {hmerge : ∀ old, key (merge old) = key old} {value : Key} (hne : value ≠ key row) :
    (table.upsert row merge hmerge).find? value = table.find? value := by
  unfold upsert
  split
  · rw [find?_updateWhere]
    cases hfind : table.find? value with
    | none => rfl
    | some found =>
      have hkey := (find?_eq_some_iff.mp hfind).2
      rw [Option.map_some, if_neg]
      rw [decide_eq_true_eq, hkey]
      exact hne
  · exact find?_insertOrIgnore_of_ne hne

theorem find?_upsert_self {table : Table key} {row : Row} {merge : Row → Row}
    {hmerge : ∀ old, key (merge old) = key old} :
    (table.upsert row merge hmerge).find? (key row) =
      some (match table.find? (key row) with | some old => merge old | none => row) := by
  unfold upsert
  cases hfind : table.find? (key row) with
  | none =>
    have hnew := find?_eq_none_iff.mp hfind
    rw [if_neg hnew]
    exact find?_insertOrIgnore_self hnew
  | some old =>
    have hold := find?_eq_some_iff.mp hfind
    rw [if_pos (mem_keys.mpr ⟨old, hold⟩), find?_updateWhere, hfind]
    simp [hold.2]

theorem mem_rows_iff {table : Table key} {row : Row} :
    row ∈ table.rows ↔ table.find? (key row) = some row := by
  rw [find?_eq_some_iff, and_iff_left rfl]

/-- A merge that overwrites the old row puts the new one in its place. -/
theorem mem_upsert_of_overwrites {table : Table key} {row other : Row} {merge : Row → Row}
    {hmerge : ∀ old, key (merge old) = key old}
    (hoverwrites : ∀ old, key old = key row → merge old = row) :
    other ∈ (table.upsert row merge hmerge).rows ↔
      other = row ∨ (other ∈ table.rows ∧ key other ≠ key row) := by
  rw [mem_rows_iff]
  by_cases hkey : key other = key row
  · have hself : (table.upsert row merge hmerge).find? (key row) = some row := by
      rw [find?_upsert_self]
      cases hfind : table.find? (key row) with
      | none => rfl
      | some old => exact congrArg some (hoverwrites old (find?_eq_some_iff.mp hfind).2)
    rw [hkey, hself]
    constructor
    · intro heq
      exact .inl (Option.some.inj heq).symm
    · rintro (heq | ⟨_, hne⟩)
      · rw [heq]
      · exact absurd rfl hne
  · rw [find?_upsert_of_ne hkey, ← mem_rows_iff]
    constructor
    · intro hmem
      exact .inr ⟨hmem, hkey⟩
    · rintro (heq | ⟨hmem, _⟩)
      · exact absurd (congrArg key heq) hkey
      · exact hmem

end Upsert

/-- The number of rows a condition selects, as `UPDATE` reports it. -/
def countWhere (table : Table key) (condition : Row → Bool) : Nat :=
  table.rows.countP condition

end Table

/-- A table with a second unique column, `UNIQUE (unique)`, beside its key. -/
structure UniqueTable {Other : Type*} (key : Row → Key) (unique : Row → Other) extends
    Table key where
  unique_nodup : (rows.map unique).Nodup

namespace UniqueTable

variable {Other : Type*} {key : Row → Key} {unique : Row → Other}

/-- The values of the second unique column. -/
def uniques (table : UniqueTable key unique) : List Other := table.rows.map unique

def empty : UniqueTable key unique := ⟨.empty, by simp⟩

@[simp] theorem rows_empty : (empty : UniqueTable key unique).rows = [] := rfl

@[simp] theorem mem_uniques {table : UniqueTable key unique} {value : Other} :
    value ∈ table.uniques ↔ ∃ row ∈ table.rows, unique row = value := by
  simp [uniques]

/-- Two rows with the same unique value are the same row. -/
theorem eq_of_unique_eq (table : UniqueTable key unique) {first second : Row}
    (hfirst : first ∈ table.rows) (hsecond : second ∈ table.rows)
    (heq : unique first = unique second) : first = second :=
  List.inj_on_of_nodup_map table.unique_nodup hfirst hsecond heq

/-- `UPDATE`, for an update that leaves both columns alone. -/
def updateWhere (table : UniqueTable key unique) (condition : Row → Bool) (update : Row → Row)
    (hkey : ∀ row, key (update row) = key row)
    (hunique : ∀ row, unique (update row) = unique row) : UniqueTable key unique where
  toTable := table.toTable.updateWhere condition update hkey
  unique_nodup := by
    have hmap : ((table.toTable.updateWhere condition update hkey).rows).map unique =
        table.rows.map unique := by
      rw [Table.rows_updateWhere, List.map_map]
      apply List.map_congr_left
      intro row _
      simp only [Function.comp_apply]
      split
      · exact hunique row
      · rfl
    rw [hmap]
    exact table.unique_nodup

theorem rows_updateWhere (table : UniqueTable key unique) (condition : Row → Bool)
    (update : Row → Row) (hkey : ∀ row, key (update row) = key row)
    (hunique : ∀ row, unique (update row) = unique row) :
    (table.updateWhere condition update hkey hunique).rows =
      table.rows.map fun row => if condition row then update row else row := rfl

theorem find?_updateWhere [DecidableEq Key] (table : UniqueTable key unique)
    (condition : Row → Bool) (update : Row → Row) (hkey : ∀ row, key (update row) = key row)
    (hunique : ∀ row, unique (update row) = unique row) (value : Key) :
    (table.updateWhere condition update hkey hunique).find? value =
      (table.find? value).map fun row => if condition row then update row else row :=
  Table.find?_updateWhere table.toTable condition update hkey value

theorem mem_updateWhere_self {table : UniqueTable key unique} {condition : Row → Bool}
    {update : Row → Row} {hkey : ∀ row, key (update row) = key row}
    {hunique : ∀ row, unique (update row) = unique row} {row : Row} (hmem : row ∈ table.rows) :
    row ∈ (table.updateWhere condition update hkey hunique).rows ↔
      (condition row = true → update row = row) := by
  have hrow : row ∈ (table.toTable.updateWhere condition update hkey).rows ↔
      (condition row = true → update row = row) := Table.mem_updateWhere_self hmem
  exact hrow

/-- `DELETE … WHERE condition`. -/
def deleteWhere (table : UniqueTable key unique) (condition : Row → Bool) :
    UniqueTable key unique where
  toTable := table.toTable.deleteWhere condition
  unique_nodup := table.unique_nodup.sublist (List.filter_sublist.map unique)

theorem mem_deleteWhere {table : UniqueTable key unique} {condition : Row → Bool} {row : Row} :
    row ∈ (table.deleteWhere condition).rows ↔ row ∈ table.rows ∧ condition row = false :=
  Table.mem_deleteWhere

variable [DecidableEq Key] [DecidableEq Other]

/-- `INSERT … ON CONFLICT (key) DO NOTHING`: a row of an existing key is
ignored, any other row of an existing unique value is refused. -/
def insertOrIgnore? (table : UniqueTable key unique) (row : Row) :
    Option (UniqueTable key unique) :=
  if key row ∈ table.keys then some table
  else if h : unique row ∈ table.uniques then none
  else some
    { toTable := table.toTable.insertOrIgnore row
      unique_nodup := by
        rw [Table.rows_insertOrIgnore]
        split
        · simpa using table.unique_nodup
        · rw [List.map_append, List.nodup_append]
          refine ⟨table.unique_nodup, by simp, ?_⟩
          intro value hvalue other hother heq
          rw [List.map_cons, List.map_nil, List.mem_singleton] at hother
          exact h (by rw [← hother, ← heq]; exact hvalue) }

/-- `INSERT` without a conflict clause. -/
def insert? (table : UniqueTable key unique) (row : Row) : Option (UniqueTable key unique) :=
  if key row ∈ table.keys then none else table.insertOrIgnore? row

/-- A row that is new in both columns is appended. -/
theorem insertOrIgnore?_of_new {table : UniqueTable key unique} {row : Row}
    (hkey : key row ∉ table.keys) (hunique : unique row ∉ table.uniques) :
    ∃ next, table.insertOrIgnore? row = some next ∧ next.rows = table.rows ++ [row] := by
  unfold insertOrIgnore?
  rw [if_neg hkey, dif_neg hunique]
  exact ⟨_, rfl, Table.rows_insertOrIgnore_of_notMem hkey⟩

/-- What a successful insert leaves: the old rows, and the new one if its key
was new. -/
theorem rows_of_insertOrIgnore? {table next : UniqueTable key unique} {row : Row}
    (h : table.insertOrIgnore? row = some next) :
    (key row ∈ table.keys ∧ next = table) ∨
      (key row ∉ table.keys ∧ unique row ∉ table.uniques ∧ next.rows = table.rows ++ [row]) := by
  unfold insertOrIgnore? at h
  split at h
  · next hmem => exact .inl ⟨hmem, (Option.some.inj h).symm⟩
  · next hkey =>
    split at h
    · simp at h
    · next hunique =>
      refine .inr ⟨hkey, hunique, ?_⟩
      rw [← Option.some.inj h]
      exact Table.rows_insertOrIgnore_of_notMem hkey

theorem rows_of_insert? {table next : UniqueTable key unique} {row : Row}
    (h : table.insert? row = some next) :
    key row ∉ table.keys ∧ unique row ∉ table.uniques ∧ next.rows = table.rows ++ [row] := by
  unfold insert? at h
  split at h
  · simp at h
  · next hkey =>
    rcases rows_of_insertOrIgnore? h with ⟨hmem, _⟩ | hnew
    · exact absurd hmem hkey
    · exact hnew

theorem insert?_of_new {table : UniqueTable key unique} {row : Row}
    (hkey : key row ∉ table.keys) (hunique : unique row ∉ table.uniques) :
    ∃ next, table.insert? row = some next ∧ next.rows = table.rows ++ [row] := by
  unfold insert?
  rw [if_neg hkey]
  exact insertOrIgnore?_of_new hkey hunique

end UniqueTable

end Relational
