import Mathlib.Data.List.Sort
import Mathlib.Data.String.Basic

/-! The Python built-ins and the failures that the modelled code relies on. -/

namespace CrmBot.Python

/-- `str.isspace` for one character. -/
def isSpace (c : Char) : Bool :=
  let code := c.toNat
  (9 ≤ code && code ≤ 13) || (28 ≤ code && code ≤ 32) || code == 0x85 || code == 0xa0 ||
    code == 0x1680 || (0x2000 ≤ code && code ≤ 0x200a) || code == 0x2028 || code == 0x2029 ||
    code == 0x202f || code == 0x205f || code == 0x3000

/-- `not value.strip()`: the text the constructors and handlers refuse. -/
def isBlank (value : String) : Bool :=
  value.toList.all isSpace

theorem isBlank_eq_false {value : String} (h : ¬ isBlank value = true) : isBlank value = false :=
  Bool.eq_false_iff.mpr h

theorem nonblank_singleton {value : String} (h : isBlank value = false) :
    ∀ other ∈ [value], isBlank other = false := by
  simpa using h

theorem toNat_pos {value : Int} (h : 0 < value) : 0 < value.toNat := by omega

/-- `sorted` on texts, which Python compares by code point. -/
def sorted (values : List String) : List String :=
  values.insertionSort (· ≤ ·)

theorem sorted_perm (values : List String) : (sorted values).Perm values :=
  List.perm_insertionSort _ values

@[simp] theorem mem_sorted {value : String} {values : List String} :
    value ∈ sorted values ↔ value ∈ values :=
  (sorted_perm values).mem_iff

@[simp] theorem length_sorted (values : List String) : (sorted values).length = values.length :=
  (sorted_perm values).length_eq

/-- Sorted texts are equal exactly for the same texts with the same repetitions. -/
theorem sorted_eq_iff {first second : List String} :
    sorted first = sorted second ↔ first.Perm second := by
  constructor
  · intro h
    have hfirst := (sorted_perm first).symm
    rw [h] at hfirst
    exact hfirst.trans (sorted_perm second)
  · intro hperm
    have hsorted : (sorted first).Perm (sorted second) :=
      ((sorted_perm first).trans hperm).trans (sorted_perm second).symm
    exact hsorted.eq_of_pairwise' (List.pairwise_insertionSort _ _)
      (List.pairwise_insertionSort _ _)

/-- `for index, left in enumerate(values): for right in values[index + 1:]`. -/
def laterPairs {α : Type*} : List α → List (α × α)
  | [] => []
  | left :: rest => rest.map (fun right => (left, right)) ++ laterPairs rest

theorem laterPairs_map {α β : Type*} (change : α → β) (values : List α) :
    laterPairs (values.map change) = (laterPairs values).map (Prod.map change change) := by
  induction values with
  | nil => rfl
  | cons left rest ih => simp [laterPairs, ih]

/-- Every pair of `laterPairs` differs exactly when the list has no repetition. -/
theorem forall_laterPairs_ne_iff {α : Type*} (values : List α) :
    (∀ pair ∈ laterPairs values, pair.1 ≠ pair.2) ↔ values.Nodup := by
  induction values with
  | nil => simp [laterPairs]
  | cons left rest ih =>
    rw [List.nodup_cons, ← ih]
    simp only [laterPairs, List.mem_append, List.mem_map]
    constructor
    · intro h
      refine ⟨fun hmem => h (left, left) (.inl ⟨left, hmem, rfl⟩) rfl, fun pair hpair => ?_⟩
      exact h pair (.inr hpair)
    · rintro ⟨hleft, hrest⟩ pair (⟨right, hright, rfl⟩ | hpair)
      · intro heq
        simp only at heq
        rw [heq] at hleft
        exact hleft hright
      · exact hrest pair hpair

/-- Instants are microseconds since the epoch, the resolution of `datetime`. -/
def microsPerSecond : Int := 1000000

/-- Year, month and day of a day count since the epoch, in the proleptic
Gregorian calendar. Years begin in March here, so that leap days come last. -/
def civilFromDays (days : Int) : Int × Nat × Nat :=
  let shifted := days + 719468
  let era := shifted.fdiv 146097
  let dayOfEra := (shifted - era * 146097).toNat
  let yearOfEra := (dayOfEra - dayOfEra / 1460 + dayOfEra / 36524 - dayOfEra / 146096) / 365
  let dayOfYear := dayOfEra - (365 * yearOfEra + yearOfEra / 4 - yearOfEra / 100)
  let marchMonth := (5 * dayOfYear + 2) / 153
  let day := dayOfYear - (153 * marchMonth + 2) / 5 + 1
  let month := if marchMonth < 10 then marchMonth + 3 else marchMonth - 9
  let year := yearOfEra + era * 400
  (if month ≤ 2 then year + 1 else year, month, day)

def zeroPadded (width value : Nat) : String :=
  let digits := toString value
  "".pushn '0' (width - digits.length) ++ digits

/-- `datetime.isoformat()` of an instant in UTC. -/
def isoformat (instant : Int) : String :=
  let seconds := instant.fdiv microsPerSecond
  let micros := (instant - seconds * microsPerSecond).toNat
  let days := seconds.fdiv 86400
  let secondOfDay := (seconds - days * 86400).toNat
  let (year, month, day) := civilFromDays days
  zeroPadded 4 year.toNat ++ "-" ++ zeroPadded 2 month ++ "-" ++ zeroPadded 2 day ++ "T" ++
    zeroPadded 2 (secondOfDay / 3600) ++ ":" ++ zeroPadded 2 (secondOfDay / 60 % 60) ++ ":" ++
    zeroPadded 2 (secondOfDay % 60) ++
    (if micros = 0 then "" else "." ++ zeroPadded 6 micros) ++ "+00:00"

/-- How a modelled call fails: an exception of the code itself, or a
constraint of the database that refuses a statement. Either way the
surrounding transaction is rolled back. -/
inductive Fault
  | valueError (message : String)
  | keyError (key : String)
  | runtimeError (message : String)
  | permissionError (message : String)
  | uniqueViolation (constraint : String)
  | foreignKeyViolation (constraint : String)
  | checkViolation (constraint : String)
  deriving DecidableEq, Repr

def Fault.IsUniqueViolation : Fault → Prop
  | .uniqueViolation _ => True
  | _ => False

def Fault.IsValueError : Fault → Prop
  | .valueError _ => True
  | _ => False

theorem Fault.IsValueError.not_isUniqueViolation {fault : Fault} (h : fault.IsValueError) :
    ¬ fault.IsUniqueViolation := by
  cases fault with
  | valueError message => exact id
  | keyError _ | runtimeError _ | permissionError _ | uniqueViolation _ | foreignKeyViolation _
  | checkViolation _ => exact absurd h id

end CrmBot.Python
