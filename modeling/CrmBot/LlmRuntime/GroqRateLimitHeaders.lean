import CrmBot.Library.Fold
import CrmBot.Library.SignificantDigits
import CrmBot.Python.Numerals
import CrmBot.Python.Text
import Mathlib.Data.List.ReduceOption

/-! `GroqRateLimitHeadersMapper`: what the headers of a response say of the quota.

`str.lower` is a parameter, and the durations are exact numbers of seconds. -/

namespace CrmBot.LlmRuntime

open CrmBot.Python SignificantDigits

/-- The first and the last microsecond of `datetime`, counted from the epoch. -/
def datetimeMin : Int := -62135596800000000

def datetimeMax : Int := 253402300799999999

/-- What a clock shows, and its offset from UTC if it has one. -/
structure Datetime where
  wall : Int
  utcOffset : Option Int
  inRange : datetimeMin ≤ wall ∧ wall ≤ datetimeMax
  deriving DecidableEq

inductive DurationFault
  | valueError (message : String)
  | overflowError (message : String)
  deriving DecidableEq

/-- `LlmQuotaSnapshot`, with the fields that the headers give. -/
structure LlmQuotaSnapshot where
  remainingRequestsDay : Option Nat
  remainingTokensMinute : Option Nat
  minuteResetAt : Option Datetime
  dailyResetAt : Option Datetime
  unavailableUntil : Option Datetime
  deriving DecidableEq

inductive DurationUnit
  | hours
  | minutes
  | seconds
  deriving DecidableEq

def DurationUnit.letter : DurationUnit → Char
  | .hours => 'h'
  | .minutes => 'm'
  | .seconds => 's'

def DurationUnit.inSeconds : DurationUnit → ℚ
  | .hours => 3600
  | .minutes => 60
  | .seconds => 1

/-- `[hms]`. -/
def unitOf? (c : Char) : Option DurationUnit :=
  if c = 'h' then some .hours else if c = 'm' then some .minutes
  else if c = 's' then some .seconds else none

/-- A number with its unit. Without a point the fraction is empty. -/
structure DurationPart where
  whole : List Char
  fraction : List Char
  unit : DurationUnit
  deriving DecidableEq

namespace DurationPart

def text (part : DurationPart) : List Char :=
  part.whole ++ (if part.fraction.isEmpty then [] else '.' :: part.fraction) ++ [part.unit.letter]

def inSeconds (part : DurationPart) : ℚ :=
  decimalValue part.whole part.fraction * part.unit.inSeconds

/-- `\d+(\.\d+)?`. -/
structure WellFormed (part : DurationPart) : Prop where
  whole_ne_nil : part.whole ≠ []
  whole_decimal : ∀ c ∈ part.whole, isDecimal c = true
  fraction_decimal : ∀ c ∈ part.fraction, isDecimal c = true

end DurationPart

/-- The part with the number, if its unit comes next. -/
def unitAt? (whole fraction : List Char) : List Char → Option (DurationPart × List Char)
  | [] => none
  | c :: rest => (unitOf? c).map fun unit => (⟨whole, fraction, unit⟩, rest)

/-- The match of `(\d+(?:\.\d+)?)([hms])` at the front of a text, and what follows it. No
match takes fewer digits than there are, since no unit is a digit. -/
def partAt? (text : List Char) : Option (DurationPart × List Char) :=
  let whole := text.takeWhile isDecimal
  if whole.isEmpty then none
  else match text.dropWhile isDecimal with
    | [] => none
    | c :: rest =>
      if c = '.' then
        let fraction := rest.takeWhile isDecimal
        if fraction.isEmpty then none else unitAt? whole fraction (rest.dropWhile isDecimal)
      else unitAt? whole [] (c :: rest)

/-- `re.findall`. Every match or step takes a character, so the length of the text is fuel
enough. -/
def findParts : Nat → List Char → List DurationPart
  | 0, _ => []
  | _ + 1, [] => []
  | fuel + 1, c :: rest =>
    match partAt? (c :: rest) with
    | some (part, rest) => part :: findParts fuel rest
    | none => findParts fuel rest

def totalSeconds (parts : List DurationPart) : ℚ := (parts.map DurationPart.inSeconds).sum

section Mapper

variable (lower : String → String)

/-- `normalized.get(name)`: of headers that differ in case the last one counts. -/
def headerOf? (headers : List (String × String)) (name : String) : Option String :=
  (headers.reverse.find? fun header => lower header.1 = name).map Prod.snd

def parseInt (value : Option String) : Option Nat :=
  match value with
  | none => none
  | some value =>
    if isBlank value then none
    else (intOf? (strip value).toList).bind fun parsed =>
      if parsed < 0 then none else some parsed.toNat

/-- `value.strip().lower()`. -/
def normalizedText (value : String) : List Char := (lower (strip value)).toList

def parseDurationSeconds (value : Option String) : Option PyFloat :=
  match value with
  | none => none
  | some value =>
    if isBlank value then none
    else
      let text := normalizedText lower value
      match floatOf? text with
      | some number => some number.atLeastZero
      | none =>
        let parts := findParts text.length text
        if parts.isEmpty then none
        else if parts.flatMap DurationPart.text ≠ text then none
        else if 0 < totalSeconds parts then some (.finite (totalSeconds parts)) else none

/-- `timedelta(seconds=duration)`, in microseconds. -/
def timedeltaMicros : PyFloat → Except DurationFault Int
  | .nan => .error (.valueError "cannot convert float NaN to integer")
  | .infinite _ => .error (.overflowError "cannot convert float infinity to integer")
  | .finite seconds =>
    let micros := roundHalfEven (seconds * 1000000)
    if 999999999 < |micros / 86400000000| then
      .error (.overflowError ("days=" ++ toString (micros / 86400000000) ++
        "; must have magnitude <= 999999999"))
    else .ok micros

/-- `observed_at + timedelta(seconds=duration)`. -/
def instantAfter (observedAt : Datetime) (duration : PyFloat) : Except DurationFault Datetime := do
  let micros ← timedeltaMicros duration
  if h : datetimeMin ≤ observedAt.wall + micros ∧ observedAt.wall + micros ≤ datetimeMax then
    .ok ⟨observedAt.wall + micros, observedAt.utcOffset, h⟩
  else .error (.overflowError "date value out of range")

def absoluteResetAt (observedAt : Datetime) (duration : Option PyFloat) :
    Except DurationFault (Option Datetime) :=
  match duration with
  | none => .ok none
  | some duration => (instantAfter observedAt duration).map some

/-- `min` of instants of one clock, the first of several. -/
def earliest : List Datetime → Option Datetime
  | [] => none
  | first :: rest =>
    some (rest.foldl (fun best next => if next.wall < best.wall then next else best) first)

def nearestFutureTime (observedAt : Datetime) (durations : List (Option PyFloat)) :
    Except DurationFault (Option Datetime) :=
  (durations.reduceOption.mapM (instantAfter observedAt)).map earliest

def mapHeaders (headers : List (String × String)) (observedAt : Datetime) :
    Except DurationFault LlmQuotaSnapshot :=
  if observedAt.utcOffset.isNone then .error (.valueError "observed_at must be timezone-aware")
  else do
    let retryAfter := parseDurationSeconds lower (headerOf? lower headers "retry-after")
    let resetTokens :=
      parseDurationSeconds lower (headerOf? lower headers "x-ratelimit-reset-tokens")
    let resetRequests :=
      parseDurationSeconds lower (headerOf? lower headers "x-ratelimit-reset-requests")
    let minuteResetAt ← absoluteResetAt observedAt resetTokens
    let dailyResetAt ← absoluteResetAt observedAt resetRequests
    let unavailableUntil ←
      nearestFutureTime observedAt [retryAfter, resetTokens, resetRequests]
    return {
      remainingRequestsDay :=
        parseInt (headerOf? lower headers "x-ratelimit-remaining-requests")
      remainingTokensMinute :=
        parseInt (headerOf? lower headers "x-ratelimit-remaining-tokens")
      minuteResetAt, dailyResetAt, unavailableUntil }

/-- The durations that the headers give. -/
def readDurations (headers : List (String × String)) : List PyFloat :=
  [parseDurationSeconds lower (headerOf? lower headers "retry-after"),
    parseDurationSeconds lower (headerOf? lower headers "x-ratelimit-reset-tokens"),
    parseDurationSeconds lower (headerOf? lower headers "x-ratelimit-reset-requests")].reduceOption

end Mapper

/-- The duration is a number, and the calendar has the instant after it. -/
def Fits (observedAt : Datetime) : PyFloat → Prop
  | .finite seconds => observedAt.wall + roundHalfEven (seconds * 1000000) ≤ datetimeMax
  | _ => False

/-- No instant after one of the durations is before this one, which is after one of them. -/
def IsEarliest (observedAt : Datetime) (durations : List PyFloat) (instant : Datetime) : Prop :=
  (∃ duration ∈ durations, instantAfter observedAt duration = .ok instant) ∧
    ∀ duration ∈ durations, ∃ later, instantAfter observedAt duration = .ok later ∧
      instant.wall ≤ later.wall

/-! The parts of a text. -/

@[simp] theorem unitOf?_letter (unit : DurationUnit) : unitOf? unit.letter = some unit := by
  cases unit <;> rfl

theorem letter_of_unitOf? {c : Char} {unit : DurationUnit} (h : unitOf? c = some unit) :
    c = unit.letter := by
  unfold unitOf? at h
  split at h
  · next hc => rw [← Option.some.inj h, hc]; rfl
  · split at h
    · next hc => rw [← Option.some.inj h, hc]; rfl
    · split at h
      · next hc => rw [← Option.some.inj h, hc]; rfl
      · cases h

theorem isDecimal_letter (unit : DurationUnit) :
    isDecimal unit.letter = false ∧ unit.letter ≠ '.' := by
  cases unit <;> decide

theorem span_decimal {digits : List Char} (hdigits : ∀ c ∈ digits, isDecimal c = true) {c : Char}
    (hc : isDecimal c = false) (rest : List Char) :
    (digits ++ c :: rest).takeWhile isDecimal = digits ∧
      (digits ++ c :: rest).dropWhile isDecimal = c :: rest := by
  rw [List.takeWhile_append_of_pos hdigits, List.dropWhile_append_of_pos hdigits]
  simp [hc]

theorem partAt?_text {part : DurationPart} (h : part.WellFormed) (rest : List Char) :
    partAt? (part.text ++ rest) = some (part, rest) := by
  obtain ⟨whole, fraction, unit⟩ := part
  obtain ⟨hne, hwhole, hfraction⟩ := h
  obtain ⟨hunit, hpoint⟩ := isDecimal_letter unit
  dsimp only at hne hwhole hfraction
  unfold DurationPart.text
  dsimp only
  by_cases hempty : fraction = []
  · subst hempty
    obtain ⟨htake, hdrop⟩ := span_decimal hwhole hunit rest
    simp only [List.isEmpty_nil, if_true, List.append_nil, List.append_assoc, List.cons_append,
      List.nil_append]
    rw [partAt?, htake, hdrop, if_neg (by simp [hne])]
    dsimp only
    rw [if_neg hpoint, unitAt?, unitOf?_letter]
    rfl
  · obtain ⟨htake, hdrop⟩ :=
      span_decimal hwhole (show isDecimal '.' = false by decide) (fraction ++ unit.letter :: rest)
    obtain ⟨htakeFraction, hdropFraction⟩ := span_decimal hfraction hunit rest
    simp only [List.isEmpty_iff, hempty, if_false, List.append_assoc, List.cons_append,
      List.nil_append]
    rw [partAt?, htake, hdrop, if_neg (by simp [hne])]
    dsimp only
    rw [if_pos rfl, htakeFraction, hdropFraction, if_neg (by simp [hempty]), unitAt?,
      unitOf?_letter]
    rfl

theorem unitAt?_some {whole fraction text rest : List Char} {part : DurationPart}
    (h : unitAt? whole fraction text = some (part, rest)) :
    part.whole = whole ∧ part.fraction = fraction ∧ text = part.unit.letter :: rest := by
  cases text with
  | nil => cases h
  | cons c after =>
    obtain ⟨unit, hunit, hpart⟩ := Option.map_eq_some_iff.mp h
    cases hpart
    exact ⟨rfl, rfl, by rw [letter_of_unitOf? hunit]⟩

/-- A match is a part at the front of the text. -/
theorem partAt?_some {text rest : List Char} {part : DurationPart}
    (h : partAt? text = some (part, rest)) : text = part.text ++ rest ∧ part.WellFormed := by
  have hdecimal : ∀ {front : List Char}, ∀ c ∈ front.takeWhile isDecimal, isDecimal c = true :=
    fun c hc => List.mem_takeWhile_imp hc
  have hsplit := List.takeWhile_append_dropWhile (p := isDecimal) (l := text)
  unfold partAt? at h
  dsimp only at h
  split at h
  · cases h
  · next hwhole =>
    rw [List.isEmpty_iff] at hwhole
    split at h
    · cases h
    · next c after hafter =>
      rw [hafter] at hsplit
      split at h
      · next hc =>
        split at h
        · cases h
        · next hfraction =>
          obtain ⟨hpartWhole, hpartFraction, hrest⟩ := unitAt?_some h
          have hafterSplit := List.takeWhile_append_dropWhile (p := isDecimal) (l := after)
          rw [hrest] at hafterSplit
          refine ⟨?_, ?_⟩
          · rw [← hsplit, ← hafterSplit, DurationPart.text, hpartWhole, hpartFraction,
              if_neg (by simpa using hfraction), hc]
            simp
          · exact ⟨hpartWhole ▸ hwhole, hpartWhole ▸ hdecimal, hpartFraction ▸ hdecimal⟩
      · obtain ⟨hpartWhole, hpartFraction, hrest⟩ := unitAt?_some h
        refine ⟨?_, ?_⟩
        · rw [← hsplit, hrest, DurationPart.text, hpartWhole, hpartFraction]
          simp
        · exact ⟨hpartWhole ▸ hwhole, hpartWhole ▸ hdecimal, by simp [hpartFraction]⟩

theorem wellFormed_of_mem_findParts {fuel : Nat} {text : List Char} {part : DurationPart}
    (h : part ∈ findParts fuel text) : part.WellFormed := by
  induction fuel generalizing text with
  | zero => cases h
  | succ fuel ih =>
    cases text with
    | nil => cases h
    | cons c rest =>
      rw [findParts] at h
      cases hpart : partAt? (c :: rest) with
      | none =>
        rw [hpart] at h
        exact ih h
      | some found =>
        obtain ⟨first, after⟩ := found
        rw [hpart] at h
        rcases List.mem_cons.mp h with rfl | hlater
        · exact (partAt?_some hpart).2
        · exact ih hlater

/-- The parts of a text are found again. -/
theorem findParts_text {parts : List DurationPart} (hparts : ∀ part ∈ parts, part.WellFormed)
    {fuel : Nat} (hfuel : (parts.flatMap DurationPart.text).length ≤ fuel) :
    findParts fuel (parts.flatMap DurationPart.text) = parts := by
  induction parts generalizing fuel with
  | nil => cases fuel <;> rfl
  | cons part parts ih =>
    obtain ⟨hpart, hrest⟩ := List.forall_mem_cons.mp hparts
    rw [List.flatMap_cons] at hfuel ⊢
    have hfound := partAt?_text hpart (parts.flatMap DurationPart.text)
    have hlength : 0 < part.text.length := by simp [DurationPart.text]
    rw [List.length_append] at hfuel
    obtain ⟨fuel, rfl⟩ : ∃ more, fuel = more + 1 := ⟨fuel - 1, by omega⟩
    obtain ⟨c, after, htext⟩ := List.exists_cons_of_length_pos hlength
    rw [htext, List.cons_append] at hfound ⊢
    rw [findParts, hfound]
    dsimp only
    rw [ih hrest (by omega)]

/-! What the headers are read as. -/

variable {lower : String → String} {headers : List (String × String)} {observedAt : Datetime}

/-- A text that is no number is read as a duration exactly when it consists of parts that
are together positive, and then as their sum. -/
theorem parseDurationSeconds_eq_some_iff {value : String} (hblank : isBlank value = false)
    (hnumber : floatOf? (normalizedText lower value) = none) {duration : PyFloat} :
    parseDurationSeconds lower (some value) = some duration ↔
      ∃ parts : List DurationPart, (∀ part ∈ parts, part.WellFormed) ∧
        normalizedText lower value = parts.flatMap DurationPart.text ∧
        0 < totalSeconds parts ∧ duration = .finite (totalSeconds parts) := by
  simp only [parseDurationSeconds, hblank, Bool.false_eq_true, if_false, hnumber]
  constructor
  · intro h
    split at h
    · cases h
    · split at h
      · cases h
      · next htext =>
        split at h
        · next hpositive =>
          refine ⟨_, fun part hpart => wellFormed_of_mem_findParts hpart, ?_, hpositive, ?_⟩
          · exact (not_not.mp htext).symm
          · exact (Option.some.inj h).symm
        · cases h
  · rintro ⟨parts, hparts, htext, hpositive, rfl⟩
    have hfound : findParts (normalizedText lower value).length (normalizedText lower value) =
        parts := by
      rw [htext]
      exact findParts_text hparts (le_refl _)
    have hne : parts ≠ [] := by
      rintro rfl
      exact absurd hpositive (lt_irrefl 0)
    rw [hfound, if_neg (by simpa using hne), if_neg (not_not.mpr htext.symm), if_pos hpositive]

/-- No duration is negative. -/
theorem nonneg_of_parseDurationSeconds {value : Option String} {seconds : ℚ}
    (h : parseDurationSeconds lower value = some (.finite seconds)) : 0 ≤ seconds := by
  cases value with
  | none => cases h
  | some value =>
    cases hblank : isBlank value with
    | true => simp [parseDurationSeconds, hblank] at h
    | false =>
      cases hnumber : floatOf? (normalizedText lower value) with
      | none =>
        obtain ⟨parts, _, _, hpositive, heq⟩ :=
          (parseDurationSeconds_eq_some_iff hblank hnumber).mp h
        rw [PyFloat.finite.inj heq]
        exact hpositive.le
      | some number =>
        simp only [parseDurationSeconds, hblank, Bool.false_eq_true, if_false, hnumber,
          Option.some.injEq] at h
        cases number with
        | nan => cases h
        | finite value =>
          rw [← PyFloat.finite.inj h]
          exact le_max_right value 0
        | infinite negative =>
          cases negative with
          | false => cases h
          | true => exact (PyFloat.finite.inj h).le

/-- A duration that fits has its instant. -/
theorem exists_instantAfter {duration : PyFloat}
    (hnonneg : ∀ seconds, duration = .finite seconds → 0 ≤ seconds)
    (hfits : Fits observedAt duration) :
    ∃ instant, instantAfter observedAt duration = .ok instant := by
  cases duration with
  | nan | infinite _ => exact hfits.elim
  | finite seconds =>
    have hmicros : 0 ≤ roundHalfEven (seconds * 1000000) := by
      refine le_trans (Int.floor_nonneg.mpr ?_) (floor_le_roundHalfEven _)
      exact mul_nonneg (hnonneg seconds rfl) (by norm_num)
    have hrange := observedAt.inRange
    simp only [Fits, datetimeMax] at hfits
    simp only [datetimeMin, datetimeMax] at hrange
    have hdays : ¬ 999999999 < |roundHalfEven (seconds * 1000000) / 86400000000| := by
      rw [not_lt, abs_le]
      omega
    have hinstant : datetimeMin ≤ observedAt.wall + roundHalfEven (seconds * 1000000) ∧
        observedAt.wall + roundHalfEven (seconds * 1000000) ≤ datetimeMax := by
      simp only [datetimeMin, datetimeMax]
      omega
    refine ⟨⟨_, observedAt.utcOffset, hinstant⟩, ?_⟩
    simp only [instantAfter, timedeltaMicros, if_neg hdays]
    exact dif_pos hinstant

theorem earliest_spec {instants : List Datetime} {first : Datetime}
    (h : earliest instants = some first) :
    first ∈ instants ∧ ∀ instant ∈ instants, first.wall ≤ instant.wall := by
  have hfold : ∀ (rest : List Datetime) (best : Datetime),
      let least := rest.foldl (fun best next => if next.wall < best.wall then next else best) best
      least ∈ best :: rest ∧ ∀ instant ∈ best :: rest, least.wall ≤ instant.wall := by
    intro rest
    induction rest with
    | nil => simp
    | cons next rest ih =>
      intro best
      obtain ⟨hmem, hleast⟩ := ih (if next.wall < best.wall then next else best)
      rw [List.foldl_cons]
      dsimp only at hmem hleast ⊢
      have hchosen : (if next.wall < best.wall then next else best).wall ≤ best.wall ∧
          (if next.wall < best.wall then next else best).wall ≤ next.wall := by
        split <;> omega
      have hbest := hleast _ List.mem_cons_self
      constructor
      · rcases List.mem_cons.mp hmem with heq | hrest
        · rw [heq]
          split <;> simp
        · exact List.mem_cons_of_mem _ (List.mem_cons_of_mem _ hrest)
      · simp only [List.forall_mem_cons]
        exact ⟨hbest.trans hchosen.1, hbest.trans hchosen.2,
          fun instant hinstant => hleast instant (List.mem_cons_of_mem _ hinstant)⟩
  cases instants with
  | nil => cases h
  | cons best rest =>
    rw [← Option.some.inj h]
    exact hfold rest best

theorem mem_readDurations {duration : PyFloat} :
    duration ∈ readDurations lower headers ↔
      parseDurationSeconds lower (headerOf? lower headers "retry-after") = some duration ∨
      parseDurationSeconds lower (headerOf? lower headers "x-ratelimit-reset-tokens") =
        some duration ∨
      parseDurationSeconds lower (headerOf? lower headers "x-ratelimit-reset-requests") =
        some duration := by
  simp [readDurations, List.reduceOption_mem_iff, eq_comm]

theorem nonneg_of_mem_readDurations {duration : PyFloat}
    (h : duration ∈ readDurations lower headers) :
    ∀ seconds, duration = .finite seconds → 0 ≤ seconds := by
  rintro seconds rfl
  rcases mem_readDurations.mp h with h | h | h <;> exact nonneg_of_parseDurationSeconds h

/-- The reset of a header is an instant if its duration fits. -/
theorem exists_absoluteResetAt {duration : Option PyFloat}
    (h : ∀ value, duration = some value → ∃ instant, instantAfter observedAt value = .ok instant) :
    ∃ reset, absoluteResetAt observedAt duration = .ok reset := by
  cases duration with
  | none => exact ⟨none, rfl⟩
  | some value =>
    obtain ⟨instant, hinstant⟩ := h value rfl
    exact ⟨some instant, by rw [absoluteResetAt, hinstant]; rfl⟩

/-- What a snapshot holds. -/
theorem mapHeaders_eq_ok_iff (haware : observedAt.utcOffset.isSome = true)
    {snapshot : LlmQuotaSnapshot} :
    mapHeaders lower headers observedAt = .ok snapshot ↔
      absoluteResetAt observedAt (parseDurationSeconds lower
        (headerOf? lower headers "x-ratelimit-reset-tokens")) = .ok snapshot.minuteResetAt ∧
      absoluteResetAt observedAt (parseDurationSeconds lower
        (headerOf? lower headers "x-ratelimit-reset-requests")) = .ok snapshot.dailyResetAt ∧
      (∃ instants, (readDurations lower headers).mapM (instantAfter observedAt) = .ok instants ∧
        earliest instants = snapshot.unavailableUntil) ∧
      parseInt (headerOf? lower headers "x-ratelimit-remaining-requests") =
        snapshot.remainingRequestsDay ∧
      parseInt (headerOf? lower headers "x-ratelimit-remaining-tokens") =
        snapshot.remainingTokensMinute := by
  have hzone : ¬ observedAt.utcOffset.isNone = true := by
    rw [← Option.not_isSome, haware]
    exact Bool.false_ne_true
  rw [mapHeaders, if_neg hzone]
  dsimp only
  simp only [FailingFold.bind_eq_ok, nearestFutureTime, FailingFold.map_eq_ok, pure, Except.pure,
    Except.ok.injEq]
  constructor
  · rintro ⟨minuteResetAt, hminute, dailyResetAt, hdaily, _, hnearest, rfl⟩
    exact ⟨hminute, hdaily, hnearest, rfl, rfl⟩
  · obtain ⟨requests, tokens, minuteResetAt, dailyResetAt, unavailableUntil⟩ := snapshot
    rintro ⟨hminute, hdaily, hnearest, rfl, rfl⟩
    exact ⟨minuteResetAt, hminute, dailyResetAt, hdaily, unavailableUntil, hnearest, rfl⟩

theorem exists_mapHeaders (haware : observedAt.utcOffset.isSome = true)
    (hfits : ∀ duration ∈ readDurations lower headers, Fits observedAt duration) :
    ∃ snapshot, mapHeaders lower headers observedAt = .ok snapshot := by
  have hinstant : ∀ duration ∈ readDurations lower headers,
      ∃ instant, instantAfter observedAt duration = .ok instant := fun duration hmem =>
    exists_instantAfter (nonneg_of_mem_readDurations hmem) (hfits duration hmem)
  obtain ⟨minuteResetAt, hminute⟩ := exists_absoluteResetAt fun value hvalue =>
    hinstant value (mem_readDurations.mpr (.inr (.inl hvalue)))
  obtain ⟨dailyResetAt, hdaily⟩ := exists_absoluteResetAt fun value hvalue =>
    hinstant value (mem_readDurations.mpr (.inr (.inr hvalue)))
  have hrelated : ∀ duration ∈ readDurations lower headers,
      ∃ instant, instantAfter observedAt duration = .ok instant ∧ True := fun duration hmem =>
    (hinstant duration hmem).imp fun _ hok => ⟨hok, trivial⟩
  obtain ⟨instants, hinstants, _⟩ := FailingFold.exists_mapM_eq_ok hrelated
  exact ⟨⟨_, _, minuteResetAt, dailyResetAt, earliest instants⟩,
    (mapHeaders_eq_ok_iff haware).mpr ⟨hminute, hdaily, ⟨instants, hinstants, rfl⟩, rfl, rfl⟩⟩

/-- With a duration read, the quota is used up until the earliest of their instants. -/
theorem isEarliest_unavailableUntil (haware : observedAt.utcOffset.isSome = true)
    {snapshot : LlmQuotaSnapshot} (h : mapHeaders lower headers observedAt = .ok snapshot)
    (hread : readDurations lower headers ≠ []) :
    ∃ instant, snapshot.unavailableUntil = some instant ∧
      IsEarliest observedAt (readDurations lower headers) instant := by
  obtain ⟨_, _, ⟨instants, hinstants, hearliest⟩, _⟩ := (mapHeaders_eq_ok_iff haware).mp h
  have hall := FailingFold.forall₂_of_mapM hinstants
  cases instants with
  | nil => exact absurd (List.forall₂_nil_right_iff.mp hall) hread
  | cons first rest =>
    obtain ⟨instant, hsome⟩ : ∃ instant, earliest (first :: rest) = some instant := ⟨_, rfl⟩
    obtain ⟨hmem, hleast⟩ := earliest_spec hsome
    refine ⟨instant, hearliest.symm.trans hsome, ?_, ?_⟩
    · obtain ⟨duration, hduration, hok⟩ := FailingFold.exists_of_mem_forall₂ hall.flip hmem
      exact ⟨duration, hduration, hok⟩
    · intro duration hduration
      obtain ⟨later, hlater, hok⟩ := FailingFold.exists_of_mem_forall₂ hall hduration
      exact ⟨later, hok, hleast later hlater⟩

/-- The headers are read without an error when their durations fit, a text that is no number
is a duration exactly when it consists of parts that are together positive, and with a
`retry-after` the quota is used up until the earliest of the instants. -/
theorem mapHeaders_reads (lower : String → String) (observedAt : Datetime)
    (haware : observedAt.utcOffset.isSome = true) :
    (∀ headers, (∀ duration ∈ readDurations lower headers, Fits observedAt duration) →
      ∃ snapshot, mapHeaders lower headers observedAt = .ok snapshot) ∧
    (∀ value, isBlank value = true → parseDurationSeconds lower (some value) = none) ∧
    (∀ value, isBlank value = false → floatOf? (normalizedText lower value) = none →
      ∀ duration, parseDurationSeconds lower (some value) = some duration ↔
        ∃ parts : List DurationPart, (∀ part ∈ parts, part.WellFormed) ∧
          normalizedText lower value = parts.flatMap DurationPart.text ∧
          0 < totalSeconds parts ∧ duration = .finite (totalSeconds parts)) ∧
    ∀ headers snapshot retryAfter, mapHeaders lower headers observedAt = .ok snapshot →
      parseDurationSeconds lower (headerOf? lower headers "retry-after") = some retryAfter →
      ∃ instant, snapshot.unavailableUntil = some instant ∧
        IsEarliest observedAt (readDurations lower headers) instant := by
  refine ⟨fun headers => exists_mapHeaders haware, ?_, ?_, ?_⟩
  · intro value hblank
    simp [parseDurationSeconds, hblank]
  · intro value hblank hnumber duration
    exact parseDurationSeconds_eq_some_iff hblank hnumber
  · intro headers snapshot retryAfter hsnapshot hretry
    exact isEarliest_unavailableUntil haware hsnapshot
      (List.ne_nil_of_mem (mem_readDurations.mpr (.inl hretry)))

def epochInUtc : Datetime := ⟨0, some 0, by decide⟩

theorem minutesAndSeconds_read :
    parseDurationSeconds (fun text => text) (some "2m59.56s") = some (.finite (4489 / 25)) := by
  refine ((mapHeaders_reads (fun text => text) epochInUtc rfl).2.2.1 "2m59.56s" (by decide +kernel)
    (by decide +kernel) _).mpr ⟨[⟨['2'], [], .minutes⟩, ⟨['5', '9'], ['5', '6'], .seconds⟩], ?_⟩
  refine ⟨?_, by decide +kernel, by decide +kernel, by decide +kernel⟩
  have hminutes : isDecimal '2' = true := by decide +kernel
  have hseconds : isDecimal '5' = true ∧ isDecimal '9' = true ∧ isDecimal '6' = true := by
    decide +kernel
  rw [List.forall_mem_cons, List.forall_mem_singleton]
  exact ⟨⟨nofun, by simp [hminutes], nofun⟩,
    ⟨nofun, by simp [hseconds.1, hseconds.2.1], by simp [hseconds.1, hseconds.2.2]⟩⟩

/-- A reset after seven seconds ends a `retry-after` of a minute, and one of `inf` raises. -/
theorem retryAfter_not_kept :
    parseDurationSeconds (fun text => text) (some "60") = some (.finite 60) ∧
    (mapHeaders (fun text => text) [("retry-after", "60"), ("x-ratelimit-reset-tokens", "7s")]
      epochInUtc).map LlmQuotaSnapshot.unavailableUntil =
        .ok (some ⟨7000000, some 0, by decide⟩) ∧
    mapHeaders (fun text => text) [("retry-after", "inf")] epochInUtc =
      .error (.overflowError "cannot convert float infinity to integer") := by
  decide +kernel

end CrmBot.LlmRuntime
