import CrmBot.Library.Base64
import CrmBot.Python.Builtins
import CrmBot.Python.Json
import Mathlib.Algebra.Field.Rat
import Mathlib.Data.Rat.Cast.Order

/-! `FrontendWorkflowEventCursor`: where a replay of frontend events goes on.

The texts of a cursor are Python texts, which may hold surrogates. -/

namespace CrmBot.Observability

open CrmBot.Python Json

def cursorVersion : Int := 1

structure FrontendWorkflowEventCursor where
  sourceSequenceNumber : Nat
  projectionType : PyText
  projectionVersion : Nat
  projectionEventId : PyText
  sequenceOnly : Bool
  deriving DecidableEq

namespace FrontendWorkflowEventCursor

def beginning : FrontendWorkflowEventCursor where
  sourceSequenceNumber := 0
  projectionType := []
  projectionVersion := 0
  projectionEventId := []
  sequenceOnly := false

/-- The dictionary that `serialize` writes, in the order of its keys. -/
def payload (cursor : FrontendWorkflowEventCursor) : List (PyText × Scalar) :=
  [(.ofString "id", .str cursor.projectionEventId),
    (.ofString "pv", .int cursor.projectionVersion),
    (.ofString "s", .int cursor.sourceSequenceNumber),
    (.ofString "t", .str cursor.projectionType),
    (.ofString "v", .int cursorVersion)]

end FrontendWorkflowEventCursor

/-- `text.encode("utf-8")`. -/
def encodeUtf8 (text : List Char) : List UInt8 := (String.ofList text).toUTF8.data.toList

/-- `bytes.decode("utf-8")`. -/
def decodeUtf8 (bytes : List UInt8) : Option (List Char) :=
  (String.fromUTF8? ⟨bytes.toArray⟩).map String.toList

/-- `value == _CURSOR_VERSION`: a float that rounds to one equals it, and so does `True`. -/
def equalsCursorVersion : Value → Bool
  | .int value => value = cursorVersion
  | .bool value => value
  | .float mantissa exponent =>
    let value : ℚ := mantissa * 10 ^ exponent
    1 - 1 / 2 ^ 54 ≤ value && value ≤ 1 + 1 / 2 ^ 53
  | _ => false

def requiredStr (value : Option Value) (fieldName : String) : Except Fault PyText :=
  match value with
  | some (.str text) => .ok text
  | _ => .error (.valueError (fieldName ++ " must be str"))

def requiredNonNegativeInt (value : Option Value) (fieldName : String) : Except Fault Nat :=
  match value with
  | some (.int value) =>
    if value < 0 then .error (.valueError (fieldName ++ " must be >= 0")) else .ok value.toNat
  | _ => .error (.valueError (fieldName ++ " must be int"))

namespace FrontendWorkflowEventCursor

def serialize (cursor : FrontendWorkflowEventCursor) : Except Fault (List Char) :=
  if cursor.sequenceOnly then .error (.valueError "sequence-only cursors cannot be serialized")
  else .ok (Base64.unpadded (Base64.encode (encodeUtf8 (dumpObject cursor.payload))))

/-- The bytes of a text of base64, which has to be ASCII. -/
def decodedBytes (value : List Char) : Except Fault (List UInt8) :=
  if (Base64.padded value).all fun c => c.toNat < 128 then
    match Base64.decode (Base64.padded value) with
    | some bytes => .ok bytes
    | none => .error (.valueError "after_cursor is not valid base64url")
  else .error (.valueError "after_cursor is not valid base64url")

def parsedPayload (bytes : List UInt8) : Except Fault (List (PyText × Value)) :=
  match (decodeUtf8 bytes).bind loads with
  | some (.object entries) => .ok entries
  | some _ => .error (.valueError "after_cursor payload must be an object")
  | none => .error (.valueError "after_cursor is not valid JSON")

def parse (value : List Char) : Except Fault FrontendWorkflowEventCursor := do
  if value.all isSpace then
    throw (.valueError "after_cursor must be a non-empty string")
  let bytes ← decodedBytes value
  let payload ← parsedPayload bytes
  if !(get payload (.ofString "v")).any equalsCursorVersion then
    throw (.valueError "after_cursor version is unsupported")
  let sourceSequenceNumber ←
    requiredNonNegativeInt (get payload (.ofString "s")) "source_sequence_number"
  let projectionType ← requiredStr (get payload (.ofString "t")) "projection_type"
  let projectionVersion ←
    requiredNonNegativeInt (get payload (.ofString "pv")) "projection_version"
  let projectionEventId ← requiredStr (get payload (.ofString "id")) "projection_event_id"
  return { sourceSequenceNumber, projectionType, projectionVersion, projectionEventId
           sequenceOnly := false }

end FrontendWorkflowEventCursor

theorem decodeUtf8_encodeUtf8 (text : List Char) : decodeUtf8 (encodeUtf8 text) = some text := by
  have hbytes : (⟨(encodeUtf8 text).toArray⟩ : ByteArray) = (String.ofList text).toByteArray := by
    simp [encodeUtf8]
  have hvalid := (String.ofList text).isValidUTF8
  have hdecoded : String.fromUTF8 (String.ofList text).toByteArray hvalid = String.ofList text :=
    String.toByteArray_inj.mp rfl
  rw [decodeUtf8, hbytes, String.fromUTF8?, dif_pos hvalid, hdecoded, Option.map_some,
    String.toList_ofList]

theorem encodeUtf8_ne_nil {text : List Char} (h : text ≠ []) : encodeUtf8 text ≠ [] := by
  intro hnil
  have hdecode := decodeUtf8_encodeUtf8 text
  have hempty := decodeUtf8_encodeUtf8 []
  rw [hnil] at hdecode
  have hnone : encodeUtf8 [] = [] := by decide
  rw [hnone, hdecode] at hempty
  exact h (Option.some.inj hempty)

namespace FrontendWorkflowEventCursor

theorem parsedPayload_dumpObject {entries : List (PyText × Scalar)} (hne : entries ≠ []) :
    parsedPayload (encodeUtf8 (dumpObject entries)) = .ok (entries.map loadedEntry) := by
  unfold parsedPayload
  rw [decodeUtf8_encodeUtf8, Option.bind_some, loads_dumpObject hne]

theorem digitChar_spec : ∀ digit < 64, (Base64.digitChar digit).toNat < 128 ∧
    isSpace (Base64.digitChar digit) = false := by
  decide

theorem alphabet_spec {c : Char} (h : c ∈ Base64.alphabet) : c.toNat < 128 ∧ isSpace c = false := by
  obtain ⟨digit, hdigit, rfl⟩ := Base64.exists_digit_of_mem h
  exact digitChar_spec digit hdigit

/-- The bytes of an encoded text are read without its pads. -/
theorem decodedBytes_unpadded (bytes : List UInt8) :
    decodedBytes (Base64.unpadded (Base64.encode bytes)) = .ok bytes := by
  obtain ⟨hpadded, hdigits, _⟩ := Base64.unpadded_encode bytes
  have hascii : ((Base64.padded (Base64.unpadded (Base64.encode bytes))).all
      fun c => c.toNat < 128) = true := by
    unfold Base64.padded
    rw [List.all_append, Bool.and_eq_true, List.all_eq_true, List.all_eq_true]
    constructor
    · intro c hc
      exact decide_eq_true (alphabet_spec (hdigits c hc)).1
    · intro c hc
      rw [List.eq_of_mem_replicate hc]
      rfl
  unfold decodedBytes
  rw [if_pos hascii, hpadded, Base64.decode_encode]

/-- What a serialized cursor is read as, with its surrogates joined. -/
theorem parse_serialize {cursor : FrontendWorkflowEventCursor} (h : cursor.sequenceOnly = false) :
    ∃ text, cursor.serialize = .ok text ∧
      parse text = .ok { cursor with
        projectionType := combine cursor.projectionType
        projectionEventId := combine cursor.projectionEventId } := by
  have hpayload : cursor.payload ≠ [] := List.cons_ne_nil _ _
  obtain ⟨hpadded, hdigits, hempty⟩ :=
    Base64.unpadded_encode (encodeUtf8 (dumpObject cursor.payload))
  refine ⟨_, by rw [serialize, h]; rfl, ?_⟩
  have hblank : (Base64.unpadded (Base64.encode (encodeUtf8 (dumpObject cursor.payload)))).all
      isSpace = false := by
    rw [List.all_eq_false]
    have hne : Base64.unpadded (Base64.encode (encodeUtf8 (dumpObject cursor.payload))) ≠ [] :=
      fun hnil => encodeUtf8_ne_nil (List.cons_ne_nil _ _) (hempty hnil)
    obtain ⟨first, rest, hfirst⟩ := List.exists_cons_of_ne_nil hne
    refine ⟨first, by simp [hfirst], ?_⟩
    rw [(alphabet_spec (hdigits first (by simp [hfirst]))).2]
    exact Bool.false_ne_true
  have hversion : get (cursor.payload.map loadedEntry) (.ofString "v") = some (.int 1) := rfl
  have hsequence : get (cursor.payload.map loadedEntry) (.ofString "s") =
      some (.int cursor.sourceSequenceNumber) := rfl
  have htype : get (cursor.payload.map loadedEntry) (.ofString "t") =
      some (.str (combine cursor.projectionType)) := rfl
  have hprojection : get (cursor.payload.map loadedEntry) (.ofString "pv") =
      some (.int cursor.projectionVersion) := rfl
  have hid : get (cursor.payload.map loadedEntry) (.ofString "id") =
      some (.str (combine cursor.projectionEventId)) := rfl
  have hnumber : ∀ (number : Nat) (field : String),
      requiredNonNegativeInt (some (.int number)) field = .ok number := by
    intro number field
    rw [requiredNonNegativeInt, if_neg (by omega), Int.toNat_natCast]
  have hok : ∀ {α β : Type} (value : α) (next : α → Except Fault β),
      (Except.ok value >>= next) = next value := fun _ _ => rfl
  simp only [parse, hblank, Bool.false_eq_true, if_false, decodedBytes_unpadded, hok,
    parsedPayload_dumpObject hpayload, hversion, hsequence, htype, hprojection, hid, hnumber,
    requiredStr, h]
  rfl

/-- A cursor is read as it was exactly when no text of it has the halves of another code
point. -/
theorem parse_serialize_iff {cursor : FrontendWorkflowEventCursor} {text : List Char}
    (h : cursor.serialize = .ok text) :
    parse text = .ok cursor ↔
      Unsplit cursor.projectionType ∧ Unsplit cursor.projectionEventId := by
  have hordinary : cursor.sequenceOnly = false := by
    cases hsequence : cursor.sequenceOnly with
    | false => rfl
    | true =>
      rw [serialize, hsequence] at h
      cases h
  obtain ⟨written, hwritten, hparse⟩ := parse_serialize hordinary
  rw [h] at hwritten
  obtain rfl := Except.ok.inj hwritten
  rw [hparse, ← combine_eq_self_iff, ← combine_eq_self_iff]
  constructor
  · intro hequal
    have hcursor := Except.ok.inj hequal
    exact ⟨congrArg projectionType hcursor, congrArg projectionEventId hcursor⟩
  · rintro ⟨htype, hid⟩
    rw [htype, hid]

end FrontendWorkflowEventCursor

end CrmBot.Observability
