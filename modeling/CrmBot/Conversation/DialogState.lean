import CrmBot.Python.Text
import Mathlib.Data.List.Infix

/-! The dialog state of a thread, and the question that comes before a handoff. -/

namespace CrmBot.Conversation

open CrmBot.Python

/-- The methods of `str` that the runtime calls on texts of clients. -/
structure StrMethods where
  lower : String → String
  isalpha : Char → Bool
  isupper : Char → Bool

/-- `part in text`. -/
def contains (part text : String) : Bool := decide (part.toList <:+: text.toList)

/-- `text.startswith(front)`. -/
def startsWith (front text : String) : Bool := decide (front.toList <+: text.toList)

/-- `" ".join(text.split())`. -/
def joinedWords (text : String) : String :=
  String.ofList ([' '].intercalate (Ink.words isSpace text.toList))

/-- `str(value).strip() or None`. -/
def optionalText (value : Option String) : Option String :=
  value.bind fun text => if strip text = "" then none else some (strip text)

/-- `value or fallback`. -/
def orElse (value : Option String) (fallback : String) : String :=
  match value with
  | none => fallback
  | some text => if text = "" then fallback else text

structure DialogState where
  lastIntent : Option String
  lastCta : Option String
  lastTopic : Option String
  repeatCount : Int
  leadStatus : String
  lifecycle : String
  handoffConfirmationPending : Bool
  deriving DecidableEq

def defaultDialogState (lifecycle : String) : DialogState where
  lastIntent := none
  lastCta := none
  lastTopic := none
  repeatCount := 0
  leadStatus := lifecycle
  lifecycle := lifecycle
  handoffConfirmationPending := false

/-- `dialog_state_from_mapping`. The mapping is a dialog state that the runtime
has written: it has every key. -/
def dialogStateFromMapping (value : Option DialogState) (lifecycle : String) : DialogState :=
  match value with
  | none => defaultDialogState lifecycle
  | some value =>
    { lastIntent := optionalText value.lastIntent
      lastCta := optionalText value.lastCta
      lastTopic := optionalText value.lastTopic
      repeatCount := value.repeatCount
      leadStatus := orElse (optionalText (some value.leadStatus)) lifecycle
      lifecycle := orElse (optionalText (some value.lifecycle)) lifecycle
      handoffConfirmationPending := value.handoffConfirmationPending }

def mergeDialogState (value : Option DialogState) (lifecycle : String) : DialogState :=
  dialogStateFromMapping value lifecycle

/-- `dialog_state_from_memory`. The column of the values is read as text, so that none
of them is the mapping that the loop looks for. -/
def dialogStateFromMemory (lifecycle : String) : DialogState := defaultDialogState lifecycle

@[simp] theorem mergeDialogState_pending (value : DialogState) (lifecycle : String) :
    (mergeDialogState (some value) lifecycle).handoffConfirmationPending =
      value.handoffConfirmationPending := rfl

/-! The question. -/

def affirmativeReplies : List String := ["да", "ага", "угу", "ок", "окей", "yes", "yep"]

def negativePrefixes : List String := ["нет", "неа", "не надо", "не передавать", "no", "nope"]

def maxSummaryLength : Nat := 160

def isHandoffConfirmationPending (dialogState : DialogState) : Bool :=
  dialogState.handoffConfirmationPending

/-- The dialog state that `clear_handoff_confirmation` and
`with_handoff_confirmation_pending` write. -/
def markHandoffConfirmation (pending : Bool) (dialogState : DialogState) : DialogState :=
  { dialogState with
    leadStatus := orElse (some dialogState.leadStatus) "cold"
    lifecycle := orElse (some dialogState.lifecycle) "cold"
    handoffConfirmationPending := pending }

def clearHandoffConfirmation (dialogState : DialogState) : DialogState :=
  markHandoffConfirmation false dialogState

def withHandoffConfirmationPending (dialogState : DialogState) : DialogState :=
  markHandoffConfirmation true dialogState

inductive HandoffReply
  | confirm
  | decline
  deriving DecidableEq

def normalizeShortReply (methods : StrMethods) (userInput : String) : Option String :=
  let normalized := joinedWords (methods.lower (strip userInput))
  if normalized = "" then none
  else if 40 < normalized.length ∧ contains "," normalized = false then none
  else some normalized

def resolveHandoffConfirmationReply (methods : StrMethods) (userInput : String) :
    Option HandoffReply :=
  (normalizeShortReply methods userInput).bind fun normalized =>
    if normalized ∈ affirmativeReplies then some .confirm
    else if negativePrefixes.any fun front => startsWith front normalized then some .decline
    else none

def userInputSummary (userInput : String) : Option String :=
  let text := joinedWords (strip userInput)
  if text = "" then none
  else if text.length ≤ maxSummaryLength then some text
  else
    let front := (text.toList.take (maxSummaryLength - 3)).rdropWhile isSpace
    some (String.ofList front ++ "...")

def buildHandoffConfirmationText (userInput : String) : String :=
  match userInputSummary userInput with
  | some summary =>
    "Правильно понимаю: вам нужна помощь менеджера по запросу \"" ++ summary ++
      "\"?\nПередать диалог менеджеру?\nОтветьте: Да / Нет, добавлю детали."
  | none => "Передать диалог менеджеру?\nОтветьте: Да / Нет, добавлю детали."

def buildHandoffDetailsRequestedText : String :=
  "Хорошо, не передаю. Добавьте, пожалуйста, детали, и я уточню запрос."

end CrmBot.Conversation
