import ChatRelay.Error
import ChatRelay.Json.Value
import ChatRelay.Text.Blank

/-!
Messages of a chat, independent of the provider. The fields that identify a message and its text are
never blank, which the types carry. A conversation is named by its session, and each chat has one.
-/

namespace ChatRelay

open ChatRelay.Json (Value Fields)

/-- Notes on a message, in the order of their names. -/
abbrev Metadata := Fields

/-- A message that came in. -/
structure Inbound where
  updateId : String
  chatId : String
  userId : String
  text : String
  messageId : Option String := none
  timestampSeconds : Option Int := none
  metadata : Metadata := []
  updateId_nonBlank : Text.isBlank updateId = false
  chatId_nonBlank : Text.isBlank chatId = false
  userId_nonBlank : Text.isBlank userId = false
  text_nonBlank : Text.isBlank text = false

/-- A message to be sent. -/
structure Outbound where
  chatId : String
  text : String
  replyTo : Option String := none
  metadata : Metadata := []
  chatId_nonBlank : Text.isBlank chatId = false
  text_nonBlank : Text.isBlank text = false

/-- A value that must not be blank, with the evidence that it is not. -/
def required (field value : String) :
    Except Error { s : String // Text.isBlank s = false } :=
  match h : Text.isBlank value with
  | true => .error (.contract (.blankField field))
  | false => .ok ⟨value, h⟩

theorem required_eq_ok {field value : String} (h : Text.isBlank value = false) :
    required field value = .ok ⟨value, h⟩ := by
  unfold required
  split
  · rename_i hBlank
    rw [h] at hBlank
    cases hBlank
  · rfl

namespace Inbound

/-- A message with no further details, unless a field is blank. The first blank one is reported. -/
def make (updateId chatId userId text : String) : Except Error Inbound := do
  let updateId ← required "update_id" updateId
  let chatId ← required "chat_id" chatId
  let userId ← required "user_id" userId
  let text ← required "text" text
  return {
    updateId := updateId.val
    chatId := chatId.val
    userId := userId.val
    text := text.val
    updateId_nonBlank := updateId.property
    chatId_nonBlank := chatId.property
    userId_nonBlank := userId.property
    text_nonBlank := text.property }

def toJson (m : Inbound) : Value :=
  .object [
    ("update_id", .string m.updateId),
    ("chat_id", .string m.chatId),
    ("user_id", .string m.userId),
    ("text", .string m.text),
    ("message_id", .ofOption .string m.messageId),
    ("timestamp_seconds", .ofOption .int m.timestampSeconds),
    ("metadata", .object m.metadata)]

end Inbound

namespace Outbound

/-- A message with no further details, unless a field is blank. The first blank one is reported. -/
def make (chatId text : String) : Except Error Outbound := do
  let chatId ← required "chat_id" chatId
  let text ← required "text" text
  return {
    chatId := chatId.val
    text := text.val
    chatId_nonBlank := chatId.property
    text_nonBlank := text.property }

def toJson (m : Outbound) : Value :=
  .object [
    ("chat_id", .string m.chatId),
    ("text", .string m.text),
    ("reply_to_message_id", .ofOption .string m.replyTo),
    ("metadata", .object m.metadata)]

end Outbound

/-- The session of a chat. -/
def chatSession (chatId : String) : Except Error String :=
  let id := Text.trim chatId
  if id.isEmpty then .error (.contract (.blankField "chat_id")) else .ok ("telegram:" ++ id)

/-- The session that a message belongs to: the one of its chat. -/
def Inbound.session (m : Inbound) : Except Error String := chatSession m.chatId

/-- A message always has a session. -/
theorem Inbound.session_eq (m : Inbound) :
    m.session = .ok ("telegram:" ++ Text.trim m.chatId) := by
  have hTrim : ¬ Text.trim m.chatId = "" := by
    rw [Text.trim_eq_empty_iff, m.chatId_nonBlank]
    decide
  have hEmpty : (Text.trim m.chatId).isEmpty = false := by
    rw [← Bool.not_eq_true, String.isEmpty_iff]
    exact hTrim
  simp [Inbound.session, chatSession, hEmpty]

end ChatRelay
