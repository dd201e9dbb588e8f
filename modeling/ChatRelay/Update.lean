import ChatRelay.Json.Printer
import ChatRelay.Message

/-!
Updates of the provider's feed. Reading an update is total: one that holds no usable text message comes
back with the reason why it is skipped, and with its id if the id is usable.
-/

namespace ChatRelay

open ChatRelay.Json (Value Fields)

/-- Why an update holds no message for the relay. -/
inductive SkipReason where
  | invalidUpdateId
  | unsupportedUpdateType
  | unsupportedMessageText
  | missingChatOrUserId
deriving DecidableEq

namespace SkipReason

def all : List SkipReason :=
  [.invalidUpdateId, .unsupportedUpdateType, .unsupportedMessageText, .missingChatOrUserId]

def name : SkipReason → String
  | .invalidUpdateId => "invalid-update-id"
  | .unsupportedUpdateType => "unsupported-update-type"
  | .unsupportedMessageText => "unsupported-message-text"
  | .missingChatOrUserId => "missing-chat-or-user-id"

end SkipReason

/-- What an update says: it has no usable id, or it is skipped, or it holds a message. -/
inductive Update where
  | unusable
  | skipped (id : Int) (reason : SkipReason)
  | message (id : Int) (inbound : Inbound)

namespace Update

def id? : Update → Option Int
  | .unusable => none
  | .skipped id _ => some id
  | .message id _ => some id

def inbound? : Update → Option Inbound
  | .message _ inbound => some inbound
  | _ => none

def skipReason? : Update → Option SkipReason
  | .unusable => some .invalidUpdateId
  | .skipped _ reason => some reason
  | .message _ _ => none

/-- Update ids are not negative. -/
def usableId? (v : Value) : Option Int := v.lenientSigned?.filter fun id => 0 ≤ id

/-- The id of a chat, a user or a message: a number, or a text that is not blank. -/
def partyId? : Value → Option String
  | .number n => some n.text
  | .string s => Text.nonBlank? (Text.trim s)
  | _ => none

/-- The id inside a member that is an object. -/
def nestedId? (body : Fields) (key : String) : Option String := do
  let party ← body.get? key
  let id ← party.field? "id"
  partyId? id

/-- The text of a message, unless it is missing or blank. -/
def messageText? (body : Fields) : Option String := do
  let value ← body.get? "text"
  let text ← value.string?
  Text.nonBlank? text

/-- The notes on a message that came from an update. -/
def messageMetadata : Metadata :=
  [("source", .string "telegram"), ("update_type", .string "message")]

/-- Read one update. -/
def ofJson (raw : Fields) : Update :=
  match (raw.get? "update_id").bind usableId? with
  | none => .unusable
  | some id =>
      match (raw.get? "message").bind Value.object? with
      | none => .skipped id .unsupportedUpdateType
      | some body =>
          match messageText? body with
          | none => .skipped id .unsupportedMessageText
          | some text =>
              match nestedId? body "chat", nestedId? body "from" with
              | some chatId, some userId =>
                  match Inbound.make (toString id) chatId userId text with
                  | .error _ => .skipped id .missingChatOrUserId
                  | .ok inbound =>
                      .message id { inbound with
                        messageId := (body.get? "message_id").bind partyId?
                        timestampSeconds := (body.get? "date").bind Value.lenientSigned?
                        metadata := messageMetadata }
              | _, _ => .skipped id .missingChatOrUserId

end Update

end ChatRelay
