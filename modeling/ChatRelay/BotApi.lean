import ChatRelay.Error
import ChatRelay.Json.Printer
import ChatRelay.Text.Blank

/-!
The two remote operations of the provider: the requests that they take and the failures that they report.
A request is sent as a JSON object whose members stand in the order given here.
-/

namespace ChatRelay

open ChatRelay.Json (Value Fields)

/-- The most updates that the provider gives for one request. -/
def maxFetchLimit : Nat := 100

inductive Operation where
  | getUpdates
  | sendMessage
deriving DecidableEq

def Operation.name : Operation → String
  | .getUpdates => "getUpdates"
  | .sendMessage => "sendMessage"

/-- How an operation of the provider fails. -/
inductive ApiFault where
  | networkError
  | timeout
  | httpError
  | invalidJson
  | invalidResponseShape
  | invalidResultShape
  | apiError
deriving DecidableEq

namespace ApiFault

def all : List ApiFault :=
  [.networkError, .timeout, .httpError, .invalidJson, .invalidResponseShape, .invalidResultShape,
    .apiError]

def name : ApiFault → String
  | .networkError => "network-error"
  | .timeout => "timeout"
  | .httpError => "http-error"
  | .invalidJson => "invalid-json"
  | .invalidResponseShape => "invalid-response-shape"
  | .invalidResultShape => "invalid-result-shape"
  | .apiError => "api-error"

end ApiFault

/-- A failed operation of the provider. -/
structure ApiError where
  operation : String
  fault : ApiFault
  transient : Bool
  description : String
  statusCode : Option Nat := none
  apiErrorCode : Option Int := none
  retryAfterSeconds : Option Nat := none
deriving DecidableEq

namespace ApiError

def message (e : ApiError) : String :=
  e.operation ++ " " ++ e.fault.name ++ ": " ++ e.description

def toJson (e : ApiError) : Value :=
  .object [
    ("operation", .string e.operation),
    ("kind", .string e.fault.name),
    ("transient", .bool e.transient),
    ("description", .string e.description),
    ("status_code", .ofOption .nat e.statusCode),
    ("api_error_code", .ofOption .int e.apiErrorCode),
    ("retry_after_seconds", .ofOption .nat e.retryAfterSeconds)]

/-- The failure as an error of the relay. Its detail keeps the whole failure as JSON text. -/
def toError (e : ApiError) : Error := .channel e.operation e.transient e.toJson.print

end ApiError

/-- A request for updates from an offset on. The provider discards every update below the offset. -/
structure GetUpdates where
  offset : Option Int := none
  limit : Nat := 100
  timeoutSeconds : Nat := 0
  allowedUpdates : Option (List String) := none
deriving DecidableEq

def GetUpdates.toJson (r : GetUpdates) : Value :=
  let offset := match r.offset with
    | some n => [("offset", Value.int n)]
    | none => []
  let allowed := match r.allowedUpdates with
    | some kinds => [("allowed_updates", Value.array (kinds.map .string))]
    | none => []
  .object (offset ++ [("limit", .nat r.limit), ("timeout", .nat r.timeoutSeconds)] ++ allowed)

/-- A request to send a text to a chat, as a reply when a message is given. -/
structure SendMessage where
  chatId : String
  text : String
  replyTo : Option String := none
deriving DecidableEq

/-- The form of an id in a request: a number when its text is a signed whole number of 64 bits once it is
trimmed, and otherwise the text as it is. -/
def wireId (id : String) : Value :=
  match Text.signed? (Text.trim id) with
  | some n => .int n
  | none => .string id

def SendMessage.toJson (r : SendMessage) : Value :=
  let reply := match r.replyTo with
    | some id => [("reply_to_message_id", wireId id)]
    | none => []
  .object ([("chat_id", wireId r.chatId), ("text", .string r.text)] ++ reply)

/-- The remote operations. Updates and answers are JSON objects. -/
structure BotApi (m : Type → Type) where
  getUpdates : GetUpdates → m (Except ApiError (List Fields))
  sendMessage : SendMessage → m (Except ApiError Fields)

end ChatRelay
