import ChatRelay.BotApi
import ChatRelay.Http.Date
import ChatRelay.Http.Exchange
import ChatRelay.Http.Status
import ChatRelay.Json.Reader

/-!
What the provider's answer to a request means. A response is a success when its status says so and its
body is a JSON object that says ok, and then its result counts. Every other outcome is a failure of one
kind. Failures that may pass by themselves are transient, and only a failure from too many requests can
tell how long to wait.
-/

namespace ChatRelay.Client

open ChatRelay.Json (Value Fields)
open ChatRelay.Http (Response Exchange)

/-- The status of too many requests. -/
def tooManyRequests : Nat := 429

/-- The codes of failures that may pass by themselves. -/
def isPassing (code : Int) : Bool := code = tooManyRequests || 500 ≤ code

/-- The description in a body: a text as it is, and any other value as its JSON text. -/
def description? (body : Value) : Option String :=
  match body.field? "description" with
  | none | some .null => none
  | some (.string s) => some s
  | some v => some v.print

/-- The provider's own error code in a body. -/
def errorCode? (body : Value) : Option Int := (body.field? "error_code").bind Value.lenientSigned?

/-- The seconds to wait that a body asks for. -/
def bodyHint? (body : Value) : Option Nat :=
  ((body.field? "parameters").bind (Value.field? "retry_after")).bind Value.unsigned?

/-- Whether a header value holds only visible characters, spaces and tabs of ASCII. -/
def isPlainHeader (value : String) : Bool :=
  value.toList.all fun c => (0x20 ≤ c.toNat && c.toNat ≤ 0x7E) || c = '\t'

/-- The seconds from now to a time, rounded up, and none for a time that has passed. -/
def secondsUntil (now time : Int) : Nat := (((time * 1000 - now).toNat) + 999) / 1000

/-- The seconds to wait that a header asks for, as a number or as a date. -/
def headerHint? (now : Int) (response : Response) : Option Nat :=
  match response.header? "retry-after" with
  | none => none
  | some value =>
      let text := Text.trim value
      if !isPlainHeader value || text.isEmpty then none
      else
        match Text.unsigned? Text.maxUnsigned text with
        | some n => some n
        | none => (Http.Date.parse? text).map (secondsUntil now)

/-- The failure that a response without success stands for. -/
def httpError (operation : Operation) (now : Int) (response : Response) : ApiError :=
  let body := Json.parseBytes? response.body
  let described := (body.bind description?).getD ((Http.reason? response.status).getD "HTTP error")
  let hint :=
    if response.status = tooManyRequests then
      match body.bind bodyHint? with
      | some n => some n
      | none => headerHint? now response
    else none
  { operation := operation.name
    fault := .httpError
    transient := isPassing response.status
    description := described
    statusCode := some response.status
    apiErrorCode := body.bind errorCode?
    retryAfterSeconds := hint }

/-- A failure that no later attempt can mend. -/
def malformed (operation : Operation) (fault : ApiFault) (description : String) : ApiError :=
  { operation := operation.name, fault := fault, transient := false, description := description }

/-- The failure that a body without ok stands for. -/
def refusal (operation : Operation) (body : Value) : ApiError :=
  let code := errorCode? body
  { operation := operation.name
    fault := .apiError
    transient := code.any isPassing
    description := (description? body).getD "api returned ok=false"
    apiErrorCode := code
    retryAfterSeconds := if code = some tooManyRequests then bodyHint? body else none }

/-- The result in the body of a response with success. -/
def bodyResult (operation : Operation) (body : Value) : Except ApiError Value :=
  match body with
  | .object fields =>
      if (Fields.get? fields "ok").bind Value.bool? = some true then
        .ok ((Fields.get? fields "result").getD .null)
      else .error (refusal operation body)
  | _ => .error (malformed operation .invalidResponseShape "response body must be an object")

/-- The result of a response. -/
def responseResult (operation : Operation) (now : Int) (response : Response) :
    Except ApiError Value :=
  if Http.isSuccess response.status then
    match Json.parseBytes? response.body with
    | some body => bodyResult operation body
    | none => .error (malformed operation .invalidJson "response body is not valid JSON")
  else .error (httpError operation now response)

/-- A failure of the connection. A later attempt may go better. -/
def lost (operation : Operation) (fault : ApiFault) (description : String) : ApiError :=
  { operation := operation.name, fault := fault, transient := true, description := description }

/-- The result of an exchange. -/
def exchangeResult (operation : Operation) (now : Int) : Exchange → Except ApiError Value
  | .answered response => responseResult operation now response
  | .timedOut description => .error (lost operation .timeout description)
  | .failed description => .error (lost operation .networkError description)

/-- The updates in a result: the objects of a list, in order. -/
def updatesOf (result : Value) : Except ApiError (List Fields) :=
  match result with
  | .array items => .ok (items.filterMap Value.object?)
  | _ => .error (malformed .getUpdates .invalidResultShape "result must be a list")

/-- The message in a result. -/
def messageOf (result : Value) : Except ApiError Fields :=
  match result with
  | .object fields => .ok fields
  | _ => .error (malformed .sendMessage .invalidResultShape "result must be an object")

end ChatRelay.Client
