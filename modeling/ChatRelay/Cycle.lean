import ChatRelay.AckPolicy
import ChatRelay.Channel
import ChatRelay.Text.Split

/-!
One pass of the relay: fetch messages, decide on replies, send them and acknowledge. A failure of one
message is recorded and leaves the others alone. Only a failed fetch fails the whole cycle.
-/

namespace ChatRelay

open ChatRelay.Json (Value)

inductive CycleStatus where
  | ok
  | failed
deriving DecidableEq

def CycleStatus.name : CycleStatus → String
  | .ok => "ok"
  | .failed => "failed"

/-- The gist of a cycle. -/
inductive CycleReason where
  | noUpdates
  | processed
  | completedWithErrors
  | fetchFailed
deriving DecidableEq

namespace CycleReason

def all : List CycleReason := [.noUpdates, .processed, .completedWithErrors, .fetchFailed]

def name : CycleReason → String
  | .noUpdates => "no-updates"
  | .processed => "processed"
  | .completedWithErrors => "completed-with-errors"
  | .fetchFailed => "adapter-fetch-exception"

end CycleReason

/-- The step of a cycle that an error comes from. -/
inductive CycleStage where
  | fetch
  | session
  | handler
  | send
  | ack
  | diagnostic
deriving DecidableEq

namespace CycleStage

def all : List CycleStage := [.fetch, .session, .handler, .send, .ack, .diagnostic]

def name : CycleStage → String
  | .fetch => "fetch"
  | .session => "session"
  | .handler => "handler"
  | .send => "send"
  | .ack => "ack"
  | .diagnostic => "diagnostic"

end CycleStage

structure CycleError where
  stage : CycleStage
  updateId : Option String := none
  message : String
  retryable : Bool
deriving DecidableEq

def CycleError.toJson (e : CycleError) : Value :=
  let update := match e.updateId with
    | some id => [("update_id", Value.string id)]
    | none => []
  .object ([("stage", .string e.stage.name)] ++ update ++
    [("message", .string e.message), ("retryable", .bool e.retryable)])

/-- What a cycle did. -/
structure CycleResult where
  status : CycleStatus
  reason : CycleReason
  fetched : Nat := 0
  sent : Nat := 0
  acked : Nat := 0
  ackSkipped : Nat := 0
  errorCount : Nat := 0
  /-- The texts of the errors. -/
  errors : List String := []
  /-- The errors themselves. -/
  details : List CycleError := []
deriving DecidableEq

namespace CycleResult

def isOk (r : CycleResult) : Bool := r.status == .ok

/-- Record an error: its text, the error itself and the new count. A cycle that is fine so far counts as completed
with errors from then on. -/
def addError (r : CycleResult) (e : CycleError) : CycleResult :=
  { r with
    errorCount := (r.errors ++ [e.message]).length
    errors := r.errors ++ [e.message]
    details := r.details ++ [e]
    reason := if r.isOk then .completedWithErrors else r.reason }

/-- A cycle that failed before there was any message. -/
def failed (reason : CycleReason) (e : CycleError) : CycleResult :=
  ({ status := .failed, reason := reason } : CycleResult).addError e

/-- The count, the texts and the details speak of the same errors. -/
structure Agrees (r : CycleResult) : Prop where
  errors_eq : r.errors = r.details.map CycleError.message
  errorCount_eq : r.errorCount = r.errors.length

/-- Every error enters all three. -/
theorem Agrees.addError {r : CycleResult} (h : r.Agrees) (e : CycleError) : (r.addError e).Agrees where
  errors_eq := by simp [CycleResult.addError, h.errors_eq]
  errorCount_eq := rfl

/-- The members of the JSON form, which reports extend. -/
def fields (r : CycleResult) : Json.Fields :=
  [ ("status", .string r.status.name),
    ("reason", .string r.reason.name),
    ("fetched_count", .nat r.fetched),
    ("sent_count", .nat r.sent),
    ("acked_count", .nat r.acked),
    ("ack_skipped_count", .nat r.ackSkipped),
    ("error_count", .nat r.errorCount),
    ("errors", .array (r.errors.map Value.string)),
    ("error_details", .array (r.details.map CycleError.toJson)) ]

def toJson (r : CycleResult) : Value := .object r.fields

end CycleResult

/-- The rules of a cycle: when to acknowledge, and which session a message belongs to. -/
structure CycleOptions (m : Type → Type) where
  ackPolicy : AckPolicy
  session : Inbound → m (Except Error String)

/-- The usual rules: a message belongs to the session of its chat. -/
def CycleOptions.standard {m : Type → Type} [Monad m] (ackPolicy : AckPolicy) : CycleOptions m :=
  { ackPolicy := ackPolicy, session := fun inbound => pure inbound.session }

namespace Cycle

variable {m : Type → Type} [Monad m]

/-- Process one message up to the sending of its reply. The result says whether something was sent, or
where it failed. -/
def process (channel : Channel m) (handler : Handler m) (options : CycleOptions m)
    (inbound : Inbound) : m (Except (CycleStage × Error) Bool) := do
  match ← options.session inbound with
  | .error e => return .error (.session, e)
  | .ok session =>
      match ← handler.handle inbound session with
      | .error e => return .error (.handler, e)
      | .ok none => return .ok false
      | .ok (some outbound) =>
          match ← channel.send outbound with
          | .error e => return .error (.send, e)
          | .ok () => return .ok true

/-- The error of a cycle whose fetch failed. -/
def fetchError (e : Error) : CycleError :=
  { stage := .fetch, message := Text.compact e.message, retryable := e.isTransient }

/-- The error of a message that failed at a stage. -/
def itemError (updateId : String) (stage : CycleStage) (e : Error) : CycleError :=
  { stage := stage
    updateId := some updateId
    message := Text.compact ("update " ++ updateId ++ ": " ++ e.message)
    retryable := e.isTransient }

/-- The error of an acknowledgement that failed. -/
def ackError (updateId : String) (e : Error) : CycleError :=
  { stage := .ack
    updateId := some updateId
    message := Text.compact ("update " ++ updateId ++ ": ack failed: " ++ e.message)
    retryable := e.isTransient }

/-- Enter the outcome of processing one message. -/
def enter (r : CycleResult) (updateId : String) : Except (CycleStage × Error) Bool → CycleResult
  | .ok true => { r with sent := r.sent + 1 }
  | .ok false => r
  | .error (stage, e) => r.addError (itemError updateId stage e)

/-- Enter the outcome of an acknowledgement. -/
def enterAck (r : CycleResult) (updateId : String) : Except Error Unit → CycleResult
  | .ok () => { r with acked := r.acked + 1 }
  | .error e => r.addError (ackError updateId e)

/-- Process one message and acknowledge it, unless it failed and failures are left for later. -/
def runItem (channel : Channel m) (handler : Handler m) (options : CycleOptions m) (r : CycleResult)
    (inbound : Inbound) : m CycleResult := do
  let outcome ← process channel handler options inbound
  let r := enter r inbound.updateId outcome
  if !outcome.toBool && options.ackPolicy = .onSuccess then
    return { r with ackSkipped := r.ackSkipped + 1 }
  else return enterAck r inbound.updateId (← channel.acknowledge inbound.updateId)

/-- Process messages in order. -/
def runItems (channel : Channel m) (handler : Handler m) (options : CycleOptions m) :
    CycleResult → List Inbound → m CycleResult
  | r, [] => return r
  | r, inbound :: rest => do
      let r ← runItem channel handler options r inbound
      runItems channel handler options r rest

/-- Run one cycle. -/
def run (channel : Channel m) (handler : Handler m) (options : CycleOptions m) : m CycleResult := do
  match ← channel.fetch with
  | .error e => return .failed .fetchFailed (fetchError e)
  | .ok [] => return { status := .ok, reason := .noUpdates }
  | .ok messages =>
      runItems channel handler options
        { status := .ok, reason := .processed, fetched := messages.length } messages

end Cycle

end ChatRelay
