import ChatRelay.Cycle
import ChatRelay.Json.Printer

/-!
The report on a cycle: what the cycle did, together with the conditions that the handler and the channel
recorded. Dropped updates are listed apart, and every other condition counts as an error. A notifier, if
there is one, is told of a cycle with errors and of each such condition. When it fails, only a count
remembers it.
-/

namespace ChatRelay

open ChatRelay.Json (Value)

structure CycleReport where
  result : CycleResult
  droppedCount : Nat
  dropped : List Diagnostic
  notifyFailures : Nat
  elapsed : Nat
deriving DecidableEq

namespace CycleReport

def toJson (r : CycleReport) : Value :=
  .object (r.result.fields ++
    [ ("dropped_count", .nat r.droppedCount),
      ("dropped_updates", .array (r.dropped.map Diagnostic.toJson)),
      ("notify_failures", .nat r.notifyFailures),
      ("elapsed_ms", .nat r.elapsed) ])

/-- The report as one line of JSON text. -/
def line (r : CycleReport) : String := r.toJson.print

end CycleReport

/-- The error that a recorded condition counts as. -/
def Diagnostic.toError (d : Diagnostic) : CycleError :=
  { stage := .diagnostic
    updateId := d.updateId
    message := Text.compact d.message
    retryable := d.code.isRetryable }

namespace Cycle

variable {m : Type → Type} [Monad m]

/-- Tell the notifier, if there is one. The result counts the failures, so it is zero or one. -/
def tell (notifier : Option (Notifier m)) (text : String) (context : Value) : m Nat := do
  match notifier with
  | none => return 0
  | some notifier =>
      match ← notifier.notify text context with
      | .ok () => return 0
      | .error _ => return 1

/-- What a notifier is told along with the news of a cycle with errors. -/
def failureContext (r : CycleResult) : Value :=
  .object (Json.Fields.ofList
    [ ("code", .string "service-cycle-error"),
      ("status", .string r.status.name),
      ("reason", .string r.reason.name),
      ("error_count", .nat r.errorCount),
      ("fetched_count", .nat r.fetched),
      ("sent_count", .nat r.sent) ])

/-- Tell of a cycle that failed or had errors. -/
def tellResult (notifier : Option (Notifier m)) (r : CycleResult) : m Nat := do
  if !r.isOk || 0 < r.errorCount then
    tell notifier ("channel cycle failure: " ++ r.reason.name) (failureContext r)
  else return 0

/-- Tell of conditions one by one. -/
def tellAll (notifier : Option (Notifier m)) : List Diagnostic → m Nat
  | [] => return 0
  | d :: rest => do
      let failures ← tell notifier (d.code.name ++ " failure: " ++ d.message) d.toJson.sorted
      return failures + (← tellAll notifier rest)

/-- Run one cycle and report on it. The clock gives milliseconds. -/
def report (channel : Channel m) (handler : Handler m) (ackPolicy : AckPolicy)
    (notifier : Option (Notifier m)) (clock : m Nat) : m CycleReport := do
  let started ← clock
  let result ← run channel handler (.standard ackPolicy)
  let resultFailures ← tellResult notifier result
  let handlerNotes ← handler.drain
  let channelNotes ← channel.drain
  let notes := handlerNotes ++ channelNotes
  let dropped := notes.filter fun d => d.code.isDrop
  let troubles := notes.filter fun d => !d.code.isDrop
  let noteFailures ← tellAll notifier troubles
  let finished ← clock
  return {
    result := troubles.foldl (fun r d => r.addError d.toError) result
    droppedCount := dropped.length
    dropped := dropped
    notifyFailures := resultFailures + noteFailures
    elapsed := finished - started }

end Cycle

end ChatRelay
