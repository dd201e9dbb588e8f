import ChatRelay.Json.Value

/-!
Conditions that do not stop the relay and are reported afterwards. Some of them are drops, which are
expected outcomes of filtering, and the others count as errors of the cycle that reports them.
-/

namespace ChatRelay

open ChatRelay.Json (Value)

inductive DiagnosticCode where
  | staleDrop
  | cursorLoadError
  | cursorSaveError
  | allowlistDrop
  | memoryLookupError
deriving DecidableEq

namespace DiagnosticCode

def all : List DiagnosticCode :=
  [.staleDrop, .cursorLoadError, .cursorSaveError, .allowlistDrop, .memoryLookupError]

def name : DiagnosticCode → String
  | .staleDrop => "stale-drop"
  | .cursorLoadError => "cursor-state-load-error"
  | .cursorSaveError => "cursor-state-save-error"
  | .allowlistDrop => "allowlist-drop"
  | .memoryLookupError => "memory-lookup-error"

def ofName? (name : String) : Option DiagnosticCode := all.find? fun code => code.name == name

/-- Drops are expected outcomes, not failures. -/
def isDrop : DiagnosticCode → Bool
  | .staleDrop | .allowlistDrop => true
  | _ => false

/-- Whether the condition may pass by itself: only trouble with the cursor file may. -/
def isRetryable : DiagnosticCode → Bool
  | .cursorLoadError | .cursorSaveError => true
  | _ => false

end DiagnosticCode

/-- A recorded condition, with the update and the chat that it concerns. -/
structure Diagnostic where
  code : DiagnosticCode
  message : String
  updateId : Option String := none
  chatId : Option String := none
deriving DecidableEq

/-- Absent details are left out. -/
def Diagnostic.toJson (d : Diagnostic) : Value :=
  let details := [("update_id", d.updateId), ("chat_id", d.chatId)].filterMap fun detail =>
    detail.2.map fun text => (detail.1, Value.string text)
  .object ([("code", .string d.code.name), ("message", .string d.message)] ++ details)

end ChatRelay
