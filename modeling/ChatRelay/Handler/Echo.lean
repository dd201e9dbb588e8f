import ChatRelay.Channel
import ChatRelay.Text.Split

/-!
A handler that repeats every message back to its chat, as a reply to it. An optional look-up can add a
note to the reply. When the look-up fails, the reply is sent without a note and the failure is recorded.
-/

namespace ChatRelay.Echo

/-- Knowledge about a text, if there is any. -/
abbrev Lookup (m : Type → Type) := String → m (Except Error (Option String))

/-- The record of a failed look-up. -/
def lookupNote (inbound : Inbound) (e : Error) : Diagnostic :=
  { code := .memoryLookupError
    message := Text.compact ("memory lookup failed: " ++ e.message)
    updateId := some inbound.updateId
    chatId := some inbound.chatId }

/-- What a look-up adds to the reply and to the record. A blank note adds nothing. -/
def memory (inbound : Inbound) :
    Except Error (Option String) → Option String × List Diagnostic
  | .ok found => ((found.bind Text.nonBlank?).map Text.trim, [])
  | .error e => (none, [lookupNote inbound e])

/-- The reply to a message. -/
def reply (inbound : Inbound) (session : String) (note : Option String) : Except Error Outbound := do
  let text := "echo: " ++ inbound.text
  let text := match note with
    | some note => text ++ "\n\nmemory: " ++ note
    | none => text
  let outbound ← Outbound.make inbound.chatId text
  return { outbound with
    replyTo := inbound.messageId
    metadata := [("session_id", .string session)] }

/-- The handler. Its state is the record of failed look-ups. -/
def handler {m : Type → Type} [Monad m] (lookup : Option (Lookup m)) :
    Handler (StateT (List Diagnostic) m) where
  handle inbound session := fun record => do
    match lookup with
    | none => return ((reply inbound session none).map some, record)
    | some lookup =>
        let (note, added) := memory inbound (← lookup inbound.text)
        return ((reply inbound session note).map some, record ++ added)
  drain := fun record => pure (record, [])

end ChatRelay.Echo
