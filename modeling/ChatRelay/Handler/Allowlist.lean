import ChatRelay.Channel
import ChatRelay.Text.Integer

/-!
A gate in front of a handler that lets only the messages of listed chats through. Chats whose ids are
whole numbers are compared as numbers. An empty list lets everything through.
-/

namespace ChatRelay

/-- The normal forms of the chats that may pass. -/
structure Allowlist where
  chats : List String
deriving DecidableEq

namespace Allowlist

/-- The form in which chats are compared. A blank id has none. -/
def normalForm? (chatId : String) : Option String :=
  let id := Text.trim chatId
  if id.isEmpty then none
  else
    match Text.signed? id with
    | some n => some (toString n)
    | none => some id

def ofEntries (entries : List String) : Allowlist := ⟨entries.filterMap normalForm?⟩

/-- Whether the messages of a chat may pass. -/
def allows (list : Allowlist) (chatId : String) : Bool :=
  list.chats.isEmpty ||
    match normalForm? chatId with
    | some id => list.chats.contains id
    | none => false

/-- The record of a message that was held back. -/
def dropNote (inbound : Inbound) : Diagnostic :=
  { code := .allowlistDrop
    message := "dropped update " ++ inbound.updateId ++ ": chat_id not allowlisted (" ++
      inbound.chatId ++ ")"
    updateId := some inbound.updateId
    chatId := some inbound.chatId }

/-- The gate in front of a handler. Its state is the record of messages that were held back. -/
def gate {m : Type → Type} [Monad m] (list : Allowlist) (inner : Handler m) :
    Handler (StateT (List Diagnostic) m) where
  handle inbound session := fun record => do
    if list.allows inbound.chatId then return (← inner.handle inbound session, record)
    else return (.ok none, record ++ [dropNote inbound])
  drain := fun record => do return (record ++ (← inner.drain), [])

end Allowlist

end ChatRelay
