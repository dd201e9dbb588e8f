import ChatRelay.Diagnostic
import ChatRelay.Message

/-!
The parties that a cycle of the relay works with: the channel that messages come from and go to, the
handler that decides what to reply, and the notifier that learns of failures. Each is a record of
operations in some monad, and can be lifted into a larger one.
-/

namespace ChatRelay

/-- A source of messages that can also deliver them. -/
structure Channel (m : Type → Type) where
  /-- The next messages, which may be none. -/
  fetch : m (Except Error (List Inbound))
  send : Outbound → m (Except Error Unit)
  /-- Tell that the update with this id is dealt with. -/
  acknowledge : String → m (Except Error Unit)
  /-- The conditions recorded since the last time. -/
  drain : m (List Diagnostic)

/-- The decision what to reply to a message in a session, which may be nothing. -/
structure Handler (m : Type → Type) where
  handle : Inbound → String → m (Except Error (Option Outbound))
  /-- The conditions recorded since the last time. -/
  drain : m (List Diagnostic)

/-- A side channel for news of failures. -/
structure Notifier (m : Type → Type) where
  notify : String → Json.Value → m (Except Error Unit)

variable {m n : Type → Type}

def Channel.lift (f : {α : Type} → m α → n α) (channel : Channel m) : Channel n where
  fetch := f channel.fetch
  send outbound := f (channel.send outbound)
  acknowledge id := f (channel.acknowledge id)
  drain := f channel.drain

def Handler.lift (f : {α : Type} → m α → n α) (handler : Handler m) : Handler n where
  handle inbound session := f (handler.handle inbound session)
  drain := f handler.drain

def Notifier.lift (f : {α : Type} → m α → n α) (notifier : Notifier m) : Notifier n where
  notify text context := f (notifier.notify text context)

end ChatRelay
