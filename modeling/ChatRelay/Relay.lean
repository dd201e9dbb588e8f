import ChatRelay.Client
import ChatRelay.Feed
import ChatRelay.Handler.Allowlist
import ChatRelay.Handler.Echo
import ChatRelay.Report

/-!
The relay put together: the provider's feed as the channel, and the echo behind the gate of allowed chats
as the handler. What they remember between two operations is one state.
-/

namespace ChatRelay

/-- Everything that a running relay remembers: its feed, the messages that were held back and the look-ups
that failed. -/
structure Relay where
  feed : Feed
  heldBack : List Diagnostic := []
  failedLookups : List Diagnostic := []

namespace Relay

variable {m : Type → Type} [Monad m]

/-- An operation on the feed as one on the relay. -/
def onFeed {α : Type} (run : StateT Feed m α) : StateT Relay m α := fun relay => do
  let (a, feed) ← run relay.feed
  return (a, { relay with feed := feed })

/-- An operation on the two records of the handler as one on the relay. -/
def onRecords {α : Type} (run : StateT (List Diagnostic) (StateT (List Diagnostic) m) α) :
    StateT Relay m α := fun relay => do
  let ((a, heldBack), failedLookups) ← run relay.heldBack relay.failedLookups
  return (a, { relay with heldBack := heldBack, failedLookups := failedLookups })

/-- The feed as the channel of the relay. -/
def channel (api : BotApi m) (store : Option (CursorStore m)) : Channel (StateT Relay m) :=
  (Feed.channel api store).lift onFeed

/-- The echo behind the gate as the handler of the relay. -/
def handler (chats : Allowlist) (lookup : Option (Echo.Lookup m)) : Handler (StateT Relay m) :=
  (Allowlist.gate chats (Echo.handler lookup)).lift onRecords

end Relay

/-- What a relay works with once its settings are found usable, and the feed that it starts from. -/
structure Assembly (m : Type → Type) where
  api : BotApi m
  store : Option (CursorStore m)
  feed : Feed

namespace Assembly

variable {m : Type → Type} [Monad m]

/-- Put a relay together. A client that cannot be made is reported before a store that cannot be read. -/
def ofSettings (disk : Disk m) (transport : Http.Transport m) (settings : Settings) :
    m (Except Error (Assembly m)) := do
  match Client.make (ClientConfig.ofSettings settings) with
  | .error e => return .error e
  | .ok client =>
      let store := settings.cursorPath.map fun text => (CursorFile.mk text).store disk
      match ← Feed.start store (FeedConfig.ofSettings settings) with
      | .error e => return .error e
      | .ok feed => return .ok ⟨client.api transport, store, feed⟩

/-- One cycle of the relay with a report. -/
def cycle (parts : Assembly m) (settings : Settings) (lookup : Option (Echo.Lookup m))
    (notifier : Option (Notifier m)) (clock : m Nat) : StateT Relay m CycleReport :=
  Cycle.report (Relay.channel parts.api parts.store)
    (Relay.handler (Allowlist.ofEntries settings.allowedChatIds) lookup) settings.ackPolicy
    (notifier.map fun notifier => notifier.lift StateT.lift) (StateT.lift clock)

end Assembly

end ChatRelay
