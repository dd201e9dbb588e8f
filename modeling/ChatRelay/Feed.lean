import ChatRelay.BotApi
import ChatRelay.Channel
import ChatRelay.Cursor
import ChatRelay.CursorFile
import ChatRelay.Settings

/-!
The provider's feed of updates as a channel. A feed asks for updates from its cursor's offset on, hands
out every message that is not settled yet, and keeps the floor in a store. When the store fails, a
strict feed reports an error and any other feed records a note. The floor stays ahead of the store until
a later save succeeds.
-/

namespace ChatRelay

structure FeedConfig where
  strict : Bool := false
  limit : Nat := 100
  timeoutSeconds : Nat := 0
  allowedUpdates : Option (List String) := none
deriving DecidableEq

def FeedConfig.ofSettings (s : Settings) : FeedConfig :=
  { strict := s.strictCursorIo, limit := s.fetchLimit, timeoutSeconds := s.pollTimeoutSeconds }

structure Feed where
  config : FeedConfig
  cursor : Cursor
  notes : List Diagnostic

/-- The note on a failed load or save of the floor. -/
def storeNote (e : StoreError) : Diagnostic :=
  if e.fault.isLoad then
    { code := .cursorLoadError, message := "cursor_state_load failed: " ++ e.message }
  else { code := .cursorSaveError, message := "cursor_state_save failed: " ++ e.message }

namespace Feed

variable {m : Type → Type} [Monad m]

/-- The outcome of a failure of the store: an error for a strict feed. -/
def storeOutcome (config : FeedConfig) (e : StoreError) : Except Error Unit :=
  if config.strict then .error (.store e) else .ok ()

/-- The feed at the start, with the floor from the store if there is one. A strict feed needs a store
that can be read. -/
def start (store : Option (CursorStore m)) (config : FeedConfig) : m (Except Error Feed) := do
  if config.limit = 0 || maxFetchLimit < config.limit then
    return .error (.config (.feedLimitRange maxFetchLimit config.limit))
  else
    match store with
    | none => return .ok ⟨config, Cursor.start none, []⟩
    | some store =>
        match ← store.load with
        | .ok floor => return .ok ⟨config, Cursor.start floor, []⟩
        | .error e =>
            match storeOutcome config e with
            | .error err => return .error err
            | .ok () => return .ok ⟨config, Cursor.start none, [storeNote e]⟩

/-- What the feed asks the provider for. -/
def request (feed : Feed) : GetUpdates :=
  { offset := feed.cursor.offset
    limit := feed.config.limit
    timeoutSeconds := feed.config.timeoutSeconds
    allowedUpdates := feed.config.allowedUpdates }

/-- Save the floor if it is ahead of the store. Without a store there is nothing to do. -/
def persist (store : Option (CursorStore m)) (feed : Feed) : m (Except Error Unit × Feed) := do
  match feed.cursor.unsaved?, store with
  | some floor, some store =>
      match ← store.save floor with
      | .ok () => return (.ok (), { feed with cursor := { feed.cursor with persisted := some floor } })
      | .error e => return (storeOutcome feed.config e, { feed with notes := feed.notes ++ [storeNote e] })
  | _, _ => return (.ok (), feed)

/-- Move the floor to where the ids ask for and save it. -/
def settle (store : Option (CursorStore m)) (feed : Feed) : m (Except Error Unit × Feed) :=
  persist store { feed with cursor := feed.cursor.settle }

/-- Take the provider's answer to a request. -/
def receive (store : Option (CursorStore m)) (feed : Feed)
    (answer : Except ApiError (List Json.Fields)) : m (Except Error (List Inbound) × Feed) := do
  match answer with
  | .error e => return (.error e.toError, feed)
  | .ok batch =>
      let intake := feed.cursor.takeBatch (batch.map Update.ofJson)
      let (outcome, feed) ← settle store
        { feed with cursor := intake.cursor, notes := feed.notes ++ intake.notes }
      return (outcome.map fun _ => intake.messages, feed)

/-- The id that a text names in an acknowledgement. -/
def ackId? (text : String) : Option Int :=
  (Text.signed? (Text.trim text)).filter fun id => 0 ≤ id

/-- Take the acknowledgement of an update. -/
def acknowledge (store : Option (CursorStore m)) (feed : Feed) (text : String) :
    m (Except Error Unit × Feed) := do
  match ackId? text with
  | none => return (.error (.contract (.unusableAck text)), feed)
  | some id => settle store { feed with cursor := feed.cursor.acknowledge id }

/-- The recorded notes, which are taken out of the feed. -/
def drain (feed : Feed) : List Diagnostic × Feed := (feed.notes, { feed with notes := [] })

end Feed

/-- The request that delivers a message. -/
def Outbound.request (outbound : Outbound) : SendMessage :=
  { chatId := outbound.chatId, text := outbound.text, replyTo := outbound.replyTo }

/-- The channel of a feed. The feed itself is the state of the channel. -/
def Feed.channel {m : Type → Type} [Monad m] (api : BotApi m) (store : Option (CursorStore m)) :
    Channel (StateT Feed m) where
  fetch := fun feed => do
    let answer ← api.getUpdates feed.request
    feed.receive store answer
  send outbound := fun feed => do
    match ← api.sendMessage outbound.request with
    | .ok _ => return (.ok (), feed)
    | .error e => return (.error e.toError, feed)
  acknowledge id := fun feed => feed.acknowledge store id
  drain := fun feed => pure feed.drain

end ChatRelay
