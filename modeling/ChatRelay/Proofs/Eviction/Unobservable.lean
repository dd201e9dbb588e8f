import ChatRelay.Disk.FileTree
import ChatRelay.Proofs.Coupling
import ChatRelay.Proofs.Eviction.Ledger

/-!
Forgetting ids cannot be observed. A feed that keeps a ledger instead of a cursor, and so forgets nothing, is the
same program: it asks the same of the provider, saves the same floors, and gives the same answers and notes.
-/

namespace ChatRelay

/-- A feed that forgets no id. -/
structure LedgerFeed where
  config : FeedConfig
  ledger : Ledger
  notes : List Diagnostic

namespace LedgerFeed

variable {m : Type → Type} [Monad m]

/-- The feed at the start, with the floor from the store if there is one. A strict feed needs a store
that can be read. -/
def start (store : Option (CursorStore m)) (config : FeedConfig) : m (Except Error LedgerFeed) := do
  if config.limit = 0 || maxFetchLimit < config.limit then
    return .error (.config (.feedLimitRange maxFetchLimit config.limit))
  else
    match store with
    | none => return .ok ⟨config, Ledger.start none, []⟩
    | some store =>
        match ← store.load with
        | .ok floor => return .ok ⟨config, Ledger.start floor, []⟩
        | .error e =>
            match Feed.storeOutcome config e with
            | .error err => return .error err
            | .ok () => return .ok ⟨config, Ledger.start none, [storeNote e]⟩

def request (feed : LedgerFeed) : GetUpdates :=
  { offset := feed.ledger.offset
    limit := feed.config.limit
    timeoutSeconds := feed.config.timeoutSeconds
    allowedUpdates := feed.config.allowedUpdates }

/-- Save the floor if it is ahead of the store. Without a store there is nothing to do. -/
def persist (store : Option (CursorStore m)) (feed : LedgerFeed) : m (Except Error Unit × LedgerFeed) := do
  match feed.ledger.unsaved?, store with
  | some floor, some store =>
      match ← store.save floor with
      | .ok () => return (.ok (), { feed with ledger := { feed.ledger with persisted := some floor } })
      | .error e =>
          return (Feed.storeOutcome feed.config e, { feed with notes := feed.notes ++ [storeNote e] })
  | _, _ => return (.ok (), feed)

/-- Move the floor to where the ids ask for and save it. -/
def settle (store : Option (CursorStore m)) (feed : LedgerFeed) : m (Except Error Unit × LedgerFeed) :=
  persist store { feed with ledger := feed.ledger.settle }

/-- Take the provider's answer to a request. -/
def receive (store : Option (CursorStore m)) (feed : LedgerFeed)
    (answer : Except ApiError (List Json.Fields)) : m (Except Error (List Inbound) × LedgerFeed) := do
  match answer with
  | .error e => return (.error e.toError, feed)
  | .ok batch =>
      let intake := feed.ledger.takeBatch (batch.map Update.ofJson)
      let (outcome, feed) ← settle store
        { feed with ledger := intake.ledger, notes := feed.notes ++ intake.notes }
      return (outcome.map fun _ => intake.messages, feed)

/-- Take the acknowledgement of an update. -/
def acknowledge (store : Option (CursorStore m)) (feed : LedgerFeed) (text : String) :
    m (Except Error Unit × LedgerFeed) := do
  match Feed.ackId? text with
  | none => return (.error (.contract (.unusableAck text)), feed)
  | some id => settle store { feed with ledger := feed.ledger.acknowledge id }

/-- The recorded notes, which are taken out of the feed. -/
def drain (feed : LedgerFeed) : List Diagnostic × LedgerFeed := (feed.notes, { feed with notes := [] })

/-- The channel of such a feed. -/
def channel (api : BotApi m) (store : Option (CursorStore m)) : Channel (StateT LedgerFeed m) where
  fetch := fun feed => do
    let answer ← api.getUpdates feed.request
    feed.receive store answer
  send outbound := fun feed => do
    match ← api.sendMessage outbound.request with
    | .ok _ => return (.ok (), feed)
    | .error e => return (.error e.toError, feed)
  acknowledge id := fun feed => feed.acknowledge store id
  drain := fun feed => pure feed.drain

end LedgerFeed

/-- What is shown of a feed between two calls. -/
structure FeedView where
  offset : Option Int
  floor : Option Int
  pending : IdSet
  notes : List Diagnostic
deriving DecidableEq

def Feed.view (feed : Feed) : FeedView :=
  ⟨feed.cursor.offset, feed.cursor.floor, feed.cursor.pending, feed.notes⟩

def LedgerFeed.view (feed : LedgerFeed) : FeedView :=
  ⟨feed.ledger.offset, feed.ledger.floor, feed.ledger.pending, feed.notes⟩

/-- Start a feed, perform calls on it, and look at it at the start and after every call. -/
def Channel.showLife {m : Type → Type} [Monad m] {S : Type} (begin : m (Except Error S))
    (channel : Channel (StateT S m)) (view : S → FeedView) (calls : List Channel.Call) :
    m (Except Error (FeedView × List (Channel.Outcome × FeedView))) := do
  match ← begin with
  | .error e => return .error e
  | .ok s => return .ok (view s, ← channel.showAll view calls s)

/-- A feed and one that forgets nothing, after the same calls. -/
structure Feed.Matches (feed : Feed) (full : LedgerFeed) : Prop where
  config_eq : feed.config = full.config
  notes_eq : feed.notes = full.notes
  ids : feed.cursor.Matches full.ledger

namespace Feed.Matches

variable {m : Type → Type} [Monad m] [LawfulMonad m] {feed : Feed} {full : LedgerFeed}

theorem view_eq (h : feed.Matches full) : feed.view = full.view := by
  simp only [Feed.view, LedgerFeed.view, h.ids.offset_eq, h.ids.floor_eq, h.ids.pending_eq, h.notes_eq]

theorem request_eq (h : feed.Matches full) : feed.request = full.request := by
  simp only [Feed.request, LedgerFeed.request, h.ids.offset_eq, h.config_eq]

/-- Both sides save the same floor at the same time, and learn the same from it. -/
theorem persist (h : feed.Matches full) (store : Option (CursorStore m)) :
    Coupled Feed.Matches (feed.persist store) (full.persist store) := by
  simp only [Feed.persist, LedgerFeed.persist, h.ids.unsaved?_eq]
  cases full.ledger.unsaved? with
  | none => exact .pure _ h
  | some floor =>
      cases store with
      | none => exact .pure _ h
      | some store =>
          apply Coupled.outside
          intro answer
          cases answer with
          | ok done => exact .pure _ ⟨h.config_eq, h.notes_eq, h.ids.saved floor⟩
          | error e =>
              rw [h.config_eq, h.notes_eq]
              exact .pure _ ⟨rfl, rfl, h.ids⟩

theorem settle (h : feed.Matches full) (store : Option (CursorStore m)) :
    Coupled Feed.Matches (feed.settle store) (full.settle store) := by
  have hSettled : Feed.Matches { feed with cursor := feed.cursor.settle } { full with ledger := full.ledger.settle } :=
    ⟨h.config_eq, h.notes_eq, h.ids.settle⟩
  exact hSettled.persist store

/-- An answer of the provider brings the same messages and notes on both sides. -/
theorem receive (h : feed.Matches full) (store : Option (CursorStore m))
    (answer : Except ApiError (List Json.Fields)) :
    Coupled Feed.Matches (feed.receive store answer) (full.receive store answer) := by
  cases answer with
  | error e => exact .pure _ h
  | ok batch =>
      let intake := feed.cursor.takeBatch (batch.map Update.ofJson)
      let intake' := full.ledger.takeBatch (batch.map Update.ofJson)
      have hIntake : intake.Matches intake' := h.ids.takeBatch _
      have hTaken : Feed.Matches { feed with cursor := intake.cursor, notes := feed.notes ++ intake.notes }
          { full with ledger := intake'.ledger, notes := full.notes ++ intake'.notes } :=
        ⟨h.config_eq, by rw [h.notes_eq, hIntake.notes_eq], hIntake.ids⟩
      have hAnswer : ∀ (outcome : Except Error Unit) (feed : Feed) (full : LedgerFeed), feed.Matches full →
          Coupled Feed.Matches (Pure.pure (outcome.map fun _ => intake.messages, feed) : m _)
            (Pure.pure (outcome.map fun _ => intake'.messages, full)) := by
        intro outcome feed full hAfter
        rw [hIntake.messages_eq]
        exact .pure _ hAfter
      exact (hTaken.settle store).bind hAnswer

/-- An acknowledged text names the same id on both sides, or none. -/
theorem acknowledge (h : feed.Matches full) (store : Option (CursorStore m)) (text : String) :
    Coupled Feed.Matches (feed.acknowledge store text) (full.acknowledge store text) := by
  simp only [Feed.acknowledge, LedgerFeed.acknowledge]
  cases Feed.ackId? text with
  | none => exact .pure _ h
  | some id =>
      have hTaken : Feed.Matches { feed with cursor := feed.cursor.acknowledge id }
          { full with ledger := full.ledger.acknowledge id } :=
        ⟨h.config_eq, h.notes_eq, h.ids.acknowledge id⟩
      exact hTaken.settle store

theorem drain (h : feed.Matches full) : feed.drain.2.Matches full.drain.2 := ⟨h.config_eq, rfl, h.ids⟩

end Feed.Matches

variable {m : Type → Type} [Monad m] [LawfulMonad m]

/-- The feed and the one that forgets nothing are twins, operation by operation. -/
theorem Feed.twins_channel (api : BotApi m) (store : Option (CursorStore m)) :
    Channel.Twins Feed.Matches (Feed.channel api store) (LedgerFeed.channel api store) where
  fetch := by
    intro feed full h
    simp only [Feed.channel, LedgerFeed.channel, h.request_eq]
    exact .outside _ fun answer => h.receive store answer
  send := by
    intro outbound feed full h
    apply Coupled.outside
    intro answer
    cases answer with
    | ok done => exact .pure _ h
    | error e => exact .pure _ h
  acknowledge := fun text feed full h => h.acknowledge store text
  drain := by
    intro feed full h
    have hNotes : feed.drain.1 = full.drain.1 := h.notes_eq
    change Coupled Feed.Matches (Pure.pure (feed.drain.1, feed.drain.2)) (Pure.pure (full.drain.1, full.drain.2))
    rw [hNotes]
    exact .pure _ h.drain

/-- **Forgetting ids cannot be observed.** Whatever the store holds and whatever calls are made, a feed and one
that forgets nothing are the same program over every monad. So they make the same requests and saves in the same
order, and they give the same answers, the same notes, and the same offset, floor and waiting ids after every
call. -/
theorem eviction_unobservable (api : BotApi m) (store : Option (CursorStore m)) (config : FeedConfig)
    (calls : List Channel.Call) :
    Channel.showLife (Feed.start store config) (Feed.channel api store) Feed.view calls =
      Channel.showLife (LedgerFeed.start store config) (LedgerFeed.channel api store) LedgerFeed.view calls := by
  have hShown : ∀ {feed : Feed} {full : LedgerFeed}, feed.Matches full →
      (Feed.channel api store).showAll Feed.view calls feed =
        (LedgerFeed.channel api store).showAll LedgerFeed.view calls full := fun h =>
    (Feed.twins_channel api store).showAll_eq (fun _ _ hBoth => hBoth.view_eq) calls h
  have hFresh : ∀ (floor : Option Int) (notes : List Diagnostic),
      Feed.Matches ⟨config, Cursor.start floor, notes⟩ ⟨config, Ledger.start floor, notes⟩ := fun floor notes =>
    ⟨rfl, rfl, Cursor.matches_start floor⟩
  simp only [Channel.showLife, Feed.start, LedgerFeed.start]
  split
  · simp only [pure_bind]
  · cases store with
    | none =>
        simp only [pure_bind]
        rw [hShown (hFresh none []), (hFresh none []).view_eq]
    | some store =>
        simp only [bind_assoc]
        refine bind_congr fun answer => ?_
        cases answer with
        | ok floor =>
            simp only [pure_bind]
            rw [hShown (hFresh floor []), (hFresh floor []).view_eq]
        | error e =>
            cases hOutcome : Feed.storeOutcome config e with
            | error err => simp only [hOutcome, pure_bind]
            | ok done =>
                simp only [hOutcome, pure_bind]
                rw [hShown (hFresh none [storeNote e]), (hFresh none [storeNote e]).view_eq]

/-- Two fetches and an acknowledgement on a file tree. The floor moves past the acknowledged id, so that the second
fetch finds it forgotten on one side only. -/
theorem eviction_unobservable_on_tree :
    let api : BotApi (StateM FileTree) := BotApi.constant [Update.plain 7 "hello"]
    let store := some ((CursorFile.mk "cursor.json").store FileTree.disk)
    let calls := [.fetch, .acknowledge "7", .fetch]
    let shown := (Channel.showLife (Feed.start store {}) (Feed.channel api store) Feed.view calls FileTree.empty).1
    shown.toOption.map (fun result => result.2.map fun step => step.2.floor) =
        some [some 7, some 8, some 8] ∧
      shown = (Channel.showLife (LedgerFeed.start store {}) (LedgerFeed.channel api store) LedgerFeed.view calls
        FileTree.empty).1 := by
  intro api store calls shown
  refine ⟨by decide +kernel, ?_⟩
  simp only [shown]
  rw [eviction_unobservable api store {} calls]

end ChatRelay
