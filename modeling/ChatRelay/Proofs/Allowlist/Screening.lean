import ChatRelay.Proofs.Allowlist.Forms
import ChatRelay.Proofs.Cycle.Reports
import ChatRelay.Proofs.Feed.Calls
import ChatRelay.Proofs.Settings.Validity
import ChatRelay.Relay

/-!
Who gets a reply. Behind the gate of the allowed chats the echo answers every message, so that the requests to send can
be told from the messages that the channel gave: there is one for each message of a listed chat, in their order. Each
other message leaves one record, and the reports list these records in the same order. The provider, the store, the
look-up, the notifier and the clock do what they like, but they give an answer.
-/

namespace ChatRelay

/-- A world with the messages that a channel gave and the requests to send that were made. -/
structure Traffic (σ : Type) where
  world : σ
  emitted : List Inbound
  requests : List SendMessage

namespace Traffic

variable {σ S α : Type}

/-- What happens in the world goes past the record. -/
def within (run : StateM σ α) : Process (Traffic σ) α :=
  (Process.ofState run).zoom world fun w t => { t with world := w }

def emit (messages : List Inbound) : Process (Traffic σ) Unit := fun t =>
  (some (), { t with emitted := t.emitted ++ messages })

def ask (request : SendMessage) : Process (Traffic σ) Unit := fun t =>
  (some (), { t with requests := t.requests ++ [request] })

/-- A property of what was given and asked so far. -/
def Shows (X : List Inbound → List SendMessage → Prop) (t : Traffic σ) : Prop := X t.emitted t.requests

theorem ensures_within (run : StateM σ α) (X : List Inbound → List SendMessage → Prop) :
    Process.Ensures (Shows X) (within run) (fun _ => Shows X) fun _ => False := fun _ h => h

/-- The same channel, with a record of the messages that it gives. -/
def emitting (channel : Channel (Program S (Traffic σ))) : Channel (Program S (Traffic σ)) where
  fetch := do
    let answer ← channel.fetch
    Program.outside (emit (Cycle.messagesOf answer))
    return answer
  send := channel.send
  acknowledge := channel.acknowledge
  drain := channel.drain

end Traffic

/-- What a relay works with. -/
structure Parties (m : Type → Type) where
  api : BotApi m
  store : Option (CursorStore m)
  lookup : Option (Echo.Lookup m)
  notifier : Option (Notifier m)
  clock : m Nat

namespace Parties

open Traffic (within)

variable {σ : Type}

/-- The same parties, with a record of the requests to send. -/
def observed (parties : Parties (StateM σ)) : Parties (Process (Traffic σ)) where
  api := {
    getUpdates := fun request => within (parties.api.getUpdates request)
    sendMessage := fun request => do
      Traffic.ask request
      within (parties.api.sendMessage request) }
  store := parties.store.map fun store => store.lift within
  lookup := parties.lookup.map fun find text => within (find text)
  notifier := parties.notifier.map fun notifier => notifier.lift within
  clock := within parties.clock

variable (parties : Parties (StateM σ))

def channel : Channel (Program Relay (Traffic σ)) :=
  Traffic.emitting (Relay.channel parties.observed.api parties.observed.store)

def notifierAside : Option (Notifier (Program Relay (Traffic σ))) :=
  parties.observed.notifier.map fun notifier => notifier.lift Program.outside

/-- Start a feed and run cycles of a relay on it, each with its own policy. -/
def life (config : FeedConfig) (chats : List String) (policies : List AckPolicy) :
    Process (Traffic σ) (Except Error (List CycleReport)) := do
  match ← Feed.start parties.observed.store config with
  | .error e => return .error e
  | .ok feed =>
      let handler := Relay.handler (Allowlist.ofEntries chats) parties.observed.lookup
      let ended ← Cycle.reportAll parties.channel handler parties.notifierAside (Program.outside parties.observed.clock)
        policies ⟨feed, [], []⟩
      return .ok ended.1

end Parties

/-- The chat and the message that a request to send answers. -/
def SendMessage.target (request : SendMessage) : String × Option String := (request.chatId, request.replyTo)

namespace Allowlist

/-- What the messages of listed chats call for: a reply each. -/
def answers (entries : List String) (messages : List Inbound) : List (String × Option String) :=
  (messages.filter fun m => Listed entries m.chatId).map fun m => (m.chatId, m.messageId)

/-- What all other messages call for: a record each. -/
def drops (entries : List String) (messages : List Inbound) : List Diagnostic :=
  (messages.filter fun m => ¬ Listed entries m.chatId).map dropNote

/-- The records of messages that were held back, among other conditions. -/
def dropsIn (notes : List Diagnostic) : List Diagnostic := notes.filter fun d => d.code = .allowlistDrop

/-- No record of a message that was held back is among the conditions. -/
def Quiet (notes : List Diagnostic) : Prop := ∀ d ∈ notes, d.code ≠ .allowlistDrop

variable {entries : List String} {messages rest : List Inbound} {inbound : Inbound} {notes : List Diagnostic}

theorem quiet_nil : Quiet [] := fun _ hd => absurd hd List.not_mem_nil

theorem quiet_singleton {d : Diagnostic} (h : d.code ≠ .allowlistDrop) : Quiet [d] := by
  intro other hOther
  rw [List.mem_singleton.mp hOther]
  exact h

theorem quiet_append {more : List Diagnostic} : Quiet (notes ++ more) ↔ Quiet notes ∧ Quiet more :=
  List.forall_mem_append

theorem answers_append : answers entries (messages ++ rest) = answers entries messages ++ answers entries rest := by
  simp [answers]

theorem drops_append : drops entries (messages ++ rest) = drops entries messages ++ drops entries rest := by
  simp [drops]

theorem dropsIn_append {more : List Diagnostic} : dropsIn (notes ++ more) = dropsIn notes ++ dropsIn more :=
  List.filter_append ..

theorem dropsIn_eq_nil (h : Quiet notes) : dropsIn notes = [] :=
  List.filter_eq_nil_iff.mpr fun d hd => by simpa using h d hd

theorem dropsIn_eq_self (h : ∀ d ∈ notes, d.code = .allowlistDrop) : dropsIn notes = notes :=
  List.filter_eq_self.mpr fun d hd => by simpa using h d hd

/-- A record of a message that was held back is a drop. -/
theorem dropsIn_filter_isDrop (notes : List Diagnostic) :
    dropsIn (notes.filter fun d => d.code.isDrop) = dropsIn notes := by
  rw [dropsIn, List.filter_filter, dropsIn]
  refine List.filter_congr fun d _ => ?_
  cases d.code <;> rfl

theorem code_of_mem_drops {d : Diagnostic} (h : d ∈ drops entries messages) : d.code = .allowlistDrop := by
  obtain ⟨m, _, rfl⟩ := List.mem_map.mp h
  rfl

/-- A relay while `rest` is still to be processed. The records in `earlier` are in reports already. -/
structure Screened (entries : List String) (earlier : List Diagnostic) (rest : List Inbound) (relay : Relay)
    (emitted : List Inbound) (requests : List SendMessage) : Prop where
  answered : requests.map SendMessage.target ++ answers entries rest = answers entries emitted
  recorded : earlier ++ relay.heldBack ++ drops entries rest = drops entries emitted
  quiet : Quiet (relay.feed.notes ++ relay.failedLookups)
  trimmed : ∀ m ∈ rest, Text.Trimmed m.chatId

namespace Screened

variable {earlier : List Diagnostic} {relay : Relay} {emitted : List Inbound} {requests : List SendMessage}

/-- While messages are screened, the feed records no drop of the gate. -/
theorem quiet_feed (h : Screened entries earlier rest relay emitted requests) : Quiet relay.feed.notes :=
  (quiet_append.mp h.quiet).1

/-- While messages are screened, the gate records nothing but drops. -/
theorem code_heldBack (h : Screened entries earlier rest relay emitted requests) :
    ∀ d ∈ relay.heldBack, d.code = .allowlistDrop := by
  intro d hd
  have hMem : d ∈ drops entries emitted := by
    rw [← h.recorded]
    exact List.mem_append_left _ (List.mem_append_right _ hd)
  exact code_of_mem_drops hMem

/-- A change of the feed does not matter, as long as it stays quiet. -/
theorem withFeed (h : Screened entries earlier rest relay emitted requests) {feed : Feed} (hFeed : Quiet feed.notes) :
    Screened entries earlier rest { relay with feed := feed } emitted requests where
  answered := h.answered
  recorded := h.recorded
  quiet := quiet_append.mpr ⟨hFeed, (quiet_append.mp h.quiet).2⟩
  trimmed := h.trimmed

/-- Neither do failed look-ups. -/
theorem withLookups (h : Screened entries earlier rest relay emitted requests) {failed : List Diagnostic}
    (hFailed : Quiet failed) :
    Screened entries earlier rest { relay with failedLookups := failed } emitted requests where
  answered := h.answered
  recorded := h.recorded
  quiet := quiet_append.mpr ⟨h.quiet_feed, hFailed⟩
  trimmed := h.trimmed

/-- A fetch adds its messages to those that are still to be screened. -/
theorem emit (h : Screened entries earlier [] relay emitted requests)
    (hMessages : ∀ m ∈ messages, Text.Trimmed m.chatId) :
    Screened entries earlier messages relay (emitted ++ messages) requests where
  answered := by
    rw [answers_append, ← h.answered]
    simp [answers]
  recorded := by
    rw [drops_append, ← h.recorded]
    simp [drops]
  quiet := h.quiet
  trimmed := hMessages

/-- A message from a listed chat leaves the list with one request to that chat. -/
theorem answer (h : Screened entries earlier (inbound :: rest) relay emitted requests)
    (hListed : Listed entries inbound.chatId) {request : SendMessage}
    (hTarget : request.target = (inbound.chatId, inbound.messageId)) :
    Screened entries earlier rest relay emitted (requests ++ [request]) where
  answered := by
    rw [← h.answered]
    simp [answers, hListed, hTarget]
  recorded := by
    rw [← h.recorded]
    simp [drops, hListed]
  quiet := h.quiet
  trimmed := fun m hm => h.trimmed m (List.mem_cons_of_mem inbound hm)

/-- A message from another chat leaves the list with one drop and no request. -/
theorem holdBack (h : Screened entries earlier (inbound :: rest) relay emitted requests)
    (hNot : ¬ Listed entries inbound.chatId) :
    Screened entries earlier rest { relay with heldBack := relay.heldBack ++ [dropNote inbound] } emitted requests where
  answered := by
    rw [← h.answered]
    simp [answers, hNot]
  recorded := by
    rw [← h.recorded]
    simp [drops, hNot]
  quiet := h.quiet
  trimmed := fun m hm => h.trimmed m (List.mem_cons_of_mem inbound hm)

/-- The records go into a report with the other conditions of the handler. -/
theorem drained (h : Screened entries earlier [] relay emitted requests) :
    Screened entries (earlier ++ dropsIn (relay.heldBack ++ relay.failedLookups)) []
      { relay with heldBack := [], failedLookups := [] } emitted requests where
  answered := h.answered
  recorded := by
    rw [dropsIn_append, dropsIn_eq_self h.code_heldBack,
      dropsIn_eq_nil (quiet_append.mp h.quiet).2, ← h.recorded]
    simp
  quiet := quiet_append.mpr ⟨h.quiet_feed, quiet_nil⟩
  trimmed := h.trimmed

end Screened

/-- The records in the reports on some cycles. -/
def reported (reports : List CycleReport) : List Diagnostic := reports.flatMap fun report => dropsIn report.dropped

/-- A relay whose records are all in `earlier`, as it is between two cycles. -/
def Idle (entries : List String) (earlier : List Diagnostic) (relay : Relay) (emitted : List Inbound)
    (requests : List SendMessage) : Prop :=
  Screened entries earlier [] relay emitted requests ∧ relay.heldBack = []

/-- After the drains the drops of the gate stand in the report, and the relay holds none. -/
theorem Idle.drained {earlier : List Diagnostic} {relay : Relay} {emitted : List Inbound} {requests : List SendMessage}
    (h : Idle entries (earlier ++ dropsIn notes) relay emitted requests) :
    Idle entries (earlier ++ dropsIn (notes ++ relay.feed.notes)) { relay with feed := relay.feed.drain.2 } emitted
      requests := by
  rw [dropsIn_append, dropsIn_eq_nil h.1.quiet_feed, List.append_nil]
  exact ⟨h.1.withFeed quiet_nil, h.2⟩

end Allowlist

namespace Relay

variable {σ α : Type} {P : Relay → σ → Prop} {Q : α → Relay → σ → Prop} {stopped : σ → Prop}

theorem ensures_onFeed {run : Program Feed σ α}
    (h : ∀ relay, Process.Ensures (P relay) (run relay.feed) (fun r => Q r.1 { relay with feed := r.2 }) stopped) :
    Program.Ensures P (onFeed run) Q stopped :=
  fun relay => (h relay).bind fun _ => Process.ensures_pure fun _ hw => hw

/-- The rule for an operation on the records of a relay. -/
theorem ensures_onRecords {run : StateT (List Diagnostic) (Program (List Diagnostic) σ) α}
    (h : ∀ feed held, Program.Ensures (fun failed => P ⟨feed, held, failed⟩) (run held)
      (fun r failed => Q r.1 ⟨feed, r.2, failed⟩) stopped) :
    Program.Ensures P (onRecords run) Q stopped :=
  fun relay => (h relay.feed relay.heldBack relay.failedLookups).bind fun _ => Process.ensures_pure fun _ hw => hw

end Relay

namespace Echo

/-- A reply is a message that can be sent, and it names the message that it answers. -/
theorem reply_eq_ok (inbound : Inbound) (session : String) (note : Option String) :
    ∃ outbound, reply inbound session note = .ok outbound ∧
      outbound.request.target = (inbound.chatId, inbound.messageId) := by
  have hText : ∀ rest : String, Text.isBlank ("echo: " ++ rest) = false := by
    intro rest
    rw [Text.isBlank, String.toList_append, List.all_append]
    rfl
  have hMake : ∀ rest : String, ∃ outbound, Outbound.make inbound.chatId ("echo: " ++ rest) = .ok outbound ∧
      outbound.chatId = inbound.chatId := by
    intro rest
    rw [Outbound.make, required_eq_ok inbound.chatId_nonBlank, required_eq_ok (hText rest)]
    exact ⟨_, rfl, rfl⟩
  cases note with
  | none =>
      obtain ⟨outbound, hOk, hChat⟩ := hMake inbound.text
      simp only [reply]
      rw [hOk]
      exact ⟨_, rfl, congrArg (·, inbound.messageId) hChat⟩
  | some note =>
      obtain ⟨outbound, hOk, hChat⟩ := hMake (inbound.text ++ ("\n\nmemory: " ++ note))
      simp only [reply, String.append_assoc]
      rw [hOk]
      exact ⟨_, rfl, congrArg (·, inbound.messageId) hChat⟩

variable {σ : Type} {lookup : Option (Lookup (Process σ))} {R : List Diagnostic → σ → Prop} {stopped : σ → Prop}

/-- The echo answers every message with a reply to its own chat, whether or not its look-up fails. -/
theorem ensures_handle {inbound : Inbound}
    (hLookup : ∀ find ∈ lookup, ∀ failed, Process.Ensures (R failed) (find inbound.text) (fun _ => R failed) stopped)
    (hFailed : ∀ failed e w, R failed w → R (failed ++ [lookupNote inbound e]) w) (session : String) :
    Program.Ensures R ((handler lookup).handle inbound session)
      (fun answer failed w => R failed w ∧
        ∃ outbound, answer = .ok (some outbound) ∧ outbound.request.target = (inbound.chatId, inbound.messageId))
      stopped := by
  have hReply : ∀ note, ∃ outbound, (reply inbound session note).map some = .ok (some outbound) ∧
      outbound.request.target = (inbound.chatId, inbound.messageId) := by
    intro note
    obtain ⟨outbound, hOk, hTarget⟩ := reply_eq_ok inbound session note
    exact ⟨outbound, by rw [hOk]; rfl, hTarget⟩
  intro failed
  cases hFind : lookup with
  | none => exact Process.ensures_pure fun _ h => ⟨h, hReply none⟩
  | some find =>
      apply (hLookup find hFind failed).bind
      intro found
      cases found with
      | ok found => exact Process.ensures_pure fun _ h => ⟨by simpa [memory] using h, hReply _⟩
      | error e => exact Process.ensures_pure fun w h => ⟨hFailed failed e w h, hReply none⟩

end Echo

namespace Parties

open Allowlist (Idle Listed Quiet Screened answers drops dropsIn ofEntries reported)
open Traffic (Shows ensures_within)

variable {σ : Type} (parties : Parties (StateM σ)) {entries : List String} {earlier : List Diagnostic}
  {inbound : Inbound} {rest : List Inbound}

theorem code_storeNote (e : StoreError) : (storeNote e).code ≠ .allowlistDrop := by
  rw [storeNote]
  split <;> exact nofun

/-- A save leaves no record of a message. -/
theorem ensures_persist_quiet {feed : Feed} (hQuiet : Quiet feed.notes)
    (X : List Inbound → List SendMessage → Prop) :
    Process.Ensures (Shows X) (feed.persist parties.observed.store)
      (fun r t => Shows X t ∧ Quiet r.2.notes) fun _ => False := by
  refine Feed.ensures_persist (Q := fun _ after t => Shows X t ∧ Quiet after.notes)
    (fun _ _ h => ⟨h, hQuiet⟩) fun floor s hStore hUnsaved => ?_
  obtain ⟨store, _, rfl⟩ := Option.map_eq_some_iff.mp hStore
  refine (ensures_within (store.save floor) X).imp (fun _ h => h) (fun r t h => ⟨h, ?_⟩) fun _ h => h
  cases r with
  | ok done => exact hQuiet
  | error e =>
      exact Allowlist.quiet_append.mpr ⟨hQuiet, Allowlist.quiet_singleton (code_storeNote e)⟩

/-- Step of a cycle: the fetch. -/
theorem ensures_fetch_screened :
    Program.Ensures (fun relay => Shows (Screened entries earlier [] relay)) parties.channel.fetch
      (fun answer relay => Shows (Screened entries earlier (Cycle.messagesOf answer) relay)) fun _ => False := by
  have hInner : Program.Ensures (fun relay => Shows (Screened entries earlier [] relay))
      (Relay.channel parties.observed.api parties.observed.store).fetch
      (fun answer relay t => Shows (Screened entries earlier [] relay) t ∧
        ∀ m ∈ Cycle.messagesOf answer, Text.Trimmed m.chatId) fun _ => False := by
    refine Relay.ensures_onFeed fun relay => ?_
    refine Feed.ensures_fetch (Q := fun answer feed t =>
      Shows (Screened entries earlier [] { relay with feed := feed }) t ∧
        ∀ m ∈ Cycle.messagesOf answer, Text.Trimmed m.chatId)
      (ensures_within _ (Screened entries earlier [] relay)) (fun e t h => ⟨h, fun m hm => absurd hm List.not_mem_nil⟩)
      fun batch => ?_
    intro t h
    have hQuiet : Quiet (relay.feed.taking batch).settled.notes := by
      refine Allowlist.quiet_append.mpr ⟨h.quiet_feed, fun d hd => ?_⟩
      rw [Cursor.code_of_takeBatch _ _ d hd]
      exact nofun
    refine ((parties.ensures_persist_quiet hQuiet (Screened entries earlier [] relay)).imp (fun _ h => h)
      (fun r t hEnd => ⟨hEnd.1.withFeed hEnd.2, fun m hm => ?_⟩) fun _ h => h) t h
    -- a fetch that fails in its save gives no message, whatever the batch held
    have hMem : m ∈ (relay.feed.intake batch).messages := by
      cases hSaved : r.1 with
      | ok done => simpa [hSaved, Except.map, Cycle.messagesOf] using hm
      | error e => simp [hSaved, Except.map, Cycle.messagesOf] at hm
    obtain ⟨id, hIn, _⟩ := relay.feed.cursor.sourced_takeBatch (batch.map Update.ofJson) m hMem
    obtain ⟨raw, _, hRaw⟩ := List.mem_map.mp hIn
    exact Update.trimmed_chatId hRaw
  apply hInner.bind
  intro answer
  have hEmit : Program.Ensures (fun relay t => Shows (Screened entries earlier [] relay) t ∧
      ∀ m ∈ Cycle.messagesOf answer, Text.Trimmed m.chatId)
      (Program.outside (Traffic.emit (Cycle.messagesOf answer)))
      (fun _ relay => Shows (σ := σ) (Screened entries earlier (Cycle.messagesOf answer) relay)) fun _ => False :=
    Program.ensures_outside fun _ _ h => h.1.emit h.2
  exact hEmit.bind fun _ => Program.ensures_pure fun _ _ h => h

/-- Step of a cycle: an acknowledgement. -/
theorem ensures_acknowledge_screened (id : String) :
    Program.Ensures (fun relay => Shows (Screened entries earlier rest relay)) (parties.channel.acknowledge id)
      (fun _ relay => Shows (Screened entries earlier rest relay)) fun _ => False := by
  refine Relay.ensures_onFeed fun relay => ?_
  refine Feed.ensures_acknowledge (Q := fun _ feed => Shows (Screened entries earlier rest { relay with feed := feed }))
    (fun _ _ h => h) fun id _ t h => ?_
  have hQuiet : Quiet (relay.feed.acknowledging id).settled.notes := h.quiet_feed
  exact ((parties.ensures_persist_quiet hQuiet (Screened entries earlier rest relay)).imp (fun _ h => h)
    (fun r t hEnd => hEnd.1.withFeed hEnd.2) fun _ h => h) t h

/-- What the handler made of a message: a reply that is still to be sent, or a record. -/
def Decided (entries : List String) (earlier : List Diagnostic) (inbound : Inbound) (rest : List Inbound) :
    Except Error (Option Outbound) → Relay → Traffic σ → Prop
  | .error _, _, _ => False
  | .ok none, relay, t => Shows (Screened entries earlier rest relay) t
  | .ok (some outbound), relay, t => Shows (Screened entries earlier (inbound :: rest) relay) t ∧
      Listed entries inbound.chatId ∧ outbound.request.target = (inbound.chatId, inbound.messageId)

/-- Step of a cycle: the gate decides on a message, and the echo answers what is let through. -/
theorem ensures_handle_screened (hSome : entries ≠ []) (hEntries : ∀ entry ∈ entries, Text.Trimmed entry)
    (session : String) :
    Program.Ensures (fun relay => Shows (Screened entries earlier (inbound :: rest) relay))
      ((Relay.handler (ofEntries entries) parties.observed.lookup).handle inbound session)
      (Decided entries earlier inbound rest) fun _ => False := by
  apply Program.Ensures.of_fact fun _ _ h => h.trimmed inbound List.mem_cons_self
  intro hChat
  -- the gate compares normal forms, which agree with the wire forms on trimmed ids
  have hAllows := Allowlist.allows_iff hSome hEntries hChat
  refine Relay.ensures_onRecords fun feed held => ?_
  by_cases hListed : Listed entries inbound.chatId
  · simp only [Allowlist.gate, hAllows.mpr hListed, if_true]
    refine Program.Ensures.bind (Echo.ensures_handle
      (R := fun failed => Shows (Screened entries earlier (inbound :: rest) ⟨feed, held, failed⟩)) ?_ ?_ session)
      fun answer => Program.ensures_pure fun failed t h => ?_
    · intro find hFind failed
      obtain ⟨inner, _, rfl⟩ := Option.map_eq_some_iff.mp hFind
      exact ensures_within _ _
    · intro failed e t h
      have hNote : Quiet [Echo.lookupNote inbound e] := Allowlist.quiet_singleton nofun
      exact h.withLookups (Allowlist.quiet_append.mpr ⟨(Allowlist.quiet_append.mp h.quiet).2, hNote⟩)
    · obtain ⟨hScreened, outbound, rfl, hTarget⟩ := h
      exact ⟨hScreened, hListed, hTarget⟩
  · simp only [Allowlist.gate, mt hAllows.mp hListed, Bool.false_eq_true, if_false]
    exact Program.ensures_pure fun failed t h => h.holdBack hListed

/-- Step of a cycle: sending the reply, which counts as a request even if it fails. -/
theorem ensures_send_screened (outbound : Outbound) :
    Program.Ensures (Decided entries earlier inbound rest (.ok (some outbound))) (parties.channel.send outbound)
      (fun _ relay => Shows (Screened entries earlier rest relay)) fun _ => False := by
  refine Relay.ensures_onFeed fun relay => ?_
  have hAsk : Process.Ensures (Decided (σ := σ) entries earlier inbound rest (.ok (some outbound)) relay)
      (Traffic.ask outbound.request) (fun _ => Shows (Screened entries earlier rest relay)) fun _ => False :=
    fun _ h => h.1.answer h.2.1 h.2.2
  exact Feed.ensures_send (Q := fun _ feed => Shows (Screened entries earlier rest { relay with feed := feed }))
    (hAsk.bind fun _ => ensures_within _ _) (fun _ _ h => h) fun _ _ h => h

variable {policy : AckPolicy}

/-- Step of a cycle: one message, from the gate to the acknowledgement. No later message is touched. -/
theorem ensures_item_screened (hSome : entries ≠ []) (hEntries : ∀ entry ∈ entries, Text.Trimmed entry)
    (inbound : Inbound) (rest : List Inbound) (r : CycleResult) :
    Program.Ensures (fun relay => Shows (Screened entries earlier (inbound :: rest) relay))
      (Cycle.runItem parties.channel (Relay.handler (ofEntries entries) parties.observed.lookup) (.standard policy) r
        inbound) (fun _ relay => Shows (Screened entries earlier rest relay)) fun _ => False := by
  have hProcess : Program.Ensures (fun relay => Shows (Screened entries earlier (inbound :: rest) relay))
      (Cycle.process parties.channel (Relay.handler (ofEntries entries) parties.observed.lookup) (.standard policy)
        inbound) (fun _ relay => Shows (Screened entries earlier rest relay)) fun _ => False :=
    Cycle.ensures_process_standard (D := fun _ relay => Shows (Screened entries earlier rest relay))
      (parties.ensures_handle_screened hSome hEntries) (fun _ _ _ h => h.elim) (fun _ _ h => h)
      parties.ensures_send_screened
  exact Cycle.ensures_runItem hProcess (fun _ _ _ _ h => h) (fun _ => parties.ensures_acknowledge_screened _) r

/-- Neither the clock nor the notifier gives messages or asks for replies. -/
theorem aside (X : Relay → List Inbound → List SendMessage → Prop) :
    Cycle.Aside parties.notifierAside (Program.outside parties.observed.clock) (fun relay => Shows (X relay))
      fun _ => False where
  clock := Program.ensures_outside fun _ => ensures_within _ _
  notify := by
    intro told hTold text context
    obtain ⟨observed, hObserved, rfl⟩ := Option.map_eq_some_iff.mp hTold
    obtain ⟨notifier, _, rfl⟩ := Option.map_eq_some_iff.mp hObserved
    exact Program.ensures_outside fun _ => ensures_within _ _

/-- Step of a report: the handler gives up its drops. -/
theorem ensures_drain_screened :
    Program.Ensures (fun relay => Shows (Screened entries earlier [] relay))
      (Relay.handler (ofEntries entries) parties.observed.lookup).drain
      (fun notes relay => Shows (Idle entries (earlier ++ dropsIn notes) relay)) fun _ => False :=
  fun _ _ h => ⟨h.drained, rfl⟩

/-- Step of a report: the channel adds no drops of the gate. -/
theorem ensures_drain_idle (notes : List Diagnostic) :
    Program.Ensures (fun relay => Shows (Idle entries (earlier ++ dropsIn notes) relay)) parties.channel.drain
      (fun more relay => Shows (Idle entries (earlier ++ dropsIn (notes ++ more)) relay)) fun _ => False :=
  fun _ _ h => h.drained

/-- A cycle with its report: what was screened is answered or reported when it ends. -/
theorem ensures_report_idle (hSome : entries ≠ []) (hEntries : ∀ entry ∈ entries, Text.Trimmed entry)
    (policy : AckPolicy) (done : List CycleReport) :
    Program.Ensures (fun relay => Shows (Idle entries (reported done) relay))
      (Cycle.report parties.channel (Relay.handler (ofEntries entries) parties.observed.lookup) policy
        parties.notifierAside (Program.outside parties.observed.clock))
      (fun report relay => Shows (Idle entries (reported (done ++ [report])) relay)) fun _ => False := by
  have hRun : Program.Ensures (fun relay => Shows (Idle entries (reported done) relay))
      (Cycle.run parties.channel (Relay.handler (ofEntries entries) parties.observed.lookup) (.standard policy))
      (fun _ relay => Shows (Screened entries (reported done) [] relay)) fun _ => False :=
    Cycle.ensures_run (I := fun rest relay => Shows (Screened entries (reported done) rest relay))
      (parties.ensures_fetch_screened.imp (fun _ _ h => h.1) (fun _ _ _ h => h) fun _ h => h)
      (parties.ensures_item_screened hSome hEntries)
  refine (Cycle.ensures_report (parties.aside _) (parties.aside _)
    (fun notes => parties.aside (Idle entries (reported done ++ dropsIn notes))) hRun
    parties.ensures_drain_screened parties.ensures_drain_idle).imp (fun _ _ h => h) (fun report relay t h => ?_)
    fun _ h => h
  obtain ⟨notes, hDropped, hIdle⟩ := h
  have hReported : reported (done ++ [report]) = reported done ++ dropsIn notes := by
    simp [reported, hDropped, Allowlist.dropsIn_filter_isDrop]
  rw [hReported]
  exact hIdle

/-- What was asked so far, and what is reported in the end, by what was given. -/
def Accounted (entries : List String) (answer : Except Error (List CycleReport)) (emitted : List Inbound)
    (requests : List SendMessage) : Prop :=
  requests.map SendMessage.target = answers entries emitted ∧
    ∀ reports, answer = .ok reports → reported reports = drops entries emitted

/-- Between two cycles the account of the whole life is settled. -/
theorem Accounted.of_idle {relay : Relay} {emitted : List Inbound} {requests : List SendMessage}
    {reports : List CycleReport} (h : Idle entries (reported reports) relay emitted requests) :
    Accounted entries (.ok reports) emitted requests := by
  obtain ⟨hScreened, hNone⟩ := h
  refine ⟨by simpa [answers] using hScreened.answered, ?_⟩
  rintro _ ⟨⟩
  simpa [hNone, drops] using hScreened.recorded

/-- Nothing was given, and nothing was asked. -/
def Silent (emitted : List Inbound) (requests : List SendMessage) : Prop := emitted = [] ∧ requests = []

theorem idle_opened (config : FeedConfig) (r : Except StoreError (Option Int)) {emitted : List Inbound}
    {requests : List SendMessage} (h : Silent emitted requests) :
    Idle entries [] ⟨Feed.opened config r, [], []⟩ emitted requests := by
  obtain ⟨rfl, rfl⟩ := h
  refine ⟨⟨rfl, rfl, ?_, fun m hm => absurd hm List.not_mem_nil⟩, rfl⟩
  cases r with
  | ok floor => exact Allowlist.quiet_nil
  | error e => exact Allowlist.quiet_singleton (code_storeNote e)

variable (entries) in
/-- Starting the feed asks for nothing and drops nothing. -/
theorem ensures_start_idle (config : FeedConfig) :
    Process.Ensures (Shows Silent) (Feed.start parties.observed.store config)
      (Feed.Started (fun feed => Shows (Idle entries [] ⟨feed, [], []⟩)) (Shows Silent)) fun _ => False := by
  refine Feed.ensures_start (fun _ h => h) (fun _ _ h => idle_opened config _ h) fun s hStore => ?_
  obtain ⟨store, _, rfl⟩ := Option.map_eq_some_iff.mp hStore
  exact (ensures_within store.load Silent).imp (fun _ h => h) (fun r _ h => ⟨idle_opened config r h, h⟩) fun _ h => h

/-- A whole life: by induction over its cycles, the account is settled at its end. -/
theorem ensures_life_accounted (hSome : entries ≠ []) (hEntries : ∀ entry ∈ entries, Text.Trimmed entry)
    (config : FeedConfig) (policies : List AckPolicy) :
    Process.Ensures (Shows Silent) (parties.life config entries policies)
      (fun answer => Shows (Accounted entries answer)) fun _ => False := by
  apply (parties.ensures_start_idle entries config).bind
  intro opened
  cases opened with
  | error e => exact Process.ensures_pure fun t h => ⟨by rw [h.1, h.2]; rfl, fun _ hOk => by cases hOk⟩
  | ok feed =>
      have hCycles := Cycle.ensures_reportAll (I := fun done relay => Shows (Idle entries (reported done) relay))
        (parties.ensures_report_idle hSome hEntries) policies [] ⟨feed, [], []⟩
      exact hCycles.bind fun ended => Process.ensures_pure fun t h => .of_idle h

end Parties

open Allowlist (Listed answers drops reported)

/-- **The list of allowed chats decides who gets a reply.** Take any variables that the relay accepts, with a chat in
their list, as there is in live mode. However often the relay runs its cycle, and whatever the provider, the store, the
look-up, the notifier and the clock answer, every request to send goes to a chat in the list, told by the wire forms of
the ids. There is one such request for each message from a chat in the list, and it replies to that message in that
chat. There is none for any other message, but one record of it in the reports. -/
theorem allowlist_enforced {vars : Variables} {settings : Settings} (hVars : Settings.ofVariables vars = .ok settings)
    (hListed : settings.allowedChatIds ≠ [] ∨ settings.liveMode = true) {σ : Type} (parties : Parties (StateM σ))
    (config : FeedConfig) (policies : List AckPolicy) (w : σ) :
    ∃ answer t, parties.life config settings.allowedChatIds policies ⟨w, [], []⟩ = (some answer, t) ∧
      (∀ request ∈ t.requests, ∃ entry ∈ settings.allowedChatIds,
        request.toJson.field? "chat_id" = some (wireId entry)) ∧
      t.requests.map SendMessage.target = answers settings.allowedChatIds t.emitted ∧
      ∀ reports, answer = .ok reports → reported reports = drops settings.allowedChatIds t.emitted := by
  obtain ⟨hChats, hLive⟩ := Settings.allowedChats_of_ofVariables hVars
  have hSome : settings.allowedChatIds ≠ [] := hListed.elim id hLive
  have hEnd := parties.ensures_life_accounted hSome (Settings.trimmed_of_allowedChats hChats) config policies
    ⟨w, [], []⟩ ⟨rfl, rfl⟩
  match hLife : parties.life config settings.allowedChatIds policies ⟨w, [], []⟩ with
  | (none, t) =>
      rw [hLife] at hEnd
      exact hEnd.elim
  | (some answer, t) =>
      rw [hLife] at hEnd
      refine ⟨answer, t, rfl, fun request hRequest => ?_, hEnd.1, hEnd.2⟩
      have hTarget : request.target ∈ answers settings.allowedChatIds t.emitted := by
        rw [← hEnd.1]
        exact List.mem_map_of_mem hRequest
      obtain ⟨m, hm, hEq⟩ := List.mem_map.mp hTarget
      obtain ⟨entry, hEntry, hWire⟩ := of_decide_eq_true (List.mem_filter.mp hm).2
      have hChat : m.chatId = request.chatId := congrArg Prod.fst hEq
      refine ⟨entry, hEntry, ?_⟩
      rw [← hWire, hChat]
      rfl

/-- Settings in live mode, with a number and a name as the allowed chats. -/
def liveVariables : Variables :=
  [ ("CHANNEL_TOKEN", "secret"),
    ("CHANNEL_LIVE_MODE", "yes"),
    ("CHANNEL_ALLOWED_CHAT_IDS", " +7 , friends") ]

/-- An update with a message from a chat. -/
def Update.inChat (id : Int) (chat : Json.Value) : Json.Fields :=
  [ ("update_id", .int id),
    ("message", .object [
      ("text", .string "hello"),
      ("chat", .object [("id", chat)]),
      ("from", .object [("id", .int 2)])]) ]

/-- A provider with messages from three chats, and nobody else. -/
def threeChats : Parties (StateM Unit) where
  api := BotApi.constant [Update.inChat 1 (.int 7), Update.inChat 2 (.int 8), Update.inChat 3 (.string " friends ")]
  store := none
  lookup := none
  notifier := none
  clock := pure 0

/-- Two of the three chats are allowed. Both of them get a reply, and the message from the third one is reported. -/
theorem allowlist_enforced_for_threeChats :
    ∃ settings answer t, Settings.ofVariables liveVariables = .ok settings ∧ settings.liveMode = true ∧
      threeChats.life {} settings.allowedChatIds [.always, .onSuccess] ⟨(), [], []⟩ = (some answer, t) ∧
      t.requests.map SendMessage.target = answers settings.allowedChatIds t.emitted ∧
      t.requests.map SendMessage.chatId = ["7", "friends"] ∧
      ∃ reports, answer = .ok reports ∧ reported reports = drops settings.allowedChatIds t.emitted ∧
        (reported reports).map Diagnostic.updateId = [some "2"] := by
  have hSettings : ((Settings.ofVariables liveVariables).toOption.map fun s => (s.allowedChatIds, s.liveMode)) =
      some (["+7", "friends"], true) := by
    decide +kernel
  obtain ⟨settings, hOk, hBoth⟩ := Option.map_eq_some_iff.mp hSettings
  obtain ⟨hChats, hLive⟩ := Prod.mk.inj hBoth
  obtain ⟨answer, t, hLife, -, hAnswers, hReports⟩ :=
    allowlist_enforced (eq_ok_of_toOption hOk) (.inr hLive) threeChats {} [.always, .onSuccess] ()
  have hEval : (threeChats.life {} ["+7", "friends"] [.always, .onSuccess] ⟨(), [], []⟩).2.requests.map
      SendMessage.chatId = ["7", "friends"] ∧
      ((threeChats.life {} ["+7", "friends"] [.always, .onSuccess] ⟨(), [], []⟩).1.bind fun answer =>
        answer.toOption.map fun reports => (reported reports).map Diagnostic.updateId) = some [some "2"] := by
    decide +kernel
  rw [← hChats, hLife] at hEval
  obtain ⟨reports, hOk', hNoted⟩ := Option.map_eq_some_iff.mp hEval.2
  have hAnswer := eq_ok_of_toOption hOk'
  exact ⟨settings, answer, t, eq_ok_of_toOption hOk, hLive, hLife, hAnswers, hEval.1, reports, hAnswer,
    hReports reports hAnswer, hNoted⟩

end ChatRelay
