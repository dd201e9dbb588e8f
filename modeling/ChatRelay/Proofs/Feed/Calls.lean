import ChatRelay.Proofs.Process
import ChatRelay.Proofs.UpdateId

/-!
The calls of a feed as programs over any world. Each call is a pure change of the feed, followed by at most
one save, so that one rule for a save carries over to every call. Nothing is assumed of the provider and of
the store: they may fail, and what they answer may depend on all that happened before.
-/

namespace ChatRelay

namespace Channel

/-- The calls that a channel takes. -/
inductive Call where
  | fetch
  | send (outbound : Outbound)
  | acknowledge (id : String)
  | drain

/-- What comes back from a call. -/
inductive Outcome where
  | messages (answer : Except Error (List Inbound))
  | done (answer : Except Error Unit)
  | notes (drained : List Diagnostic)

/-- The messages that a call hands out, if it is a fetch that succeeds. -/
def Outcome.messages? : Outcome → Option (List Inbound)
  | .messages (.ok handedOut) => some handedOut
  | _ => none

def Call.perform {m : Type → Type} [Monad m] (channel : Channel m) : Call → m Outcome
  | .fetch => return .messages (← channel.fetch)
  | .send outbound => return .done (← channel.send outbound)
  | .acknowledge id => return .done (← channel.acknowledge id)
  | .drain => return .notes (← channel.drain)

/-- Perform calls one after the other, whatever comes back from them. -/
def performAll {m : Type → Type} [Monad m] (channel : Channel m) : List Call → m (List Outcome)
  | [] => return []
  | call :: rest => do
      let outcome ← call.perform channel
      return outcome :: (← performAll channel rest)

/-- The first call of several and the others. -/
theorem performAll_cons {S σ : Type} {channel : Channel (StateT S (StateM σ))} {call : Call} {rest : List Call}
    {s s' : S} {w w' : σ} {outcome : Outcome} (h : call.perform channel s w = ((outcome, s'), w')) :
    performAll channel (call :: rest) s w =
      (let r := performAll channel rest s' w'
      ((outcome :: r.1.1, r.1.2), r.2)) := by
  have hBind : performAll channel (call :: rest) s w =
      (call.perform channel s >>= fun r => (return r.1 :: (← performAll channel rest)) r.2) w := rfl
  rw [hBind, bind_of_run _ h]
  rfl

/-- What every call keeps is kept by all of them together, and what holds of the outcome of each holds of all. -/
theorem ensures_performAll {S σ : Type} {channel : Channel (Program S σ)} {I : S → σ → Prop} {N : Outcome → Prop}
    {stopped : σ → Prop} {calls : List Call}
    (h : ∀ call ∈ calls, Program.Ensures I (call.perform channel) (fun r s w => N r ∧ I s w) stopped) :
    Program.Ensures I (performAll channel calls) (fun rs s w => (∀ r ∈ rs, N r) ∧ I s w) stopped := by
  induction calls with
  | nil => exact Program.ensures_pure fun _ _ hw => ⟨fun r hr => absurd hr List.not_mem_nil, hw⟩
  | cons call rest ih =>
      apply (h call List.mem_cons_self).bind
      intro outcome
      have hRest := ih fun other hMem => h other (List.mem_cons_of_mem call hMem)
      apply Program.Ensures.of_fact (F := N outcome) fun _ _ hw => hw.1
      intro hOutcome
      refine (hRest.imp (fun _ _ hw => hw.2) (fun _ _ _ hw => hw) fun _ hw => hw).bind fun outcomes => ?_
      exact Program.ensures_pure fun _ _ hw => ⟨List.forall_mem_cons.mpr ⟨hOutcome, hw.1⟩, hw.2⟩

end Channel

namespace Feed

/-- The feed after a try to save its floor, and what that means for the call. -/
def afterSave (feed : Feed) (floor : Int) : Except StoreError Unit → Except Error Unit × Feed
  | .ok () => (.ok (), { feed with cursor := { feed.cursor with persisted := some floor } })
  | .error e => (storeOutcome feed.config e, { feed with notes := feed.notes ++ [storeNote e] })

/-- The feed that a load of the floor leads to, unless it is refused. -/
def opened (config : FeedConfig) : Except StoreError (Option Int) → Feed
  | .ok floor => ⟨config, Cursor.start floor, []⟩
  | .error e => ⟨config, Cursor.start none, [storeNote e]⟩

/-- Start a feed and perform calls on it. -/
def life {m : Type → Type} [Monad m] (api : BotApi m) (store : Option (CursorStore m)) (config : FeedConfig)
    (calls : List Channel.Call) : m (Except Error (List Channel.Outcome × Feed)) := do
  match ← start store config with
  | .error e => return .error e
  | .ok feed => return .ok (← Channel.performAll (channel api store) calls feed)

/-- `I` of the feed that was started, and `R` when the start was refused. -/
def Started {σ : Type} (I : Feed → σ → Prop) (R : σ → Prop) : Except Error Feed → σ → Prop
  | .ok feed => I feed
  | .error _ => R

/-- The feed with its floor where the ids ask for it. -/
def settled (feed : Feed) : Feed := { feed with cursor := feed.cursor.settle }

/-- What a batch makes of the cursor, and the messages and notes that come out of it. -/
def intake (feed : Feed) (batch : List Json.Fields) : Intake := feed.cursor.takeBatch (batch.map Update.ofJson)

/-- The feed that has taken a batch, before its floor is settled. -/
def taking (feed : Feed) (batch : List Json.Fields) : Feed :=
  { feed with
    cursor := (feed.intake batch).cursor
    notes := feed.notes ++ (feed.intake batch).notes }

/-- The feed that has taken an acknowledgement, before its floor is settled. -/
def acknowledging (feed : Feed) (id : Int) : Feed := { feed with cursor := feed.cursor.acknowledge id }

section Programs

variable {m : Type → Type} [Monad m] {σ : Type}

/-- A floor that is ahead of the store is saved, and the answer decides on the feed. -/
theorem persist_of_unsaved {feed : Feed} {floor : Int} (h : feed.cursor.unsaved? = some floor)
    (store : CursorStore m) : feed.persist (some store) = do
      match ← store.save floor with
      | .ok () => return feed.afterSave floor (.ok ())
      | .error e => return feed.afterSave floor (.error e) := by
  simp only [persist]
  rw [h]
  rfl

/-- Otherwise nothing is done. -/
theorem persist_of_saved {feed : Feed} (h : feed.cursor.unsaved? = none) (store : Option (CursorStore m)) :
    feed.persist store = pure (.ok (), feed) := by
  simp only [persist]
  rw [h]

theorem persist_none (feed : Feed) :
    feed.persist (none : Option (CursorStore m)) = pure (.ok (), feed) := by
  simp only [persist]
  cases feed.cursor.unsaved? <;> rfl

theorem acknowledge_of_unusable {text : String} (h : ackId? text = none) (api : BotApi m)
    (store : Option (CursorStore m)) (feed : Feed) :
    (channel api store).acknowledge text feed = pure (.error (.contract (.unusableAck text)), feed) := by
  simp only [channel, acknowledge, h]

/-- An acknowledgement with a usable id is a change of the feed and a save. -/
theorem acknowledge_of_id {text : String} {id : Int} (h : ackId? text = some id) (api : BotApi m)
    (store : Option (CursorStore m)) (feed : Feed) :
    (channel api store).acknowledge text feed = (feed.acknowledging id).settled.persist store := by
  simp only [channel, acknowledge, h]
  rfl

variable {feed : Feed} {P : σ → Prop} {stopped : σ → Prop} {api : BotApi (Process σ)}
  {store : Option (CursorStore (Process σ))}

/-- What holds after a save follows from what the store does, and from the feed as it is when there is
nothing to save. -/
theorem ensures_persist {Q : Except Error Unit → Feed → σ → Prop}
    (hIdle : feed.cursor.unsaved? = none ∨ store = none → ∀ w, P w → Q (.ok ()) feed w)
    (hSave : ∀ floor s, store = some s → feed.cursor.unsaved? = some floor →
      Process.Ensures P (s.save floor)
        (fun r w => Q (feed.afterSave floor r).1 (feed.afterSave floor r).2 w) stopped) :
    Process.Ensures P (feed.persist store) (fun r w => Q r.1 r.2 w) stopped := by
  cases hUnsaved : feed.cursor.unsaved? with
  | none =>
      rw [persist_of_saved hUnsaved]
      exact Process.ensures_pure (hIdle (Or.inl hUnsaved))
  | some floor =>
      cases hStore : store with
      | none =>
          rw [persist_none]
          exact Process.ensures_pure (hIdle (Or.inr hStore))
      | some s =>
          rw [persist_of_unsaved hUnsaved]
          apply (hSave floor s hStore hUnsaved).bind
          intro r
          cases r with
          | ok done => exact Process.ensures_pure fun _ hw => hw
          | error e => exact Process.ensures_pure fun _ hw => hw

/-- Rule for the start of a feed: it is refused, or it is made from what the store gave. -/
theorem ensures_start {config : FeedConfig} {I : Feed → σ → Prop} {R : σ → Prop}
    (hRefused : ∀ w, P w → R w) (hFresh : store = none → ∀ w, P w → I (opened config (.ok none)) w)
    (hLoad : ∀ s, store = some s →
      Process.Ensures P s.load (fun r w => I (opened config r) w ∧ R w) stopped) :
    Process.Ensures P (start store config) (Started I R) stopped := by
  simp only [start]
  split
  · exact Process.ensures_pure hRefused
  · cases hStore : store with
    | none => exact Process.ensures_pure (hFresh hStore)
    | some s =>
        apply (hLoad s hStore).bind
        intro r
        cases r with
        | ok floor => exact Process.ensures_pure fun _ hw => hw.1
        | error e =>
            cases hOutcome : storeOutcome config e with
            | error err => simpa [hOutcome] using Process.ensures_pure fun _ hw => hw.2
            | ok done => simpa [hOutcome] using Process.ensures_pure fun _ hw => hw.1

/-- Rule for an acknowledgement: it is refused, or the floor is settled and saved. -/
theorem ensures_acknowledge {text : String} {Q : Except Error Unit → Feed → σ → Prop}
    (hUnusable : ackId? text = none → ∀ w, P w → Q (.error (.contract (.unusableAck text))) feed w)
    (hTaken : ∀ id, ackId? text = some id →
      Process.Ensures P ((feed.acknowledging id).settled.persist store) (fun r w => Q r.1 r.2 w) stopped) :
    Process.Ensures P ((channel api store).acknowledge text feed) (fun r w => Q r.1 r.2 w) stopped := by
  cases hId : ackId? text with
  | none =>
      rw [acknowledge_of_unusable hId]
      exact Process.ensures_pure (hUnusable hId)
  | some id =>
      rw [acknowledge_of_id hId]
      exact hTaken id hId

/-- Rule for a fetch: the provider refuses, or the batch is taken and the floor saved. -/
theorem ensures_fetch {A : Except ApiError (List Json.Fields) → σ → Prop}
    {Q : Except Error (List Inbound) → Feed → σ → Prop}
    (hAsk : Process.Ensures P (api.getUpdates feed.request) A stopped)
    (hRefused : ∀ e w, A (.error e) w → Q (.error e.toError) feed w)
    (hTaken : ∀ batch, Process.Ensures (A (.ok batch)) ((feed.taking batch).settled.persist store)
      (fun r w => Q (r.1.map fun _ => (feed.intake batch).messages) r.2 w) stopped) :
    Process.Ensures P ((channel api store).fetch feed) (fun r w => Q r.1 r.2 w) stopped := by
  apply hAsk.bind
  intro answer
  cases answer with
  | error e => exact Process.ensures_pure (hRefused e)
  | ok batch => exact (hTaken batch).bind fun r => Process.ensures_pure fun _ hw => hw

/-- Rule for a reply, which leaves the feed alone. -/
theorem ensures_send {outbound : Outbound} {A : Except ApiError Json.Fields → σ → Prop}
    {Q : Except Error Unit → Feed → σ → Prop}
    (hSend : Process.Ensures P (api.sendMessage outbound.request) A stopped)
    (hOk : ∀ answer w, A (.ok answer) w → Q (.ok ()) feed w)
    (hRefused : ∀ e w, A (.error e) w → Q (.error e.toError) feed w) :
    Process.Ensures P ((channel api store).send outbound feed) (fun r w => Q r.1 r.2 w) stopped := by
  apply hSend.bind
  intro answer
  cases answer with
  | error e => exact Process.ensures_pure (hRefused e)
  | ok result => exact Process.ensures_pure (hOk result)

/-- `between` of the feed when the provider fails, and `before` of the feed that has taken its answer. -/
def Answered (between before : Feed → σ → Prop) (feed : Feed) : Except ApiError (List Json.Fields) → σ → Prop
  | .error _ => between feed
  | .ok batch => before (feed.taking batch).settled

/-- What holds between two calls, and what holds in a call before its save, as long as only `allowed` ids are
acknowledged. -/
structure Upheld (api : BotApi (Process σ)) (store : Option (CursorStore (Process σ))) (allowed : Int → Prop)
    (between before : Feed → σ → Prop) (stopped : σ → Prop) : Prop where
  asked : ∀ feed,
    Process.Ensures (between feed) (api.getUpdates feed.request) (Answered between before feed) stopped
  sent : ∀ feed request, Process.Ensures (between feed) (api.sendMessage request) (fun _ => between feed) stopped
  acknowledged : ∀ feed id w, Cursor.InRange id → allowed id → between feed w →
    before (feed.acknowledging id).settled w
  idle : ∀ feed, feed.cursor.unsaved? = none ∨ store = none → ∀ w, before feed w → between feed w
  saved : ∀ feed floor s, store = some s → feed.cursor.unsaved? = some floor →
    Process.Ensures (before feed) (s.save floor) (fun r => between (feed.afterSave floor r).2) stopped
  drained : ∀ feed w, between feed w → between feed.drain.2 w

/-- All ids that a call acknowledges are allowed. -/
def Acknowledges (allowed : Int → Prop) (call : Channel.Call) : Prop :=
  ∀ text id, call = .acknowledge text → ackId? text = some id → allowed id

variable {allowed : Int → Prop} {between before : Feed → σ → Prop}

/-- Step of a call: the save leads from what holds before it to what holds between calls. -/
theorem Upheld.persist (h : Upheld api store allowed between before stopped) (feed : Feed) :
    Process.Ensures (before feed) (feed.persist store) (fun r => between r.2) stopped :=
  ensures_persist (Q := fun _ => between) (h.idle feed) fun floor s hStore hUnsaved =>
    h.saved feed floor s hStore hUnsaved

/-- Step of a run: a fetch. -/
theorem Upheld.fetch (h : Upheld api store allowed between before stopped) :
    Program.Ensures between (channel api store).fetch (fun _ => between) stopped := fun feed =>
  ensures_fetch (Q := fun _ => between) (h.asked feed) (fun _ _ hw => hw) fun batch =>
    h.persist (feed.taking batch).settled

/-- Step of a run: an acknowledgement of an allowed id. -/
theorem Upheld.acknowledge (h : Upheld api store allowed between before stopped) {text : String}
    (hAllowed : ∀ id, ackId? text = some id → allowed id) :
    Program.Ensures between ((channel api store).acknowledge text) (fun _ => between) stopped := by
  intro feed
  refine ensures_acknowledge (Q := fun _ => between) (fun _ _ hw => hw) fun id hId => ?_
  exact (h.persist (feed.acknowledging id).settled).imp
    (fun w => h.acknowledged feed id w (inRange_of_ackId? hId) (hAllowed id hId)) (fun _ _ hw => hw) fun _ hw => hw

/-- One call upholds it. -/
theorem Upheld.perform (h : Upheld api store allowed between before stopped) {call : Channel.Call}
    (hAllowed : Acknowledges allowed call) :
    Program.Ensures between (call.perform (channel api store)) (fun _ => between) stopped := by
  have hAnswer : ∀ (outcome : Channel.Outcome),
      Program.Ensures between (pure outcome) (fun _ => between) stopped := fun _ =>
    Program.ensures_pure fun _ _ hw => hw
  cases call with
  | fetch => exact h.fetch.bind fun _ => hAnswer _
  | send outbound =>
      have hSend : Program.Ensures between ((channel api store).send outbound) (fun _ => between) stopped :=
        fun feed => ensures_send (Q := fun _ => between) (h.sent feed outbound.request) (fun _ _ hw => hw)
          fun _ _ hw => hw
      exact hSend.bind fun _ => hAnswer _
  | acknowledge text => exact (h.acknowledge fun id => hAllowed text id rfl).bind fun _ => hAnswer _
  | drain =>
      have hDrain : Program.Ensures between (channel api store).drain (fun _ => between) stopped :=
        fun feed => Process.ensures_pure (h.drained feed)
      exact hDrain.bind fun _ => hAnswer _

/-- And so does every sequence of calls. -/
theorem Upheld.performAll (h : Upheld api store allowed between before stopped) {calls : List Channel.Call}
    (hAllowed : ∀ call ∈ calls, Acknowledges allowed call) :
    Program.Ensures between (Channel.performAll (channel api store) calls) (fun _ => between) stopped :=
  (Channel.ensures_performAll (N := fun _ => True) fun call hMem =>
    (h.perform (hAllowed call hMem)).imp (fun _ _ hw => hw) (fun _ _ _ hw => ⟨trivial, hw⟩) fun _ hw => hw).imp
    (fun _ _ hw => hw) (fun _ _ _ hw => hw.2) fun _ hw => hw

/-- What a feed keeps in every call: the provider and the store keep it, and so do the changes that the feed
makes by itself. -/
structure Kept (api : BotApi (Process σ)) (store : Option (CursorStore (Process σ)))
    (I : Feed → σ → Prop) (stopped : σ → Prop) : Prop where
  asked : ∀ feed, Process.Ensures (I feed) (api.getUpdates feed.request) (fun _ => I feed) stopped
  sent : ∀ feed request, Process.Ensures (I feed) (api.sendMessage request) (fun _ => I feed) stopped
  taken : ∀ feed batch w, I feed w → I (feed.taking batch).settled w
  acknowledged : ∀ feed id w, Cursor.InRange id → I feed w → I (feed.acknowledging id).settled w
  saved : ∀ feed floor s, store = some s → feed.cursor.unsaved? = some floor →
    Process.Ensures (I feed) (s.save floor) (fun r => I (feed.afterSave floor r).2) stopped
  drained : ∀ feed w, I feed w → I feed.drain.2 w

variable {I : Feed → σ → Prop}

/-- What is kept in every call is upheld, with all ids allowed. -/
theorem Kept.upheld (h : Kept api store I stopped) : Upheld api store (fun _ => True) I I stopped where
  asked feed := by
    refine (h.asked feed).imp (fun _ hw => hw) (fun answer w hw => ?_) fun _ hw => hw
    cases answer with
    | error e => exact hw
    | ok batch => exact h.taken feed batch w hw
  sent := h.sent
  acknowledged feed id w hId _ hw := h.acknowledged feed id w hId hw
  idle _ _ _ hw := hw
  saved := h.saved
  drained := h.drained

/-- Step lemma for what is kept: any call. -/
theorem Kept.perform (h : Kept api store I stopped) (call : Channel.Call) :
    Program.Ensures I (call.perform (channel api store)) (fun _ => I) stopped :=
  h.upheld.perform fun _ _ _ _ => trivial

/-- Run lemma for what is kept: any number of calls. -/
theorem Kept.performAll (h : Kept api store I stopped) (calls : List Channel.Call) :
    Program.Ensures I (Channel.performAll (channel api store) calls) (fun _ => I) stopped :=
  h.upheld.performAll fun _ _ _ _ _ _ => trivial

/-- What holds at the start of a feed and in every sequence of calls holds in its life. -/
theorem ensures_life {config : FeedConfig} {calls : List Channel.Call} {R : σ → Prop}
    {Q : List Channel.Outcome → Feed → σ → Prop}
    (hStart : Process.Ensures P (start store config) (Started I R) stopped)
    (hCalls : Program.Ensures I (Channel.performAll (channel api store) calls) Q stopped) :
    Process.Ensures P (life api store config calls)
      (fun r w => match r with
        | .ok (outcomes, feed) => Q outcomes feed w
        | .error _ => R w) stopped := by
  apply hStart.bind
  intro r
  cases r with
  | error e => exact Process.ensures_pure fun _ hw => hw
  | ok feed => exact (hCalls feed).bind fun outcome => Process.ensures_pure fun _ hw => hw

/-- What holds at the start of a feed and is kept holds whatever calls follow. -/
theorem Kept.life (h : Kept api store I stopped) {config : FeedConfig} {R : σ → Prop}
    (hStart : Process.Ensures P (start store config) (Started I R) stopped) (calls : List Channel.Call) :
    Process.Ensures P (life api store config calls) (fun r => Started I R (r.map Prod.snd)) stopped := by
  refine (ensures_life hStart (h.performAll calls)).imp (fun _ hw => hw) (fun r w hw => ?_) fun _ hw => hw
  cases r with
  | error e => exact hw
  | ok result => exact hw

end Programs

end Feed

end ChatRelay
