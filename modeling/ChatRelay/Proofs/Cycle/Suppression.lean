import ChatRelay.Handler.Echo
import ChatRelay.Proofs.Cycle.Duplicates

/-!
Duplicate suppression in every run of cycles over one feed. The provider, the store and the handler may do
anything, and each cycle has its own policy.
-/

namespace ChatRelay

namespace Cycle

variable {σ : Type} {always : Prop} {busy done : List String} {messages : List Inbound} {inbound : Inbound}
  {feed : Feed} {events : List Event}

/-- What holds in a cycle with the given messages still to come. -/
structure Suppressed (always : Prop) (busy done : List String) (messages : List Inbound) (feed : Feed)
    (events : List Event) : Prop where
  tidy : Tidy always busy done events
  settles : feed.Settles events
  upcoming : Upcoming messages events

theorem suppressed_nil (always : Prop) (feed : Feed) : Suppressed always [] [] [] feed [] where
  tidy := tidy_nil always
  settles := fun _ _ hMem => absurd hMem List.not_mem_nil
  upcoming := ⟨List.nodup_nil, fun _ hMem => absurd hMem List.not_mem_nil⟩

/-- The same of the journal. -/
def Underway (always : Prop) (busy done : List String) (messages : List Inbound) (feed : Feed)
    (j : Journaled σ) : Prop := Suppressed always busy done messages feed j.events

/-- What is left of it when the feed is gone. -/
def Observed (always : Prop) (j : Journaled σ) : Prop :=
  Legal neverAgain j.events ∧ (always → (handlings j.events).Nodup)

/-- What holds in a cycle says what can be observed without the feed. -/
theorem Underway.observed {j : Journaled σ} (h : Underway always busy done messages feed j) : Observed always j :=
  ⟨h.tidy.legal, h.tidy.once⟩

/-- A feed with a journal, over any provider and store. -/
def journaledFeed (api : BotApi (Process σ)) (store : Option (CursorStore (Process σ))) :
    Channel (Program Feed (Journaled σ)) :=
  (Feed.channel (api.lift Journaled.lift) (store.map fun s => s.lift Journaled.lift)).watched Journaled.noteIn

/-- A handler with a journal. -/
def journaledHandler (handler : Handler (Process σ)) : Handler (Program Feed (Journaled σ)) :=
  (handler.lift fun run => Program.outside (Journaled.lift run)).watched Journaled.noteIn

/-- The session function is outside of the relay as well. -/
def journaledOptions (options : CycleOptions (Process σ)) : CycleOptions (Program Feed (Journaled σ)) :=
  options.lift fun run => Program.outside (Journaled.lift run)

/-- An operation that leaves no event changes nothing. -/
theorem ensures_lift_underway {α : Type} (run : Process σ α) :
    Process.Ensures (Underway always busy done messages feed) (Journaled.lift run)
      (fun _ => Underway always busy done messages feed) (Observed always) :=
  Process.ensures_zoom_keep run (fun _ _ h => h) fun _ h => h.observed

variable (api : BotApi (Process σ)) (store : Option (CursorStore (Process σ))) (handler : Handler (Process σ))

/-- Step of a call: saving the floor. -/
theorem ensures_persist_suppressed (feed : Feed) :
    Process.Ensures (Underway always busy done messages feed)
      (feed.persist (store.map fun s => s.lift Journaled.lift))
      (fun r => Underway always busy done messages r.2) (Observed always) := by
  refine Feed.ensures_persist (Q := fun _ => Underway always busy done messages) (fun _ _ h => h)
    fun floor s hStore _ => ?_
  obtain ⟨inner, _, rfl⟩ := Option.map_eq_some_iff.mp hStore
  exact (ensures_lift_underway (inner.save floor)).imp (fun _ h => h)
    (fun r j h => ⟨h.tidy, h.settles.afterSave floor r, h.upcoming⟩) fun _ h => h

/-- Step of a cycle: the fetch, whose messages were not acknowledged before. -/
theorem ensures_fetch_suppressed :
    Program.Ensures (Underway always [] [] []) (journaledFeed api store).fetch
      (fun answer => Underway always [] [] (messagesOf answer)) (Observed always) := by
  have hInner : Program.Ensures (Underway always [] [] [])
      (Feed.channel (api.lift Journaled.lift) (store.map fun s => s.lift Journaled.lift)).fetch
      (fun answer => Underway always [] [] (messagesOf answer)) (Observed always) := by
    intro feed
    refine Feed.ensures_fetch (Q := fun answer => Underway always [] [] (messagesOf answer))
      (ensures_lift_underway (api.getUpdates feed.request)) (fun _ _ h => h) fun batch => ?_
    refine (ensures_persist_suppressed store (feed.taking batch).settled).imp
      (fun j h => ⟨h.tidy, h.settles.taking batch, h.settles.upcoming batch⟩) (fun r j h => ?_) fun _ h => h
    refine ⟨h.tidy, h.settles, ?_⟩
    cases hAnswer : r.1 with
    | ok done => exact h.upcoming
    | error e => exact ⟨List.nodup_nil, fun _ hMem => absurd hMem List.not_mem_nil⟩
  apply hInner.bind
  intro answer
  have hNote : Program.Ensures (Underway (σ := σ) always [] [] (messagesOf answer))
      (Journaled.noteIn (.fetched answer)) (fun _ => Underway always [] [] (messagesOf answer))
      (Observed always) := fun feed j h =>
    ⟨h.tidy.fetched h.upcoming.2, h.settles.snoc (by simp), h.upcoming.snoc (by simp)⟩
  exact hNote.bind fun _ => Program.ensures_pure fun _ _ h => h

/-- A message whose handler has just given this answer. -/
def Answered (always : Prop) (inbound : Inbound) (rest : List Inbound) (answer : Except Error (Option Outbound))
    (feed : Feed) (j : Journaled σ) : Prop :=
  Underway always [inbound.updateId] (doneByAnswer inbound.updateId answer) (inbound :: rest) feed j ∧
    j.events.getLast? = some (.handled inbound answer)

/-- Step of a cycle: the handler gets a message that it may get. -/
theorem ensures_handle_suppressed (inbound : Inbound) (rest : List Inbound) (session : String) :
    Program.Ensures (Underway always [] [] (inbound :: rest)) ((journaledHandler handler).handle inbound session)
      (Answered always inbound rest) (Observed always) := by
  have hBefore : Program.Ensures (Underway (σ := σ) always [] [] (inbound :: rest))
      (Journaled.noteIn (.handling inbound))
      (fun _ => Underway always [inbound.updateId] [] (inbound :: rest)) (Observed always) := fun feed j h =>
    ⟨h.tidy.handling (h.upcoming.2 inbound List.mem_cons_self), h.settles.snoc (by simp), h.upcoming.snoc (by simp)⟩
  have hHandle : Program.Ensures (Underway always [inbound.updateId] [] (inbound :: rest))
      (Program.outside (Journaled.lift (handler.handle inbound session)))
      (fun _ => Underway always [inbound.updateId] [] (inbound :: rest)) (Observed always) :=
    Program.ensures_outside fun _ => ensures_lift_underway _
  refine hBefore.bind fun _ => hHandle.bind fun answer => ?_
  have hAfter : Program.Ensures (Underway (σ := σ) always [inbound.updateId] [] (inbound :: rest))
      (Journaled.noteIn (.handled inbound answer)) (fun _ => Answered always inbound rest answer)
      (Observed always) := fun feed j h =>
    ⟨⟨h.tidy.handled answer, h.settles.snoc (by simp), h.upcoming.snoc (by simp)⟩, by simp [Journaled.noted]⟩
  exact hAfter.bind fun _ => Program.ensures_pure fun _ _ h => h

/-- Step of a cycle: the reply is sent. -/
theorem ensures_send_suppressed (inbound : Inbound) (rest : List Inbound) (outbound : Outbound) :
    Program.Ensures (Answered always inbound rest (.ok (some outbound)))
      ((journaledFeed api store).send outbound)
      (fun r => Underway always [inbound.updateId] (doneByOutcome inbound.updateId (sentOutcome r))
        (inbound :: rest)) (Observed always) := by
  have hInner : Program.Ensures (Answered always inbound rest (.ok (some outbound)))
      ((Feed.channel (api.lift Journaled.lift) (store.map fun s => s.lift Journaled.lift)).send outbound)
      (fun _ => Answered always inbound rest (.ok (some outbound))) (Observed always) := by
    intro feed
    have hCall : Process.Ensures (Answered always inbound rest (.ok (some outbound)) feed)
        (Journaled.lift (api.sendMessage outbound.request))
        (fun _ => Answered always inbound rest (.ok (some outbound)) feed) (Observed always) :=
      Process.ensures_zoom_keep _ (fun _ _ h => h) fun _ h => h.1.observed
    exact Feed.ensures_send (Q := fun _ => Answered always inbound rest (.ok (some outbound))) hCall
      (fun _ _ h => h) fun _ _ h => h
  apply hInner.bind
  intro r
  have hNote : Program.Ensures (Answered (σ := σ) always inbound rest (.ok (some outbound)))
      (Journaled.noteIn (.sent outbound r))
      (fun _ => Underway always [inbound.updateId] (doneByOutcome inbound.updateId (sentOutcome r))
        (inbound :: rest)) (Observed always) := fun feed j h =>
    ⟨h.1.tidy.sent h.2, h.1.settles.snoc (by simp), h.1.upcoming.snoc (by simp)⟩
  exact hNote.bind fun _ => Program.ensures_pure fun _ _ h => h

/-- The call is noted, and the feed has not learned of it yet. -/
structure Acknowledging (always : Prop) (text : String) (rest : List Inbound) (feed : Feed)
    (j : Journaled σ) : Prop where
  tidy : Tidy always [] [] j.events
  upcoming : Upcoming rest j.events
  settles : ∃ before, j.events = before ++ [.acknowledged text] ∧ feed.Settles before

/-- Step of a cycle: the acknowledgement, after which nothing is owed for the message. -/
theorem ensures_acknowledge_suppressed (inbound : Inbound) (rest : List Inbound)
    (hDone : ∀ a ∈ done, a = inbound.updateId) :
    Program.Ensures (Underway always [inbound.updateId] done (inbound :: rest))
      ((journaledFeed api store).acknowledge inbound.updateId) (fun _ => Underway always [] [] rest)
      (Observed always) := by
  have hNote : Program.Ensures (Underway (σ := σ) always [inbound.updateId] done (inbound :: rest))
      (Journaled.noteIn (.acknowledged inbound.updateId)) (fun _ => Acknowledging always inbound.updateId rest)
      (Observed always) := fun _ j h =>
    ⟨h.tidy.acknowledged hDone, h.upcoming.acknowledged, j.events, rfl, h.settles⟩
  apply hNote.bind
  intro _ feed
  refine Feed.ensures_acknowledge (Q := fun _ => Underway always [] [] rest) (fun hNone j h => ?_) fun id hId => ?_
  · obtain ⟨before, hEvents, hSettles⟩ := h.settles
    refine ⟨h.tidy, ?_, h.upcoming⟩
    rw [hEvents]
    exact hSettles.unusable hNone
  · refine (ensures_persist_suppressed store (feed.acknowledging id).settled).imp (fun j h => ?_) (fun _ _ h => h)
      fun _ h => h
    obtain ⟨before, hEvents, hSettles⟩ := h.settles
    refine ⟨h.tidy, ?_, h.upcoming⟩
    rw [hEvents]
    exact hSettles.acknowledging hId

/-- Step of a cycle: one message, which leaves those after it upcoming. -/
theorem ensures_item_suppressed {options : CycleOptions (Process σ)} (hAlways : always → options.ackPolicy = .always)
    (inbound : Inbound) (rest : List Inbound) (r : CycleResult) :
    Program.Ensures (Underway always [] [] (inbound :: rest))
      (runItem (journaledFeed api store) (journaledHandler handler) (journaledOptions options) r inbound)
      (fun _ => Underway always [] [] rest) (Observed always) := by
  have hSession : Program.Ensures (Underway always [] [] (inbound :: rest))
      ((journaledOptions options).session inbound) (fun _ => Underway always [] [] (inbound :: rest))
      (Observed always) :=
    Program.ensures_outside fun _ => ensures_lift_underway _
  have hProcess : Program.Ensures (Underway always [] [] (inbound :: rest))
      (process (journaledFeed api store) (journaledHandler handler) (journaledOptions options) inbound)
      (fun outcome => Underway always [inbound.updateId] (doneByOutcome inbound.updateId outcome)
        (inbound :: rest)) (Observed always) := by
    refine ensures_process hSession (fun _ _ _ h => ?_) (ensures_handle_suppressed handler inbound rest)
      (fun _ _ _ h => h.1) (fun _ _ h => h.1) (ensures_send_suppressed api store inbound rest)
    exact ⟨h.tidy.withheld _, h.settles, h.upcoming⟩
  refine ensures_runItem hProcess (fun hPolicy _ _ _ h => ?_) (fun outcome => ?_) r
  · have hNot : ¬ always := fun hSet => by
      rw [journaledOptions, CycleOptions.lift, hAlways hSet] at hPolicy
      cases hPolicy
    exact ⟨h.tidy.skipped hNot, h.settles, h.upcoming.tail⟩
  · apply ensures_acknowledge_suppressed api store inbound rest
    intro a ha
    cases outcome with
    | ok sent => exact List.mem_singleton.mp ha
    | error e => exact absurd ha List.not_mem_nil

/-- A whole cycle, by the rule for its messages. -/
theorem ensures_run_suppressed {options : CycleOptions (Process σ)}
    (hAlways : always → options.ackPolicy = .always) :
    Program.Ensures (Underway always [] [] [])
      (run (journaledFeed api store) (journaledHandler handler) (journaledOptions options))
      (fun _ => Underway always [] [] []) (Observed always) :=
  ensures_run (I := Underway always [] []) (ensures_fetch_suppressed api store)
    (ensures_item_suppressed api store handler hAlways)

/-- Start a feed and run cycles over it, each with its own options. The journal has what the feed and the handler
were called for and what they gave. -/
def life (config : FeedConfig) (rules : List (CycleOptions (Process σ))) :
    Process (Journaled σ) (Except Error (List CycleResult × Feed)) := do
  match ← Feed.start (store.map fun s => s.lift Journaled.lift) config with
  | .error e => return .error e
  | .ok feed =>
      return .ok (← runAll (journaledFeed api store) (journaledHandler handler) (rules.map journaledOptions) feed)

/-- Run lemma: a whole life, by induction on its cycles. -/
theorem ensures_life_suppressed (config : FeedConfig) {rules : List (CycleOptions (Process σ))}
    (hAlways : always → ∀ options ∈ rules, options.ackPolicy = .always) :
    Process.Ensures (fun j => j.events = []) (life api store handler config rules) (fun _ => Observed always)
      (Observed always) := by
  have hFresh : ∀ (feed : Feed) (j : Journaled σ), j.events = [] → Underway always [] [] [] feed j := by
    intro feed j hEmpty
    rw [Underway, hEmpty]
    exact suppressed_nil always feed
  have hIdle : ∀ j : Journaled σ, j.events = [] → Observed always j := fun j hEmpty =>
    (hFresh (Feed.opened config (.ok none)) j hEmpty).observed
  have hStart : Process.Ensures (fun j => j.events = [])
      (Feed.start (store.map fun s => s.lift Journaled.lift) config)
      (Feed.Started (Underway always [] [] []) (Observed always)) (Observed (σ := σ) always) := by
    apply Feed.ensures_start hIdle (fun _ => hFresh _)
    intro s hStore
    obtain ⟨inner, _, rfl⟩ := Option.map_eq_some_iff.mp hStore
    exact (Journaled.ensures_lift (Process.ensures_trivial inner.load) fun events => events = []).imp
      (fun _ h => h) (fun r j h => ⟨hFresh _ j h.2, hIdle j h.2⟩) hIdle
  have hAll : Program.Ensures (Underway always [] [] [])
      (runAll (journaledFeed api store) (journaledHandler handler) (rules.map journaledOptions))
      (fun _ => Underway always [] [] []) (Observed always) := by
    apply ensures_runAll
    intro options hMem
    obtain ⟨inner, hInner, rfl⟩ := List.mem_map.mp hMem
    exact ensures_run_suppressed api store handler fun hSet => hAlways hSet inner hInner
  apply hStart.bind
  intro r
  cases r with
  | error e => exact Process.ensures_pure fun _ h => h
  | ok feed => exact (hAll feed).bind fun _ => Process.ensures_pure fun _ h => h.observed

/-- **No message comes again once it is acknowledged.** No later fetch gives it, even if the acknowledgement came
back with an error. So the handler never gets a message again that went well, and it gets every message at most
once when failures are acknowledged as well. -/
theorem never_again (config : FeedConfig) (rules : List (CycleOptions (Process σ))) (w : σ) :
    let events := (life api store handler config rules ⟨[], w⟩).2.events
    Legal neverAgain events ∧
      ((∀ options ∈ rules, options.ackPolicy = .always) → (handlings events).Nodup) :=
  (ensures_life_suppressed api store handler config (fun h => h)).always rfl

/-- Two cycles in which the provider gives the same message and the reply to it goes out. -/
def echoTwice : List Event :=
  (life (BotApi.constant [Update.plain 7 "hello"]) none
    ((Echo.handler (m := Id) none).lift Process.ofState) {} [.standard .always, .standard .always] ⟨[], []⟩).2.events

/-- The message is handled once. -/
theorem never_again_in_echoTwice :
    handlings echoTwice = ["7"] ∧ Legal neverAgain echoTwice ∧ (handlings echoTwice).Nodup := by
  have h := never_again (BotApi.constant [Update.plain 7 "hello"]) none
    ((Echo.handler (m := Id) none).lift Process.ofState) {} [.standard .always, .standard .always] []
  exact ⟨by decide +kernel, h.1, h.2 (by simp [CycleOptions.standard])⟩

end Cycle

end ChatRelay
