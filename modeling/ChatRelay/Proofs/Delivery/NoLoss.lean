import ChatRelay.Proofs.Delivery.World

/-!
No message is lost. Every program of a cycle keeps the invariant, whatever becomes of its requests, replies and
saves, and a cycle that is cut off leaves behind what the next start needs.
-/

namespace ChatRelay

namespace World

variable {σ α : Type} {file : CursorFile} {messages : List Inbound} {feed : Feed}

/-- The invariant while the relay is down. -/
def Down (file : CursorFile) (j : Journaled (World σ)) : Prop :=
  Safe j.world.provider j.events (file.floorIn j.world.medium.tree)

/-- The invariant while it is up. -/
def Up (file : CursorFile) (messages : List Inbound) (feed : Feed) (j : Journaled (World σ)) : Prop :=
  Tracked j.world.provider j.events (file.floorIn j.world.medium.tree) feed messages

theorem Up.down {j : Journaled (World σ)} (h : Up file messages feed j) : Down file j := h.toSafe

/-- What happens elsewhere disturbs neither the provider nor the file. -/
theorem ensures_outside (run : Process σ α) :
    Process.Ensures (Up file messages feed) (outside run) (fun _ => Up file messages feed) (Down file) :=
  Process.ensures_zoom_keep run (fun _ _ h => h) fun _ h => h.down

/-- New updates are behind everything that the feed has settled. -/
theorem ensures_arriveAll (arrived : List Delivery) :
    Process.Ensures (Up (σ := σ) file messages feed) (arriveAll arrived) (fun _ => Up file messages feed) (Down file) :=
  fun _ hj => List.foldlRecOn arrived arrive hj fun _ h d _ => Tracked.arrive h d

theorem ensures_act (others : Others σ) (run : Process σ α) :
    Process.Ensures (Up file messages feed) (others.act run) (fun _ => Up file messages feed) (Down file) :=
  (ensures_outside others.arrivals).bind fun arrived => (ensures_arriveAll arrived).bind fun _ => ensures_outside run

/-- The provider forgets what the feed asks it to, and the feed asks for no more than it has settled. -/
theorem ensures_drop :
    Process.Ensures (Up (σ := σ) file messages feed) (drop feed.cursor.offset) (fun _ => Up file messages feed)
      (Down file) := fun _ hj => hj.discard

/-- What comes back from a request of the feed is an answer of the provider, or an error. -/
theorem ensures_getUpdates (others : Others σ) :
    Process.Ensures (Up file messages feed) (others.getUpdates feed.request)
      (fun r j => Up file messages feed j ∧
        ∀ batch, r = .ok batch → ∃ limit, batch = j.world.provider.answer limit) (Down file) := by
  apply (ensures_act others _).bind
  intro fate
  cases fate with
  | unsent e => exact Process.ensures_pure fun _ hj => ⟨hj, fun _ hEq => by cases hEq⟩
  | lost e =>
      apply ensures_drop.bind
      intro _ j hj
      cases e with
      | none => exact hj.down
      | some e => exact ⟨hj, fun _ hEq => by cases hEq⟩
  | answered =>
      refine ensures_drop.bind fun _ j hj => ⟨hj, fun batch hEq => ⟨feed.request.limit, ?_⟩⟩
      cases hEq
      rfl

/-- A process over the disk, told of the world around it. -/
theorem ensures_onDisk {run : Process Medium α} {P R : Journaled (World σ) → Prop}
    {Q : α → Journaled (World σ) → Prop}
    (h : ∀ j, P j → Process.Ensures (fun m => m = j.world.medium) run (fun a m => Q a (withMedium m j))
      fun m => R (withMedium m j)) :
    Process.Ensures P (onDisk run) Q R :=
  Process.Ensures.zoom (fun j m => m = j.world.medium) h fun _ _ => rfl

/-- A save puts the floor of the feed into the file, or leaves the file as it is. -/
theorem ensures_save_up {floor : Int} (hUnsaved : feed.cursor.unsaved? = some floor) :
    Process.Ensures (Up (σ := σ) file messages feed) ((store file).save floor)
      (fun r => Up file messages (feed.afterSave floor r).2) (Down file) := by
  have hFloor := Feed.floor_of_unsaved? hUnsaved
  apply ensures_onDisk
  intro j hj
  have hAfter : ∀ tree, file.Between (file.floorIn j.world.medium.tree) floor tree →
      Tracked j.world.provider j.events (file.floorIn tree) feed messages := by
    rintro tree (hOld | hNew)
    · rw [hOld]
      exact hj
    · rw [hNew, ← hFloor]
      exact hj.kept_floor
  have hRange := hj.sound.floor_inRange floor hFloor
  exact (file.ensures_save_between (file.floorIn j.world.medium.tree) hRange).imp (fun _ h => by rw [h])
    (fun r m h => (hAfter m.tree h).afterSave hUnsaved r) fun m h => (hAfter m.tree h).toSafe

/-- Saving keeps the invariant, whether it succeeds, fails or is cut off. -/
theorem ensures_persist_up (feed : Feed) :
    Process.Ensures (Up (σ := σ) file messages feed) (feed.persist (some (store file)))
      (fun r => Up file messages r.2) (Down file) := by
  apply Feed.ensures_persist (Q := fun _ => Up file messages) (fun _ _ h => h)
  intro floor s hStore hUnsaved
  cases hStore
  exact ensures_save_up hUnsaved

/-- Every event that throws no update away may be noted. -/
theorem ensures_note {e : Event} (hOther : ∀ id raw, e ≠ .discarded id raw) :
    Program.Ensures (Up (σ := σ) file messages) (Journaled.noteIn e) (fun _ => Up file messages) (Down file) :=
  fun _ _ hj => hj.snoc hOther

/-- A fetch hands out what the feed then waits for. When its save fails under a strict policy, nothing is handed out
and the feed waits for all of it. -/
theorem ensures_fetch_up (others : Others σ) :
    Program.Ensures (Up file []) (others.channel file).fetch (fun answer => Up file (Cycle.messagesOf answer))
      (Down file) := by
  have hInner : Program.Ensures (Up file []) (Feed.channel others.api (some (store file))).fetch
      (fun answer => Up file (Cycle.messagesOf answer)) (Down file) := by
    intro feed
    refine Feed.ensures_fetch (Q := fun answer => Up file (Cycle.messagesOf answer)) (ensures_getUpdates others)
      (fun _ _ h => h.1) fun batch => ?_
    intro j hj
    obtain ⟨limit, rfl⟩ := hj.2 batch rfl
    have hTaken : Up file (feed.intake (j.world.provider.answer limit)).messages _ j := hj.1.taking limit
    refine ((ensures_persist_up _).imp (fun _ h => h) (fun r j h => ?_) fun _ h => h) j hTaken
    cases hAnswer : r.1 with
    | ok done => exact h
    | error e => exact h.none_left
  apply hInner.bind
  intro answer
  exact (ensures_note (by simp)).bind fun _ => Program.ensures_pure fun _ _ h => h

/-- A reply settles nothing. -/
theorem ensures_send_up (others : Others σ) (outbound : Outbound) :
    Program.Ensures (Up file messages) ((others.channel file).send outbound) (fun _ => Up file messages)
      (Down file) := by
  have hInner : Program.Ensures (Up file messages) ((Feed.channel others.api (some (store file))).send outbound)
      (fun _ => Up file messages) (Down file) := fun feed =>
    Feed.ensures_send (Q := fun _ => Up file messages) (ensures_act others _) (fun _ _ h => h) fun _ _ h => h
  apply hInner.bind
  intro r
  exact (ensures_note (by simp)).bind fun _ => Program.ensures_pure fun _ _ h => h

/-- An acknowledgement is noted before the feed stops waiting for the message. -/
theorem ensures_acknowledge_up (others : Others σ) (inbound : Inbound) (rest : List Inbound) :
    Program.Ensures (Up file (inbound :: rest)) ((others.channel file).acknowledge inbound.updateId)
      (fun _ => Up file rest) (Down file) := by
  have hNote : Program.Ensures (Up (σ := σ) file (inbound :: rest))
      (Journaled.noteIn (.acknowledged inbound.updateId))
      (fun _ feed j => Up file (inbound :: rest) feed j ∧ .acknowledged inbound.updateId ∈ j.events) (Down file) :=
    fun _ _ hj => ⟨hj.snoc (by simp), by simp [Journaled.noted]⟩
  apply hNote.bind
  intro _ feed
  refine Feed.ensures_acknowledge (Q := fun _ => Up file rest) (fun hNone j hj => ?_) fun id hId => ?_
  · exact hj.1.tail
  · refine (ensures_persist_up _).imp (fun j hj => ?_) (fun _ _ h => h) fun _ h => h
    obtain ⟨other, hOther, hTracked⟩ := hj.1.acknowledging hj.2
    obtain rfl := Option.some.inj (hId.symm.trans hOther)
    exact hTracked

/-- One message of a cycle, whatever becomes of it. -/
theorem ensures_item_up (others : Others σ) (options : CycleOptions (Process σ)) (inbound : Inbound)
    (rest : List Inbound) (r : CycleResult) :
    Program.Ensures (Up file (inbound :: rest))
      (Cycle.runItem (others.channel file) others.handling (others.rules options) r inbound)
      (fun _ => Up file rest) (Down file) := by
  have hOutside : ∀ {α : Type} (run : Process σ α), Program.Ensures (Up file (inbound :: rest))
      (Program.outside (others.act run)) (fun _ => Up file (inbound :: rest)) (Down file) := fun run =>
    Program.ensures_outside fun _ => ensures_act others run
  have hProcess : Program.Ensures (Up file (inbound :: rest))
      (Cycle.process (others.channel file) others.handling (others.rules options) inbound)
      (fun _ => Up file (inbound :: rest)) (Down file) :=
    Cycle.ensures_process (H := fun _ => Up file (inbound :: rest)) (hOutside _) (fun _ _ _ h => h)
      (fun _ => hOutside _) (fun _ _ _ h => h) (fun _ _ h => h) fun outbound => ensures_send_up others outbound
  exact Cycle.ensures_runItem hProcess (fun _ _ _ _ h => h.tail)
    (fun _ => ensures_acknowledge_up others inbound rest) r

/-- A whole cycle, from its fetch to the last message, keeps the invariant. -/
theorem ensures_cycle_up (others : Others σ) (options : CycleOptions (Process σ)) :
    Program.Ensures (Up file []) (Cycle.run (others.channel file) others.handling (others.rules options))
      (fun _ => Up file []) (Down file) :=
  Cycle.ensures_run (I := Up file) (ensures_fetch_up others) (ensures_item_up others options)

/-- The relay starts with what the file holds. -/
theorem ensures_start_up (config : FeedConfig) :
    Process.Ensures (Down (σ := σ) file) (Feed.start (some (store file)) config)
      (Feed.Started (Up file []) (Down file)) (Down file) := by
  apply Feed.ensures_start (I := Up file []) (fun _ h => h) (fun hNone => by cases hNone)
  intro s hStore
  cases hStore
  apply ensures_onDisk
  intro j hj
  rintro m rfl
  have hLoad : (file.store Medium.disk).load = file.load Medium.disk := rfl
  rw [hLoad, CursorFile.load_eq]
  refine ⟨?_, hj⟩
  cases hLoaded : file.loaded j.world.medium.tree with
  | error e => exact hj.opened config _ (fun _ hNone => by cases hNone) (Or.inr rfl)
  | ok floor =>
      cases floor with
      | none => exact hj.opened config _ (fun _ hNone => by cases hNone) (Or.inr rfl)
      | some f =>
          refine hj.opened config _ (fun g hg => ?_) (Or.inl (CursorFile.floorIn_of_loaded hLoaded).symm)
          cases hg
          exact CursorFile.inRange_of_loaded hLoaded

/-- One turn. -/
theorem holds_perform (others : Others σ) (turn : Turn σ) {s : Site (Journaled (World σ))}
    (h : s.Holds (Up file []) (Down file)) : (turn.perform others file s).Holds (Up file []) (Down file) := by
  cases turn with
  | arrival d =>
      simp only [Site.Holds] at h
      simp only [Turn.perform, Site.Holds]
      cases hFeed : s.feed with
      | none =>
          rw [hFeed] at h
          exact Safe.arrive h d
      | some feed =>
          rw [hFeed] at h
          exact Tracked.arrive h d
  | restart config => exact h.restart (fun _ _ h => h.down) (ensures_start_up config)
  | cycle options => exact h.run (ensures_cycle_up others options)

end World

/-- **No message is lost.** Whatever the provider drops for good was acknowledged before if it is a message. Updates
may arrive at any time, requests and replies may fail or go unanswered, saves may fail in any way, and the relay
may be stopped and started at any point. The file of the cursor holds no floor at the beginning, as when it is
missing. -/
theorem no_message_lost {σ : Type} (others : Others σ) (file : CursorFile) (turns : List (Turn σ)) (w : World σ)
    (hMissing : file.floorIn w.medium.tree = none) :
    Legal nothingLost (Turn.performAll others file turns w).world.events := by
  have hStart : Site.Holds (World.Up file []) (World.Down file) ⟨none, [], w⟩ := by
    change Safe w.provider [] (file.floorIn w.medium.tree)
    rw [hMissing]
    exact safe_nil w.provider
  have hEnd : (Turn.performAll others file turns w).Holds (World.Up file []) (World.Down file) :=
    List.foldlRecOn turns _ hStart fun _ h turn _ => World.holds_perform others turn h
  exact (hEnd.world fun _ _ h => h.down).legal

/-- The handler has no reply, and the fates of the requests are given. -/
def fated : Others (List Fate) where
  handler := { handle := fun _ _ => pure (.ok none), drain := pure [] }
  sendMessage _ := pure (.ok [])
  fate _ := fun fates => (some (fates.headD .answered), fates.tail)
  arrivals := pure []

def hello : Delivery where
  id := 7
  raw := Update.plain 7 "hello"
  named := by
    intro other hOther
    have hId : (Update.ofJson (Update.plain 7 "hello")).id? = some 7 := by decide +kernel
    exact Option.some.inj (hOther.symm.trans hId)

/-- The first save of the floor fails, and the answer that follows the acknowledgement does not arrive. -/
def troubled : World (List Fate) where
  provider := Provider.empty
  medium := ⟨FileTree.empty, FileTree.grounded_empty, [some ⟨some (.other "Disk full"), 0⟩]⟩
  others := [.answered, .lost none]

/-- The events of a cycle, a restart and another cycle. -/
def troubledEvents : List Event :=
  (Turn.performAll fated ⟨"cursor.json"⟩ [.arrival hello, .restart {}, .cycle (.standard .onSuccess), .restart {},
    .cycle (.standard .onSuccess)] troubled).world.events

/-- The message is dropped in the end. -/
theorem no_message_lost_in_troubled :
    (troubledEvents.filterMap fun
      | .discarded id _ => some id
      | _ => none) = [7] ∧ Legal nothingLost troubledEvents :=
  ⟨by decide +kernel, no_message_lost _ _ _ _ (by decide +kernel)⟩

end ChatRelay
