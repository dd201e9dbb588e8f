import ChatRelay.Proofs.Cursor.Reach
import ChatRelay.Proofs.Feed.Restart

/-!
A message that waits for its acknowledgement is handed out again. In the feed that first handed it out, nothing but
the acknowledgement ends that. After a restart nothing is known of waiting ids, but the floor in the file is not
beyond any of them, so that the first batch to reach one of them is taken as if it had never come.
-/

namespace ChatRelay

/-- The message that a batch holds for an id: the first update with this id decides. -/
def firstMessage? (batch : List Json.Fields) (id : Int) : Option Inbound :=
  ((batch.map Update.ofJson).find? fun update => update.id? == some id).bind Update.inbound?

/-- The provider gives no update with this id or a later one. -/
def BotApi.StaysBelow {σ : Type} (api : BotApi (Process σ)) (id : Int) : Prop :=
  ∀ request batch w w', api.getUpdates request w = (some (.ok batch), w') →
    ∀ raw ∈ batch, ∀ a, (Update.ofJson raw).id? = some a → a < id

namespace Feed

variable {σ : Type} {feed : Feed} {id : Int}

/-- Whoever answers the next fetch, and wherever the floor is saved: a batch hands out the message that it holds for
an id. If the call fails all the same, because the floor was not saved, the id waits. -/
def Redelivers (id : Int) (feed : Feed) : Prop :=
  ∀ (σ : Type) (api : BotApi (Process σ)) (store : Option (CursorStore (Process σ))) (batch : List Json.Fields)
    (w w' w'' : σ) (inbound : Inbound) (answer : Except Error (List Inbound)) (after : Feed),
    api.getUpdates feed.request w = (some (.ok batch), w') → firstMessage? batch id = some inbound →
    (channel api store).fetch feed w = (some (answer, after), w'') →
      id ∈ after.cursor.pending ∧ ∀ messages, answer = .ok messages → inbound ∈ messages

/-- All of the given ids wait. -/
def Waits (waiting : Int → Prop) (feed : Feed) : Prop := ∀ id, waiting id → id ∈ feed.cursor.pending

variable {waiting : Int → Prop}

theorem waits_none (feed : Feed) : Waits (fun _ => False) feed := fun _ h => h.elim

/-- A batch does not settle an id that waits. -/
theorem Waits.taking (h : Waits waiting feed) (batch : List Json.Fields) :
    Waits waiting (feed.taking batch).settled := by
  intro id hId
  change id ∈ (feed.taking batch).cursor.settle.pending
  rw [Cursor.settle_pending]
  exact (feed.cursor.from_takeBatch _).pending_of_pending id (h id hId)

/-- Neither does the acknowledgement of another id. -/
theorem Waits.acknowledging (h : Waits waiting feed) {id : Int} (hId : ¬ waiting id) :
    Waits waiting (feed.acknowledging id).settled := by
  intro a ha
  change a ∈ (feed.cursor.acknowledge id).settle.pending
  rw [Cursor.settle_pending]
  have hNe : a ≠ id := fun hEq => hId (hEq ▸ ha)
  exact IdSet.mem_erase.mpr ⟨h a ha, hNe⟩

/-- Neither does a save. -/
theorem Waits.afterSave (h : Waits waiting feed) (floor : Int) (r : Except StoreError Unit) :
    Waits waiting (feed.afterSave floor r).2 := by
  cases r <;> exact h

/-- Whatever the provider and the store do, an id waits until it is acknowledged. -/
theorem upheld_waits (api : BotApi (Process σ)) (store : Option (CursorStore (Process σ)))
    (waiting : Int → Prop) :
    Upheld api store (fun id => ¬ waiting id) (fun feed _ => feed.cursor.Sound ∧ Waits waiting feed)
      (fun feed _ => feed.cursor.Sound ∧ Waits waiting feed) fun _ => True := by
  constructor
  case asked =>
    intro feed
    refine (Process.ensures_fact (feed.cursor.Sound ∧ Waits waiting feed) _).imp (fun _ h => h)
      (fun answer w h => ?_) fun _ h => h
    cases answer with
    | error e => exact h
    | ok batch => exact ⟨sound_taking h.1 batch, h.2.taking batch⟩
  case sent => exact fun feed request => Process.ensures_fact _ _
  case acknowledged => exact fun feed id _ hRange hId h => ⟨sound_acknowledging h.1 hRange, h.2.acknowledging hId⟩
  case idle => exact fun feed _ _ h => h
  case drained => exact fun feed _ h => h
  case saved =>
    intro feed floor s _ hUnsaved
    exact (Process.ensures_fact (feed.cursor.Sound ∧ Waits waiting feed) _).imp (fun _ h => h)
      (fun r _ h => ⟨sound_afterSave h.1 hUnsaved r, h.2.afterSave floor r⟩) fun _ h => h

/-- A waiting id is neither below the floor nor settled. -/
theorem not_settled_of_waits (hSound : feed.cursor.Sound) (h : id ∈ feed.cursor.pending) :
    ¬ feed.cursor.Settled id := by
  rintro (hStale | hSettled)
  · rw [hSound.fresh id (Or.inr (Or.inl h))] at hStale
    cases hStale
  · exact (Cursor.isSettled_iff.mp hSettled).2 h

/-- As long as an id is not settled, its message is handed out. -/
theorem redelivers_of_not_settled (hSound : feed.cursor.Sound) (hOpen : ¬ feed.cursor.Settled id) :
    Redelivers id feed := by
  intro σ api store batch w w' w'' inbound answer after hAnswer hFirst hFetch
  obtain ⟨update, hFind, hInbound⟩ := Option.bind_eq_some_iff.mp hFirst
  obtain rfl : update = .message id inbound := by
    have hId := List.find?_some hFind
    cases update <;> simp_all [Update.id?, Update.inbound?]
  obtain ⟨hEmitted, hPending⟩ := feed.cursor.emitted_of_first _ hOpen hFind
  have hAsk : Process.Ensures (fun v => v = w) (api.getUpdates feed.request) (fun r _ => r = .ok batch)
      fun _ => True := by
    rintro _ rfl
    rw [hAnswer]
  have hWaits : Waits (fun a => a = id) (feed.taking batch).settled := by
    rintro _ rfl
    change _ ∈ (feed.taking batch).cursor.settle.pending
    rw [Cursor.settle_pending]
    exact hPending
  have hCall : Process.Ensures (fun v => v = w) ((channel api store).fetch feed)
      (fun r _ => id ∈ r.2.cursor.pending ∧ ∀ messages, r.1 = .ok messages → inbound ∈ messages)
      fun _ => True := by
    refine ensures_fetch (Q := fun answer after _ =>
      id ∈ after.cursor.pending ∧ ∀ messages, answer = .ok messages → inbound ∈ messages) hAsk
      (fun e _ hEq => by cases hEq) fun taken => ?_
    apply Process.Ensures.of_fact (fun _ hEq => hEq)
    intro hEq
    cases hEq
    refine ((upheld_waits api store _).persist _).imp (fun _ _ => ⟨sound_taking hSound batch, hWaits⟩)
      (fun r _ h => ⟨h.2 id rfl, fun messages hMessages => ?_⟩) fun _ h => h
    cases hSaved : r.1 with
    | error e => simp [hSaved, Except.map] at hMessages
    | ok done =>
        obtain rfl : (feed.intake batch).messages = messages := by simpa [hSaved, Except.map] using hMessages
        exact hEmitted
  exact hCall.of_some rfl hFetch

/-- A load of the file gives no floor beyond this id. -/
def Spares (file : CursorFile) (id : Int) (m : Medium) : Prop :=
  ∀ floor, file.loaded m.tree = .ok (some floor) → floor ≤ id

/-- The feed is sound, and a load of the file gives no floor beyond its own. -/
structure Behind (file : CursorFile) (feed : Feed) (m : Medium) : Prop where
  sound : feed.cursor.Sound
  loaded_le : ∀ floor, file.loaded m.tree = .ok (some floor) → some floor ≤ feed.cursor.floor

variable {file : CursorFile} {m : Medium}

/-- A rising floor stays ahead of the file. -/
theorem Behind.raise {feed' : Feed} (h : Behind file feed m) (hSound : feed'.cursor.Sound)
    (hRaise : feed.cursor.floor ≤ feed'.cursor.floor) : Behind file feed' m :=
  ⟨hSound, fun floor hLoaded => Cursor.floor_le_trans (h.loaded_le floor hLoaded) hRaise⟩

/-- The floor of a feed does not pass a waiting id, and so the one in the file does not either. -/
theorem Behind.spares (h : Behind file feed m) (hWaiting : id ∈ feed.cursor.pending) : Spares file id m := by
  intro floor hLoaded
  have hFresh := h.sound.fresh id (Or.inr (Or.inl hWaiting))
  have hLe := h.loaded_le floor hLoaded
  cases hFloor : feed.cursor.floor with
  | none => simp [hFloor] at hLe
  | some f =>
      have hNot : ¬ id < f := by simpa [Cursor.isStale, hFloor] using hFresh
      have hLe : floor ≤ f := by simpa [hFloor] using hLe
      omega

/-- A save leaves the floor that was in the file or puts in the one of the feed, so that a load gives no more. -/
theorem Behind.between (hUp : ".." ∉ file.path.names) {floor : Int} (h : Behind file feed m)
    (hUnsaved : feed.cursor.unsaved? = some floor) {m' : Medium}
    (hAfter : file.Between (file.floorIn m.tree) floor m'.tree) : Behind file feed m' := by
  refine ⟨h.sound, fun found hLoaded => ?_⟩
  have hFound := CursorFile.floorIn_of_loaded hLoaded
  rcases hAfter with hOld | hNew
  · exact h.loaded_le found (CursorFile.loaded_of_floorIn hUp hLoaded m.grounded (hOld ▸ hFound))
  · rw [← hFound, hNew, floor_of_unsaved? hUnsaved]
    exact Cursor.floor_le_refl _

/-- At its start a feed has the floor of its file. -/
theorem behind_opened (file : CursorFile) (config : FeedConfig) (m : Medium) :
    Behind file (opened config (file.loaded m.tree)) m := by
  refine ⟨sound_opened file config m, fun floor hLoaded => ?_⟩
  rw [hLoaded]
  exact Cursor.floor_le_refl _

/-- The start of a feed establishes it, and waits for nothing. -/
theorem ensures_start_behind (file : CursorFile) (config : FeedConfig) :
    Process.Ensures (fun _ : σ × Medium => True) (start (some (fileStore file)) config)
      (Started (fun feed w => Behind file feed w.2 ∧ Waits (fun _ => False) feed) fun _ => True)
      fun w => ∀ id, False → Spares file id w.2 :=
  ensures_start_fileStore (P := fun _ => True) (R := fun _ => True)
    (I := fun feed m => Behind file feed m ∧ Waits (fun _ => False) feed) config (fun _ h => h)
    fun m _ => ⟨behind_opened file config m, waits_none _⟩

/-- However a run of calls goes and even if it is cut off, the file spares the ids that wait. -/
theorem upheld_behind (api : BotApi (Process σ)) (hUp : ".." ∉ file.path.names) (waiting : Int → Prop) :
    Upheld (api.lift Process.first) (some (fileStore file)) (fun id => ¬ waiting id)
      (fun feed w => Behind file feed w.2 ∧ Waits waiting feed)
      (fun feed w => Behind file feed w.2 ∧ Waits waiting feed)
      fun w => ∀ id, waiting id → Spares file id w.2 := by
  have hStop : ∀ (feed : Feed) (m : Medium), Behind file feed m ∧ Waits waiting feed →
      ∀ id, waiting id → Spares file id m := fun _ _ h id hId => h.1.spares (h.2 id hId)
  have hOutside : ∀ {α : Type} (feed : Feed) (run : Process σ α),
      Process.Ensures (fun w => Behind file feed w.2 ∧ Waits waiting feed) run.first
        (fun _ w => Behind file feed w.2 ∧ Waits waiting feed)
        fun w => ∀ id, waiting id → Spares file id w.2 := fun feed run =>
    Process.ensures_first run (E := fun m => Behind file feed m ∧ Waits waiting feed) (hStop feed)
  constructor
  case asked =>
    intro feed
    refine (hOutside feed _).imp (fun _ h => h) (fun answer w h => ?_) fun _ h => h
    cases answer with
    | error e => exact h
    | ok batch => exact ⟨h.1.raise (sound_taking h.1.sound batch) (feed.floor_le_taking batch), h.2.taking batch⟩
  case sent => exact fun feed request => hOutside feed _
  case acknowledged =>
    intro feed id w hRange hId h
    exact ⟨h.1.raise (sound_acknowledging h.1.sound hRange) (feed.floor_le_acknowledging id),
      h.2.acknowledging hId⟩
  case idle => exact fun feed _ _ h => h
  case drained => exact fun feed w h => ⟨⟨h.1.sound, h.1.loaded_le⟩, h.2⟩
  case saved =>
    intro feed floor s hStore hUnsaved
    cases hStore
    intro w hw
    have hRange := hw.1.sound.floor_inRange floor (floor_of_unsaved? hUnsaved)
    have hSave := file.ensures_save_between (file.floorIn w.2.tree) hRange
    refine (hSave.second.imp (fun _ h => h) (fun r w' h => ?_) fun w' h => ?_) w rfl
    · have hAfter := hw.1.between hUp hUnsaved h
      refine ⟨⟨sound_afterSave hw.1.sound hUnsaved r, fun found hLoaded => ?_⟩, hw.2.afterSave floor r⟩
      rw [floor_afterSave]
      exact hAfter.loaded_le found hLoaded
    · exact hStop feed w'.2 ⟨hw.1.between hUp hUnsaved h, hw.2⟩

/-- As long as an id waits, no save puts the floor beyond it, whatever calls are made. -/
theorem spares_of_performAll (api : BotApi (Process σ)) {later : List Channel.Call} {w : σ × Medium}
    (hUp : ".." ∉ file.path.names) (hBehind : Behind file feed w.2) (hWaiting : id ∈ feed.cursor.pending)
    (hLater : ∀ call ∈ later, Acknowledges (fun a => a ≠ id) call) :
    Spares file id
      (Channel.performAll (channel (api.lift Process.first) (some (fileStore file))) later feed w).2.2 := by
  have hRun : Process.Ensures (fun w => Behind file feed w.2 ∧ Waits (fun a => a = id) feed)
      (Channel.performAll (channel (api.lift Process.first) (some (fileStore file))) later feed)
      (fun _ w => Spares file id w.2) fun w => Spares file id w.2 :=
    ((upheld_behind api hUp fun a => a = id).performAll hLater feed).imp (fun _ h => h)
      (fun _ _ h => h.1.spares (h.2 id rfl)) fun _ h => h id rfl
  exact hRun.always ⟨hBehind, fun _ hEq => hEq ▸ hWaiting⟩

/-- A sound feed that has not come as far as an id. -/
structure Before (id : Int) (feed : Feed) : Prop where
  sound : feed.cursor.Sound
  not_reached : ¬ feed.cursor.Reaches id

/-- An id that was not reached is handed out when it comes. -/
theorem Before.redelivers (h : Before id feed) : Redelivers id feed :=
  redelivers_of_not_settled h.sound fun hSettled => h.not_reached (Cursor.reaches_of_settled hSettled)

/-- As long as neither the provider nor an acknowledgement goes up to an id, the feed does not reach it. -/
theorem upheld_before {api : BotApi (Process σ)} (hBelow : api.StaysBelow id)
    (store : Option (CursorStore (Process σ))) :
    Upheld api store (fun a => a < id) (fun feed _ => Before id feed) (fun feed _ => Before id feed)
      fun _ => True := by
  constructor
  case asked =>
    intro feed w h
    match hRun : api.getUpdates feed.request w with
    | (none, w') => trivial
    | (some (.error e), w') => exact h
    | (some (.ok batch), w') =>
        refine ⟨sound_taking h.sound batch, fun hReached => ?_⟩
        have hTaken := (ready_taking h.sound batch).reaches_settle.mp hReached
        rcases Cursor.reaches_of_takeBatch hTaken with hOld | ⟨update, hMem, a, hId, hLe⟩
        · exact h.not_reached hOld
        · obtain ⟨raw, hRaw, rfl⟩ := List.mem_map.mp hMem
          have hLt := hBelow _ _ _ _ hRun raw hRaw a hId
          omega
  case sent => exact fun feed request => Process.ensures_fact _ _
  case acknowledged =>
    intro feed a _ hRange hLt h
    refine ⟨sound_acknowledging h.sound hRange, fun hReached => ?_⟩
    have hTaken := (h.sound.ready.acknowledge hRange).reaches_settle.mp hReached
    rcases Cursor.reaches_or_le_of_acknowledge hTaken with hOld | hLe
    · exact h.not_reached hOld
    · omega
  case idle => exact fun feed _ _ h => h
  case drained => exact fun feed _ h => ⟨h.sound, h.not_reached⟩
  case saved =>
    intro feed floor s _ hUnsaved
    refine (Process.ensures_fact (Before id feed) _).imp (fun _ h => h) (fun r _ h => ?_) fun _ h => h
    refine ⟨sound_afterSave h.sound hUnsaved r, ?_⟩
    cases r <;> exact h.not_reached

/-- A feed from a file that spares an id has not reached it. -/
theorem before_opened (file : CursorFile) (config : FeedConfig) {m : Medium} (h : Spares file id m) :
    Before id (opened config (file.loaded m.tree)) := by
  refine ⟨sound_opened file config m, ?_⟩
  cases hLoaded : file.loaded m.tree with
  | error e =>
      rintro (⟨s, hSeen, _⟩ | ⟨floor, hFloor, _⟩)
      · exact IdSet.not_mem_empty s hSeen
      · cases hFloor
  | ok found =>
      rintro (⟨s, hSeen, _⟩ | ⟨floor, hFloor, hLt⟩)
      · exact IdSet.not_mem_empty s hSeen
      · have hLe := h floor (by rw [hLoaded, show found = some floor from hFloor])
        omega

/-- A feed that starts from a file which spares an id has not come as far as this id. -/
theorem ensures_start_before (file : CursorFile) (id : Int) (config : FeedConfig) :
    Process.Ensures (fun w : σ × Medium => Spares file id w.2) (start (some (fileStore file)) config)
      (Started (fun feed _ => Before id feed) fun _ => True) fun _ => True :=
  ensures_start_fileStore (I := fun feed _ => Before id feed) (R := fun _ => True) config (fun _ _ => trivial)
    fun _ h => before_opened file config h

/-- Every feed that is started is sound, on any disk. -/
theorem ensures_start_sound (file : Option CursorFile) (disk : Disk (Process σ)) (config : FeedConfig) :
    Process.Ensures (fun _ => True) (start (file.map fun f => f.store disk) config)
      (Started (fun feed _ => feed.cursor.Sound ∧ Waits (fun _ => False) feed) fun _ => True) fun _ => True := by
  refine ensures_start (fun _ _ => trivial)
    (fun _ _ _ => ⟨Cursor.sound_start fun f hf => (by cases hf), waits_none _⟩) fun s hStore => ?_
  obtain ⟨f, _, rfl⟩ := Option.map_eq_some_iff.mp hStore
  refine (f.ensures_load disk).imp (fun _ h => h) (fun r _ h => ⟨⟨?_, waits_none _⟩, trivial⟩) fun _ h => h
  cases r with
  | ok floor => exact Cursor.sound_start fun f hf => h f (by rw [hf])
  | error e => exact Cursor.sound_start fun f hf => by cases hf

/-- In one feed, an id that waits is redelivered until it is acknowledged. -/
theorem redelivers_of_life {api : BotApi (Process σ)} {file : Option CursorFile} {disk : Disk (Process σ)}
    {config : FeedConfig} {calls later : List Channel.Call} {w w₁ w₂ : σ}
    {outcomes outcomes' : List Channel.Outcome} {after : Feed}
    (hLife : life api (file.map fun f => f.store disk) config calls w = (some (.ok (outcomes, feed)), w₁))
    (hWaiting : id ∈ feed.cursor.pending) (hLater : ∀ call ∈ later, Acknowledges (fun a => a ≠ id) call)
    (hRun : Channel.performAll (channel api (file.map fun f => f.store disk)) later feed w₁ =
      (some (outcomes', after), w₂)) :
    Redelivers id after := by
  have hCalls := (upheld_waits api (file.map fun f => f.store disk) fun _ => False).performAll
    (fun call (_ : call ∈ calls) _ _ _ _ => not_false)
  have hSound := (ensures_life (ensures_start_sound file disk config) hCalls).of_some trivial hLife
  have hAfter := ((upheld_waits api _ (fun a => a = id)).performAll hLater feed).of_some
    ⟨hSound.1, fun _ hEq => hEq ▸ hWaiting⟩ hRun
  exact redelivers_of_not_settled hAfter.1 (not_settled_of_waits hAfter.1 (hAfter.2 id rfl))

/-- After a restart, it is redelivered when a batch comes that far. -/
theorem redelivers_of_restart {api : BotApi (Process σ)} {next : BotApi (Process (σ × Medium))}
    {config config' : FeedConfig} {calls later first : List Channel.Call} {w w₁ w₂ w₃ : σ × Medium}
    {outcomes outcomes' : List Channel.Outcome} {fresh after : Feed} (hUp : ".." ∉ file.path.names)
    (hLife : life (api.lift Process.first) (some (fileStore file)) config calls w =
      (some (.ok (outcomes, feed)), w₁))
    (hWaiting : id ∈ feed.cursor.pending) (hLater : ∀ call ∈ later, Acknowledges (fun a => a ≠ id) call)
    (hStart : start (some (fileStore file)) config'
      (Channel.performAll (channel (api.lift Process.first) (some (fileStore file))) later feed w₁).2 =
        (some (.ok fresh), w₂))
    (hNext : next.StaysBelow id) (hFirst : ∀ call ∈ first, Acknowledges (fun a => a < id) call)
    (hRun : Channel.performAll (channel next (some (fileStore file))) first fresh w₂ =
      (some (outcomes', after), w₃)) :
    Redelivers id after := by
  have hCalls := (upheld_behind api hUp fun _ => False).performAll
    (fun call (_ : call ∈ calls) _ _ _ _ => not_false)
  have hBehind := (ensures_life (ensures_start_behind file config) hCalls).of_some trivial hLife
  have hSpares := spares_of_performAll api hUp hBehind.1 hWaiting hLater
  have hFresh := (ensures_start_before file id config').of_some hSpares hStart
  exact (((upheld_before hNext _).performAll hFirst fresh).of_some hFresh hRun).redelivers

/-- **A message is handed out again until it is acknowledged.** While the relay is up, this is so whatever the
provider, the store and the calls do, and even if the call that first took the message failed. After a restart, it is so
for the first batch that comes as far as the message, as long as no acknowledgement came as far before. -/
theorem redelivered_until_acknowledged (id : Int) :
    (∀ (api : BotApi (Process σ)) (file : Option CursorFile) (disk : Disk (Process σ)) (config : FeedConfig)
        (calls later : List Channel.Call) (w w₁ w₂ : σ) (outcomes outcomes' : List Channel.Outcome)
        (feed after : Feed),
      life api (file.map fun f => f.store disk) config calls w = (some (.ok (outcomes, feed)), w₁) →
      id ∈ feed.cursor.pending →
      (∀ call ∈ later, Acknowledges (fun a => a ≠ id) call) →
      Channel.performAll (channel api (file.map fun f => f.store disk)) later feed w₁ =
        (some (outcomes', after), w₂) →
        Redelivers id after) ∧
    ∀ (api : BotApi (Process σ)) (next : BotApi (Process (σ × Medium))) (file : CursorFile)
        (config config' : FeedConfig) (calls later first : List Channel.Call) (w w₁ w₂ w₃ : σ × Medium)
        (outcomes outcomes' : List Channel.Outcome) (feed fresh after : Feed),
      ".." ∉ file.path.names →
      life (api.lift Process.first) (some (fileStore file)) config calls w = (some (.ok (outcomes, feed)), w₁) →
      id ∈ feed.cursor.pending →
      (∀ call ∈ later, Acknowledges (fun a => a ≠ id) call) →
      start (some (fileStore file)) config'
        (Channel.performAll (channel (api.lift Process.first) (some (fileStore file))) later feed w₁).2 =
        (some (.ok fresh), w₂) →
      next.StaysBelow id →
      (∀ call ∈ first, Acknowledges (fun a => a < id) call) →
      Channel.performAll (channel next (some (fileStore file))) first fresh w₂ = (some (outcomes', after), w₃) →
        Redelivers id after := by
  refine ⟨?_, ?_⟩
  · intro api file disk config calls later w w₁ w₂ outcomes outcomes' feed after hLife hWaiting hLater hRun
    exact redelivers_of_life hLife hWaiting hLater hRun
  · intro api next file config config' calls later first w w₁ w₂ w₃ outcomes outcomes' feed fresh after hUp hLife
      hWaiting hLater hStart hNext hFirst hRun
    exact redelivers_of_restart hUp hLife hWaiting hLater hStart hNext hFirst hRun

/-- A disk on which one save fails at its first step, after a number of steps that go well. -/
def fullAfter (steps : Nat) : Medium :=
  ⟨FileTree.empty, FileTree.grounded_empty,
    List.replicate steps none ++ [some ⟨some (.other "No space left on device"), 0⟩]⟩

/-- A message whose fetch failed with the save is redelivered by the same feed and after a restart. -/
theorem redelivered_after_failed_save :
    let strict : FeedConfig := { strict := true }
    let file : CursorFile := ⟨"cursor.json"⟩
    let run := life (BotApi.constant [Update.plain 50 "hello"]) ((some file).map fun f => f.store Medium.disk) strict
      [.fetch] (fullAfter 0)
    let apart := life ((BotApi.constant [Update.plain 50 "hello"]).lift Process.first) (some (fileStore file)) strict
      [.fetch] ((), fullAfter 0)
    (∃ outcomes feed, run.1 = some (.ok (outcomes, feed)) ∧ (∀ o ∈ outcomes, o.messages? = none) ∧
        Redelivers 50 feed.drain.2) ∧
      ∃ fresh w, start (some (fileStore file)) strict apart.2 = (some (.ok fresh), w) ∧
        Redelivers 50 fresh.drain.2 := by
  intro strict file run apart
  have hNoAcks : ∀ (allowed : Int → Prop), ∀ call ∈ [Channel.Call.drain], Acknowledges allowed call := by
    intro allowed call hMem text id hCall
    rw [List.mem_singleton.mp hMem] at hCall
    cases hCall
  constructor
  · have hEnd : run.1.any (fun r => r.toOption.any fun result =>
        decide (50 ∈ result.2.cursor.pending) && result.1.all fun o => o.messages?.isNone) := by decide +kernel
    obtain ⟨⟨outcomes, feed⟩, hRun, hBoth⟩ := exists_ok_of_any hEnd
    obtain ⟨hWaiting, hRefused⟩ := Bool.and_eq_true_iff.mp hBoth
    refine ⟨outcomes, feed, hRun, fun o hMem => Option.isNone_iff_eq_none.mp (List.all_eq_true.mp hRefused o hMem), ?_⟩
    exact (redelivered_until_acknowledged 50).1 _ (some file) Medium.disk strict [.fetch] [.drain] (fullAfter 0) run.2
      run.2 outcomes _ feed _ (Process.run_of_fst hRun) (by simpa using hWaiting) (hNoAcks _) rfl
  · have hEnd : apart.1.any (fun r => r.toOption.any fun result => decide (50 ∈ result.2.cursor.pending)) := by
      decide +kernel
    obtain ⟨⟨outcomes, feed⟩, hRun, hWaiting⟩ := exists_ok_of_any hEnd
    have hStart : (start (some (fileStore file)) strict apart.2).1.any (fun r => r.toOption.any fun _ => true) := by
      decide +kernel
    obtain ⟨fresh, hFresh, _⟩ := exists_ok_of_any hStart
    have hNext : (BotApi.constant (m := Process (Unit × Medium)) []).StaysBelow 50 := by
      intro request batch w w' hAnswer raw hRaw
      cases hAnswer
      exact absurd hRaw List.not_mem_nil
    refine ⟨fresh, _, Process.run_of_fst hFresh, ?_⟩
    exact (redelivered_until_acknowledged 50).2 (BotApi.constant [Update.plain 50 "hello"]) (BotApi.constant [])
      file strict strict [.fetch] [.drain] [.drain] ((), fullAfter 0) apart.2 _ _ outcomes _ feed fresh _
      (by decide +kernel) (Process.run_of_fst hRun) (by simpa using hWaiting) (hNoAcks _) (Process.run_of_fst hFresh)
      hNext (hNoAcks _) rfl

/-- A provider that gives one batch after the other. -/
def givesInTurn : BotApi (Process (List (List Json.Fields))) where
  getUpdates _ := fun batches => (some (.ok (batches.headD [])), batches.tail)
  sendMessage _ := pure (.ok [])

/-- It takes the condition that no earlier batch came further. Here the update 50 waits when the relay is restarted. The
first fetch of the new feed gives the update 100 and fails, because the floor is not saved, but the floor of the feed
has moved. The next fetch succeeds and leaves out the message of the update 50, which its batch holds. -/
theorem lost_behind_failed_save :
    let api := givesInTurn.lift Process.first
    let store := some (fileStore ⟨"cursor.json"⟩)
    let batch := [Update.plain 50 "hello"]
    let before := life api store { strict := true } [.fetch]
      ([batch, [Update.plain 100 "later"], batch], fullAfter 4)
    let after := life api store { strict := true } [.fetch, .fetch] before.2
    before.1.any (fun r => r.toOption.any fun result => decide (50 ∈ result.2.cursor.pending)) = true ∧
      after.1.any (fun r => r.toOption.any fun result =>
        result.1.map (fun outcome => outcome.messages?.map List.length) == [none, some 0]) = true ∧
      (firstMessage? batch 50).isSome = true := by
  decide +kernel

end Feed

end ChatRelay
