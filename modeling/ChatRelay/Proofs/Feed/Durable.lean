import ChatRelay.Proofs.Feed.Restart

/-!
Acknowledgements outlive the relay. As long as the saves go well, the floor in the file is that of the feed, and once
nothing is waiting it lies above all that was acknowledged. A feed that starts from such a file hands out none of it
again. The greatest id is the exception, since no floor lies above it.
-/

namespace ChatRelay

def Event.isFailedSave : Event → Bool
  | .saved _ (.error _) => true
  | _ => false

namespace Feed

open Cursor (InRange)

variable {σ : Type} {feed : Feed} {id : Int}

/-- The store of a file on a disk that can fail, with a journal of its saves. -/
def journaledFile (file : CursorFile) : CursorStore (Process (Journaled (σ × Medium))) :=
  ((fileStore file).lift Journaled.lift).watched Journaled.note

/-- No save has failed so far. -/
def Unfailed (events : List Event) : Prop := ∀ e ∈ events, e.isFailedSave = false

instance (events : List Event) : Decidable (Unfailed events) :=
  inferInstanceAs (Decidable (∀ e ∈ events, e.isFailedSave = false))

/-- In a call and before its save: what the feed takes for saved is what a load of the file gives, unless a save has
failed. -/
structure Written (file : CursorFile) (feed : Feed) (events : List Event) (m : Medium) : Prop where
  sound : feed.cursor.Sound
  stored : Unfailed events → ∀ floor, feed.cursor.persisted = some floor → file.loaded m.tree = .ok (some floor)

/-- Between two calls: the whole floor is saved as well. -/
structure Flushed (file : CursorFile) (feed : Feed) (events : List Event) (m : Medium) : Prop extends
    Written file feed events m where
  saved : Unfailed events → feed.cursor.unsaved? = none

variable {file : CursorFile} {events : List Event} {m : Medium}

/-- What is in the file does not depend on the ids of the feed. -/
theorem Written.of_persisted {feed' : Feed} (h : Written file feed events m) (hSound : feed'.cursor.Sound)
    (hSame : feed'.cursor.persisted = feed.cursor.persisted) : Written file feed' events m :=
  ⟨hSound, fun hUnfailed floor hFloor => h.stored hUnfailed floor (hSame ▸ hFloor)⟩

theorem persisted_taking (feed : Feed) (batch : List Json.Fields) :
    (feed.taking batch).settled.cursor.persisted = feed.cursor.persisted :=
  (Cursor.settle_persisted _).trans (feed.cursor.from_takeBatch _).persisted_eq

theorem persisted_acknowledging (feed : Feed) (id : Int) :
    (feed.acknowledging id).settled.cursor.persisted = feed.cursor.persisted :=
  Cursor.settle_persisted _

/-- A save that went well is the end of what was to be saved. -/
theorem unsaved?_afterSave {floor : Int} (hUnsaved : feed.cursor.unsaved? = some floor) :
    (feed.afterSave floor (.ok ())).2.cursor.unsaved? = none := by
  simp [afterSave, Cursor.unsaved?, floor_of_unsaved? hUnsaved]

/-- A feed that was started has nothing left to save. -/
theorem flushed_opened (file : CursorFile) (config : FeedConfig) (events : List Event) (m : Medium) :
    Flushed file (opened config (file.loaded m.tree)) events m := by
  refine ⟨⟨sound_opened file config m, fun _ floor hFloor => ?_⟩, fun _ => ?_⟩
  · cases hLoaded : file.loaded m.tree with
    | error e => simp [hLoaded, opened, Cursor.start] at hFloor
    | ok found =>
        obtain rfl : found = some floor := by simpa [hLoaded, opened, Cursor.start] using hFloor
        rfl
  · cases file.loaded m.tree with
    | error e => rfl
    | ok found => cases found <;> simp [opened, Cursor.start, Cursor.unsaved?]

/-- What the provider does with its part of the world leaves the journal and the disk alone. -/
theorem ensures_apart {α : Type} (P : List Event → Medium → Prop) (run : Process σ α) :
    Process.Ensures (fun j => P j.events j.world.2) (Journaled.lift run.first)
      (fun _ j => P j.events j.world.2) fun _ => True :=
  Process.Ensures.zoom (fun j w => P j.events w.2)
    (fun j _ => (Process.ensures_first run (E := P j.events) fun _ h => h).imp (fun _ h => h) (fun _ _ h => h)
      fun _ _ => trivial)
    fun _ h => h

/-- What the disk does is the same with a journal beside it. -/
theorem ensures_onFile {α : Type} {P : List Event → Medium → Prop} {Q : List Event → α → Medium → Prop}
    {run : Process Medium α}
    (h : ∀ events, Process.Ensures (P events) run (Q events) fun _ => True) :
    Process.Ensures (fun j : Journaled (σ × Medium) => P j.events j.world.2) (Journaled.lift run.second)
      (fun a j => Q j.events a j.world.2) fun _ => True :=
  Process.Ensures.zoom (fun j w => P j.events w.2) (fun j _ => (h j.events).second) fun _ h => h

/-- Step of a call: a save that succeeds brings the file level with the feed. -/
theorem ensures_save_flushed {floor : Int} (hUnsaved : feed.cursor.unsaved? = some floor) :
    Process.Ensures (fun j => Written file feed j.events j.world.2) ((journaledFile (σ := σ) file).save floor)
      (fun r j => Flushed file (feed.afterSave floor r).2 j.events j.world.2) fun _ => True := by
  apply Process.Ensures.of_fact (F := feed.cursor.Sound) fun _ h => h.sound
  intro hSound
  have hRange := hSound.floor_inRange floor (floor_of_unsaved? hUnsaved)
  have hSave : ∀ events : List Event, Process.Ensures (fun _ : Medium => True) (file.save Medium.disk floor)
      (fun r m => r = .ok () → file.loaded m.tree = .ok (some floor)) fun _ => True := by
    intro _ m _
    refine ((file.ensures_save_loaded (file.floorIn m.tree) hRange).imp (fun _ h => h) (fun r m h hOk => ?_)
      fun _ _ => trivial) m rfl
    rw [hOk] at h
    exact h
  apply ((ensures_onFile hSave).imp (fun _ _ => trivial) (fun _ _ h => h) fun _ h => h).bind
  intro r
  have hNote : Process.Ensures (fun j : Journaled (σ × Medium) => r = .ok () →
        file.loaded j.world.2.tree = .ok (some floor))
      (Journaled.note (.saved floor r)) (fun _ j => Flushed file (feed.afterSave floor r).2 j.events j.world.2)
      fun _ => True := by
    intro j hLoaded
    change Flushed file (feed.afterSave floor r).2 (j.events ++ [.saved floor r]) j.world.2
    have hSoundAfter := sound_afterSave hSound hUnsaved r
    cases r with
    | ok done =>
        refine ⟨⟨hSoundAfter, fun _ found hFound => ?_⟩, fun _ => unsaved?_afterSave hUnsaved⟩
        cases hFound
        exact hLoaded rfl
    | error e =>
        have hFailed : ¬ Unfailed (j.events ++ [.saved floor (.error e)]) := fun h =>
          Bool.false_ne_true (h (.saved floor (.error e)) (by simp)).symm
        exact ⟨⟨hSoundAfter, fun h => absurd h hFailed⟩, fun h => absurd h hFailed⟩
  exact hNote.bind fun _ => Process.ensures_pure fun _ h => h

/-- As long as no save fails, the floor is in the file after every call. -/
theorem upheld_flushed (api : BotApi (Process σ)) (file : CursorFile) :
    Upheld ((api.lift Process.first).lift Journaled.lift) (some (journaledFile file)) (fun _ => True)
      (fun feed j => Flushed file feed j.events j.world.2) (fun feed j => Written file feed j.events j.world.2)
      fun _ => True := by
  constructor
  case asked =>
    intro feed
    refine (ensures_apart (Flushed file feed) (api.getUpdates feed.request)).imp (fun _ h => h)
      (fun answer j h => ?_) fun _ h => h
    cases answer with
    | error e => exact h
    | ok batch => exact h.toWritten.of_persisted (sound_taking h.sound batch) (feed.persisted_taking batch)
  case sent => exact fun feed request => ensures_apart (Flushed file feed) (api.sendMessage request)
  case acknowledged =>
    intro feed id j hRange _ h
    exact h.toWritten.of_persisted (sound_acknowledging h.sound hRange) (feed.persisted_acknowledging id)
  case idle =>
    intro feed hIdle j h
    exact ⟨h, fun _ => hIdle.resolve_right fun hNone => by cases hNone⟩
  case drained => exact fun feed j h => ⟨⟨h.sound, h.stored⟩, h.saved⟩
  case saved =>
    intro feed floor s hStore hUnsaved
    cases hStore
    exact ensures_save_flushed hUnsaved

/-- The start of a feed leaves nothing to save. -/
theorem ensures_start_flushed (file : CursorFile) (config : FeedConfig) :
    Process.Ensures (fun _ : Journaled (σ × Medium) => True) (start (some (journaledFile file)) config)
      (Started (fun feed j => Flushed file feed j.events j.world.2) fun _ => True) fun _ => True := by
  refine ensures_start (fun _ _ => trivial) (fun hNone => by cases hNone) fun s hStore => ?_
  cases hStore
  have hLoad : ∀ events, Process.Ensures (fun _ => True) (file.load Medium.disk)
      (fun r m => Flushed file (opened config r) events m ∧ True) fun _ => True := by
    intro events m _
    rw [CursorFile.load_eq]
    exact ⟨flushed_opened file config events m, trivial⟩
  exact ensures_onFile hLoad

/-- What is settled stays settled, whatever the provider and the store do. -/
theorem kept_settled (api : BotApi (Process σ)) (store : Option (CursorStore (Process σ))) (id : Int) :
    Kept api store (fun feed _ => feed.cursor.Settled id) fun _ => True := by
  constructor
  case asked => exact fun feed => Process.ensures_fact _ _
  case sent => exact fun feed request => Process.ensures_fact _ _
  case taken => exact fun feed batch _ h => Cursor.settled_settle ((feed.cursor.from_takeBatch _).settled h)
  case acknowledged => exact fun feed a _ _ h => Cursor.settled_settle (Cursor.settled_acknowledge h a)
  case drained => exact fun feed _ h => h
  case saved =>
    intro feed floor s _ _
    refine (Process.ensures_fact (feed.cursor.Settled id) _).imp (fun _ h => h) (fun r _ h => ?_) fun _ h => h
    cases r <;> exact h

/-- An acknowledged id is settled. -/
theorem ensures_acknowledge_settled (api : BotApi (Process σ)) (store : Option (CursorStore (Process σ)))
    {text : String} (hId : ackId? text = some id) :
    Program.Ensures (fun _ _ => True) ((channel api store).acknowledge text) (fun _ feed _ => feed.cursor.Settled id)
      fun _ => True := by
  intro feed
  refine ensures_acknowledge (Q := fun _ feed _ => feed.cursor.Settled id) (fun hNone => ?_) fun a hSome => ?_
  · rw [hId] at hNone
    cases hNone
  · obtain rfl := Option.some.inj (hId.symm.trans hSome)
    exact ((kept_settled api store id).upheld.persist _).imp
      (fun _ _ => Cursor.settled_settle (Cursor.settled_acknowledge_self _ id)) (fun _ _ h => h) fun _ h => h

/-- A call that hands out no message with this id. -/
def Withholds (id : Int) (outcome : Channel.Outcome) : Prop :=
  ∀ messages, outcome.messages? = some messages → ∀ m ∈ messages, ackId? m.updateId ≠ some id

/-- A batch hands out no message for a settled id. -/
theorem withholds_intake (h : feed.cursor.Settled id) (batch : List Json.Fields) :
    ∀ m ∈ (feed.intake batch).messages, ackId? m.updateId ≠ some id := by
  intro m hm hId
  obtain ⟨a, hIn, _, _, hOpen⟩ := feed.cursor.sourced_takeBatch _ m hm
  obtain ⟨raw, _, hMessage⟩ := List.mem_map.mp hIn
  have hRead := Update.ackId?_of_message hMessage
  obtain rfl : id = a := Option.some.inj (hId.symm.trans hRead)
  exact hOpen h

theorem withholds_of_none {outcome : Channel.Outcome} (h : outcome.messages? = none) : Withholds id outcome := by
  intro messages hSome
  rw [h] at hSome
  cases hSome

/-- A fetch withholds what is settled. -/
theorem ensures_fetch_withholds (api : BotApi (Process σ)) (store : Option (CursorStore (Process σ))) (id : Int) :
    Program.Ensures (fun feed _ => feed.cursor.Settled id) (channel api store).fetch
      (fun answer feed _ => Withholds id (.messages answer) ∧ feed.cursor.Settled id) fun _ => True := by
  intro feed
  apply Process.Ensures.of_fact fun _ h => h
  intro hSettled
  refine ensures_fetch (Q := fun answer feed _ => Withholds id (.messages answer) ∧ feed.cursor.Settled id)
    ((Process.ensures_trivial _).imp (fun _ _ => trivial) (fun _ _ h => h) fun _ h => h)
    (fun e _ _ => ⟨withholds_of_none rfl, hSettled⟩) fun batch => ?_
  refine ((kept_settled api store id).upheld.persist _).imp
    (fun _ _ => Cursor.settled_settle ((feed.cursor.from_takeBatch _).settled hSettled)) (fun r _ h => ⟨?_, h⟩)
    fun _ h => h
  cases hSaved : r.1 with
  | error e => exact withholds_of_none rfl
  | ok done =>
      intro messages hMessages
      obtain rfl : (feed.intake batch).messages = messages := by
        simpa [Except.map, Channel.Outcome.messages?] using hMessages
      exact withholds_intake hSettled batch

/-- So does every other call, which hands out nothing. -/
theorem ensures_perform_withholds (api : BotApi (Process σ)) (store : Option (CursorStore (Process σ))) (id : Int)
    (call : Channel.Call) :
    Program.Ensures (fun feed _ => feed.cursor.Settled id) (call.perform (channel api store))
      (fun r feed _ => Withholds id r ∧ feed.cursor.Settled id) fun _ => True := by
  have hOther : ∀ {α : Type} (run : Program Feed σ α) (outcome : α → Channel.Outcome),
      (∀ a, (outcome a).messages? = none) →
      Program.Ensures (fun feed _ => feed.cursor.Settled id) (do return outcome (← run))
        (fun _ feed _ => feed.cursor.Settled id) (fun _ => True) →
      Program.Ensures (fun feed _ => feed.cursor.Settled id) (do return outcome (← run))
        (fun r feed _ => Withholds id r ∧ feed.cursor.Settled id) fun _ => True := by
    intro α run outcome hNone hKept
    have hRun : Program.Ensures (fun _ _ => True) run (fun _ _ _ => True) fun _ => True := fun feed =>
      Process.ensures_trivial (run feed)
    have hAll : Program.Ensures (fun _ _ => True) (do return outcome (← run)) (fun r _ _ => Withholds id r)
        fun _ => True :=
      hRun.bind fun a => Program.ensures_pure fun _ _ _ => withholds_of_none (hNone a)
    exact (hAll.and hKept).imp (fun _ _ h => ⟨trivial, h⟩) (fun _ _ _ h => h) fun _ _ => trivial
  have hKept := (kept_settled api store id).perform call
  cases call with
  | fetch => exact (ensures_fetch_withholds api store id).bind fun _ => Program.ensures_pure fun _ _ h => h
  | send outbound => exact hOther _ _ (fun _ => rfl) hKept
  | acknowledge text => exact hOther _ _ (fun _ => rfl) hKept
  | drain => exact hOther _ _ (fun _ => rfl) hKept

/-- A file with a floor above an id. -/
def Passed (file : CursorFile) (id : Int) (tree : FileTree) : Prop :=
  ∃ floor, file.loaded tree = .ok (some floor) ∧ id < floor

/-- A feed that starts from a file with a floor above an id never hands out a message with this id. -/
theorem ensures_life_withholds (api : BotApi (Process (σ × Medium))) (file : CursorFile) (config : FeedConfig)
    (calls : List Channel.Call) (id : Int) :
    Process.Ensures (fun w : σ × Medium => Passed file id w.2.tree) (life api (some (fileStore file)) config calls)
      (fun r _ => ∀ outcomes feed, r = .ok (outcomes, feed) → ∀ outcome ∈ outcomes, Withholds id outcome)
      fun _ => True := by
  have hOpened : ∀ m : Medium, Passed file id m.tree →
      (opened config (file.loaded m.tree)).cursor.Settled id := by
    rintro m ⟨floor, hLoaded, hLt⟩
    rw [hLoaded]
    exact Or.inl (Cursor.isStale_iff.mpr ⟨floor, rfl, hLt⟩)
  have hStart : Process.Ensures (fun w : σ × Medium => Passed file id w.2.tree) (start (some (fileStore file)) config)
      (Started (fun feed _ => feed.cursor.Settled id) fun _ => True) fun _ => True :=
    ensures_start_fileStore (P := fun m => Passed file id m.tree) (I := fun feed _ => feed.cursor.Settled id)
      (R := fun _ => True) config (fun _ _ => trivial) hOpened
  refine (ensures_life hStart (Channel.ensures_performAll fun call _ =>
    ensures_perform_withholds api (some (fileStore file)) id call)).imp (fun _ h => h) (fun r _ h => ?_) fun _ h => h
  rintro outcomes feed rfl
  exact h.1

/-- With nothing waiting, everything that is settled lies below a floor that is in the file. -/
theorem Flushed.passed (h : Flushed file feed events m) (hUnfailed : Unfailed events)
    (hQuiet : feed.cursor.pending = ∅) (hSettled : feed.cursor.Settled id) (hId : id ≠ Text.maxSigned) :
    Passed file id m.tree := by
  have hStale : feed.cursor.isStale id = true :=
    hSettled.resolve_right fun hSeen =>
      hId (h.sound.quiet hQuiet id (Or.inl (Cursor.isSettled_iff.mp hSeen).1))
  obtain ⟨floor, hFloor, hLt⟩ := Cursor.isStale_iff.mp hStale
  have hSaved := h.saved hUnfailed
  cases hPersisted : feed.cursor.persisted with
  | none => simp [Cursor.unsaved?, hFloor, hPersisted] at hSaved
  | some saved =>
      have hLe : floor ≤ saved := by simpa [Cursor.unsaved?, hFloor, hPersisted] using hSaved
      exact ⟨saved, h.stored hUnfailed saved hPersisted, Int.lt_of_lt_of_le hLt hLe⟩

/-- An id that is acknowledged in one of the calls is settled after them. -/
theorem ensures_performAll_settled (api : BotApi (Process σ)) (store : Option (CursorStore (Process σ)))
    {text : String} (hId : ackId? text = some id) {calls : List Channel.Call} (hMem : .acknowledge text ∈ calls) :
    Program.Ensures (fun _ _ => True) (Channel.performAll (channel api store) calls)
      (fun _ feed _ => feed.cursor.Settled id) fun _ => True := by
  induction calls with
  | nil => exact absurd hMem List.not_mem_nil
  | cons call rest ih =>
      rcases List.mem_cons.mp hMem with rfl | hLater
      · have hCall : Program.Ensures (fun _ _ => True)
            (Channel.Call.perform (channel api store) (.acknowledge text))
            (fun _ feed _ => feed.cursor.Settled id) fun _ => True :=
          (ensures_acknowledge_settled api store hId).bind fun _ => Program.ensures_pure fun _ _ h => h
        exact hCall.bind fun _ => ((kept_settled api store id).performAll rest).bind fun _ =>
          Program.ensures_pure fun _ _ h => h
      · have hCall : Program.Ensures (fun _ _ => True) (call.perform (channel api store)) (fun _ _ _ => True)
            fun _ => True := fun feed => Process.ensures_trivial _
        exact hCall.bind fun _ => (ih hLater).bind fun _ => Program.ensures_pure fun _ _ h => h

/-- **Acknowledgements outlive the relay.** When no save has failed and nothing waits, a feed that is started from the
same file hands out no message that was acknowledged before, whatever the provider gives it and whatever becomes of its
own saves. -/
theorem withheld_after_restart {τ : Type} {api : BotApi (Process σ)} {next : BotApi (Process (τ × Medium))}
    {config config' : FeedConfig} {calls calls' : List Channel.Call} {w : σ × Medium} {j : Journaled (σ × Medium)}
    {v v' : τ × Medium} {outcomes outcomes' : List Channel.Outcome} {feed' : Feed} {text : String}
    (hLife : life ((api.lift Process.first).lift Journaled.lift) (some (journaledFile file)) config calls ⟨[], w⟩ =
      (some (.ok (outcomes, feed)), j))
    (hUnfailed : Unfailed j.events) (hQuiet : feed.cursor.pending = ∅) (hSame : v.2.tree = j.world.2.tree)
    (hAgain : life next (some (fileStore file)) config' calls' v = (some (.ok (outcomes', feed')), v'))
    (hMem : .acknowledge text ∈ calls) (hId : ackId? text = some id) (hNotLast : id ≠ Text.maxSigned) :
    ∀ outcome ∈ outcomes', Withholds id outcome := by
  have hCalls := ((upheld_flushed api file).performAll fun call (_ : call ∈ calls) _ _ _ _ => trivial).and
    (ensures_performAll_settled ((api.lift Process.first).lift Journaled.lift) (some (journaledFile file)) hId hMem)
  have hEnd := (ensures_life (ensures_start_flushed file config)
    (hCalls.imp (fun _ _ h => ⟨h, trivial⟩) (fun _ _ _ h => h) fun _ _ => trivial)).of_some trivial hLife
  have hPassed := hEnd.1.passed hUnfailed hQuiet hEnd.2 hNotLast
  rw [← hSame] at hPassed
  exact (ensures_life_withholds next file config' calls' id).of_some hPassed hAgain outcomes' feed' rfl

/-- A disk with an empty tree on which every change goes through. -/
def freshDisk : Medium := ⟨FileTree.empty, FileTree.grounded_empty, []⟩

/-- Fetch the update with the given id and acknowledge it. -/
def acknowledgedOnce (id : Int) :=
  life (((BotApi.constant [Update.plain id "hello"]).lift Process.first).lift Journaled.lift)
    (some (journaledFile (σ := Unit) ⟨"cursor.json"⟩)) {} [.fetch, .acknowledge (toString id)] ⟨[], (), freshDisk⟩

/-- Start again on the same file and fetch the same update. -/
def fetchedAgain (id : Int) :=
  life ((BotApi.constant [Update.plain id "hello"]).lift Process.first) (some (fileStore ⟨"cursor.json"⟩)) {} [.fetch]
    (acknowledgedOnce id).2.world

/-- A message with an ordinary id is not handed out again. -/
theorem seven_withheld_after_restart : ∃ outcomes feed, (fetchedAgain 7).1 = some (.ok (outcomes, feed)) ∧
    ∀ outcome ∈ outcomes, Withholds 7 outcome := by
  have hFirst : (acknowledgedOnce 7).1.any (fun r => r.toOption.any fun result =>
      decide (result.2.cursor.pending = ∅)) = true := by decide +kernel
  obtain ⟨⟨outcomes, feed⟩, hLife, hQuiet⟩ := exists_ok_of_any hFirst
  have hSecond : (fetchedAgain 7).1.any (fun r => r.toOption.any fun _ => true) = true := by decide +kernel
  obtain ⟨⟨outcomes', feed'⟩, hAgain, _⟩ := exists_ok_of_any hSecond
  have hUnfailed : Unfailed (acknowledgedOnce 7).2.events := by decide +kernel
  have hMem : Channel.Call.acknowledge (toString (7 : Int)) ∈ [.fetch, .acknowledge (toString (7 : Int))] :=
    List.mem_cons_of_mem _ List.mem_cons_self
  have hRange : InRange 7 := by simp [InRange, Text.maxSigned]
  have hNotLast : (7 : Int) ≠ Text.maxSigned := by simp [Text.maxSigned]
  refine ⟨outcomes', feed', hAgain, ?_⟩
  have hFirstRun : acknowledgedOnce 7 = (some (.ok (outcomes, feed)), (acknowledgedOnce 7).2) :=
    Process.run_of_fst hLife
  have hSecondRun : fetchedAgain 7 = (some (.ok (outcomes', feed')), (fetchedAgain 7).2) :=
    Process.run_of_fst hAgain
  -- the world between the two lives is left as it is, not computed
  generalize hBetween : (acknowledgedOnce 7).2 = j at hFirstRun hUnfailed
  generalize (fetchedAgain 7).2 = v at hSecondRun
  rw [fetchedAgain, hBetween] at hSecondRun
  exact withheld_after_restart hFirstRun hUnfailed (of_decide_eq_true hQuiet) rfl hSecondRun hMem
    (ackId?_toString hRange) hNotLast

/-- The greatest id of all is handed out again, although it was acknowledged and nothing waits. -/
theorem greatest_id_handed_out_again :
    (acknowledgedOnce Text.maxSigned).1.any (fun r => r.toOption.any fun result =>
      decide (result.2.cursor.pending = ∅)) = true ∧
    Unfailed (acknowledgedOnce Text.maxSigned).2.events ∧
    (fetchedAgain Text.maxSigned).1.any (fun r => r.toOption.any fun result =>
      result.1.map (fun outcome => outcome.messages?.map fun messages => messages.map Inbound.updateId) ==
        [some [toString Text.maxSigned]]) = true := by
  decide +kernel

end Feed

end ChatRelay
