import ChatRelay.Proofs.CursorFile.Atomic
import ChatRelay.Proofs.Feed.Durable

/-!
The floor in memory and the floor in the file. Saves may start to fail and stop again, and a feed that is not strict
goes on without them. It still never takes a floor for saved that a load would not give, and what could not be saved
is tried again in every call that settles the floor.
-/

namespace ChatRelay

namespace CursorFile

open Cursor (InRange)

variable {file : CursorFile} {tree tree' : FileTree} {floor : Int}

/-- A save that fails does not stand in the way of a load. -/
theorem Abandoned.loaded (h : Abandoned file tree tree') (hLoaded : file.loaded tree = .ok (some floor)) :
    file.loaded tree' = .ok (some floor) := by
  obtain ⟨content, hFind, hFloor⟩ := find_of_loaded hLoaded
  obtain ⟨hResolve, hNode, hFits⟩ := FileTree.find_eq_ok hFind
  have hAgain := FileTree.resolve_of_directories h.directories hResolve
  have hThere : tree'.node? file.path.place = some (.file content) := by
    refine h.kept _ _ (fun beside hBeside => ?_) hNode
    obtain ⟨name, hName, rfl⟩ := Option.map_eq_some_iff.mp hBeside
    exact (place_beside hName).symm
  exact loaded_of_find (FileTree.find_of_file hAgain hThere (hFits (by simp))) hFloor

/-- After a save, a load gives the floor that was saved, or what it gave before if the save failed. -/
theorem ensures_save_kept (file : CursorFile) (tree : FileTree) (hFloor : InRange floor) :
    Process.Ensures (fun m => m.tree = tree) (file.save Medium.plainDisk floor)
      (Tried (fun m => file.loaded m.tree = .ok (some floor)) fun m =>
        ∀ old, file.loaded tree = .ok (some old) → file.loaded m.tree = .ok (some old)) fun _ => True := by
  refine ((file.ensures_save_atomic tree hFloor).tried (fun m h => h.1) (fun m h old hOld => h.loaded hOld)
    fun _ _ => trivial).imp (fun m hm => ?_) (fun _ _ h => h) fun _ h => h
  rw [hm]
  exact FileTree.Grown.refl

end CursorFile

namespace Channel

/-- A fetch or an acknowledgement. -/
def Call.movesFloor : Call → Bool
  | .fetch | .acknowledge _ => true
  | .send _ | .drain => false

def Outcome.failed : Outcome → Bool
  | .messages (.error _) | .done (.error _) => true
  | _ => false

end Channel

namespace Feed

variable {σ : Type}

/-- The store of a file on a disk that does no more harm than it reports, with a journal of its saves. -/
def plainFile (file : CursorFile) : CursorStore (Process (Journaled (σ × Medium))) :=
  (((file.store Medium.plainDisk).lift Process.second).lift Journaled.lift).watched Journaled.note

/-- A floor that counts as saved is what a load of the file gives. -/
structure Mirrored (file : CursorFile) (feed : Feed) (m : Medium) : Prop where
  sound : feed.cursor.Sound
  stored : ∀ floor, feed.cursor.persisted = some floor → file.loaded m.tree = .ok (some floor)

/-- How a feed comes out of saving its floor: there was nothing to save, or it was tried. -/
inductive Persists (feed : Feed) (events : List Event) : Except Error Unit → Feed → List Event → Prop where
  | idle (hSaved : feed.cursor.unsaved? = none) : Persists feed events (.ok ()) feed events
  | tried {floor : Int} (hUnsaved : feed.cursor.unsaved? = some floor) (r : Except StoreError Unit)
      (hSave : ∀ e, r = .error e → e.fault = .saveIo) :
      Persists feed events (feed.afterSave floor r).1 (feed.afterSave floor r).2 (events ++ [.saved floor r])

variable {file : CursorFile} {feed : Feed} {m m' : Medium} {events : List Event} {floor : Int}

/-- What the file mirrors does not depend on the ids of the feed. -/
theorem Mirrored.of_persisted {feed' : Feed} (h : Mirrored file feed m) (hSound : feed'.cursor.Sound)
    (hSame : feed'.cursor.persisted = feed.cursor.persisted) : Mirrored file feed' m :=
  ⟨hSound, fun floor hFloor => h.stored floor (hSame ▸ hFloor)⟩

theorem mirrored_opened (file : CursorFile) (config : FeedConfig) (m : Medium) :
    Mirrored file (opened config (file.loaded m.tree)) m :=
  ⟨sound_opened file config m, (flushed_opened file config [] m).stored fun _ he => absurd he List.not_mem_nil⟩

/-- After a save the feed mirrors the file, whether it succeeded or not. -/
theorem Mirrored.afterSave (h : Mirrored file feed m) (hUnsaved : feed.cursor.unsaved? = some floor)
    {r : Except StoreError Unit}
    (hSave : Tried (fun m' : Medium => file.loaded m'.tree = .ok (some floor)) (fun m' : Medium =>
      ∀ old, file.loaded m.tree = .ok (some old) → file.loaded m'.tree = .ok (some old)) r m') :
    Mirrored file (feed.afterSave floor r).2 m' := by
  refine ⟨sound_afterSave h.sound hUnsaved r, fun found hFound => ?_⟩
  cases r with
  | ok done =>
      cases hFound
      exact hSave
  | error e => exact hSave found (h.stored found hFound)

/-- Step of a call: a save on a plain disk, which fails without harm and with one kind of fault. -/
theorem ensures_save_mirrored (h : Mirrored file feed m) (hUnsaved : feed.cursor.unsaved? = some floor) :
    Process.Ensures (fun j : Journaled (σ × Medium) => j.events = events ∧ j.world.2 = m) ((plainFile file).save floor)
      (fun r j => (Mirrored file (feed.afterSave floor r).2 j.world.2 ∧ ∀ e, r = .error e → e.fault = .saveIo) ∧
        j.events = events ++ [.saved floor r]) fun _ => True := by
  have hRange := h.sound.floor_inRange floor (floor_of_unsaved? hUnsaved)
  have hSave : ∀ seen : List Event, Process.Ensures (fun n : Medium => seen = events ∧ n = m)
      (file.save Medium.plainDisk floor) (fun r n => (Mirrored file (feed.afterSave floor r).2 n ∧
        ∀ e, r = .error e → e.fault = .saveIo) ∧ seen = events) fun _ => True := by
    intro seen
    refine (((file.ensures_save_kept m.tree hRange).and (file.ensures_save Medium.plainDisk hRange.1)).and
      (Process.ensures_fact (seen = events) _)).imp (fun n hn => ⟨⟨by rw [hn.2], trivial⟩, hn.1⟩)
      (fun r n hn => ⟨⟨h.afterSave hUnsaved hn.1.1, hn.1.2⟩, hn.2⟩) fun _ _ => trivial
  refine (ensures_onFile hSave).bind fun r => ?_
  refine Process.Ensures.bind (Q := fun _ j => (Mirrored file (feed.afterSave floor r).2 j.world.2 ∧
    ∀ e, r = .error e → e.fault = .saveIo) ∧ j.events = events ++ [.saved floor r]) (fun j hj => ?_)
    fun _ => Process.ensures_pure fun _ hj => hj
  refine ⟨hj.1, ?_⟩
  rw [← hj.2]
  rfl

/-- Saving the floor keeps memory and file in step. -/
theorem ensures_persist_mirrored (h : Mirrored file feed m) :
    Process.Ensures (fun j : Journaled (σ × Medium) => j.events = events ∧ j.world.2 = m)
      (feed.persist (some (plainFile file)))
      (fun r j => Mirrored file r.2 j.world.2 ∧ Persists feed events r.1 r.2 j.events) fun _ => True := by
  refine ensures_persist (Q := fun answer after (j : Journaled (σ × Medium)) => Mirrored file after j.world.2 ∧
    Persists feed events answer after j.events) (fun hIdle j hj => ?_) fun floor s hStore hUnsaved => ?_
  · have hSaved := hIdle.resolve_right fun hNone => by cases hNone
    rw [hj.1, hj.2]
    exact ⟨h, .idle hSaved⟩
  · cases hStore
    refine (ensures_save_mirrored h hUnsaved).imp (fun _ hj => hj) (fun r j hj => ?_) fun _ hj => hj
    rw [hj.2]
    exact ⟨hj.1.1, .tried hUnsaved r hj.1.2⟩

/-- All calls keep it. -/
theorem kept_mirrored (api : BotApi (Process σ)) (file : CursorFile) :
    Kept ((api.lift Process.first).lift Journaled.lift) (some (plainFile file))
      (fun feed j => Mirrored file feed j.world.2) fun _ => True := by
  constructor
  case asked => exact fun feed => ensures_apart (fun _ => Mirrored file feed) (api.getUpdates feed.request)
  case sent => exact fun feed request => ensures_apart (fun _ => Mirrored file feed) (api.sendMessage request)
  case taken =>
    exact fun feed batch j h => h.of_persisted (sound_taking h.sound batch) (feed.persisted_taking batch)
  case acknowledged =>
    exact fun feed id j hRange h =>
      h.of_persisted (sound_acknowledging h.sound hRange) (feed.persisted_acknowledging id)
  case drained => exact fun feed j h => ⟨h.sound, h.stored⟩
  case saved =>
    intro feed floor s hStore hUnsaved
    cases hStore
    intro j hj
    exact ((ensures_save_mirrored hj hUnsaved).imp (fun _ h => h) (fun _ _ h => h.1.1) fun _ h => h) j ⟨rfl, rfl⟩

/-- And the start of a feed establishes it. -/
theorem ensures_start_mirrored (file : CursorFile) (config : FeedConfig) :
    Process.Ensures (fun _ : Journaled (σ × Medium) => True) (start (some (plainFile file)) config)
      (Started (fun feed j => Mirrored file feed j.world.2) fun _ => True) fun _ => True := by
  refine ensures_start (fun _ _ => trivial) (fun hNone => by cases hNone) fun s hStore => ?_
  cases hStore
  have hLoad : ∀ _ : List Event, Process.Ensures (fun _ => True) (file.load Medium.plainDisk)
      (fun r m => Mirrored file (opened config r) m ∧ True) fun _ => True := by
    intro _ m _
    have hEq : file.load Medium.plainDisk m = (some (file.loaded m.tree), m) := file.load_eq m
    rw [hEq]
    exact ⟨mirrored_opened file config m, trivial⟩
  exact ensures_onFile hLoad

/-- How many failed saves the feed has on record. -/
def saveErrors (feed : Feed) : Nat := feed.notes.countP fun d => d.code = .cursorSaveError

/-- A feed that has moved on without any word from the store. -/
structure Advances (feed next : Feed) : Prop where
  sound : next.cursor.Sound
  persisted_eq : next.cursor.persisted = feed.cursor.persisted
  floor_le : feed.cursor.floor ≤ next.cursor.floor
  config_eq : next.config = feed.config
  saveErrors_eq : next.saveErrors = feed.saveErrors

/-- Taking a batch moves a feed on without any word from the store. -/
theorem advances_taking (h : feed.cursor.Sound) (batch : List Json.Fields) :
    Advances feed (feed.taking batch).settled where
  sound := sound_taking h batch
  persisted_eq := feed.persisted_taking batch
  floor_le := feed.floor_le_taking batch
  config_eq := rfl
  saveErrors_eq := by
    have hOther : (feed.intake batch).notes.countP (fun d => d.code = .cursorSaveError) = 0 := by
      rw [List.countP_eq_zero]
      intro d hd
      simp [Cursor.code_of_takeBatch _ _ d hd]
    change (feed.notes ++ (feed.intake batch).notes).countP _ = _
    rw [List.countP_append, hOther]
    rfl

/-- So does taking an acknowledgement. -/
theorem advances_acknowledging (h : feed.cursor.Sound) {id : Int} (hRange : Cursor.InRange id) :
    Advances feed (feed.acknowledging id).settled :=
  ⟨sound_acknowledging h hRange, feed.persisted_acknowledging id, feed.floor_le_acknowledging id, rfl, rfl⟩

/-- What could not be saved is still to be saved after a move. -/
theorem Advances.unsaved? {next : Feed} (h : Advances feed next) (hUnsaved : feed.cursor.unsaved? = some floor) :
    next.cursor.unsaved? ≠ none := by
  have hFloor := floor_of_unsaved? hUnsaved
  have hLe := h.floor_le
  rw [hFloor] at hLe
  simp only [Cursor.unsaved?, h.persisted_eq]
  simp only [Cursor.unsaved?, hFloor] at hUnsaved
  cases hNext : next.cursor.floor with
  | none => simp [hNext] at hLe
  | some high =>
      have hLe : floor ≤ high := by simpa [hNext] using hLe
      cases hSaved : feed.cursor.persisted with
      | none => simp
      | some saved =>
          have hLow : ¬ floor ≤ saved := by simpa [hSaved] using hUnsaved
          simp only
          rw [if_neg (by omega)]
          simp

/-- With nothing left to save, the whole floor counts as saved. -/
theorem persisted_of_saved (h : feed.cursor.Sound) (hSaved : feed.cursor.unsaved? = none) :
    feed.cursor.persisted = feed.cursor.floor := by
  have hLe := h.persisted_le
  simp only [Cursor.unsaved?] at hSaved
  cases hFloor : feed.cursor.floor with
  | none =>
      cases hPersisted : feed.cursor.persisted with
      | none => rfl
      | some saved => simp [hFloor, hPersisted] at hLe
  | some floor =>
      cases hPersisted : feed.cursor.persisted with
      | none => simp [hFloor, hPersisted] at hSaved
      | some saved =>
          have hHigh : floor ≤ saved := by simpa [hFloor, hPersisted] using hSaved
          have hLow : saved ≤ floor := by simpa [hFloor, hPersisted] using hLe
          congr 1
          omega

/-- A call that settles the floor: a fetch whose batch comes, or an acknowledgement with a usable id. -/
def Settling (api : BotApi (Process σ)) (feed : Feed) (w : σ) : Channel.Call → Prop
  | .fetch => ∃ batch, (api.getUpdates feed.request w).1 = some (.ok batch)
  | .acknowledge text => ∃ id, ackId? text = some id
  | .send _ | .drain => False

/-- How a feed comes out of a call. -/
inductive Comes (api : BotApi (Process σ)) (feed : Feed) (w : σ) (events : List Event) (call : Channel.Call) :
    Channel.Outcome → Feed → List Event → Prop where
  | past {outcome : Channel.Outcome} {after : Feed} (hNot : ¬ Settling api feed w call)
      (hSame : after.cursor = feed.cursor) (hFailed : call.movesFloor = true → outcome.failed = true) :
      Comes api feed w events call outcome after events
  | settled {next after : Feed} {r : Except Error Unit} {outcome : Channel.Outcome} {events' : List Event}
      (hSettling : Settling api feed w call) (hNext : Advances feed next)
      (hPersists : Persists next events r after events') (hOutcome : outcome.failed = !r.toBool) :
      Comes api feed w events call outcome after events'

/-- What the provider answers. Neither the journal nor the disk learns of it. -/
theorem ensures_answer {α : Type} (run : Process σ α) (j₀ : Journaled (σ × Medium)) :
    Process.Ensures (fun j => j = j₀) (Journaled.lift run.first)
      (fun a j => (run j₀.world.1).1 = some a ∧ j.events = j₀.events ∧ j.world.2 = j₀.world.2) fun _ => True := by
  intro j hj
  simp only [Journaled.lift, Process.zoom, Process.first, hj]
  cases (run j₀.world.1).1 with
  | none => trivial
  | some a => exact ⟨rfl, rfl, rfl⟩

variable {j₀ : Journaled (σ × Medium)}

/-- How a feed comes out of a fetch. -/
theorem ensures_fetch_comes (api : BotApi (Process σ)) (h : Mirrored file feed j₀.world.2) :
    Process.Ensures (fun j => j = j₀)
      ((channel ((api.lift Process.first).lift Journaled.lift) (some (plainFile file))).fetch feed)
      (fun r j => Comes api feed j₀.world.1 j₀.events .fetch (.messages r.1) r.2 j.events) fun _ => True := by
  refine ensures_fetch (Q := fun answer after (j : Journaled (σ × Medium)) =>
    Comes api feed j₀.world.1 j₀.events .fetch (.messages answer) after j.events)
    (ensures_answer (api.getUpdates feed.request) j₀) (fun e j hj => ?_) fun batch => ?_
  · rw [hj.2.1]
    refine .past ?_ rfl fun _ => rfl
    rintro ⟨batch, hAnswer⟩
    cases hj.1.symm.trans hAnswer
  · apply Process.Ensures.of_fact (fun _ hj => hj.1)
    intro hAnswer
    have hTaken := h.of_persisted (sound_taking h.sound batch) (feed.persisted_taking batch)
    refine (ensures_persist_mirrored hTaken).imp (fun _ hj => hj.2) (fun r j hj => ?_) fun _ hj => hj
    refine .settled ⟨batch, hAnswer⟩ (advances_taking h.sound batch) hj.2 ?_
    cases r.1 <;> rfl

/-- How a feed comes out of an acknowledgement. -/
theorem ensures_acknowledge_comes (api : BotApi (Process σ)) (h : Mirrored file feed j₀.world.2) (text : String) :
    Process.Ensures (fun j => j = j₀)
      ((channel ((api.lift Process.first).lift Journaled.lift) (some (plainFile file))).acknowledge text feed)
      (fun r j => Comes api feed j₀.world.1 j₀.events (.acknowledge text) (.done r.1) r.2 j.events) fun _ => True := by
  refine ensures_acknowledge (Q := fun answer after (j : Journaled (σ × Medium)) =>
    Comes api feed j₀.world.1 j₀.events (.acknowledge text) (.done answer) after j.events)
    (fun hNone j hj => ?_) fun id hId => ?_
  · rw [hj]
    refine .past ?_ rfl fun _ => rfl
    rintro ⟨id, hId⟩
    cases hNone.symm.trans hId
  · have hRange := inRange_of_ackId? hId
    have hTaken := h.of_persisted (sound_acknowledging h.sound hRange) (feed.persisted_acknowledging id)
    refine (ensures_persist_mirrored hTaken).imp (fun j hj => by rw [hj]; exact ⟨rfl, rfl⟩) (fun r j hj => ?_)
      fun _ hj => hj
    refine .settled ⟨id, hId⟩ (advances_acknowledging h.sound hRange) hj.2 ?_
    cases r.1 <;> rfl

/-- How a feed comes out of any call. -/
theorem ensures_perform_comes (api : BotApi (Process σ)) (h : Mirrored file feed j₀.world.2) (call : Channel.Call) :
    Program.Ensures (fun s j => s = feed ∧ j = j₀)
      (call.perform (channel ((api.lift Process.first).lift Journaled.lift) (some (plainFile file))))
      (fun outcome after j => Comes api feed j₀.world.1 j₀.events call outcome after j.events) fun _ => True := by
  have hFrom : ∀ {α : Type} {run : Program Feed (Journaled (σ × Medium)) α}
      {Q : α → Feed → Journaled (σ × Medium) → Prop},
      Process.Ensures (fun j => j = j₀) (run feed) (fun r => Q r.1 r.2) (fun _ => True) →
      Program.Ensures (fun s j => s = feed ∧ j = j₀) run Q fun _ => True := by
    intro α run Q hRun s
    apply Process.Ensures.of_fact (fun _ hj => hj.1)
    rintro rfl
    exact hRun.imp (fun _ hj => hj.2) (fun _ _ hj => hj) fun _ hj => hj
  have hSilent : ∀ {outcome : Channel.Outcome} {after : Feed} (j : Journaled (σ × Medium)), j.events = j₀.events →
      ¬ Settling api feed j₀.world.1 call → call.movesFloor = false → after.cursor = feed.cursor →
      Comes api feed j₀.world.1 j₀.events call outcome after j.events := by
    intro outcome after j hSame hNot hStill hCursor
    rw [hSame]
    exact .past hNot hCursor fun hMoves => by rw [hStill] at hMoves; cases hMoves
  cases call with
  | fetch => exact (hFrom (ensures_fetch_comes api h)).bind fun _ => Program.ensures_pure fun _ _ hj => hj
  | acknowledge text =>
      exact (hFrom (ensures_acknowledge_comes api h text)).bind fun _ => Program.ensures_pure fun _ _ hj => hj
  | send outbound =>
      refine Program.Ensures.bind (Q := fun _ after (j : Journaled (σ × Medium)) =>
        j.events = j₀.events ∧ after.cursor = feed.cursor) (hFrom ?_) fun answer =>
        Program.ensures_pure fun _ j hj => hSilent j hj.1 not_false rfl hj.2
      exact ensures_send (Q := fun _ after (j : Journaled (σ × Medium)) =>
        j.events = j₀.events ∧ after.cursor = feed.cursor)
        (ensures_answer (api.sendMessage outbound.request) j₀) (fun _ _ hj => ⟨hj.2.1, rfl⟩) fun _ _ hj => ⟨hj.2.1, rfl⟩
  | drain =>
      refine Program.Ensures.bind (Q := fun _ after (j : Journaled (σ × Medium)) =>
        j.events = j₀.events ∧ after.cursor = feed.cursor) (hFrom ?_) fun notes =>
        Program.ensures_pure fun _ j hj => hSilent j hj.1 not_false rfl hj.2
      exact Process.ensures_pure fun j hj => ⟨by rw [hj], rfl⟩

/-- A floor that could not be saved shows in the answer of a strict feed, and in the notes of any other. -/
theorem Persists.unsaved?_eq_none {r : Except Error Unit} {after : Feed} {events' : List Event}
    (h : Persists feed events r after events') (hOk : r = .ok ())
    (hQuiet : after.saveErrors = feed.saveErrors ∨ feed.config.strict = true) : after.cursor.unsaved? = none := by
  cases h with
  | idle hSaved => exact hSaved
  | @tried floor hUnsaved saved hSave =>
      cases saved with
      | ok done => exact unsaved?_afterSave hUnsaved
      | error e =>
          have hNote : (storeNote e).code = .cursorSaveError := by
            simp [storeNote, hSave e rfl, StoreFault.isLoad]
          rcases hQuiet with hSame | hStrict
          · change (feed.notes ++ [storeNote e]).countP _ = feed.notes.countP _ at hSame
            simp [List.countP_append, hNote] at hSame
          · simp [Feed.afterSave, storeOutcome, hStrict] at hOk

/-- What follows a call that settles the floor: all of it was saved before, or one save is tried. -/
theorem Persists.tried_or_saved {next : Feed} {r : Except Error Unit} {after : Feed} {events' : List Event}
    (h : Persists next events r after events') (hNext : Advances feed next) :
    (feed.cursor.unsaved? = none ∧ after.cursor.unsaved? = none ∧ events' = events) ∨
      ∃ floor saved, feed.cursor.floor ≤ some floor ∧ after.cursor.floor = some floor ∧
        events' = events ++ [.saved floor saved] ∧
        after.cursor.unsaved? = if saved.toBool then none else some floor := by
  cases h with
  | idle hSaved =>
      refine Or.inl ⟨?_, hSaved, rfl⟩
      cases hUnsaved : feed.cursor.unsaved? with
      | none => rfl
      | some floor => exact absurd hSaved (hNext.unsaved? hUnsaved)
  | @tried floor hUnsaved saved =>
      have hFloor := floor_of_unsaved? hUnsaved
      refine Or.inr ⟨floor, saved, hFloor ▸ hNext.floor_le, ?_, rfl, ?_⟩
      · rw [floor_afterSave, hFloor]
      · cases saved with
        | ok done => exact unsaved?_afterSave hUnsaved
        | error e => exact hUnsaved

/-- **Memory and file do not drift apart in silence.** Take a feed with a cursor file that nobody else touches, after
any calls, while saves failed or went well in any order. After the next call, a floor that counts as saved is what a
load gives. When a fetch or an acknowledgement went well and left no note of a failed save, the whole floor is what
a load gives, and for a strict feed the answer alone is enough. A floor that is not saved is saved by the next call
that settles the floor, with the floor as it is then, and it counts as saved when that save has gone well, not
before. No other call changes any of this. -/
theorem no_silent_divergence (api : BotApi (Process σ)) (file : CursorFile) (config : FeedConfig)
    (calls : List Channel.Call) (w : σ × Medium) {outcomes : List Channel.Outcome} {feed after : Feed}
    {j j' : Journaled (σ × Medium)} {call : Channel.Call} {outcome : Channel.Outcome}
    (hLife : life ((api.lift Process.first).lift Journaled.lift) (some (plainFile file)) config calls ⟨[], w⟩ =
      (some (.ok (outcomes, feed)), j))
    (hCall : call.perform (channel ((api.lift Process.first).lift Journaled.lift) (some (plainFile file))) feed j =
      (some (outcome, after), j')) :
    (∀ floor, after.cursor.persisted = some floor →
        (file.load Medium.plainDisk j'.world.2).1 = some (.ok (some floor))) ∧
      (call.movesFloor = true → outcome.failed = false →
        after.saveErrors = feed.saveErrors ∨ feed.config.strict = true →
        ∀ floor, after.cursor.floor = some floor →
          (file.load Medium.plainDisk j'.world.2).1 = some (.ok (some floor))) ∧
      (Settling api feed j.world.1 call →
        (feed.cursor.unsaved? = none ∧ after.cursor.unsaved? = none ∧ j'.events = j.events) ∨
          ∃ floor saved, feed.cursor.floor ≤ some floor ∧ after.cursor.floor = some floor ∧
            j'.events = j.events ++ [.saved floor saved] ∧
            after.cursor.unsaved? = if saved.toBool then none else some floor) ∧
      (¬ Settling api feed j.world.1 call → after.cursor = feed.cursor ∧ j'.events = j.events) := by
  have hLoad : ∀ m, file.load Medium.plainDisk m = (some (file.loaded m.tree), m) := file.load_eq
  have hBefore : Mirrored file feed j.world.2 :=
    ((kept_mirrored api file).life (ensures_start_mirrored file config) calls).of_some trivial hLife
  have hAfter : Mirrored file after j'.world.2 := ((kept_mirrored api file).perform call feed).of_some hBefore hCall
  have hComes : Comes api feed j.world.1 j.events call outcome after j'.events :=
    (ensures_perform_comes api hBefore call feed).of_some ⟨rfl, rfl⟩ hCall
  rw [hLoad]
  generalize j'.events = events' at hComes ⊢
  refine ⟨fun floor hFloor => congrArg some (hAfter.stored floor hFloor), ?_, ?_, ?_⟩
  · intro hMoves hOk hQuiet floor hFloor
    cases hComes with
    | past _ _ hFailed =>
        rw [hFailed hMoves] at hOk
        cases hOk
    | @settled next _ r _ _ _ hNext hPersists hOutcome =>
        have hDone : r = .ok () := by
          cases r with
          | ok done => rfl
          | error e =>
              rw [hOutcome] at hOk
              cases hOk
        rw [← hNext.saveErrors_eq, ← hNext.config_eq] at hQuiet
        have hAll := persisted_of_saved hAfter.sound (hPersists.unsaved?_eq_none hDone hQuiet)
        exact congrArg some (hAfter.stored floor (hAll.trans hFloor))
  · intro hSettling
    cases hComes with
    | past hNot => exact absurd hSettling hNot
    | settled _ hNext hPersists => exact hPersists.tried_or_saved hNext
  · intro hNot
    cases hComes with
    | past _ hSame => exact ⟨hSame, rfl⟩
    | settled hSettling => exact absurd hSettling hNot

/-- A disk on which the first change fails, and no other. -/
def failingOnce : Medium := ⟨FileTree.empty, FileTree.grounded_empty, [some ⟨some .notFound, 0⟩]⟩

/-- The channel of a feed on such a disk, with a provider that keeps giving one message. -/
def givingSeven : Channel (Program Feed (Journaled (Unit × Medium))) :=
  channel (((BotApi.constant [Update.plain 7 "hello"]).lift Process.first).lift Journaled.lift)
    (some (plainFile ⟨"cursor.json"⟩))

/-- The life of a feed that could not save the floor of its first fetch. -/
def fetchedUnsaved :=
  life (((BotApi.constant [Update.plain 7 "hello"]).lift Process.first).lift Journaled.lift)
    (some (plainFile (σ := Unit) ⟨"cursor.json"⟩)) {} [.fetch] ⟨[], (), failingOnce⟩

/-- The floor is still to be saved after the failure, and the next fetch saves it though it has not moved. -/
theorem saved_by_next_fetch :
    ∃ outcomes feed, fetchedUnsaved.1 = some (.ok (outcomes, feed)) ∧ feed.cursor.unsaved? = some 7 ∧
      ∃ outcome after, (Channel.Call.perform givingSeven .fetch feed fetchedUnsaved.2).1 = some (outcome, after) ∧
        after.cursor.unsaved? = none ∧
        (CursorFile.load Medium.plainDisk ⟨"cursor.json"⟩
          (Channel.Call.perform givingSeven .fetch feed fetchedUnsaved.2).2.world.2).1 = some (.ok (some 7)) := by
  have hFirst : fetchedUnsaved.1.any (fun r => r.toOption.any fun result =>
      decide (result.2.cursor.unsaved? = some 7 ∧
        ((Channel.Call.perform givingSeven .fetch result.2 fetchedUnsaved.2).1.map
          fun r => (r.2.cursor.unsaved?, r.2.cursor.persisted)) = some (none, some 7))) = true := by
    decide +kernel
  obtain ⟨⟨outcomes, feed⟩, hLife, hEnd⟩ := exists_ok_of_any hFirst
  obtain ⟨hUnsaved, hSecond⟩ := of_decide_eq_true hEnd
  obtain ⟨⟨outcome, after⟩, hCall, hAfter⟩ := Option.map_eq_some_iff.mp hSecond
  refine ⟨outcomes, feed, hLife, hUnsaved, outcome, after, hCall, congrArg Prod.fst hAfter, ?_⟩
  exact (no_silent_divergence (BotApi.constant [Update.plain 7 "hello"]) ⟨"cursor.json"⟩ {} [.fetch] ((), failingOnce)
    (Process.run_of_fst hLife) (Process.run_of_fst hCall)).1 7 (congrArg Prod.snd hAfter)

end Feed

end ChatRelay
