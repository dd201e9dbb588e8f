import ChatRelay.Proofs.CursorFile.Save
import ChatRelay.Proofs.Feed.Monotone
import ChatRelay.Proofs.Feed.Soundness
import ChatRelay.Proofs.Site

/-!
The floor in the file across restarts. A feed that is up is never behind the file, because it started from
what the file holds and only rises. Every save puts in the floor of the feed that makes it, so the floor in
the file rises as well, through failing saves and restarts.
-/

namespace ChatRelay.Feed

open Cursor (InRange)

variable {σ : Type}

/-- The store of a file on a disk that can fail. The provider has a part of the world to itself. -/
def fileStore (file : CursorFile) : CursorStore (Process (σ × Medium)) :=
  (file.store Medium.disk).lift Process.second

/-- The file holds at least `low`, and a feed that is up is not behind it. -/
structure Ahead (file : CursorFile) (low : Option Int) (feed : Feed) (m : Medium) : Prop where
  sound : feed.cursor.Sound
  low_le : low ≤ file.floorIn m.tree
  floorIn_le : file.floorIn m.tree ≤ feed.cursor.floor

variable {file : CursorFile} {low : Option Int} {feed feed' : Feed} {m : Medium}

/-- A rising floor keeps ahead of the file. -/
theorem Ahead.raise (h : Ahead file low feed m) (hSound : feed'.cursor.Sound)
    (hRaise : feed.cursor.floor ≤ feed'.cursor.floor) : Ahead file low feed' m :=
  ⟨hSound, h.low_le, Cursor.floor_le_trans h.floorIn_le hRaise⟩

/-- A save leaves the old floor or the floor of the feed in the file, so that it is ahead as before. -/
theorem Ahead.between {floor : Int} (h : Ahead file low feed m) (hUnsaved : feed.cursor.unsaved? = some floor)
    {tree : FileTree} (hAfter : file.Between (file.floorIn m.tree) floor tree) :
    low ≤ file.floorIn tree ∧ file.floorIn tree ≤ feed.cursor.floor := by
  have hFloor := floor_of_unsaved? hUnsaved
  rcases hAfter with hOld | hNew
  · rw [hOld]
    exact ⟨h.low_le, h.floorIn_le⟩
  · rw [hNew, ← hFloor]
    exact ⟨Cursor.floor_le_trans h.low_le h.floorIn_le, Cursor.floor_le_refl _⟩

/-- All calls keep it, and the file never falls below the mark. -/
theorem kept_ahead (api : BotApi (Process σ)) (file : CursorFile) (low : Option Int) :
    Kept (api.lift Process.first) (some (fileStore file)) (fun feed w => Ahead file low feed w.2)
      fun w => low ≤ file.floorIn w.2.tree := by
  have hOutside : ∀ {α : Type} (feed : Feed) (run : Process σ α),
      Process.Ensures (fun w => Ahead file low feed w.2) run.first (fun _ w => Ahead file low feed w.2)
        fun w => low ≤ file.floorIn w.2.tree := fun feed run =>
    Process.ensures_first run (E := Ahead file low feed) fun _ h => h.low_le
  constructor
  case asked => exact fun feed => hOutside feed _
  case sent => exact fun feed request => hOutside feed _
  case taken =>
    exact fun feed batch w h => h.raise (sound_taking h.sound batch) (feed.floor_le_taking batch)
  case acknowledged =>
    exact fun feed id w hId h => h.raise (sound_acknowledging h.sound hId) (feed.floor_le_acknowledging id)
  case drained => exact fun feed w h => ⟨h.sound, h.low_le, h.floorIn_le⟩
  case saved =>
    intro feed floor s hStore hUnsaved
    cases hStore
    intro w hw
    have hRange := hw.sound.floor_inRange floor (floor_of_unsaved? hUnsaved)
    have hSave := file.ensures_save_between (file.floorIn w.2.tree) hRange
    refine (hSave.second.imp (fun _ h => h) (fun r w' h => ?_) fun w' h => ?_) w rfl
    · obtain ⟨hLow, hHigh⟩ := hw.between hUnsaved h
      refine ⟨sound_afterSave hw.sound hUnsaved r, hLow, ?_⟩
      rw [floor_afterSave]
      exact hHigh
    · exact (hw.between hUnsaved h).1

/-- The feed that a load leads to is sound, whatever the load gave. -/
theorem sound_opened (file : CursorFile) (config : FeedConfig) (m : Medium) :
    (opened config (file.loaded m.tree)).cursor.Sound := by
  cases hLoaded : file.loaded m.tree with
  | error e => exact Cursor.sound_start fun f hf => by cases hf
  | ok floor =>
      apply Cursor.sound_start
      intro f hf
      rw [hf] at hLoaded
      exact CursorFile.inRange_of_loaded hLoaded

/-- A feed starts from what the file holds, once its path is known to lead to a floor. -/
theorem ahead_opened (hUp : ".." ∉ file.path.names) {tree : FileTree} {seen : Int}
    (hOnce : file.loaded tree = .ok (some seen)) (hLow : low ≤ file.floorIn m.tree) (config : FeedConfig) :
    Ahead file low (opened config (file.loaded m.tree)) m := by
  refine ⟨sound_opened file config m, hLow, ?_⟩
  cases hFloor : file.floorIn m.tree with
  | none => simp
  | some floor =>
      rw [CursorFile.loaded_of_floorIn hUp hOnce m.grounded hFloor]
      exact Cursor.floor_le_refl _

/-- A feed that starts from a file begins with what a load of the file gives. -/
theorem ensures_start_fileStore {P R : Medium → Prop} {I : Feed → Medium → Prop} {stopped : σ × Medium → Prop}
    (config : FeedConfig) (hRefused : ∀ m, P m → R m)
    (hOpened : ∀ m, P m → I (opened config (file.loaded m.tree)) m) :
    Process.Ensures (fun w : σ × Medium => P w.2) (start (some (fileStore file)) config)
      (Started (fun feed w => I feed w.2) fun w => R w.2) stopped := by
  refine ensures_start (fun w => hRefused w.2) (fun hNone => by cases hNone) fun s hStore => ?_
  cases hStore
  have hLoad : Process.Ensures P (file.load Medium.disk) (fun r m => I (opened config r) m ∧ R m)
      fun _ => False := by
    intro m hm
    rw [CursorFile.load_eq]
    exact ⟨hOpened m hm, hRefused m hm⟩
  exact hLoad.second.imp (fun _ h => h) (fun _ _ h => h) fun _ h => h.elim

/-- A start after a load that succeeded once begins at the floor in the file. -/
theorem ensures_start_ahead (hUp : ".." ∉ file.path.names) {tree : FileTree} {seen : Int}
    (hOnce : file.loaded tree = .ok (some seen)) (low : Option Int) (config : FeedConfig) :
    Process.Ensures (fun w : σ × Medium => low ≤ file.floorIn w.2.tree) (start (some (fileStore file)) config)
      (Started (fun feed w => Ahead file low feed w.2) fun w => low ≤ file.floorIn w.2.tree)
      fun w => low ≤ file.floorIn w.2.tree :=
  ensures_start_fileStore config (fun _ h => h) fun _ h => ahead_opened hUp hOnce h config

/-- Once a floor was loaded, no later load gives less, whatever happens between the two. -/
theorem load_of_load (api : BotApi (Process σ)) (hUp : ".." ∉ file.path.names) (before after : List Act)
    (w : σ × Medium) {floor : Int} {s t : Site (σ × Medium)}
    (hBefore : s = Act.performAll (api.lift Process.first) (some (fileStore file)) before ⟨none, w⟩)
    (hAfter : t = Act.performAll (api.lift Process.first) (some (fileStore file)) after s)
    (hLoad : (file.load Medium.disk s.world.2).1 = some (.ok (some floor))) :
    ∃ later, (file.load Medium.disk t.world.2).1 = some (.ok (some later)) ∧ floor ≤ later := by
  rw [CursorFile.load_eq] at hLoad ⊢
  have hOnce : file.loaded s.world.2.tree = .ok (some floor) := Option.some.inj hLoad
  have hHolds : ∀ (low : Option Int) (acts : List Act) (start : Site (σ × Medium)),
      start.Holds (fun feed w => Ahead file low feed w.2) (fun w => low ≤ file.floorIn w.2.tree) →
      (Act.performAll (api.lift Process.first) (some (fileStore file)) acts start).Holds
        (fun feed w => Ahead file low feed w.2) fun w => low ≤ file.floorIn w.2.tree := fun low acts start h =>
    h.performAll (kept_ahead api file low) (fun _ _ h => h.low_le) (ensures_start_ahead hUp hOnce low) acts
  have hFloor := CursorFile.floorIn_of_loaded hOnce
  -- up to the first load nothing is known of the file, from then on it holds at least that floor
  have hFirst : s.Holds (fun feed w => Ahead file none feed w.2) fun w => none ≤ file.floorIn w.2.tree := by
    rw [hBefore]
    exact hHolds none before ⟨none, w⟩ (by simp [Site.Holds])
  have hSecond : s.Holds (fun feed w => Ahead file (some floor) feed w.2)
      fun w => some floor ≤ file.floorIn w.2.tree := by
    have hLow : some floor ≤ file.floorIn s.world.2.tree := by
      rw [hFloor]
      exact Cursor.floor_le_refl _
    simp only [Site.Holds] at hFirst ⊢
    split at hFirst
    · exact ⟨hFirst.sound, hLow, hFirst.floorIn_le⟩
    · exact hLow
  have hLast := (hHolds (some floor) after s hSecond).world fun _ _ h => h.low_le
  rw [← hAfter] at hLast
  cases hLater : file.floorIn t.world.2.tree with
  | none => simp [hLater] at hLast
  | some later =>
      rw [hLater] at hLast
      refine ⟨later, ?_, by simpa using hLast⟩
      rw [CursorFile.loaded_of_floorIn hUp hOnce t.world.2.grounded hLater]

/-- **The floor only rises.** In memory it does so for every provider, store and sequence of calls, and the
requests that are made follow it. In the file it does so across restarts, as long as its path does not lead
upwards. -/
theorem floor_rises (api : BotApi (Process σ)) :
    (∀ (store : Option (CursorStore (Process σ))) (calls : List Channel.Call) (feed after : Feed) (w : σ)
        (outcomes : List Channel.Outcome),
      (Channel.performAll (channel api store) calls feed w).1 = some (outcomes, after) →
        feed.cursor.floor ≤ after.cursor.floor) ∧
    (∀ (store : Option (CursorStore (Process σ))) (config : FeedConfig) (calls : List Channel.Call) (w : σ),
      Legal neverBack
        (life (journaledApi api) (store.map fun s => s.lift Journaled.lift) config calls ⟨[], w⟩).2.events) ∧
    ∀ (file : CursorFile) (before after : List Act) (w : σ × Medium) (s t : Site (σ × Medium)) (floor : Int),
      ".." ∉ file.path.names →
      s = Act.performAll (api.lift Process.first) (some (fileStore file)) before ⟨none, w⟩ →
      t = Act.performAll (api.lift Process.first) (some (fileStore file)) after s →
      (file.load Medium.disk s.world.2).1 = some (.ok (some floor)) →
        ∃ later, (file.load Medium.disk t.world.2).1 = some (.ok (some later)) ∧ floor ≤ later := by
  refine ⟨fun store calls feed after w outcomes hEnd => floor_le_performAll api store calls feed w hEnd,
    neverBack_life api, ?_⟩
  intro file before after w s t floor hUp hBefore hAfter hLoad
  exact load_of_load api hUp before after w hBefore hAfter hLoad

/-- A disk on which a save is cut off in the middle of writing, after one that went well. -/
def cutOff : Medium := ⟨FileTree.empty, FileTree.grounded_empty, List.replicate 7 none ++ [some ⟨none, 1⟩]⟩

/-- The relay that has fetched a message, with such a disk. -/
def beforeCut : Site (Unit × Medium) :=
  Act.performAll ((BotApi.constant [Update.plain 7 "hello"]).lift Process.first)
    (some (fileStore ⟨"state/cursor.json"⟩)) [.restart {}, .call .fetch] ⟨none, (), cutOff⟩

/-- The floor survives a save that is cut off and the restart after it. -/
theorem floor_rises_after_cutOff :
    ∃ later, (CursorFile.load Medium.disk ⟨"state/cursor.json"⟩
      (Act.performAll ((BotApi.constant [Update.plain 7 "hello"]).lift Process.first)
        (some (fileStore ⟨"state/cursor.json"⟩)) [.call (.acknowledge "7"), .restart {}, .call .fetch]
        beforeCut).world.2).1 = some (.ok (some later)) ∧ 7 ≤ later := by
  have hFloor : (CursorFile.load Medium.disk ⟨"state/cursor.json"⟩ beforeCut.world.2).1.bind Except.toOption =
      some (some 7) := by
    decide +kernel
  obtain ⟨r, hLoad, hOk⟩ := Option.bind_eq_some_iff.mp hFloor
  rw [eq_ok_of_toOption hOk] at hLoad
  exact (floor_rises (BotApi.constant [Update.plain 7 "hello"])).2.2 ⟨"state/cursor.json"⟩
    [.restart {}, .call .fetch] [.call (.acknowledge "7"), .restart {}, .call .fetch] ((), cutOff) beforeCut _ 7
    (by decide +kernel) rfl rfl hLoad

end ChatRelay.Feed
