import ChatRelay.Disk.FileTree
import ChatRelay.Proofs.CursorFile.Text
import ChatRelay.Proofs.Feed.Calls
import ChatRelay.Proofs.Journal

/-!
The invariant of the cursor in the life of a feed. It holds after every sequence of calls, whatever the
provider answers, whatever the disk does, and whatever the calls come back with. So the floor is never
negative, and the store has no reason to refuse one.
-/

namespace ChatRelay

open Cursor (InRange)

namespace CursorFile

variable {σ : Type}

/-- A load gives no floor out of range. -/
theorem ensures_load (file : CursorFile) (disk : Disk (Process σ)) :
    Process.Ensures (fun _ => True) (file.load disk)
      (fun r _ => ∀ floor, r = .ok (some floor) → InRange floor) fun _ => True := by
  apply (Process.ensures_trivial _).bind
  intro found
  cases found with
  | false => exact Process.ensures_pure fun _ _ floor h => by cases h
  | true =>
      apply (Process.ensures_trivial _).bind
      intro content
      cases content with
      | error fault => exact Process.ensures_pure fun _ _ floor h => by cases h
      | ok text => exact Process.ensures_pure fun _ _ floor h => inRange_of_decode h

/-- A floor that is not negative is not refused, though the disk may fail. -/
theorem ensures_save (file : CursorFile) (disk : Disk (Process σ)) {floor : Int} (h : 0 ≤ floor) :
    Process.Ensures (fun _ => True) (file.save disk floor)
      (fun r _ => ∀ e, r = .error e → e.fault = .saveIo) fun _ => True := by
  simp only [save]
  rw [if_neg (Int.not_lt.mpr h)]
  apply (Process.ensures_trivial _).bind
  intro r
  cases r with
  | ok done => exact Process.ensures_pure fun _ _ e he => by cases he
  | error fault =>
      apply Process.ensures_pure
      intro _ _ e he
      cases he
      rfl

/-- The store of a file on a disk, with a journal of its saves. -/
def journaledStore (file : CursorFile) (disk : Disk (Process σ)) : CursorStore (Process (Journaled σ)) :=
  ((file.store disk).lift Journaled.lift).watched Journaled.note

end CursorFile

/-- No save is answered with the refusal of a negative floor. -/
def neverRefused (_ : List Event) (e : Event) : Prop :=
  ∀ floor err, e = .saved floor (.error err) → err.fault ≠ .saveFloor

namespace Feed

/-- What is to be saved is the floor. -/
theorem floor_of_unsaved? {c : Cursor} {floor : Int} (h : c.unsaved? = some floor) : c.floor = some floor := by
  simp only [Cursor.unsaved?] at h
  cases hFloor : c.floor with
  | none => simp [hFloor] at h
  | some f =>
      rw [hFloor] at h
      cases hSaved : c.persisted with
      | none => simpa [hSaved] using h
      | some saved =>
          simp only [hSaved] at h
          split at h
          · cases h
          · exact h

variable {σ : Type}

/-- A batch leaves a sound cursor ready. -/
theorem ready_taking {feed : Feed} (h : feed.cursor.Sound) (batch : List Json.Fields) :
    (feed.taking batch).cursor.Ready := by
  apply h.ready.takeBatch
  intro update hMem id hId
  obtain ⟨raw, _, rfl⟩ := List.mem_map.mp hMem
  exact Update.inRange_of_id? hId

/-- Step of a run: a batch. -/
theorem sound_taking {feed : Feed} (h : feed.cursor.Sound) (batch : List Json.Fields) :
    (feed.taking batch).settled.cursor.Sound := (ready_taking h batch).sound_settle

/-- Step of a run: an acknowledgement. -/
theorem sound_acknowledging {feed : Feed} (h : feed.cursor.Sound) {id : Int} (hId : InRange id) :
    (feed.acknowledging id).settled.cursor.Sound :=
  (h.ready.acknowledge hId).sound_settle

/-- Step of a run: a save, whether or not it succeeds. -/
theorem sound_afterSave {feed : Feed} (h : feed.cursor.Sound) {floor : Int}
    (hUnsaved : feed.cursor.unsaved? = some floor) (r : Except StoreError Unit) :
    (feed.afterSave floor r).2.cursor.Sound := by
  cases r with
  | ok done => exact h.saved (floor_of_unsaved? hUnsaved)
  | error e => exact h

/-- The invariant of the cursor, and a journal without a refused floor. -/
def Clean (feed : Feed) (events : List Event) : Prop := feed.cursor.Sound ∧ Legal neverRefused events

/-- All calls keep it: no save is refused for its floor. -/
theorem kept_clean (api : BotApi (Process σ)) (file : Option CursorFile) (disk : Disk (Process σ)) :
    Kept (api.lift Journaled.lift) (file.map fun f => f.journaledStore disk)
      (fun feed j => Clean feed j.events) fun j => Legal neverRefused j.events := by
  have hOutside : ∀ {α : Type} (feed : Feed) (run : Process σ α),
      Process.Ensures (fun j => Clean feed j.events) (Journaled.lift run) (fun _ j => Clean feed j.events)
        fun j => Legal neverRefused j.events := fun feed run =>
    Journaled.ensures_lift_keep (fun _ h => h.2) run
  constructor
  case asked => exact fun feed => hOutside feed _
  case sent => exact fun feed request => hOutside feed _
  case taken => exact fun feed batch j h => ⟨sound_taking h.1 batch, h.2⟩
  case acknowledged => exact fun feed id j hId h => ⟨sound_acknowledging h.1 hId, h.2⟩
  case drained => exact fun feed j h => h
  case saved =>
    intro feed floor s hStore hUnsaved
    obtain ⟨f, _, rfl⟩ := Option.map_eq_some_iff.mp hStore
    apply Process.Ensures.of_fact (F := feed.cursor.Sound) (fun _ h => h.1)
    intro hSound
    have hLow := (hSound.floor_inRange floor (floor_of_unsaved? hUnsaved)).1
    refine ((Journaled.ensures_lift (f.ensures_save disk hLow) fun events => Legal neverRefused events).imp
      (fun _ h => h.2) (fun _ _ h => h) fun _ h => h).bind fun r => ?_
    refine Process.Ensures.bind (fun j hj => ?_) fun _ => Process.ensures_pure fun _ hj => hj
    refine ⟨sound_afterSave hSound hUnsaved r, hj.2.snoc ?_⟩
    intro n e he
    injection he with _ hr
    rw [hj.1 e hr]
    decide

/-- Run lemma: a whole life, from its start on. -/
theorem ensures_life_clean (api : BotApi (Process σ)) (file : Option CursorFile) (disk : Disk (Process σ))
    (config : FeedConfig) (calls : List Channel.Call) :
    Process.Ensures (fun j => j.events = [])
      (life (api.lift Journaled.lift) (file.map fun f => f.journaledStore disk) config calls)
      (fun r => Started (fun feed j => Clean feed j.events) (fun j => Legal neverRefused j.events) (r.map Prod.snd))
      fun j => Legal neverRefused j.events := by
  have hLegal : ∀ j : Journaled σ, j.events = [] → Legal neverRefused j.events := fun j hj => by
    rw [hj]
    exact legal_nil
  refine (kept_clean api file disk).life (ensures_start hLegal (fun _ j hj => ?_) fun s hStore => ?_) calls
  · exact ⟨Cursor.sound_start fun f hf => (by cases hf), hLegal j hj⟩
  · obtain ⟨f, _, rfl⟩ := Option.map_eq_some_iff.mp hStore
    refine (Journaled.ensures_lift (f.ensures_load disk) fun events => events = []).imp
      (fun _ h => h) (fun r j h => ?_) hLegal
    refine ⟨⟨?_, hLegal j h.2⟩, hLegal j h.2⟩
    cases r with
    | ok floor => exact Cursor.sound_start fun f hf => h.1 f (by rw [hf])
    | error e => exact Cursor.sound_start fun f hf => by cases hf

/-- **The cursor is sound after every sequence of calls.** The calls may fail, and then the next one finds the
cursor sound as well. No save is refused for its floor, not even in a call that is cut off. -/
theorem life_sound (api : BotApi (Process σ)) (file : Option CursorFile) (disk : Disk (Process σ))
    (config : FeedConfig) (calls : List Channel.Call) (w : σ) :
    let run := life (api.lift Journaled.lift) (file.map fun f => f.journaledStore disk) config calls ⟨[], w⟩
    Legal neverRefused run.2.events ∧
      ∀ outcomes feed, run.1 = some (.ok (outcomes, feed)) → feed.cursor.Sound := by
  have h := ensures_life_clean api file disk config calls
  refine ⟨?_, fun outcomes feed hEnd => ?_⟩
  · refine (h.imp (fun _ hj => hj) (fun r j hj => ?_) fun _ hj => hj).always rfl
    cases r with
    | error e => exact hj
    | ok result => exact hj.2
  · exact ((h.at_end rfl).1 _ hEnd).1

/-- A message that is fetched and acknowledged leaves a sound cursor behind it. -/
theorem life_sound_of_one_message :
    let run := life ((BotApi.constant (m := Process FileTree) [Update.plain 7 "hello"]).lift Journaled.lift)
      ((some ⟨"cursor.json"⟩ : Option CursorFile).map fun f =>
        f.journaledStore (FileTree.disk.lift Process.ofState))
      {} [.fetch, .acknowledge "7"] ⟨[], FileTree.empty⟩
    ∃ outcomes feed, run.1 = some (.ok (outcomes, feed)) ∧ feed.cursor.persisted = some 8 ∧
      feed.cursor.Sound := by
  intro run
  have hEnd : (run.1.map fun r => r.toOption.map fun result => result.2.cursor.persisted) =
      some (some (some 8)) := by
    decide +kernel
  obtain ⟨r, hRun, hr⟩ := Option.map_eq_some_iff.mp hEnd
  cases r with
  | error e => cases hr
  | ok result =>
      obtain ⟨outcomes, feed⟩ := result
      refine ⟨outcomes, feed, hRun, ?_, (life_sound _ _ _ _ _ _).2 outcomes feed hRun⟩
      simpa [Except.toOption] using hr

end Feed

end ChatRelay
