import ChatRelay.Proofs.Cursor.Released
import ChatRelay.Proofs.CursorFile.Room
import ChatRelay.Proofs.Cycle.Effect
import ChatRelay.Proofs.Feed.Mirrored

/-!
The order of acknowledgements does not matter, and neither does a repetition. On the way the floor may rise at other
times and to other heights, and other floors may be saved. In the end the feed is the same, and so is the content of
the file, which is the last floor that was saved.
-/

namespace ChatRelay

/-- The content of a file whose saved floor was `old` in a tree and is another one now. -/
def CursorFile.contentSince (file : CursorFile) (tree : FileTree) (old saved : Option Int) : Option ByteArray :=
  if saved = old then file.contentIn tree else saved.map fun floor => (encode floor).toUTF8

namespace Feed

variable (api : BotApi (StateM FileTree)) {file : Option CursorFile} {before feed : Feed} {tree now : FileTree}
  {done : List Int} {text : String} {texts : List String} {id : Int}

/-- The floor that was saved last and the file, seen from the feed and the tree before some acknowledgements. -/
structure Stored (before : Feed) (tree : FileTree) (done : List Int) (feed : Feed) (now : FileTree)
    (file : CursorFile) : Prop where
  saveable : file.Saveable now
  saved : done ≠ [] → feed.cursor.persisted = feed.cursor.floor
  content : file.contentIn now = file.contentSince tree before.cursor.persisted feed.cursor.persisted

/-- A feed and a tree after the acknowledgements of some ids. -/
structure Released (file : Option CursorFile) (before : Feed) (tree : FileTree) (done : List Int) (feed : Feed)
    (now : FileTree) : Prop where
  cursor : Cursor.Released before.cursor done feed.cursor
  config_eq : feed.config = before.config
  notes_eq : feed.notes = before.notes
  raised : before.cursor.persisted ≤ feed.cursor.persisted
  unstored : file = none → feed.cursor.persisted = before.cursor.persisted
  stored : ∀ f ∈ file, Stored before tree done feed now f

/-- Before the first acknowledgement the file is as it was. -/
theorem released_nil (h : before.cursor.Sound) (hSaves : ∀ f ∈ file, f.Saveable tree) :
    Released file before tree [] before tree where
  cursor := h.released
  config_eq := rfl
  notes_eq := rfl
  raised := Cursor.floor_le_refl _
  unstored _ := rfl
  stored f hFile := ⟨hSaves f hFile, fun hNe => absurd rfl hNe, by simp [CursorFile.contentSince]⟩

/-- The account of an acknowledgement before its save. -/
theorem Released.settled (h : Released file before tree done feed now) (hStart : before.cursor.Sound)
    (hId : Cursor.InRange id) (hFloor : ∀ f ∈ file, (feed.acknowledging id).settled.cursor.unsaved? = none) :
    Released file before tree (done ++ [id]) (feed.acknowledging id).settled now where
  cursor := h.cursor.acknowledge hStart hId
  config_eq := h.config_eq
  notes_eq := h.notes_eq
  raised := persisted_acknowledging feed id ▸ h.raised
  unstored hNone := (persisted_acknowledging feed id).trans (h.unstored hNone)
  stored f hFile :=
    { saveable := (h.stored f hFile).saveable
      saved := fun _ => persisted_of_saved (h.cursor.acknowledge hStart hId).sound (hFloor f hFile)
      content := (persisted_acknowledging feed id).symm ▸ (h.stored f hFile).content }

/-- A floor that is to be saved is above the one that was saved before. -/
theorem not_le_of_unsaved? {c : Cursor} {floor : Int} (h : c.unsaved? = some floor) : ¬ some floor ≤ c.persisted := by
  have hFloor := floor_of_unsaved? h
  simp only [Cursor.unsaved?, hFloor] at h
  cases hSaved : c.persisted with
  | none => simp
  | some saved => simpa [hSaved] using h

/-- An acknowledgement succeeds, and it keeps to the account. -/
theorem Released.acknowledge (h : Released file before tree done feed now) (hStart : before.cursor.Sound)
    (hId : ackId? text = some id) :
    ∃ after next, (channel api (file.map fun f => f.store FileTree.disk)).acknowledge text feed now =
        ((.ok (), after), next) ∧ Released file before tree (done ++ [id]) after next := by
  have hRange := inRange_of_ackId? hId
  have hCursor := h.cursor.acknowledge hStart hRange
  have hPersisted := persisted_acknowledging feed id
  rw [acknowledge_of_id hId]
  cases hUnsaved : (feed.acknowledging id).settled.cursor.unsaved? with
  | none =>
      rw [persist_of_saved hUnsaved]
      exact ⟨_, now, rfl, h.settled hStart hRange fun _ _ => hUnsaved⟩
  | some floor =>
      cases file with
      | none =>
          rw [Option.map_none, persist_none]
          exact ⟨_, now, rfl, h.settled hStart hRange fun _ hFile => by cases hFile⟩
      | some f =>
          have hFloor := floor_of_unsaved? hUnsaved
          have hStored := h.stored f rfl
          obtain ⟨next, hSave, hSaveable, hContent⟩ :=
            hStored.saveable.save (hCursor.sound.floor_inRange floor hFloor).1
          rw [Option.map_some, persist_of_unsaved hUnsaved]
          refine ⟨((feed.acknowledging id).settled.afterSave floor (.ok ())).2, next, bind_of_run _ hSave, ?_⟩
          have hRaised : before.cursor.persisted ≤ (feed.acknowledging id).settled.cursor.persisted :=
            hPersisted ▸ h.raised
          have hHigh : before.cursor.persisted ≤ some floor := by
            rw [← hFloor]
            exact Cursor.floor_le_trans hRaised hCursor.sound.persisted_le
          have hNew : some floor ≠ before.cursor.persisted := fun hEq =>
            not_le_of_unsaved? hUnsaved (hEq ▸ hRaised)
          exact {
            cursor := hCursor.saved hFloor
            config_eq := h.config_eq
            notes_eq := h.notes_eq
            raised := hHigh
            unstored := fun hNone => by cases hNone
            stored := fun other hOther => by
              cases hOther
              exact ⟨hSaveable, fun _ => hFloor.symm, hContent.trans (if_neg hNew).symm⟩ }

/-- And so does every sequence of them. -/
theorem Released.performAll (h : Released file before tree done feed now) (hStart : before.cursor.Sound)
    (hAccepted : ∀ text ∈ texts, (ackId? text).isSome) :
    ∃ after next, Channel.performAll (channel api (file.map fun f => f.store FileTree.disk))
        (texts.map .acknowledge) feed now = ((texts.map fun _ => .done (.ok ()), after), next) ∧
      Released file before tree (done ++ texts.filterMap ackId?) after next := by
  induction texts generalizing done feed now with
  | nil => exact ⟨feed, now, rfl, by simpa using h⟩
  | cons text rest ih =>
      obtain ⟨id, hId⟩ := Option.isSome_iff_exists.mp (hAccepted text List.mem_cons_self)
      obtain ⟨mid, middle, hRun, hMid⟩ := h.acknowledge api hStart hId
      obtain ⟨after, next, hRest, hAfter⟩ := ih hMid fun text hMem => hAccepted text (List.mem_cons_of_mem _ hMem)
      have hFirst : Channel.Call.perform (channel api (file.map fun f => f.store FileTree.disk)) (.acknowledge text)
          feed now = ((.done (.ok ()), mid), middle) := run_return Channel.Outcome.done hRun
      refine ⟨after, next, ?_, ?_⟩
      · rw [List.map_cons, Channel.performAll_cons hFirst, hRest]
        rfl
      · rw [List.filterMap_cons_some hId]
        simpa using hAfter

/-- Acknowledgements of the same ids leave the same feed and the same content behind. -/
theorem Released.unique {done' : List Int} {feed' : Feed} {now' : FileTree}
    (h : Released file before tree done feed now) (h' : Released file before tree done' feed' now')
    (hStart : before.cursor.Sound) (hSame : ∀ id, id ∈ done ↔ id ∈ done') (hSome : done ≠ []) :
    feed = feed' ∧ ∀ f ∈ file, f.contentIn now = f.contentIn now' := by
  have hSome' := Cursor.ne_nil_of_same hSame hSome
  have hCursor := h.cursor.unique h'.cursor hStart hSame hSome
  have hFloor : feed.cursor.floor = feed'.cursor.floor := by rw [← hCursor]
  have hPersisted : feed.cursor.persisted = feed'.cursor.persisted := by
    cases hFile : file with
    | none => rw [h.unstored hFile, h'.unstored hFile]
    | some f => rw [(h.stored f hFile).saved hSome, (h'.stored f hFile).saved hSome', hFloor]
  refine ⟨?_, fun f hFile => ?_⟩
  · rw [← hPersisted] at hCursor
    have hConfig := h.config_eq.trans h'.config_eq.symm
    have hNotes := h.notes_eq.trans h'.notes_eq.symm
    cases feed
    cases feed'
    exact Feed.mk.injEq _ _ _ _ _ _ ▸ ⟨hConfig, hCursor, hNotes⟩
  · rw [(h.stored f hFile).content, (h'.stored f hFile).content, hPersisted]

/-- Accepted texts name ids, so that without ids there are no texts. -/
theorem eq_nil_of_accepted (hAccepted : ∀ text ∈ texts, (ackId? text).isSome) (h : texts.filterMap ackId? = []) :
    texts = [] := by
  refine List.eq_nil_iff_forall_not_mem.mpr fun text hMem => ?_
  have hSome := hAccepted text hMem
  rw [List.filterMap_eq_nil_iff.mp h text hMem] at hSome
  cases hSome

/-- **Acknowledgements commute.** From every feed that calls lead to, and without a store or with a file that can be
saved, let some ids be acknowledged in two ways: in any two orders, each id as often as one likes, in any texts that
name it, and whether it waits or was ever seen. Each acknowledgement succeeds, and both ways end in the same feed, with
the same seen, waiting and settled ids, the same floor, saved floor and next offset. The content of the file is the
same as well. -/
theorem acknowledgements_commute {file : Option CursorFile} {before : Feed}
    {tree : FileTree} {texts texts' : List String} (hFeed : before.Reachable) (hSaves : ∀ f ∈ file, f.Saveable tree)
    (hAccepted : ∀ text ∈ texts ++ texts', (ackId? text).isSome)
    (hSame : ∀ id, id ∈ texts.filterMap ackId? ↔ id ∈ texts'.filterMap ackId?) :
    let acknowledge (texts : List String) :=
      Channel.performAll (channel api (file.map fun f => f.store FileTree.disk)) (texts.map .acknowledge)
    ∃ after now now',
      acknowledge texts before tree = ((texts.map fun _ => .done (.ok ()), after), now) ∧
      acknowledge texts' before tree = ((texts'.map fun _ => .done (.ok ()), after), now') ∧
      ∀ f ∈ file, f.contentIn now = f.contentIn now' := by
  intro acknowledge
  have hLeft : ∀ text ∈ texts, (ackId? text).isSome := fun text hMem => hAccepted text (List.mem_append_left _ hMem)
  have hRight : ∀ text ∈ texts', (ackId? text).isSome := fun text hMem => hAccepted text (List.mem_append_right _ hMem)
  have hStart := released_nil hFeed.sound hSaves
  obtain ⟨after, now, hRun, hAfter⟩ := hStart.performAll api hFeed.sound hLeft
  obtain ⟨after', now', hRun', hAfter'⟩ := hStart.performAll api hFeed.sound hRight
  by_cases hSome : texts.filterMap ackId? = []
  · -- without an acknowledgement nothing happens, in the one way and in the other
    have hNone : texts'.filterMap ackId? = [] :=
      List.eq_nil_iff_forall_not_mem.mpr fun id hId => by simpa [hSome] using (hSame id).mpr hId
    obtain rfl := eq_nil_of_accepted hLeft hSome
    obtain rfl := eq_nil_of_accepted hRight hNone
    exact ⟨before, tree, tree, rfl, rfl, fun _ _ => rfl⟩
  · obtain ⟨rfl, hContent⟩ := hAfter.unique hAfter' hFeed.sound (by simpa using hSame) (by simpa using hSome)
    exact ⟨after, now, now', hRun, hRun', hContent⟩

def stateFile : CursorFile := ⟨"state/cursor.json"⟩

/-- A feed that has handed out three messages, and the tree with its file. -/
def threeWaiting :=
  life (BotApi.constant (m := Process FileTree) [Update.plain 5 "a", Update.plain 7 "b", Update.plain 9 "c"])
    ((some stateFile).map fun f => f.store (FileTree.disk.lift Process.ofState)) {} [.fetch] FileTree.empty

/-- Acknowledgements on that tree. -/
def acknowledgedOnFile (texts : List String) :=
  Channel.performAll (channel (.constant []) ((some stateFile).map fun f => f.store FileTree.disk))
    (texts.map .acknowledge)

/-- From the last message to the first, or in order with repetitions, and with an id that was never fetched. -/
theorem acknowledgements_commute_of_three :
    ∃ outcomes before tree after now now', threeWaiting = (some (.ok (outcomes, before)), tree) ∧
      acknowledgedOnFile ["9", "12", " 7 ", "5"] before tree =
        ((List.replicate 4 (.done (.ok ())), after), now) ∧
      acknowledgedOnFile ["5", "+7", "5", "09", "007", "12"] before tree =
        ((List.replicate 6 (.done (.ok ())), after), now') ∧
      after.cursor.floor = some 13 ∧ stateFile.contentIn now = stateFile.contentIn now' := by
  have hLife : (threeWaiting.1.map fun r => r.toOption.map fun result =>
      ((acknowledgedOnFile ["9", "12", " 7 ", "5"] result.2 threeWaiting.2).1.2.cursor.floor,
        (stateFile.save FileTree.disk 0 threeWaiting.2).1.toOption)) = some (some (some 13, some ())) := by
    decide +kernel
  obtain ⟨r, hRun, hr⟩ := Option.map_eq_some_iff.mp hLife
  cases r with
  | error e => cases hr
  | ok result =>
      obtain ⟨outcomes, before⟩ := result
      obtain ⟨hFloor, hSave⟩ : (acknowledgedOnFile ["9", "12", " 7 ", "5"] before threeWaiting.2).1.2.cursor.floor =
          some 13 ∧ (stateFile.save FileTree.disk 0 threeWaiting.2).1.toOption = some () := by
        simpa [Except.toOption] using hr
      have hBegin : threeWaiting = (some (.ok (outcomes, before)), threeWaiting.2) := Process.run_of_fst hRun
      have hFeed : before.Reachable :=
        ⟨FileTree, _, some stateFile, FileTree.disk.lift Process.ofState, {}, [.fetch], outcomes, FileTree.empty,
          threeWaiting.2, hBegin⟩
      have hSaves : ∀ f ∈ some stateFile, f.Saveable threeWaiting.2 := by
        intro f hFile
        cases hFile
        exact ⟨0, eq_ok_of_toOption hSave⟩
      have hIds : ∀ id, id ∈ ["9", "12", " 7 ", "5"].filterMap ackId? ↔
          id ∈ ["5", "+7", "5", "09", "007", "12"].filterMap ackId? := by
        have hLeft : ["9", "12", " 7 ", "5"].filterMap ackId? = [9, 12, 7, 5] := by decide +kernel
        have hRight : ["5", "+7", "5", "09", "007", "12"].filterMap ackId? = [5, 7, 5, 9, 7, 12] := by decide +kernel
        intro id
        rw [hLeft, hRight]
        simp only [List.mem_cons, List.not_mem_nil, or_false]
        omega
      obtain ⟨after, now, now', hBackwards, hRepeated, hContent⟩ :=
        acknowledgements_commute (.constant []) hFeed hSaves (by decide +kernel) hIds
      have hBackwards : acknowledgedOnFile ["9", "12", " 7 ", "5"] before threeWaiting.2 = _ := hBackwards
      rw [hBackwards] at hFloor
      exact ⟨outcomes, before, _, after, now, now', hBegin, hBackwards, hRepeated, hFloor, hContent stateFile rfl⟩

end Feed

end ChatRelay
