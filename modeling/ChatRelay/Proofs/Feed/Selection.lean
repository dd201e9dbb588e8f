import Mathlib.Data.List.Basic
import Mathlib.Data.List.Induction
import ChatRelay.Proofs.Cursor.Intake
import ChatRelay.Proofs.Feed.Calls

/-!
Which messages of a batch a fetch hands out, said of the cursor before the batch. Taking a batch changes the
sets that it looks at. Still every update is judged as if it were by the cursor at the start, because the first
occurrence of an id decides and only the occurrences of an id can change what is known of it.
-/

namespace ChatRelay

namespace Update

/-- The usable ids of a batch, each one where it occurs first. -/
def ids (batch : List Update) : List Int := (batch.filterMap id?).eraseDups

/-- The updates of a batch that are the first ones with their id, in the order of the batch. -/
def firsts (batch : List Update) : List Update :=
  (ids batch).filterMap fun id => batch.find? fun update => update.id? == some id

end Update

namespace Cursor

/-- Whether the message of an update is to be handed out, as far as its id goes: the id is not below the floor,
and it was not seen or still waits. -/
def isOpen (c : Cursor) (update : Update) : Bool :=
  update.id?.any fun id => (c.floor.all fun floor => floor ≤ id) && !(id ∈ c.seen && id ∉ c.pending)

/-- The messages of the first updates that are open. -/
def selection (c : Cursor) (batch : List Update) : List Inbound :=
  ((Update.firsts batch).filter c.isOpen).filterMap Update.inbound?

/-- One note for each id below the floor: a drop of the update with that id. -/
def staleNotes (c : Cursor) (batch : List Update) : List Diagnostic :=
  match c.floor with
  | none => []
  | some floor => ((Update.ids batch).filter fun id => id < floor).map fun id =>
      { code := .staleDrop
        message := "dropped stale update " ++ toString id ++ " below committed floor " ++ toString floor
        updateId := some (toString id)
        chatId := none }

end Cursor

namespace Update

variable {batch : List Update} {update : Update} {id : Int}

theorem mem_ids : id ∈ ids batch ↔ ∃ update ∈ batch, update.id? = some id := by
  rw [ids, List.mem_eraseDups, List.mem_filterMap]

theorem ids_snoc_none (h : update.id? = none) : ids (batch ++ [update]) = ids batch := by
  simp [ids, h]

theorem ids_snoc_of_mem (h : update.id? = some id) (hOld : id ∈ ids batch) :
    ids (batch ++ [update]) = ids batch := by
  have hIn := mem_ids.1 hOld
  simp [ids, h, List.eraseDups_append, List.removeAll, hIn]

/-- A new id comes last. -/
theorem ids_snoc_of_not_mem (h : update.id? = some id) (hNew : id ∉ ids batch) :
    ids (batch ++ [update]) = ids batch ++ [id] := by
  have hOut : ∀ other ∈ batch, ¬ other.id? = some id := fun other hMem hId =>
    hNew (mem_ids.2 ⟨other, hMem, hId⟩)
  simp only [ids, List.filterMap_append, List.eraseDups_append, h, List.filterMap_cons, List.filterMap_nil]
  simp [List.removeAll, List.filter_cons, List.mem_filterMap, if_pos hOut]
  rfl

/-- Every id is listed once. -/
theorem nodup_ids (batch : List Update) : (ids batch).Nodup := by
  induction batch using List.reverseRecOn with
  | nil => exact List.nodup_nil
  | append_singleton batch update ih =>
      cases hId : update.id? with
      | none => rwa [ids_snoc_none hId]
      | some id =>
          by_cases hOld : id ∈ ids batch
          · rwa [ids_snoc_of_mem hId hOld]
          · rw [ids_snoc_of_not_mem hId hOld, List.nodup_append]
            refine ⟨ih, by simp, fun a ha b hb hEq => hOld ?_⟩
            rwa [← List.mem_singleton.1 hb, ← hEq]

/-- The first update with an id of a batch stays the first one when the batch goes on. -/
theorem firsts_eq_of_snoc :
    (ids batch).filterMap (fun id => (batch ++ [update]).find? fun other => other.id? == some id) =
      firsts batch := by
  refine List.filterMap_congr fun id hId => ?_
  obtain ⟨first, hMem, hFirst⟩ := mem_ids.1 hId
  rw [List.find?_append]
  cases hFound : batch.find? fun other => other.id? == some id with
  | some found => rfl
  | none =>
      have hNot := List.find?_eq_none.1 hFound first hMem
      simp [hFirst] at hNot

theorem firsts_snoc_none (h : update.id? = none) : firsts (batch ++ [update]) = firsts batch := by
  rw [firsts, ids_snoc_none h, firsts_eq_of_snoc]

theorem firsts_snoc_of_mem (h : update.id? = some id) (hOld : id ∈ ids batch) :
    firsts (batch ++ [update]) = firsts batch := by
  rw [firsts, ids_snoc_of_mem h hOld, firsts_eq_of_snoc]

/-- The first update with its id comes last among the first ones. -/
theorem firsts_snoc_of_not_mem (h : update.id? = some id) (hNew : id ∉ ids batch) :
    firsts (batch ++ [update]) = firsts batch ++ [update] := by
  have hNone : (batch.find? fun other => other.id? == some id) = none := by
    rw [List.find?_eq_none]
    intro other hMem hOther
    exact hNew (mem_ids.2 ⟨other, hMem, by simpa using hOther⟩)
  rw [firsts, ids_snoc_of_not_mem h hNew, List.filterMap_append, firsts_eq_of_snoc]
  simp [List.find?_append, hNone, h]

end Update

namespace Cursor

variable {c : Cursor} {batch : List Update} {update : Update} {id : Int}

/-- The test on an update says that its id is not settled. -/
theorem isOpen_iff (hId : update.id? = some id) : c.isOpen update = true ↔ ¬ c.Settled id := by
  have hFresh : (c.floor.all fun floor => floor ≤ id) = !c.isStale id := by
    cases hFloor : c.floor with
    | none => simp [isStale, hFloor]
    | some floor => simp [isStale, hFloor, ← decide_not]
  simp [isOpen, hId, hFresh, Settled, not_or, isSettled, imp_iff_not_or]

theorem selection_snoc_of_known (h : Update.firsts (batch ++ [update]) = Update.firsts batch) :
    c.selection (batch ++ [update]) = c.selection batch := by
  rw [selection, h, selection]

/-- Step of the selection: a settled id adds no message. -/
theorem selection_snoc_of_settled (hId : update.id? = some id) (hNew : id ∉ Update.ids batch)
    (hSettled : c.Settled id) : c.selection (batch ++ [update]) = c.selection batch := by
  have hClosed : c.isOpen update = false := by
    rw [← Bool.not_eq_true, isOpen_iff hId]
    exact not_not_intro hSettled
  rw [selection, Update.firsts_snoc_of_not_mem hId hNew, List.filter_append,
    List.filter_cons_of_neg (by simp [hClosed])]
  simp [selection]

/-- Step of the selection: the first update with an open id adds its message. -/
theorem selection_snoc_of_open (hId : update.id? = some id) (hNew : id ∉ Update.ids batch)
    (hOpen : ¬ c.Settled id) :
    c.selection (batch ++ [update]) = c.selection batch ++ update.inbound?.toList := by
  rw [selection, Update.firsts_snoc_of_not_mem hId hNew, List.filter_append,
    List.filter_cons_of_pos ((isOpen_iff hId).2 hOpen), List.filterMap_append]
  cases hInbound : update.inbound? <;> simp [selection, hInbound]

theorem staleNotes_snoc_of_known (h : Update.ids (batch ++ [update]) = Update.ids batch) :
    c.staleNotes (batch ++ [update]) = c.staleNotes batch := by
  rw [staleNotes, h, staleNotes]

/-- Step of the notes: a new id below the floor adds its note. -/
theorem staleNotes_snoc_of_stale (hId : update.id? = some id) (hNew : id ∉ Update.ids batch) {floor : Int}
    (hFloor : c.floor = some floor) (hStale : c.isStale id = true) :
    c.staleNotes (batch ++ [update]) = c.staleNotes batch ++ [staleNote id floor] := by
  have hBelow : id < floor := by simpa [isStale, hFloor] using hStale
  simp [staleNotes, staleNote, hFloor, Update.ids_snoc_of_not_mem hId hNew, hBelow]

/-- Step of the notes: any other id adds none. -/
theorem staleNotes_snoc_of_fresh (hId : update.id? = some id) (hNew : id ∉ Update.ids batch)
    (hFresh : c.isStale id = false) : c.staleNotes (batch ++ [update]) = c.staleNotes batch := by
  cases hFloor : c.floor with
  | none => simp [staleNotes, hFloor]
  | some floor =>
      have hNot : ¬ id < floor := by simpa [isStale, hFloor] using hFresh
      simp [staleNotes, hFloor, Update.ids_snoc_of_not_mem hId hNew, hNot]

end Cursor

namespace Intake

/-- What has come out of a batch is as the cursor at its start asks for. -/
structure Explained (c : Cursor) (batch : List Update) (s : Intake) : Prop where
  occurred : ∀ id, id ∈ s.occurred ↔ id ∈ Update.ids batch
  messages_eq : s.messages = c.selection batch
  notes_eq : s.notes = c.staleNotes batch

variable {c : Cursor} {batch : List Update} {s t : Intake} {update : Update} {id : Int}

theorem explained_start (c : Cursor) : Explained c [] { cursor := c } where
  occurred id := by simp [Update.ids]
  messages_eq := rfl
  notes_eq := by simp [Cursor.staleNotes, Update.ids]; cases c.floor <;> rfl

/-- An update without an id of its own changes neither the ids nor what comes out. -/
theorem Explained.known (h : Explained c batch s) (hIds : Update.ids (batch ++ [update]) = Update.ids batch)
    (hFirsts : Update.firsts (batch ++ [update]) = Update.firsts batch) (cursor : Cursor) :
    Explained c (batch ++ [update]) { s with cursor := cursor } where
  occurred id := by rw [hIds]; exact h.occurred id
  messages_eq := by rw [Cursor.selection_snoc_of_known hFirsts]; exact h.messages_eq
  notes_eq := by rw [Cursor.staleNotes_snoc_of_known hIds]; exact h.notes_eq

/-- A new id is added, and what comes out of its update is as it should be. -/
theorem Explained.new (h : Explained c batch s) (update : Update) (hId : update.id? = some id)
    (hNew : id ∉ Update.ids batch) {cursor : Cursor} {messages : List Inbound} {notes : List Diagnostic}
    (hMessages : messages = c.selection (batch ++ [update])) (hNotes : notes = c.staleNotes (batch ++ [update])) :
    Explained c (batch ++ [update])
      { cursor := cursor, occurred := s.occurred.insert id, messages := messages, notes := notes } where
  occurred other := by
    rw [Update.ids_snoc_of_not_mem hId hNew, IdSet.mem_insert, h.occurred]
    simp [or_comm]
  messages_eq := hMessages
  notes_eq := hNotes

/-- Step of an intake: whichever way an update is taken, what comes out is as the cursor at the start asks for. -/
theorem Explained.step (h : Explained c batch s) (hFrom : From c s) (hTaken : Taken s update t) :
    Explained c (batch ++ [update]) t := by
  have hNotIn {id : Int} (hNew : id ∉ s.occurred) : id ∉ Update.ids batch := fun hIn => hNew ((h.occurred id).2 hIn)
  cases hTaken with
  | unusable => exact h.known (Update.ids_snoc_none rfl) (Update.firsts_snoc_none rfl) _
  | repeated hId hOccurred =>
      have hOld := (h.occurred _).1 hOccurred
      exact h.known (Update.ids_snoc_of_mem hId hOld) (Update.firsts_snoc_of_mem hId hOld) _
  | @stale _ id floor hId hNew hFloor hStale =>
      have hStart : c.isStale id = true := (hFrom.isStale_eq id).symm.trans hStale
      refine h.new _ hId (hNotIn hNew) ?_ ?_
      · rw [Cursor.selection_snoc_of_settled hId (hNotIn hNew) (.inl hStart)]
        exact h.messages_eq
      · rw [Cursor.staleNotes_snoc_of_stale hId (hNotIn hNew) (hFrom.floor_eq.symm.trans hFloor) hStart,
          h.notes_eq]
  | @settled _ id hId hNew hFresh hSettled =>
      refine h.new _ hId (hNotIn hNew) ?_ ?_
      · rw [Cursor.selection_snoc_of_settled hId (hNotIn hNew) ((hFrom.settled_iff hNew).1 (.inr hSettled))]
        exact h.messages_eq
      · rw [Cursor.staleNotes_snoc_of_fresh hId (hNotIn hNew) ((hFrom.isStale_eq id).symm.trans hFresh)]
        exact h.notes_eq
  | @emitted id inbound hNew hFresh hOpen =>
      refine h.new (.message id inbound) rfl (hNotIn hNew) ?_ ?_
      · rw [Cursor.selection_snoc_of_open rfl (hNotIn hNew) (hFrom.not_settled hNew hFresh hOpen), h.messages_eq]
        rfl
      · rw [Cursor.staleNotes_snoc_of_fresh rfl (hNotIn hNew) ((hFrom.isStale_eq id).symm.trans hFresh)]
        exact h.notes_eq
  | @skipped id reason hNew hFresh hOpen =>
      refine h.new (.skipped id reason) rfl (hNotIn hNew) ?_ ?_
      · rw [Cursor.selection_snoc_of_open rfl (hNotIn hNew) (hFrom.not_settled hNew hFresh hOpen), h.messages_eq]
        exact (List.append_nil _).symm
      · rw [Cursor.staleNotes_snoc_of_fresh rfl (hNotIn hNew) ((hFrom.isStale_eq id).symm.trans hFresh)]
        exact h.notes_eq

end Intake

namespace Cursor

theorem takeBatch_snoc (c : Cursor) (batch : List Update) (update : Update) :
    c.takeBatch (batch ++ [update]) = (c.takeBatch batch).take update := by
  rw [takeBatch, List.foldl_append]
  rfl

/-- The messages and notes of a batch, by the cursor before it. -/
theorem explained_takeBatch (c : Cursor) (batch : List Update) : Intake.Explained c batch (c.takeBatch batch) := by
  induction batch using List.reverseRecOn with
  | nil => exact Intake.explained_start c
  | append_singleton batch update ih =>
      rw [takeBatch_snoc]
      exact ih.step (c.from_takeBatch batch) (Intake.taken_take _ update)

/-- Updates without an id can as well be left out. -/
theorem takeBatch_filter (c : Cursor) (batch : List Update) :
    c.takeBatch (batch.filter fun update => update.id?.isSome) = c.takeBatch batch := by
  rw [takeBatch, takeBatch, List.foldl_filter]
  congr 1
  funext s update
  cases hId : update.id? with
  | none => simp [Intake.take, hId]
  | some id => simp

end Cursor

namespace Feed

variable {σ : Type} {api : BotApi (StateM σ)} {store : Option (CursorStore (StateM σ))} {feed : Feed}

/-- A save that succeeds, if one is called for, records no note. -/
theorem persist_of_saves {w : σ}
    (hSave : ∀ s floor, store = some s → feed.cursor.unsaved? = some floor → (s.save floor w).1 = .ok ()) :
    ∃ (after : Feed) (w' : σ), feed.persist store w = ((.ok (), after), w') ∧ after.notes = feed.notes := by
  cases hUnsaved : feed.cursor.unsaved? with
  | none =>
      rw [persist_of_saved hUnsaved]
      exact ⟨feed, w, rfl, rfl⟩
  | some floor =>
      cases store with
      | none =>
          rw [persist_none]
          exact ⟨feed, w, rfl, rfl⟩
      | some s =>
          rw [persist_of_unsaved hUnsaved]
          have hRun : s.save floor w = (.ok (), (s.save floor w).2) := Prod.ext (hSave s floor rfl hUnsaved) rfl
          exact ⟨_, _, bind_of_run _ hRun, rfl⟩

/-- A fetch with an answer is a save, and gives the messages of the batch if that succeeds. -/
theorem fetch_of_answer {w w₁ : σ} {batch : List Json.Fields}
    (hAnswer : api.getUpdates feed.request w = (.ok batch, w₁)) :
    (channel api store).fetch feed w =
      (let r := (feed.taking batch).settled.persist store w₁
      ((r.1.1.map fun _ => (feed.intake batch).messages, r.1.2), r.2)) :=
  bind_of_run _ hAnswer

/-- Sending leaves the feed alone. -/
theorem send_of_answer {w w₁ : σ} {outbound : Outbound} {answer : Except ApiError Json.Fields}
    (hAnswer : api.sendMessage outbound.request w = (answer, w₁)) :
    (channel api store).send outbound feed w =
      (((answer.mapError ApiError.toError).map fun _ => (), feed), w₁) := by
  cases answer with
  | ok result => exact bind_of_run _ hAnswer
  | error e => exact bind_of_run _ hAnswer

/-- **A fetch hands out what the cursor before it asks for.** When the provider gives a batch and the save, if one
is called for, succeeds, the messages are those of the first updates with their ids, in the order of the batch, where
the id is not below the floor and was not seen or still waits. No two of them carry the same id. There is one new note
for each id below the floor, in the order in which the ids occur first. Updates without a usable id make no
difference at all: without them the answer, the feed and the world would be the same. -/
theorem fetch_selects {w w₁ : σ} {batch : List Json.Fields}
    (hAnswer : api.getUpdates feed.request w = (.ok batch, w₁))
    (hSave : ∀ s floor, store = some s → (feed.taking batch).settled.cursor.unsaved? = some floor →
      (s.save floor w₁).1 = .ok ()) :
    let updates := batch.map Update.ofJson
    ∃ (after : Feed) (w₂ : σ),
      (channel api store).fetch feed w = ((.ok (feed.cursor.selection updates), after), w₂) ∧
      after.notes = feed.notes ++ feed.cursor.staleNotes updates ∧
      ((feed.cursor.selection updates).map Inbound.updateId).Nodup ∧ (Update.ids updates).Nodup ∧
      ∀ api' : BotApi (StateM σ),
        api'.getUpdates feed.request w = (.ok (batch.filter fun raw => (Update.ofJson raw).id?.isSome), w₁) →
          (channel api' store).fetch feed w = (channel api store).fetch feed w := by
  intro updates
  have hExplained := feed.cursor.explained_takeBatch updates
  obtain ⟨after, w₂, hRun, hNotes⟩ := persist_of_saves hSave
  refine ⟨after, w₂, ?_, ?_, ?_, Update.nodup_ids updates, ?_⟩
  · rw [fetch_of_answer hAnswer, hRun, intake, hExplained.messages_eq]
    rfl
  · rw [hNotes, ← hExplained.notes_eq]
    rfl
  · -- the name of a message tells its id, and no id is handed out twice
    have hNames : ∀ id m, .message id m ∈ updates → ackId? m.updateId = some id := by
      intro id m hMem
      obtain ⟨raw, -, hRaw⟩ := List.mem_map.1 hMem
      exact Update.ackId?_of_message hRaw
    rw [← hExplained.messages_eq]
    exact feed.cursor.nodup_updateId_takeBatch updates hNames
  · intro api' hAnswer'
    have hIntake : feed.intake (batch.filter fun raw => (Update.ofJson raw).id?.isSome) = feed.intake batch := by
      rw [intake, intake, ← feed.cursor.takeBatch_filter (batch.map Update.ofJson), List.filter_map]
      rfl
    rw [fetch_of_answer hAnswer, fetch_of_answer hAnswer', taking, taking, hIntake]

/-- A batch with an id below the floor, no id, a settled id, a waiting one, a new one, the first id again, the new
one again as a text, and an update without a message. -/
def mixed : List Json.Fields :=
  [ Update.plain 3 "late", [], Update.plain 6 "done", Update.plain 7 "again", Update.plain 8 "new",
    Update.plain 3 "later", [("update_id", .string " 8 ")], [("update_id", .int 9)] ]

def midCourse : Feed :=
  { config := {}
    cursor :=
      { seen := (IdSet.empty.insert 6).insert 7
        pending := IdSet.empty.insert 7
        processed := IdSet.empty.insert 6
        floor := some 5
        persisted := some 5
        offset := some 7 }
    notes := [] }

/-- Out of such a batch come the message that waits and the new one, and one note. -/
theorem fetch_selects_from_mixed :
    let api : BotApi (StateM (List Int)) := .constant mixed
    let store : CursorStore (StateM (List Int)) :=
      { load := pure (.ok none), save := fun floor saved => (.ok (), saved ++ [floor]) }
    ∃ (messages : List Inbound) (after : Feed) (saved : List Int),
      (channel api (some store)).fetch midCourse [] = ((.ok messages, after), saved) ∧
      messages.map (fun m => (m.updateId, m.text)) = [("7", "again"), ("8", "new")] ∧
      after.notes.map (fun note => (note.code, note.updateId)) = [(.staleDrop, some "3")] := by
  intro api store
  have hSave : ∀ s floor, some store = some s →
      (midCourse.taking mixed).settled.cursor.unsaved? = some floor → (s.save floor []).1 = .ok () := by
    intro s floor hStore _
    cases hStore
    rfl
  have hAnswer : api.getUpdates midCourse.request [] = (.ok mixed, []) := rfl
  obtain ⟨after, saved, hFetch, hNotes, -, -, -⟩ := fetch_selects hAnswer hSave
  refine ⟨_, after, saved, hFetch, by decide +kernel, ?_⟩
  rw [hNotes]
  decide +kernel

end Feed

end ChatRelay
