import ChatRelay.Proofs.Cursor.Rest

/-!
A batch that is taken twice. The second time goes in step with the first one: the same messages come out of it, and the
cursor does not change. An update may still be taken in another way than before. One that was skipped can be stale or
settled by then, and one that was new is waiting.
-/

namespace ChatRelay

theorem IdSet.insert_of_mem {s : IdSet} {id : Int} (h : id ∈ s) : s.insert id = s :=
  IdSet.ext fun a => by
    rw [mem_insert]
    exact ⟨fun ha => ha.elim (fun hEq => hEq ▸ h) fun hMem => hMem, Or.inr⟩

namespace Intake

open Cursor

variable {c d : Cursor} {s s' t t' last : Intake} {batch : List Update} {update : Update} {id : Int}

/-- The message that an update brings out: the update is the first one with its id, and the id is not settled. -/
def yield (s : Intake) (update : Update) : Option Inbound :=
  if update.id?.any fun id => id ∉ s.occurred && !s.cursor.isStale id && !s.cursor.isSettled id then update.inbound?
  else none

/-- A repeated or settled id brings out nothing. -/
theorem yield_eq_none (hId : update.id? = some id) (h : id ∈ s.occurred ∨ s.cursor.Settled id) :
    s.yield update = none := by
  rw [yield, hId, if_neg]
  rcases h with hOccurred | hStale | hSettled
  · simp [hOccurred]
  · simp [hStale]
  · simp [hSettled]

/-- The first update with an open id brings out its message, if it has one. -/
theorem yield_eq_inbound (hId : update.id? = some id) (hNew : id ∉ s.occurred) (hOpen : ¬ s.cursor.Settled id) :
    s.yield update = update.inbound? := by
  obtain ⟨hFresh, hUnsettled⟩ := not_or.mp hOpen
  rw [yield, hId, if_pos]
  simp [hNew, hFresh, hUnsettled]

theorem not_settled_iff : ¬ c.Settled id ↔ c.isStale id = false ∧ c.isSettled id = false := by
  simp [Cursor.Settled]

/-- Step of an intake: the messages grow by what the update brings out. -/
theorem Taken.messages_eq (h : Taken s update s') : s'.messages = s.messages ++ (s.yield update).toList := by
  cases h with
  | unusable => simp [yield, Update.id?]
  | repeated hId hOccurred => simp [yield_eq_none hId (Or.inl hOccurred)]
  | stale hId _ _ hStale => simp [yield_eq_none hId (Or.inr (Or.inl hStale))]
  | settled hId _ _ hSettled => simp [yield_eq_none hId (Or.inr (Or.inr hSettled))]
  | emitted hNew hFresh hOpen =>
      rw [yield_eq_inbound rfl hNew (not_settled_iff.mpr ⟨hFresh, hOpen⟩)]
      rfl
  | skipped hNew hFresh hOpen =>
      rw [yield_eq_inbound rfl hNew (not_settled_iff.mpr ⟨hFresh, hOpen⟩)]
      simp [Update.inbound?]

/-- Step of an intake: its id is one of those that occurred. -/
theorem Taken.occurred_eq (h : Taken s update s') : s'.occurred = match update.id? with
    | none => s.occurred
    | some id => s.occurred.insert id := by
  cases h with
  | unusable => rfl
  | repeated hId hOccurred => simp [hId, IdSet.insert_of_mem hOccurred]
  | stale hId => simp [hId]
  | settled hId => simp [hId]
  | emitted => rfl
  | skipped => rfl

theorem Taken.processed_mono (h : Taken s update s') (hId : id ∈ s.cursor.processed) : id ∈ s'.cursor.processed := by
  cases h <;> simp [Cursor.markProcessed, hId]

/-- An update that is not handed out is processed at once. -/
theorem Taken.processed_of_yield (h : Taken s update s') (hId : update.id? = some id) (hNone : s.yield update = none) :
    id ∈ s'.cursor.processed := by
  cases h with
  | unusable => cases hId
  | repeated hOther | stale hOther | settled hOther =>
      obtain rfl := Option.some.inj (hId.symm.trans hOther)
      simp [Cursor.markProcessed]
  | emitted hNew hFresh hOpen =>
      rw [yield_eq_inbound rfl hNew (not_settled_iff.mpr ⟨hFresh, hOpen⟩)] at hNone
      cases hNone
  | skipped =>
      obtain rfl := Option.some.inj hId
      simp [Cursor.markProcessed]

/-- An update that is handed out waits. -/
theorem Taken.pending_of_yield (h : Taken s update s') (hId : update.id? = some id) {m : Inbound}
    (hYield : s.yield update = some m) : id ∈ s'.cursor.pending := by
  cases h with
  | unusable => cases hId
  | repeated hOther hOccurred =>
      rw [yield_eq_none hOther (Or.inl hOccurred)] at hYield
      cases hYield
  | stale hOther _ _ hStale =>
      rw [yield_eq_none hOther (Or.inr (Or.inl hStale))] at hYield
      cases hYield
  | settled hOther _ _ hSettled =>
      rw [yield_eq_none hOther (Or.inr (Or.inr hSettled))] at hYield
      cases hYield
  | emitted =>
      obtain rfl := Option.some.inj hId
      simp
  | skipped => simp [yield, Update.inbound?] at hYield

/-- What has occurred, waits or is processed in an intake does so in a later one. -/
structure Within (s last : Intake) : Prop where
  occurred : ∀ id ∈ s.occurred, id ∈ last.occurred
  pending : ∀ id ∈ s.cursor.pending, id ∈ last.cursor.pending
  processed : ∀ id ∈ s.cursor.processed, id ∈ last.cursor.processed

/-- An intake is within each later one, by induction on the updates in between. -/
theorem within_foldl (s : Intake) (rest : List Update) : Within s (rest.foldl take s) :=
  List.foldlRecOn rest take ⟨fun _ h => h, fun _ h => h, fun _ h => h⟩ fun t h update _ =>
    ⟨fun id hId => (t.taken_take update).occurred_mono (h.occurred id hId),
      fun id hId => (t.taken_take update).pending_mono (h.pending id hId),
      fun id hId => (t.taken_take update).processed_mono (h.processed id hId)⟩

/-- A cursor to which the batch of another one brings nothing new. -/
structure Absorbs (c : Cursor) (last : Intake) (d : Cursor) : Prop where
  settled : ∀ id, c.Settled id → d.Settled id
  known : ∀ id ∈ last.occurred, d.isStale id = false → id ∈ d.seen
  waiting : ∀ id ∈ last.cursor.pending, ¬ d.Settled id
  processed : ∀ id ∈ last.cursor.processed, d.isStale id = false → id ∈ d.processed

/-- Two intakes of the same updates, where the second one leaves its cursor as it is. Stale ids may be processed
again. -/
structure InStep (d : Cursor) (s t : Intake) : Prop where
  occurred_eq : t.occurred = s.occurred
  messages_eq : t.messages = s.messages
  seen_eq : t.cursor.seen = d.seen
  pending_eq : t.cursor.pending = d.pending
  floor_eq : t.cursor.floor = d.floor
  persisted_eq : t.cursor.persisted = d.persisted
  processed_iff : ∀ id, d.isStale id = false → (id ∈ t.cursor.processed ↔ id ∈ d.processed)

theorem InStep.isStale_eq (h : InStep d s t) (id : Int) : t.cursor.isStale id = d.isStale id :=
  Cursor.isStale_congr h.floor_eq id

theorem InStep.settled_iff (h : InStep d s t) : t.cursor.Settled id ↔ d.Settled id := by
  simp only [Cursor.Settled, h.isStale_eq, Cursor.isSettled_iff, h.seen_eq, h.pending_eq]

/-- The same message comes out of an update, or none in both. -/
theorem InStep.yield_eq (h : InStep d s t) (hFrom : From c s) (hAbsorbs : Absorbs c last d)
    (hTaken : Taken s update s') (hWithin : Within s' last) : t.yield update = s.yield update := by
  cases hId : update.id? with
  | none => simp [yield, hId]
  | some id =>
      by_cases hOccurred : id ∈ s.occurred
      · rw [yield_eq_none hId (Or.inl hOccurred), yield_eq_none hId (Or.inl (h.occurred_eq ▸ hOccurred))]
      by_cases hSettled : c.Settled id
      · rw [yield_eq_none hId (Or.inr (hFrom.settled hSettled)),
          yield_eq_none hId (Or.inr (h.settled_iff.mpr (hAbsorbs.settled id hSettled)))]
      have hYield : s.yield update = update.inbound? :=
        yield_eq_inbound hId hOccurred fun hThere => hSettled ((hFrom.settled_iff hOccurred).mp hThere)
      rw [hYield]
      cases hInbound : update.inbound? with
      | none => simp [yield, hInbound]
      | some m =>
          have hWaits := hTaken.pending_of_yield hId (hYield.trans hInbound)
          rw [← hInbound]
          exact yield_eq_inbound hId (h.occurred_eq ▸ hOccurred) fun hThere =>
            hAbsorbs.waiting id (hWithin.pending id hWaits) (h.settled_iff.mp hThere)

/-- The second intake of an update. -/
theorem InStep.step (h : InStep d s t) (hFrom : From c s) (hAbsorbs : Absorbs c last d) (hTaken : Taken s update s')
    (hTaken' : Taken t update t') (hWithin : Within s' last) : InStep d s' t' := by
  have hYield := h.yield_eq hFrom hAbsorbs hTaken hWithin
  have hOccurred : t'.occurred = s'.occurred := by rw [hTaken'.occurred_eq, hTaken.occurred_eq, h.occurred_eq]
  have hMessages : t'.messages = s'.messages := by
    rw [hTaken'.messages_eq, hTaken.messages_eq, h.messages_eq, hYield]
  have hKnown : ∀ id, update.id? = some id → d.isStale id = false → id ∈ d.seen := fun id hId =>
    hAbsorbs.known id (hWithin.occurred id (hTaken.occurred_of_id hId))
  have hProcessed : ∀ id, update.id? = some id → t.yield update = none → d.isStale id = false → id ∈ d.processed :=
    fun id hId hNone => hAbsorbs.processed id (hWithin.processed id (hTaken.processed_of_yield hId (hYield ▸ hNone)))
  -- marking an id as processed is nothing new
  have hMark : ∀ id, update.id? = some id → t.yield update = none → ∀ a, d.isStale a = false →
      (a ∈ t.cursor.processed.insert id ↔ a ∈ d.processed) := by
    intro id hId hNone a hFresh
    rw [IdSet.mem_insert, ← h.processed_iff a hFresh, or_iff_right_iff_imp]
    rintro rfl
    exact (h.processed_iff a hFresh).mpr (hProcessed a hId hNone hFresh)
  cases hTaken' with
  | unusable => exact { h with occurred_eq := hOccurred, messages_eq := hMessages }
  | repeated hId hOld =>
      exact { h with
        occurred_eq := hOccurred, messages_eq := hMessages
        processed_iff := hMark _ hId (yield_eq_none hId (Or.inl hOld)) }
  | stale hId _ _ hStale =>
      exact { h with
        occurred_eq := hOccurred, messages_eq := hMessages
        processed_iff := hMark _ hId (yield_eq_none hId (Or.inr (Or.inl hStale))) }
  | settled hId _ _ hSettled =>
      exact { h with
        occurred_eq := hOccurred, messages_eq := hMessages
        processed_iff := hMark _ hId (yield_eq_none hId (Or.inr (Or.inr hSettled))) }
  | @emitted id inbound hNew hFresh hOpen =>
      have hSeen := hKnown id rfl (h.isStale_eq id ▸ hFresh)
      have hWaiting : id ∈ d.pending := by
        refine Decidable.byContradiction fun hNot => ?_
        have hSettled : t.cursor.isSettled id = true :=
          isSettled_iff.mpr ⟨h.seen_eq.symm ▸ hSeen, h.pending_eq.symm ▸ hNot⟩
        rw [hSettled] at hOpen
        cases hOpen
      exact { h with
        occurred_eq := hOccurred, messages_eq := hMessages
        seen_eq := by rw [h.seen_eq, IdSet.insert_of_mem hSeen]
        pending_eq := by rw [h.pending_eq, IdSet.insert_of_mem hWaiting] }
  | @skipped id reason hNew hFresh hOpen =>
      have hSeen := hKnown id rfl (h.isStale_eq id ▸ hFresh)
      exact { h with
        occurred_eq := hOccurred, messages_eq := hMessages
        seen_eq := by rw [Cursor.markProcessed, h.seen_eq, IdSet.insert_of_mem hSeen]
        processed_iff := hMark id rfl (by simp [yield, Update.inbound?]) }

/-- The second intake of all the updates goes in step with the first one. -/
theorem InStep.foldl (h : InStep d s t) (hFrom : From c s) {rest : List Update}
    (hAbsorbs : Absorbs c (rest.foldl take s) d) : InStep d (rest.foldl take s) (rest.foldl take t) := by
  induction rest generalizing s t with
  | nil => exact h
  | cons update rest ih =>
      have hStep := h.step hFrom hAbsorbs (s.taken_take update) (t.taken_take update) (within_foldl _ rest)
      exact ih hStep (hFrom.step (s.taken_take update)) hAbsorbs

/-- Run lemma: a batch that brings nothing new is taken in step, and leaves the second cursor as it is. -/
theorem inStep_takeBatch (hAbsorbs : Absorbs c (c.takeBatch batch) d) :
    InStep d (c.takeBatch batch) (d.takeBatch batch) :=
  InStep.foldl (s := { cursor := c }) (t := { cursor := d }) ⟨rfl, rfl, rfl, rfl, rfl, rfl, fun _ _ => Iff.rfl⟩
    (From.start c) hAbsorbs

end Intake

namespace Cursor

variable {c d : Cursor} {floor : Option Int} {known : List Int} {id : Int}

/-- A floor that has come to rest stays where it is. -/
theorem Tracks.settle_floor_eq (h : c.Tracks floor known) : c.settle.floor = c.floor := by
  have hAgain := h.sound.ready.tracks_settle h.bounded h.reaches_iff
  rw [hAgain.floor_eq, settle_pending, h.floor_eq]

/-- Where the floor settles depends on the waiting ids, the seen ones and the floor. -/
theorem settledFloor_congr (hSeen : c.seen = d.seen) (hPending : c.pending = d.pending) (hFloor : c.floor = d.floor) :
    c.settledFloor = d.settledFloor := by
  simp only [settledFloor, wanted, hSeen, hPending, hFloor]

/-- Settling leads to a cursor at rest from all that differs from it in stale ids at most. -/
theorem settle_eq_of_agrees (hRest : d.settledFloor = d.floor) (hOffset : d.offset = d.floor)
    (hFresh : ∀ id, id ∈ d.seen ∨ id ∈ d.processed → d.isStale id = false) (hSeen : c.seen = d.seen)
    (hPending : c.pending = d.pending) (hFloor : c.floor = d.floor) (hPersisted : c.persisted = d.persisted)
    (hProcessed : ∀ id, d.isStale id = false → (id ∈ c.processed ↔ id ∈ d.processed)) : c.settle = d := by
  have hSettled : c.settle.floor = d.floor := by
    rw [settle_floor, settledFloor_congr hSeen hPending hFloor, hRest]
  have hStale : ∀ id, c.settle.isStale id = d.isStale id := isStale_congr hSettled
  ext1
  case seen =>
    refine IdSet.ext fun id => ?_
    rw [mem_settle_seen, hStale, hSeen, and_iff_left_iff_imp]
    exact fun hId => hFresh id (Or.inl hId)
  case processed =>
    refine IdSet.ext fun id => ?_
    rw [mem_settle_processed, hStale]
    exact ⟨fun hId => (hProcessed id hId.2).mp hId.1, fun hId =>
      have hAbove := hFresh id (Or.inr hId)
      ⟨(hProcessed id hAbove).mpr hId, hAbove⟩⟩
  case pending => rw [settle_pending, hPending]
  case floor => exact hSettled
  case persisted => rw [settle_persisted, hPersisted]
  case offset => rw [settle_offset, hSettled, hOffset]

/-- A settled cursor absorbs the batch that it has taken, whatever is known of the store by then. -/
theorem absorbs_settle {batch : List Update} (hReady : (c.takeBatch batch).cursor.Ready) (saved : Option Int) :
    Intake.Absorbs c (c.takeBatch batch) { (c.takeBatch batch).cursor.settle with persisted := saved } := by
  have hFrom := c.from_takeBatch batch
  constructor
  case settled => exact fun id hSettled => settled_settle (hFrom.settled hSettled)
  case known =>
    intro id hOccurred hFresh
    refine mem_settle_seen.mpr ⟨(hFrom.known id hOccurred).resolve_right fun hStale => ?_, hFresh⟩
    have hGone : (c.takeBatch batch).cursor.settle.isStale id = true :=
      isStale_settle ((hFrom.isStale_eq id).trans hStale)
    exact Bool.noConfusion (hGone.symm.trans hFresh)
  case waiting =>
    intro id hWaiting hSettled
    rw [← settle_pending] at hWaiting
    rcases hSettled with hStale | hSettled
    · have hFresh := hReady.sound_settle.fresh id (Or.inr (Or.inl hWaiting))
      exact Bool.noConfusion (hFresh.symm.trans hStale)
    · exact (isSettled_iff.mp hSettled).2 hWaiting
  case processed => exact fun id hId hFresh => mem_settle_processed.mpr ⟨hId, hFresh⟩

/-- The same batch once more changes nothing, and the same messages come out of it. -/
theorem takeBatch_again {batch : List Update} (hReady : (c.takeBatch batch).cursor.Ready) (saved : Option Int) :
    let once := { (c.takeBatch batch).cursor.settle with persisted := saved }
    (once.takeBatch batch).messages = (c.takeBatch batch).messages ∧ (once.takeBatch batch).cursor.settle = once := by
  intro once
  have hInStep := Intake.inStep_takeBatch (absorbs_settle hReady saved)
  have hSound := hReady.sound_settle
  have hTracks := hReady.tracks_settle hReady.bounded fun id => by simp [Reaches, Covers, IdSet.mem_def]
  refine ⟨hInStep.messages_eq, settle_eq_of_agrees ?_ hSound.offset_eq_floor (fun id hId => ?_) hInStep.seen_eq
    hInStep.pending_eq hInStep.floor_eq hInStep.persisted_eq hInStep.processed_iff⟩
  · exact (settle_floor (c.takeBatch batch).cursor.settle).symm.trans hTracks.settle_floor_eq
  · exact hSound.fresh id (hId.imp_right Or.inr)

end Cursor

end ChatRelay
