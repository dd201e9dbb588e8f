import ChatRelay.Cursor

/-!
What taking a batch does to a cursor. `Intake.Taken` lists the ways in which one update is taken, and every
later statement about a batch follows from it by induction. Ids that do not occur in the batch keep their
place, the first occurrence of an id decides, and an id that is settled is neither waiting afterwards nor
handed out.
-/

namespace ChatRelay

namespace Cursor

theorem isStale_iff {c : Cursor} {id : Int} :
    c.isStale id = true ↔ ∃ floor, c.floor = some floor ∧ id < floor := by
  simp only [isStale]
  cases c.floor <;> simp

theorem isSettled_iff {c : Cursor} {id : Int} :
    c.isSettled id = true ↔ id ∈ c.seen ∧ id ∉ c.pending := by
  simp [isSettled]

/-- An id whose message is not handed out any more: it lies below the floor, or it was seen and does not
wait for an acknowledgement. -/
def Settled (c : Cursor) (id : Int) : Prop := c.isStale id = true ∨ c.isSettled id = true

/-- Staleness is a matter of the floor alone. -/
theorem isStale_congr {c d : Cursor} (h : c.floor = d.floor) (id : Int) : c.isStale id = d.isStale id := by
  simp [isStale, h]

end Cursor

namespace Intake

/-- The ways in which an intake takes one update. Repeated, stale and settled ids are only noted. -/
inductive Taken (s : Intake) : Update → Intake → Prop where
  | unusable : Taken s .unusable s
  | repeated {update : Update} {id : Int} (hId : update.id? = some id) (hOccurred : id ∈ s.occurred) :
      Taken s update { s with cursor := s.cursor.markProcessed id }
  | stale {update : Update} {id floor : Int} (hId : update.id? = some id) (hNew : id ∉ s.occurred)
      (hFloor : s.cursor.floor = some floor) (hStale : s.cursor.isStale id = true) :
      Taken s update { s with
        cursor := s.cursor.markProcessed id
        occurred := s.occurred.insert id
        notes := s.notes ++ [staleNote id floor] }
  | settled {update : Update} {id : Int} (hId : update.id? = some id) (hNew : id ∉ s.occurred)
      (hFresh : s.cursor.isStale id = false) (hSettled : s.cursor.isSettled id = true) :
      Taken s update { s with
        cursor := s.cursor.markProcessed id
        occurred := s.occurred.insert id }
  | emitted {id : Int} {inbound : Inbound} (hNew : id ∉ s.occurred)
      (hFresh : s.cursor.isStale id = false) (hOpen : s.cursor.isSettled id = false) :
      Taken s (.message id inbound) { s with
        cursor := { s.cursor with
          seen := s.cursor.seen.insert id
          pending := s.cursor.pending.insert id }
        occurred := s.occurred.insert id
        messages := s.messages ++ [inbound] }
  | skipped {id : Int} {reason : SkipReason} (hNew : id ∉ s.occurred)
      (hFresh : s.cursor.isStale id = false) (hOpen : s.cursor.isSettled id = false) :
      Taken s (.skipped id reason) { s with
        cursor := { s.cursor with seen := s.cursor.seen.insert id }.markProcessed id
        occurred := s.occurred.insert id }

/-- The cases above are all there are. -/
theorem taken_take (s : Intake) (update : Update) : Taken s update (s.take update) := by
  simp only [take]
  cases hId : update.id? with
  | none =>
      cases update with
      | unusable => exact .unusable
      | skipped id reason => simp [Update.id?] at hId
      | message id inbound => simp [Update.id?] at hId
  | some id =>
      simp only
      by_cases hOccurred : id ∈ s.occurred
      · rw [if_pos hOccurred]
        exact .repeated hId hOccurred
      · rw [if_neg hOccurred]
        cases hStale : s.cursor.isStale id with
        | true =>
            obtain ⟨floor, hFloor, _⟩ := Cursor.isStale_iff.mp hStale
            simpa [hFloor] using Taken.stale hId hOccurred hFloor hStale
        | false =>
            cases hSettled : s.cursor.isSettled id with
            | true => simpa using Taken.settled hId hOccurred hStale hSettled
            | false =>
                cases update with
                | unusable => simp [Update.id?] at hId
                | skipped other reason =>
                    obtain rfl : other = id := by simpa [Update.id?] using hId
                    simpa [Update.inbound?] using Taken.skipped hOccurred hStale hSettled
                | message other inbound =>
                    obtain rfl : other = id := by simpa [Update.id?] using hId
                    simpa [Update.inbound?] using Taken.emitted hOccurred hStale hSettled

theorem Taken.occurred_mono {s t : Intake} {update : Update} (h : Taken s update t) {id : Int}
    (hId : id ∈ s.occurred) : id ∈ t.occurred := by
  cases h <;> simp [hId]

theorem Taken.occurred_of_id {s t : Intake} {update : Update} (h : Taken s update t) {id : Int}
    (hId : update.id? = some id) : id ∈ t.occurred := by
  cases h with
  | unusable => simp [Update.id?] at hId
  | repeated hOther hOccurred =>
      obtain rfl := Option.some.inj (hId.symm.trans hOther)
      exact hOccurred
  | stale hOther =>
      obtain rfl := Option.some.inj (hId.symm.trans hOther)
      simp
  | settled hOther =>
      obtain rfl := Option.some.inj (hId.symm.trans hOther)
      simp
  | emitted =>
      obtain rfl := Option.some.inj hId
      simp
  | skipped =>
      obtain rfl := Option.some.inj hId
      simp

end Intake

/-- What holds at the start of a batch and is kept by every way of taking one of its updates holds at
the end. -/
theorem Cursor.takeBatch_induction {c : Cursor} {batch : List Update} {P : Intake → Prop}
    (start : P { cursor := c })
    (step : ∀ s update t, update ∈ batch → Intake.Taken s update t → P s → P t) :
    P (c.takeBatch batch) :=
  List.foldlRecOn batch Intake.take start fun s hs update hMem =>
    step s update _ hMem (s.taken_take update) hs

namespace Intake

/-- How the intake of a batch stands to the cursor that it started from. -/
structure From (c : Cursor) (s : Intake) : Prop where
  floor_eq : s.cursor.floor = c.floor
  offset_eq : s.cursor.offset = c.offset
  persisted_eq : s.cursor.persisted = c.persisted
  seen_of_seen : ∀ id ∈ c.seen, id ∈ s.cursor.seen
  pending_of_pending : ∀ id ∈ c.pending, id ∈ s.cursor.pending
  /-- An id that has not occurred is where it was. -/
  untouched : ∀ id, id ∉ s.occurred →
    (id ∈ s.cursor.seen → id ∈ c.seen) ∧ (id ∈ s.cursor.pending → id ∈ c.pending)
  fresh_of_seen : ∀ id ∈ s.cursor.seen, id ∈ c.seen ∨ c.isStale id = false
  open_of_pending : ∀ id ∈ s.cursor.pending,
    id ∈ c.pending ∨ (id ∈ s.cursor.seen ∧ ¬ c.Settled id)
  of_processed : ∀ id ∈ s.cursor.processed,
    id ∈ c.processed ∨ id ∈ s.cursor.seen ∨ c.isStale id = true
  known : ∀ id ∈ s.occurred, id ∈ s.cursor.seen ∨ c.isStale id = true

variable {c : Cursor} {s t : Intake}

/-- Taking a batch does not move the floor, so that no id becomes stale on the way. -/
theorem From.isStale_eq (h : From c s) (id : Int) : s.cursor.isStale id = c.isStale id :=
  Cursor.isStale_congr h.floor_eq id

/-- Up to its first occurrence, an id is settled exactly if it was so at the start. -/
theorem From.settled_iff (h : From c s) {id : Int} (hNew : id ∉ s.occurred) :
    s.cursor.Settled id ↔ c.Settled id := by
  have hSeen : id ∈ s.cursor.seen ↔ id ∈ c.seen := ⟨(h.untouched id hNew).1, h.seen_of_seen id⟩
  have hPending : id ∈ s.cursor.pending ↔ id ∈ c.pending :=
    ⟨(h.untouched id hNew).2, h.pending_of_pending id⟩
  simp only [Cursor.Settled, h.isStale_eq, Cursor.isSettled_iff, hSeen, hPending]

/-- A new id that is open now was open when the batch began. -/
theorem From.not_settled (h : From c s) {id : Int} (hNew : id ∉ s.occurred)
    (hFresh : s.cursor.isStale id = false) (hOpen : s.cursor.isSettled id = false) : ¬ c.Settled id := by
  rw [← h.settled_iff hNew]
  simp [Cursor.Settled, hFresh, hOpen]

/-- What is settled stays settled. -/
theorem From.settled (h : From c s) {id : Int} (hId : c.Settled id) : s.cursor.Settled id := by
  by_cases hStale : c.isStale id = true
  · exact Or.inl ((h.isStale_eq id).trans hStale)
  · have hSeen := Cursor.isSettled_iff.mp (hId.resolve_left hStale)
    refine Or.inr (Cursor.isSettled_iff.mpr ⟨h.seen_of_seen id hSeen.1, fun hPending => ?_⟩)
    rcases h.open_of_pending id hPending with hOld | ⟨_, hNot⟩
    · exact hSeen.2 hOld
    · exact hNot hId

theorem From.start (c : Cursor) : From c { cursor := c } where
  floor_eq := rfl
  offset_eq := rfl
  persisted_eq := rfl
  seen_of_seen := fun _ h => h
  pending_of_pending := fun _ h => h
  untouched := fun _ _ => ⟨fun h => h, fun h => h⟩
  fresh_of_seen := fun _ h => Or.inl h
  open_of_pending := fun _ h => Or.inl h
  of_processed := fun _ h => Or.inl h
  known := fun id h => absurd h (IdSet.not_mem_empty id)

/-- Noting an id that is known already keeps all of it. -/
theorem From.note (h : From c s) {id : Int} (occurred : IdSet) (notes : List Diagnostic)
    (hMono : ∀ a ∈ s.occurred, a ∈ occurred) (hOnly : ∀ a ∈ occurred, a = id ∨ a ∈ s.occurred)
    (hKnown : id ∈ s.cursor.seen ∨ c.isStale id = true) :
    From c { s with cursor := s.cursor.markProcessed id, occurred := occurred, notes := notes } := by
  refine { h with untouched := ?_, of_processed := ?_, known := ?_ }
  · intro a ha
    exact h.untouched a fun hMem => ha (hMono a hMem)
  · intro a ha
    rcases IdSet.mem_insert.mp ha with rfl | ha
    · exact Or.inr hKnown
    · exact h.of_processed a ha
  · intro a ha
    rcases hOnly a ha with rfl | ha
    · exact hKnown
    · exact h.known a ha

/-- A new id is seen from then on, whatever happens to its message. -/
theorem From.see (h : From c s) {id : Int} {pending processed : IdSet} (messages : List Inbound)
    (hFresh : s.cursor.isStale id = false)
    (hPending : ∀ a ∈ c.pending, a ∈ pending)
    (hUntouched : ∀ a, a ≠ id → a ∈ pending → a ∈ s.cursor.pending)
    (hOpen : id ∈ pending → id ∈ c.pending ∨ ¬ c.Settled id)
    (hProcessed : ∀ a ∈ processed, a = id ∨ a ∈ s.cursor.processed) :
    From c { s with
      cursor := { s.cursor with
        seen := s.cursor.seen.insert id
        pending := pending
        processed := processed }
      occurred := s.occurred.insert id
      messages := messages } where
  floor_eq := h.floor_eq
  offset_eq := h.offset_eq
  persisted_eq := h.persisted_eq
  seen_of_seen := fun a ha => IdSet.mem_insert.mpr (Or.inr (h.seen_of_seen a ha))
  pending_of_pending := hPending
  untouched := by
    intro a ha
    simp only [IdSet.mem_insert, not_or] at ha ⊢
    obtain ⟨hNe, hNew⟩ := ha
    refine ⟨?_, fun hMem => (h.untouched a hNew).2 (hUntouched a hNe hMem)⟩
    rintro (hEq | hMem)
    · exact absurd hEq hNe
    · exact (h.untouched a hNew).1 hMem
  fresh_of_seen := by
    intro a ha
    rcases IdSet.mem_insert.mp ha with rfl | ha
    · rw [← h.isStale_eq]
      exact Or.inr hFresh
    · exact h.fresh_of_seen a ha
  open_of_pending := by
    intro a ha
    by_cases hEq : a = id
    · subst hEq
      exact (hOpen ha).imp_right fun hNot => ⟨by simp, hNot⟩
    · exact (h.open_of_pending a (hUntouched a hEq ha)).imp_right fun hIn => ⟨by simp [hIn.1], hIn.2⟩
  of_processed := by
    intro a ha
    rcases hProcessed a ha with rfl | ha
    · simp
    · rcases h.of_processed a ha with hMem | hMem | hMem <;> simp [hMem]
  known := by
    intro a ha
    rcases IdSet.mem_insert.mp ha with rfl | ha
    · simp
    · exact (h.known a ha).imp_left fun hMem => by simp [hMem]

/-- Step of an intake: how it stands to its start is kept, whichever way the update is taken. -/
theorem From.step (h : From c s) {update : Update} (hTaken : Taken s update t) : From c t := by
  cases hTaken with
  | unusable => exact h
  | repeated _ hMem => exact h.note _ _ (fun _ ha => ha) (fun _ ha => Or.inr ha) (h.known _ hMem)
  | stale _ _ _ hStale =>
      rw [h.isStale_eq] at hStale
      exact h.note _ _ (fun _ ha => by simp [ha]) (fun _ ha => by simpa using ha) (Or.inr hStale)
  | settled _ _ _ hSettled =>
      exact h.note _ _ (fun _ ha => by simp [ha]) (fun _ ha => by simpa using ha)
        (Or.inl (Cursor.isSettled_iff.mp hSettled).1)
  | emitted hNew hFresh hOpen =>
      have hNot := h.not_settled hNew hFresh hOpen
      refine h.see _ hFresh (fun a ha => ?_) (fun a hNe ha => ?_) (fun _ => Or.inr hNot) fun _ ha => Or.inr ha
      · simp [h.pending_of_pending a ha]
      · simpa [hNe] using ha
  | skipped hNew hFresh hOpen =>
      refine h.see _ hFresh h.pending_of_pending (fun _ _ ha => ha) (fun ha => ?_) fun a ha => ?_
      · exact (h.open_of_pending _ ha).imp_right fun hIn => hIn.2
      · simpa using ha

end Intake

/-- The sets and offsets after a batch, seen from before it. -/
theorem Cursor.from_takeBatch (c : Cursor) (batch : List Update) : Intake.From c (c.takeBatch batch) :=
  takeBatch_induction (Intake.From.start c) fun _ _ _ _ hTaken h => h.step hTaken

namespace Intake

/-- Where the messages handed out come from: each is the first occurrence of an id that was not settled
and now waits. -/
def Sourced (c : Cursor) (batch : List Update) (s : Intake) : Prop :=
  ∀ m ∈ s.messages, ∃ id, .message id m ∈ batch ∧ id ∈ s.occurred ∧ id ∈ s.cursor.pending ∧ ¬ c.Settled id

variable {c : Cursor} {batch : List Update} {s t : Intake}

theorem Taken.pending_mono {update : Update} (h : Taken s update t) {id : Int}
    (hPending : id ∈ s.cursor.pending) : id ∈ t.cursor.pending := by
  cases h <;> simp [Cursor.markProcessed, hPending]

theorem Taken.messages_mono {update : Update} (h : Taken s update t) {m : Inbound} (hMem : m ∈ s.messages) :
    m ∈ t.messages := by
  cases h <;> simp [hMem]

/-- Step of an intake: a new message comes from the first update with an open id, which waits from then on. -/
theorem Sourced.step (h : Sourced c batch s) (hFrom : From c s) {update : Update} (hMem : update ∈ batch)
    (hTaken : Taken s update t) : Sourced c batch t := by
  have hOld : ∀ m ∈ s.messages,
      ∃ id, .message id m ∈ batch ∧ id ∈ t.occurred ∧ id ∈ t.cursor.pending ∧ ¬ c.Settled id := by
    intro m hm
    obtain ⟨id, hIn, hOccurred, hPending, hNot⟩ := h m hm
    exact ⟨id, hIn, hTaken.occurred_mono hOccurred, hTaken.pending_mono hPending, hNot⟩
  cases hTaken with
  | unusable => exact hOld
  | repeated => exact hOld
  | stale => exact hOld
  | settled => exact hOld
  | skipped => exact hOld
  | @emitted id inbound hNew hFresh hOpen =>
      intro m hm
      rcases List.mem_append.mp hm with hm | hm
      · exact hOld m hm
      · obtain rfl : m = inbound := by simpa using hm
        exact ⟨id, hMem, by simp, by simp, hFrom.not_settled hNew hFresh hOpen⟩

/-- No two messages that are handed out carry the same name. -/
theorem Taken.distinct {read : String → Option Int} {update : Update} (hTaken : Taken s update t)
    (hSource : Sourced c batch s) (hRead : ∀ id m, .message id m ∈ batch → read m.updateId = some id)
    (hMem : update ∈ batch) (h : (s.messages.map Inbound.updateId).Nodup) :
    (t.messages.map Inbound.updateId).Nodup := by
  cases hTaken with
  | unusable => exact h
  | repeated => exact h
  | stale => exact h
  | settled => exact h
  | skipped => exact h
  | @emitted id inbound hNew =>
      rw [List.map_append, List.nodup_append]
      refine ⟨h, by simp, ?_⟩
      intro name hName other hOther hEq
      obtain ⟨m, hm, rfl⟩ := List.mem_map.mp hName
      obtain rfl : other = inbound.updateId := by simpa using hOther
      -- the name decides the id, and the new id has not occurred
      obtain ⟨id', hIn, hOccurred, _⟩ := hSource m hm
      have hOld := hRead id' m hIn
      rw [hEq, hRead id inbound hMem] at hOld
      exact hNew (Option.some.inj hOld ▸ hOccurred)

/-- The message of an occurred id waits or was settled before, if no update withholds it. -/
def Covered (c : Cursor) (batch : List Update) (s : Intake) : Prop :=
  ∀ id ∈ s.occurred, (∀ update ∈ batch, update.id? = some id → update.inbound?.isSome = true) →
    c.Settled id ∨ id ∈ s.cursor.pending

/-- Step of an intake: a new id waits, or it was settled, or its update is withheld. -/
theorem Covered.step (h : Covered c batch s) (hFrom : From c s) {update : Update} (hMem : update ∈ batch)
    (hTaken : Taken s update t) : Covered c batch t := by
  have hOld : ∀ id ∈ s.occurred,
      (∀ update ∈ batch, update.id? = some id → update.inbound?.isSome = true) →
        c.Settled id ∨ id ∈ t.cursor.pending := fun id hId hAll =>
    (h id hId hAll).imp_right hTaken.pending_mono
  intro id hId hAll
  by_cases hBefore : id ∈ s.occurred
  · exact hOld id hBefore hAll
  · cases hTaken with
    | unusable => exact absurd hId hBefore
    | repeated => exact absurd hId hBefore
    | stale _ _ _ hStale =>
        obtain rfl : id = _ := by simpa [hBefore] using hId
        exact Or.inl ((hFrom.settled_iff hBefore).mp (Or.inl hStale))
    | settled _ _ _ hSettled =>
        obtain rfl : id = _ := by simpa [hBefore] using hId
        exact Or.inl ((hFrom.settled_iff hBefore).mp (Or.inr hSettled))
    | emitted =>
        obtain rfl : id = _ := by simpa [hBefore] using hId
        exact Or.inr (by simp)
    | skipped =>
        obtain rfl : id = _ := by simpa [hBefore] using hId
        simpa [Update.inbound?] using hAll _ hMem rfl

end Intake

namespace Cursor

variable (c : Cursor) (batch : List Update)

/-- Run lemma: where the messages of a whole batch come from. -/
theorem sourced_takeBatch : Intake.Sourced c batch (c.takeBatch batch) := by
  refine (takeBatch_induction (P := fun s => Intake.From c s ∧ Intake.Sourced c batch s) ?_ ?_).2
  · exact ⟨Intake.From.start c, fun m hm => absurd hm List.not_mem_nil⟩
  · rintro s update t hMem hTaken ⟨hFrom, hSource⟩
    exact ⟨hFrom.step hTaken, hSource.step hFrom hMem hTaken⟩

/-- The notes on a batch are about stale updates. -/
theorem code_of_takeBatch : ∀ note ∈ (c.takeBatch batch).notes, note.code = .staleDrop := by
  refine takeBatch_induction (P := fun s => ∀ note ∈ s.notes, note.code = .staleDrop)
    (fun note hNote => absurd hNote List.not_mem_nil) fun s update t _ hTaken h => ?_
  cases hTaken with
  | stale =>
      intro note hNote
      rcases List.mem_append.mp hNote with hOld | hNew
      · exact h note hOld
      · rw [List.mem_singleton.mp hNew]
        rfl
  | _ => exact h

/-- The messages of a batch carry different names when each carries the name of its id. -/
theorem nodup_updateId_takeBatch {read : String → Option Int}
    (hRead : ∀ id m, .message id m ∈ batch → read m.updateId = some id) :
    ((c.takeBatch batch).messages.map Inbound.updateId).Nodup := by
  refine (takeBatch_induction (P := fun s => (Intake.From c s ∧ Intake.Sourced c batch s) ∧
    (s.messages.map Inbound.updateId).Nodup) ?_ ?_).2
  · exact ⟨⟨Intake.From.start c, fun m hm => absurd hm List.not_mem_nil⟩, List.nodup_nil⟩
  · rintro s update t hMem hTaken ⟨⟨hFrom, hSource⟩, hNodup⟩
    exact ⟨⟨hFrom.step hTaken, hSource.step hFrom hMem hTaken⟩,
      hTaken.distinct hSource hRead hMem hNodup⟩

/-- Run lemma: no id of a whole batch is lost. -/
theorem covered_takeBatch : Intake.Covered c batch (c.takeBatch batch) := by
  refine (takeBatch_induction (P := fun s => Intake.From c s ∧ Intake.Covered c batch s) ?_ ?_).2
  · exact ⟨Intake.From.start c, fun id hId => absurd hId (IdSet.not_mem_empty id)⟩
  · rintro s update t hMem hTaken ⟨hFrom, hCovered⟩
    exact ⟨hFrom.step hTaken, hCovered.step hFrom hMem hTaken⟩

/-- Every usable id of a batch has occurred at its end. -/
theorem occurred_takeBatch {update : Update} (hMem : update ∈ batch) {id : Int} (hId : update.id? = some id) :
    id ∈ (c.takeBatch batch).occurred := by
  have hFold : ∀ (rest : List Update) (s : Intake), (id ∈ s.occurred ∨ update ∈ rest) →
      id ∈ (rest.foldl Intake.take s).occurred := by
    intro rest
    induction rest with
    | nil =>
        rintro s (h | h)
        · exact h
        · exact absurd h List.not_mem_nil
    | cons first rest ih =>
        intro s h
        refine ih _ ?_
        rcases h with h | h
        · exact Or.inl ((s.taken_take first).occurred_mono h)
        · rcases List.mem_cons.mp h with rfl | h
          · exact Or.inl ((s.taken_take update).occurred_of_id hId)
          · exact Or.inr h
  exact hFold batch _ (Or.inr hMem)

/-- Only ids of the batch occur in it. -/
theorem mem_batch_of_occurred {id : Int} (h : id ∈ (c.takeBatch batch).occurred) :
    ∃ update ∈ batch, update.id? = some id := by
  revert h
  refine takeBatch_induction (P := fun s => id ∈ s.occurred → ∃ update ∈ batch, update.id? = some id) ?_ ?_
  · exact fun h => absurd h (IdSet.not_mem_empty id)
  · intro s update t hMem hTaken ih h
    by_cases hBefore : id ∈ s.occurred
    · exact ih hBefore
    · refine ⟨update, hMem, ?_⟩
      cases hTaken with
      | unusable => exact absurd h hBefore
      | repeated => exact absurd h hBefore
      | stale hId =>
          obtain rfl : id = _ := by simpa [hBefore] using h
          exact hId
      | settled hId =>
          obtain rfl : id = _ := by simpa [hBefore] using h
          exact hId
      | emitted =>
          obtain rfl : id = _ := by simpa [hBefore] using h
          rfl
      | skipped =>
          obtain rfl : id = _ := by simpa [hBefore] using h
          rfl

/-- The first update with an id decides. Its message is handed out and waits, unless the id was settled before. -/
theorem emitted_of_first {id : Int} {m : Inbound} (hOpen : ¬ c.Settled id)
    (hFirst : (batch.find? fun update => update.id? == some id) = some (.message id m)) :
    m ∈ (c.takeBatch batch).messages ∧ id ∈ (c.takeBatch batch).cursor.pending := by
  obtain ⟨-, before, after, hBatch, hBefore⟩ := List.find?_eq_some_iff_append.mp hFirst
  have hNew : id ∉ (c.takeBatch before).occurred := by
    intro hOccurred
    obtain ⟨update, hMem, hId⟩ := c.mem_batch_of_occurred before hOccurred
    simpa [hId] using hBefore update hMem
  have hNot : ¬ (c.takeBatch before).cursor.Settled id := by
    rw [(c.from_takeBatch before).settled_iff hNew]
    exact hOpen
  have hEmitted : ∀ t, Intake.Taken (c.takeBatch before) (.message id m) t →
      m ∈ t.messages ∧ id ∈ t.cursor.pending := by
    intro t hTaken
    cases hTaken with
    | repeated hId hOccurred =>
        cases hId
        exact absurd hOccurred hNew
    | stale hId _ _ hStale =>
        cases hId
        exact absurd (Or.inl hStale) hNot
    | settled hId _ _ hSettled =>
        cases hId
        exact absurd (Or.inr hSettled) hNot
    | emitted => simp
  rw [hBatch, takeBatch, List.foldl_append, List.foldl_cons]
  refine List.foldlRecOn (motive := fun s => m ∈ s.messages ∧ id ∈ s.cursor.pending) after Intake.take
    (hEmitted _ ((c.takeBatch before).taken_take _)) fun s hs update _ => ?_
  exact ⟨(s.taken_take update).messages_mono hs.1, (s.taken_take update).pending_mono hs.2⟩

/-- When no two updates of a batch disagree on an id, each of its messages waits or was settled before. -/
theorem settled_or_pending_of_message {id : Int} {m : Inbound} (hMem : .message id m ∈ batch)
    (hAll : ∀ update ∈ batch, update.id? = some id → update.inbound?.isSome = true) :
    c.Settled id ∨ id ∈ (c.takeBatch batch).cursor.pending :=
  c.covered_takeBatch batch id (c.occurred_takeBatch batch hMem rfl) hAll

end Cursor

end ChatRelay
