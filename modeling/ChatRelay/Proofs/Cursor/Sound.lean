import ChatRelay.Proofs.Cursor.Settle

/-!
The invariant of the cursor. It is broken while a batch is taken and restored when the cursor is settled, so
it comes in two strengths: `Ready` is what the handlers keep, and `Sound` is what settling makes of it.
-/

namespace ChatRelay.Cursor

/-- The ids that an update can have. -/
def InRange (id : Int) : Prop := 0 ≤ id ∧ id ≤ Text.maxSigned

/-- The id after one in range is in range, since it stops at the greatest one. -/
theorem inRange_nextSigned {id : Int} (h : InRange id) : InRange (Text.nextSigned id) := by
  obtain ⟨hLow, hHigh⟩ := h
  simp only [InRange, Text.nextSigned, Text.maxSigned] at hHigh ⊢
  omega

/-- What a cursor keeps while it takes updates and acknowledgements. -/
structure Ready (c : Cursor) : Prop where
  pending_seen : ∀ id ∈ c.pending, id ∈ c.seen
  pending_fresh : ∀ id ∈ c.pending, c.isStale id = false
  processed_seen : ∀ id ∈ c.processed, id ∈ c.seen ∨ c.isStale id = true
  seen_inRange : ∀ id ∈ c.seen, InRange id
  floor_inRange : ∀ floor, c.floor = some floor → InRange floor
  persisted_le : c.persisted ≤ c.floor

/-- The invariant between two calls. The floor is the next offset and the least waiting id. Everything that
is waiting or processed was seen, and nothing below the floor is remembered. With nothing waiting, only the
greatest id of all can still be remembered, because no floor lies above it. -/
structure Sound (c : Cursor) : Prop where
  offset_eq_floor : c.offset = c.floor
  floor_eq_min : c.pending ≠ ∅ → c.floor = c.pending.min?
  pending_seen : ∀ id ∈ c.pending, id ∈ c.seen
  processed_seen : ∀ id ∈ c.processed, id ∈ c.seen
  fresh : ∀ id, id ∈ c.seen ∨ id ∈ c.pending ∨ id ∈ c.processed → c.isStale id = false
  quiet : c.pending = ∅ → ∀ id, id ∈ c.seen ∨ id ∈ c.processed → id = Text.maxSigned
  seen_inRange : ∀ id ∈ c.seen, InRange id
  floor_inRange : ∀ floor, c.floor = some floor → InRange floor
  persisted_le : c.persisted ≤ c.floor

variable {c : Cursor}

/-- A sound cursor is ready for updates and acknowledgements. -/
theorem Sound.ready (h : Sound c) : Ready c where
  pending_seen := h.pending_seen
  pending_fresh := fun id hId => h.fresh id (Or.inr (Or.inl hId))
  processed_seen := fun id hId => Or.inl (h.processed_seen id hId)
  seen_inRange := h.seen_inRange
  floor_inRange := h.floor_inRange
  persisted_le := h.persisted_le

/-- A floor from the store is a sound start. -/
theorem sound_start {floor : Option Int} (h : ∀ f, floor = some f → InRange f) : Sound (start floor) where
  offset_eq_floor := rfl
  floor_eq_min := fun hNe => absurd rfl hNe
  pending_seen := fun id hId => absurd hId (IdSet.not_mem_empty id)
  processed_seen := fun id hId => absurd hId (IdSet.not_mem_empty id)
  fresh := fun id hId => by
    rcases hId with hId | hId | hId <;> exact absurd hId (IdSet.not_mem_empty id)
  quiet := fun _ id hId => by
    rcases hId with hId | hId <;> exact absurd hId (IdSet.not_mem_empty id)
  seen_inRange := fun id hId => absurd hId (IdSet.not_mem_empty id)
  floor_inRange := h
  persisted_le := floor_le_refl floor

/-- With an id waiting, settling puts the floor on the least such id. -/
theorem Ready.settledFloor_of_min (h : Ready c) {id : Int} (hMin : c.pending.min? = some id) :
    c.settledFloor = some id := by
  have hWanted : c.wanted = some id := by simp [wanted, hMin]
  have hMem := (IdSet.min?_eq_some_iff.mp hMin).1
  rw [settledFloor, hWanted, Option.map_some]
  cases hFloor : c.floor with
  | none => rfl
  | some floor =>
      have hNot : ¬ id < floor := by simpa [isStale, hFloor] using h.pending_fresh id hMem
      congr 1
      simp only [atLeast]
      omega

/-- With nothing waiting, settling puts the floor above everything that was seen. -/
theorem settledFloor_of_max {id : Int} (hMin : c.pending.min? = none) (hMax : c.seen.max? = some id) :
    c.settledFloor = some (atLeast c.floor (Text.nextSigned id)) := by
  simp [settledFloor, wanted, hMin, hMax]

theorem settledFloor_of_empty (hMin : c.pending.min? = none) (hMax : c.seen.max? = none) :
    c.settledFloor = c.floor := by
  cases hFloor : c.floor <;> simp [settledFloor, wanted, hMin, hMax, hFloor, atLeast]

/-- Settling leaves a floor that can be saved. -/
theorem Ready.settledFloor_inRange (h : Ready c) {floor : Int} (hFloor : c.settledFloor = some floor) :
    InRange floor := by
  cases hMin : c.pending.min? with
  | some id =>
      obtain rfl := Option.some.inj ((h.settledFloor_of_min hMin).symm.trans hFloor)
      exact h.seen_inRange id (h.pending_seen id (IdSet.min?_eq_some_iff.mp hMin).1)
  | none =>
      cases hMax : c.seen.max? with
      | none =>
          rw [settledFloor_of_empty hMin hMax] at hFloor
          exact h.floor_inRange floor hFloor
      | some id =>
          have hNext := inRange_nextSigned (h.seen_inRange id (IdSet.max?_eq_some_iff.mp hMax).1)
          rw [settledFloor_of_max hMin hMax] at hFloor
          obtain rfl := Option.some.inj hFloor
          cases hOld : c.floor with
          | none => exact hNext
          | some old =>
              have hRange := h.floor_inRange old hOld
              simp only [InRange, atLeast] at hNext hRange ⊢
              omega

/-- With nothing waiting, an id survives settling only if the floor cannot rise above it. -/
theorem Ready.eq_maxSigned_of_settled (h : Ready c) (hEmpty : c.pending = ∅) {id : Int}
    (hSeen : id ∈ c.settle.seen) : id = Text.maxSigned := by
  obtain ⟨hOld, hFresh⟩ := mem_settle_seen.mp hSeen
  have hMin := IdSet.min?_eq_none_iff.mpr hEmpty
  cases hMax : c.seen.max? with
  | none =>
      rw [IdSet.max?_eq_none_iff.mp hMax] at hOld
      exact absurd hOld (IdSet.not_mem_empty id)
  | some top =>
      obtain ⟨hTop, hGreatest⟩ := IdSet.max?_eq_some_iff.mp hMax
      have hLe := hGreatest id hOld
      have hTopRange := h.seen_inRange top hTop
      have hFloor := c.settle_floor.trans (settledFloor_of_max hMin hMax)
      have hNext : Text.nextSigned top ≤ id := by
        have hNot : ¬ id < atLeast c.floor (Text.nextSigned top) := by
          simpa [isStale, hFloor] using hFresh
        have := le_atLeast c.floor (Text.nextSigned top)
        omega
      simp only [InRange, Text.nextSigned] at hTopRange hNext
      omega

/-- Settling restores the invariant. -/
theorem Ready.sound_settle (h : Ready c) : Sound c.settle := by
  have hPendingFresh : ∀ id ∈ c.settle.pending, c.settle.isStale id = false := by
    intro id hId
    rw [settle_pending] at hId
    cases hMin : c.pending.min? with
    | none =>
        rw [IdSet.min?_eq_none_iff.mp hMin] at hId
        exact absurd hId (IdSet.not_mem_empty id)
    | some least =>
        have hLe := (IdSet.min?_eq_some_iff.mp hMin).2 id hId
        have hFloor := c.settle_floor.trans (h.settledFloor_of_min hMin)
        simpa [isStale, hFloor] using hLe
  have hProcessed : ∀ id ∈ c.settle.processed, id ∈ c.settle.seen := by
    intro id hId
    obtain ⟨hOld, hFresh⟩ := mem_settle_processed.mp hId
    rcases h.processed_seen id hOld with hSeen | hStale
    · exact mem_settle_seen.mpr ⟨hSeen, hFresh⟩
    · rw [isStale_settle hStale] at hFresh
      cases hFresh
  constructor
  case offset_eq_floor => exact c.settle_offset
  case floor_eq_min =>
    intro hNe
    rw [settle_pending] at hNe ⊢
    cases hMin : c.pending.min? with
    | none => exact absurd (IdSet.min?_eq_none_iff.mp hMin) hNe
    | some id => exact c.settle_floor.trans (h.settledFloor_of_min hMin)
  case pending_seen =>
    intro id hId
    refine mem_settle_seen.mpr ⟨?_, hPendingFresh id hId⟩
    rw [settle_pending] at hId
    exact h.pending_seen id hId
  case processed_seen => exact hProcessed
  case fresh =>
    rintro id (hId | hId | hId)
    · exact (mem_settle_seen.mp hId).2
    · exact hPendingFresh id hId
    · exact (mem_settle_processed.mp hId).2
  case quiet =>
    rintro hEmpty id (hId | hId)
    · exact h.eq_maxSigned_of_settled (c.settle_pending ▸ hEmpty) hId
    · exact h.eq_maxSigned_of_settled (c.settle_pending ▸ hEmpty) (hProcessed id hId)
  case seen_inRange => exact fun id hId => h.seen_inRange id (mem_settle_seen.mp hId).1
  case floor_inRange => exact fun floor hFloor => h.settledFloor_inRange (c.settle_floor ▸ hFloor)
  case persisted_le =>
    rw [settle_persisted]
    exact floor_le_trans h.persisted_le c.floor_le_settle

/-- Taking a batch keeps what settling needs. -/
theorem Ready.takeBatch (h : Ready c) {batch : List Update}
    (hRange : ∀ update ∈ batch, ∀ id, update.id? = some id → InRange id) :
    Ready (c.takeBatch batch).cursor := by
  have hFrom := c.from_takeBatch batch
  constructor
  case pending_seen =>
    intro id hId
    rcases hFrom.open_of_pending id hId with hOld | ⟨hSeen, _⟩
    · exact hFrom.seen_of_seen id (h.pending_seen id hOld)
    · exact hSeen
  case pending_fresh =>
    intro id hId
    rw [hFrom.isStale_eq]
    rcases hFrom.open_of_pending id hId with hOld | ⟨_, hOpen⟩
    · exact h.pending_fresh id hOld
    · simpa using fun hStale => hOpen (Or.inl hStale)
  case processed_seen =>
    intro id hId
    rw [hFrom.isStale_eq]
    rcases hFrom.of_processed id hId with hOld | hSeen | hStale
    · exact (h.processed_seen id hOld).imp_left (hFrom.seen_of_seen id)
    · exact Or.inl hSeen
    · exact Or.inr hStale
  case seen_inRange =>
    intro id hId
    by_cases hOccurred : id ∈ (c.takeBatch batch).occurred
    · obtain ⟨update, hMem, hUpdate⟩ := c.mem_batch_of_occurred batch hOccurred
      exact hRange update hMem id hUpdate
    · exact h.seen_inRange id ((hFrom.untouched id hOccurred).1 hId)
  case floor_inRange => exact fun floor hFloor => h.floor_inRange floor (hFrom.floor_eq ▸ hFloor)
  case persisted_le =>
    rw [hFrom.persisted_eq, hFrom.floor_eq]
    exact h.persisted_le

/-- Taking an acknowledgement keeps what settling needs. The id may lie below the floor. -/
theorem Ready.acknowledge (h : Ready c) {id : Int} (hId : InRange id) : Ready (c.acknowledge id) where
  pending_seen := by
    intro a ha
    exact IdSet.mem_insert.mpr (Or.inr (h.pending_seen a (IdSet.mem_erase.mp ha).1))
  pending_fresh := fun a ha => h.pending_fresh a (IdSet.mem_erase.mp ha).1
  processed_seen := by
    intro a ha
    rcases IdSet.mem_insert.mp ha with rfl | ha
    · exact Or.inl (IdSet.mem_insert.mpr (Or.inl rfl))
    · exact (h.processed_seen a ha).imp_left fun hSeen => IdSet.mem_insert.mpr (Or.inr hSeen)
  seen_inRange := by
    intro a ha
    rcases IdSet.mem_insert.mp ha with rfl | ha
    · exact hId
    · exact h.seen_inRange a ha
  floor_inRange := h.floor_inRange
  persisted_le := h.persisted_le

/-- Noting that the floor is in the store keeps the invariant. -/
theorem Sound.saved (h : Sound c) {floor : Int} (hFloor : c.floor = some floor) :
    Sound { c with persisted := some floor } :=
  { h with
    persisted_le := by
      rw [← hFloor]
      exact floor_le_refl c.floor }

end ChatRelay.Cursor
