import ChatRelay.Proofs.Cursor.Intake

/-!
Where settling puts the floor. The next offset and the floor are one value afterwards, which is the wanted
offset unless that would bring the floor down. The ids below the new floor are forgotten, and nothing else
changes.
-/

namespace ChatRelay.Cursor

/-- Floors are compared with a missing one as the lowest. -/
theorem floor_le_refl (a : Option Int) : a ≤ a := by
  cases a <;> simp

/-- The order of floors, in which a missing one comes first, is transitive. -/
theorem floor_le_trans {a b c : Option Int} (hab : a ≤ b) (hbc : b ≤ c) : a ≤ c := by
  cases a with
  | none => simp
  | some x =>
      cases b with
      | none => simp at hab
      | some y =>
          cases c with
          | none => simp at hbc
          | some z =>
              simp only [Option.some_le_some] at hab hbc ⊢
              exact Int.le_trans hab hbc

/-- Cursors with the same six parts are the same. -/
@[ext] theorem ext {c d : Cursor} (seen : c.seen = d.seen) (pending : c.pending = d.pending)
    (processed : c.processed = d.processed) (floor : c.floor = d.floor) (persisted : c.persisted = d.persisted)
    (offset : c.offset = d.offset) : c = d := by
  cases c
  cases d
  simp_all

variable {c : Cursor}

theorem evict_floor (c : Cursor) : c.evict.floor = c.floor := by
  simp only [evict]
  split <;> rfl

theorem evict_offset (c : Cursor) : c.evict.offset = c.offset := by
  simp only [evict]
  split <;> rfl

theorem evict_pending (c : Cursor) : c.evict.pending = c.pending := by
  simp only [evict]
  split <;> rfl

theorem evict_persisted (c : Cursor) : c.evict.persisted = c.persisted := by
  simp only [evict]
  split <;> rfl

theorem mem_evict_seen {id : Int} : id ∈ c.evict.seen ↔ id ∈ c.seen ∧ c.isStale id = false := by
  simp only [evict, isStale]
  split <;> rename_i hFloor <;> simp [hFloor]

theorem mem_evict_processed {id : Int} :
    id ∈ c.evict.processed ↔ id ∈ c.processed ∧ c.isStale id = false := by
  simp only [evict, isStale]
  split <;> rename_i hFloor <;> simp [hFloor]

/-- The floor that settling leaves behind. -/
def settledFloor (c : Cursor) : Option Int := c.wanted.map (atLeast c.floor)

/-- Only a cursor that knows nothing asks for no offset. -/
theorem wanted_eq_none_iff : c.wanted = none ↔ c.pending = ∅ ∧ c.seen = ∅ ∧ c.floor = none := by
  simp only [wanted]
  cases hMin : c.pending.min? with
  | some id =>
      have hNe : c.pending ≠ ∅ := fun h => by simp [IdSet.min?_eq_none_iff.mpr h] at hMin
      simp [hNe]
  | none =>
      have hEmpty := IdSet.min?_eq_none_iff.mp hMin
      cases hMax : c.seen.max? with
      | some id =>
          have hNe : c.seen ≠ ∅ := fun h => by simp [IdSet.max?_eq_none_iff.mpr h] at hMax
          simp [hNe]
      | none => simp [hEmpty, IdSet.max?_eq_none_iff.mp hMax]

theorem settle_floor (c : Cursor) : c.settle.floor = c.settledFloor := by
  simp only [settle, settledFloor]
  cases hWanted : c.wanted with
  | none => simp [evict_floor, (wanted_eq_none_iff.mp hWanted).2.2]
  | some offset => simp [evict_floor]

theorem settle_offset (c : Cursor) : c.settle.offset = c.settle.floor := by
  rw [settle_floor]
  simp only [settle, settledFloor]
  cases c.wanted <;> simp [evict_offset]

theorem settle_pending (c : Cursor) : c.settle.pending = c.pending := by
  simp only [settle]
  cases c.wanted <;> simp [evict_pending]

theorem settle_persisted (c : Cursor) : c.settle.persisted = c.persisted := by
  simp only [settle]
  cases c.wanted <;> simp [evict_persisted]

/-- Exactly the ids below the new floor are forgotten. -/
theorem mem_settle_seen {id : Int} :
    id ∈ c.settle.seen ↔ id ∈ c.seen ∧ c.settle.isStale id = false := by
  simp only [settle]
  cases c.wanted <;> simp [mem_evict_seen, isStale_congr (evict_floor _)]

theorem mem_settle_processed {id : Int} :
    id ∈ c.settle.processed ↔ id ∈ c.processed ∧ c.settle.isStale id = false := by
  simp only [settle]
  cases c.wanted <;> simp [mem_evict_processed, isStale_congr (evict_floor _)]

theorem le_atLeast (floor : Option Int) (offset : Int) : offset ≤ atLeast floor offset := by
  cases floor with
  | none => exact Int.le_refl _
  | some f => exact Int.le_max_left _ _

theorem floor_le_atLeast (floor : Option Int) (offset : Int) : floor ≤ some (atLeast floor offset) := by
  cases floor with
  | none => exact trivial
  | some f => exact Int.le_max_right _ _

/-- Settling never brings the floor down. -/
theorem floor_le_settle (c : Cursor) : c.floor ≤ c.settle.floor := by
  rw [settle_floor, settledFloor]
  cases hWanted : c.wanted with
  | none =>
      rw [(wanted_eq_none_iff.mp hWanted).2.2]
      exact trivial
  | some offset => exact floor_le_atLeast _ _

/-- What was below the floor stays below it. -/
theorem isStale_settle {id : Int} (h : c.isStale id = true) : c.settle.isStale id = true := by
  obtain ⟨floor, hFloor, hLt⟩ := isStale_iff.mp h
  have hLe := c.floor_le_settle
  rw [hFloor] at hLe
  cases hAfter : c.settle.floor with
  | none =>
      rw [hAfter] at hLe
      simp at hLe
  | some after =>
      rw [hAfter] at hLe
      exact isStale_iff.mpr ⟨after, hAfter, Int.lt_of_lt_of_le hLt hLe⟩

/-- What is settled stays settled, if only because it is below the floor now. -/
theorem settled_settle {id : Int} (h : c.Settled id) : c.settle.Settled id := by
  by_cases hStale : c.settle.isStale id = true
  · exact Or.inl hStale
  · rcases h with hOld | hOld
    · exact Or.inl (isStale_settle hOld)
    · obtain ⟨hSeen, hPending⟩ := isSettled_iff.mp hOld
      refine Or.inr (isSettled_iff.mpr ⟨mem_settle_seen.mpr ⟨hSeen, by simpa using hStale⟩, ?_⟩)
      rw [settle_pending]
      exact hPending

theorem settled_acknowledge_self (c : Cursor) (id : Int) : (c.acknowledge id).Settled id :=
  Or.inr (isSettled_iff.mpr ⟨by simp [acknowledge], by simp [acknowledge]⟩)

/-- A settled id stays settled when another one is acknowledged. -/
theorem settled_acknowledge {a : Int} (h : c.Settled a) (id : Int) : (c.acknowledge id).Settled a := by
  rcases h with hStale | hSettled
  · exact Or.inl hStale
  · obtain ⟨hSeen, hPending⟩ := isSettled_iff.mp hSettled
    exact Or.inr (isSettled_iff.mpr ⟨by simp [acknowledge, hSeen], by simp [acknowledge, hPending]⟩)

end ChatRelay.Cursor
