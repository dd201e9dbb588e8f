import ChatRelay.Proofs.Cursor.Sound

/-!
How far a cursor has come. An id is reached when it is not greater than an id that was seen, or when it is below
the floor. Settling leaves the reached ids as they are, though it moves the floor and forgets ids.
-/

namespace ChatRelay

/-- The updates below a floor. -/
def Below (floor : Option Int) (id : Int) : Prop := ∃ f, floor = some f ∧ id < f

namespace Cursor

/-- The ids up to the greatest one seen, and those below the floor. -/
def Reaches (c : Cursor) (id : Int) : Prop := (∃ s ∈ c.seen, id ≤ s) ∨ Below c.floor id

variable {c : Cursor} {id : Int}

theorem reaches_of_settled (h : c.Settled id) : c.Reaches id := by
  rcases h with hStale | hSettled
  · exact Or.inr (isStale_iff.mp hStale)
  · exact Or.inl ⟨id, (isSettled_iff.mp hSettled).1, Int.le_refl id⟩

/-- The floor does not rise above what is reached already. -/
theorem Ready.reaches_of_below (h : Ready c) (hBelow : Below c.settle.floor id) : c.Reaches id := by
  obtain ⟨floor, hFloor, hLt⟩ := hBelow
  rw [settle_floor] at hFloor
  cases hMin : c.pending.min? with
  | some least =>
      obtain rfl := Option.some.inj ((h.settledFloor_of_min hMin).symm.trans hFloor)
      have hSeen := h.pending_seen _ (IdSet.min?_eq_some_iff.mp hMin).1
      exact Or.inl ⟨_, hSeen, Int.le_of_lt hLt⟩
  | none =>
      cases hMax : c.seen.max? with
      | none =>
          rw [settledFloor_of_empty hMin hMax] at hFloor
          exact Or.inr ⟨floor, hFloor, hLt⟩
      | some top =>
          rw [settledFloor_of_max hMin hMax] at hFloor
          obtain rfl := Option.some.inj hFloor
          by_cases hTop : id ≤ top
          · exact Or.inl ⟨top, (IdSet.max?_eq_some_iff.mp hMax).1, hTop⟩
          · have hNext : Text.nextSigned top ≤ id := by
              simp only [Text.nextSigned]
              omega
            cases hOld : c.floor with
            | none =>
                simp only [atLeast, hOld] at hLt
                omega
            | some old =>
                refine Or.inr ⟨old, hOld, ?_⟩
                simp only [atLeast, hOld] at hLt
                omega

/-- Settling the floor does not change how far a cursor has come. -/
theorem Ready.reaches_settle (h : Ready c) : c.settle.Reaches id ↔ c.Reaches id := by
  constructor
  · rintro (⟨s, hSeen, hLe⟩ | hBelow)
    · exact Or.inl ⟨s, (mem_settle_seen.mp hSeen).1, hLe⟩
    · exact h.reaches_of_below hBelow
  · rintro (⟨s, hSeen, hLe⟩ | hBelow)
    · cases hStale : c.settle.isStale s with
      | true =>
          obtain ⟨floor, hFloor, hLt⟩ := isStale_iff.mp hStale
          exact Or.inr ⟨floor, hFloor, Int.lt_of_le_of_lt hLe hLt⟩
      | false => exact Or.inl ⟨s, mem_settle_seen.mpr ⟨hSeen, hStale⟩, hLe⟩
    · exact Or.inr (isStale_iff.mp (isStale_settle (isStale_iff.mpr hBelow)))

/-- What lies below a reached id is reached. -/
theorem Reaches.of_le {a : Int} (h : c.Reaches a) (hLe : id ≤ a) : c.Reaches id := by
  rcases h with ⟨s, hSeen, hLeSeen⟩ | ⟨floor, hFloor, hLt⟩
  · exact Or.inl ⟨s, hSeen, Int.le_trans hLe hLeSeen⟩
  · exact Or.inr ⟨floor, hFloor, Int.lt_of_le_of_lt hLe hLt⟩

/-- An acknowledgement reaches as far as its id. -/
theorem reaches_or_le_of_acknowledge {a : Int} (h : (c.acknowledge a).Reaches id) : c.Reaches id ∨ id ≤ a := by
  rcases h with ⟨s, hSeen, hLe⟩ | hBelow
  · rcases IdSet.mem_insert.mp hSeen with rfl | hOld
    · exact Or.inr hLe
    · exact Or.inl (Or.inl ⟨s, hOld, hLe⟩)
  · exact Or.inl (Or.inr hBelow)

/-- An acknowledgement of what is reached does not reach further. -/
theorem reaches_of_acknowledge {a : Int} (hReached : c.Reaches a) (h : (c.acknowledge a).Reaches id) :
    c.Reaches id :=
  (reaches_or_le_of_acknowledge h).elim (fun hOld => hOld) hReached.of_le

/-- A batch reaches as far as its greatest id. -/
theorem reaches_of_takeBatch {batch : List Update} (h : (c.takeBatch batch).cursor.Reaches id) :
    c.Reaches id ∨ ∃ update ∈ batch, ∃ s, update.id? = some s ∧ id ≤ s := by
  have hFrom := c.from_takeBatch batch
  rcases h with ⟨s, hSeen, hLe⟩ | hBelow
  · by_cases hOccurred : s ∈ (c.takeBatch batch).occurred
    · obtain ⟨update, hMem, hUpdate⟩ := c.mem_batch_of_occurred batch hOccurred
      exact Or.inr ⟨update, hMem, s, hUpdate, hLe⟩
    · exact Or.inl (Or.inl ⟨s, (hFrom.untouched s hOccurred).1 hSeen, hLe⟩)
  · rw [hFrom.floor_eq] at hBelow
    exact Or.inl (Or.inr hBelow)

end Cursor

end ChatRelay
