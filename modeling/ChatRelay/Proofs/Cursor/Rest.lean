import ChatRelay.Proofs.Cursor.Reach

/-!
Where the floor comes to rest. It depends on the waiting ids and on how far the cursor has come, and not on the way
there. So a cursor that takes a batch and then acknowledgements, in any order, ends with a floor that can be told
from the start, from the batch and from the ids that are left.
-/

namespace ChatRelay

/-- The ids up to the greatest known one, and those below a floor. -/
def Covers (floor : Option Int) (known : List Int) (id : Int) : Prop := (∃ s ∈ known, id ≤ s) ∨ Below floor id

/-- The floor with nothing waiting: above all known ids, and not below the old floor. No floor is greater than the
greatest id, so that this one may stay below itself. -/
def restFloor (floor : Option Int) (known : List Int) : Option Int :=
  match known.max? with
  | some top => some (Cursor.atLeast floor (Text.nextSigned top))
  | none => floor

/-- The floor over some waiting ids. -/
def floorOver (pending : IdSet) (floor : Option Int) (known : List Int) : Option Int :=
  match pending.min? with
  | some least => some least
  | none => restFloor floor known

/-- The floor and the known ids are not beyond the greatest id. -/
structure Bounded (floor : Option Int) (known : List Int) : Prop where
  floor_le : ∀ f, floor = some f → f ≤ Text.maxSigned
  known_le : ∀ s ∈ known, s ≤ Text.maxSigned

/-- A value that has all covered ids below it, as far as there is room. -/
structure RestsAt (reach : Int → Prop) (rest : Int) : Prop where
  le_max : rest ≤ Text.maxSigned
  reach_below : ∀ id, id < rest → reach id
  not_reach : rest < Text.maxSigned → ¬ reach rest

variable {floor floor' : Option Int} {known known' : List Int}

/-- There is at most one value for a floor to rest at. -/
theorem RestsAt.unique {reach : Int → Prop} {a b : Int} (ha : RestsAt reach a) (hb : RestsAt reach b) : a = b := by
  have hBoth : ∀ {a b : Int}, RestsAt reach a → RestsAt reach b → ¬ a < b := by
    intro a b ha hb hLt
    exact ha.not_reach (Int.lt_of_lt_of_le hLt hb.le_max) (hb.reach_below a hLt)
  have hLow := hBoth ha hb
  have hHigh := hBoth hb ha
  omega

/-- With nothing waiting, the floor rests at that value. -/
theorem Bounded.restsAt (h : Bounded floor known) {rest : Int} (hRest : restFloor floor known = some rest) :
    RestsAt (Covers floor known) rest := by
  simp only [restFloor] at hRest
  cases hMax : known.max? with
  | none =>
      rw [hMax] at hRest
      obtain rfl := List.max?_eq_none_iff.mp hMax
      refine ⟨h.floor_le rest hRest, fun id hLt => Or.inr ⟨rest, hRest, hLt⟩, fun _ hReach => ?_⟩
      rcases hReach with ⟨s, hMem, _⟩ | ⟨f, hFloor, hLt⟩
      · exact absurd hMem List.not_mem_nil
      · obtain rfl := Option.some.inj (hRest.symm.trans hFloor)
        exact Int.lt_irrefl _ hLt
  | some top =>
      rw [hMax] at hRest
      obtain ⟨hTop, hGreatest⟩ := List.max?_eq_some_iff.mp hMax
      have hTopLe := h.known_le top hTop
      obtain rfl := Option.some.inj hRest
      constructor
      case le_max =>
        cases floor with
        | none => simp only [Cursor.atLeast, Text.nextSigned]; omega
        | some f =>
            have := h.floor_le f rfl
            simp only [Cursor.atLeast, Text.nextSigned]
            omega
      case reach_below =>
        intro id hLt
        by_cases hLe : id ≤ top
        · exact Or.inl ⟨top, hTop, hLe⟩
        · cases floor with
          | none =>
              simp only [Cursor.atLeast, Text.nextSigned] at hLt
              omega
          | some f =>
              refine Or.inr ⟨f, rfl, ?_⟩
              simp only [Cursor.atLeast, Text.nextSigned] at hLt
              omega
      case not_reach =>
        rintro hRoom (⟨s, hMem, hLe⟩ | ⟨f, rfl, hLt⟩)
        · have hNext := Cursor.le_atLeast floor (Text.nextSigned top)
          have := hGreatest s hMem
          simp only [Text.nextSigned] at hNext hRoom hLe
          omega
        · simp only [Cursor.atLeast] at hLt
          omega

/-- There is no floor to rest at exactly if nothing is covered. -/
theorem restFloor_eq_none_iff : restFloor floor known = none ↔ ∀ id, ¬ Covers floor known id := by
  simp only [restFloor]
  cases hMax : known.max? with
  | none =>
      obtain rfl := List.max?_eq_none_iff.mp hMax
      constructor
      · rintro rfl id (⟨s, hMem, _⟩ | ⟨f, hFloor, _⟩)
        · exact absurd hMem List.not_mem_nil
        · cases hFloor
      · intro hNone
        cases floor with
        | none => rfl
        | some f => exact absurd (Or.inr ⟨f, rfl, by omega⟩) (hNone (f - 1))
  | some top =>
      have hTop := (List.max?_eq_some_iff.mp hMax).1
      exact iff_of_false (by simp) fun hNone => hNone top (Or.inl ⟨top, hTop, Int.le_refl top⟩)

/-- The floor rests at the same place whenever the same ids are covered. -/
theorem restFloor_congr (h : Bounded floor known) (h' : Bounded floor' known')
    (hSame : ∀ id, Covers floor known id ↔ Covers floor' known' id) :
    restFloor floor known = restFloor floor' known' := by
  -- where a floor rests is a property of the covered ids alone, and one place has it
  have hCovers : Covers floor known = Covers floor' known' := funext fun id => propext (hSame id)
  cases hRest : restFloor floor known with
  | none =>
      rw [restFloor_eq_none_iff, hCovers, ← restFloor_eq_none_iff] at hRest
      exact hRest.symm
  | some rest =>
      cases hRest' : restFloor floor' known' with
      | none =>
          rw [restFloor_eq_none_iff, ← hCovers, ← restFloor_eq_none_iff, hRest] at hRest'
          cases hRest'
      | some rest' =>
          have hAt := hCovers ▸ h.restsAt hRest
          rw [hAt.unique (h'.restsAt hRest')]

namespace Cursor

variable {c : Cursor} {id : Int}

theorem max?_toList (s : IdSet) : s.toList.max? = s.max? := by
  cases hMax : s.max? with
  | none =>
      rw [IdSet.max?_eq_none_iff.mp hMax]
      rfl
  | some top => exact List.max?_eq_some_iff.mpr (IdSet.max?_eq_some_iff.mp hMax)

theorem Ready.bounded (h : Ready c) : Bounded c.floor c.seen.toList where
  floor_le := fun f hFloor => (h.floor_inRange f hFloor).2
  known_le := fun s hMem => (h.seen_inRange s hMem).2

/-- The floor that settling leaves is the one over the waiting ids. -/
theorem Ready.settledFloor_eq (h : Ready c) : c.settledFloor = floorOver c.pending c.floor c.seen.toList := by
  simp only [floorOver, restFloor]
  cases hMin : c.pending.min? with
  | some least => exact h.settledFloor_of_min hMin
  | none =>
      rw [max?_toList]
      cases hMax : c.seen.max? with
      | some top => exact settledFloor_of_max hMin hMax
      | none => exact settledFloor_of_empty hMin hMax

/-- A sound cursor that has come as far as a floor and some known ids, and whose own floor is the one over its
waiting ids. -/
structure Tracks (floor : Option Int) (known : List Int) (c : Cursor) : Prop where
  bounded : Bounded floor known
  sound : c.Sound
  reaches_iff : ∀ id, c.Reaches id ↔ Covers floor known id
  floor_eq : c.floor = floorOver c.pending floor known

/-- Settling brings about what the cursor needs to be on track. -/
theorem Ready.tracks_settle (h : Ready c) (hBounded : Bounded floor known)
    (hReaches : ∀ id, c.Reaches id ↔ Covers floor known id) : c.settle.Tracks floor known where
  bounded := hBounded
  sound := h.sound_settle
  reaches_iff := fun id => h.reaches_settle.trans (hReaches id)
  floor_eq := by
    rw [settle_floor, h.settledFloor_eq, settle_pending]
    simp only [floorOver]
    cases c.pending.min? with
    | some least => rfl
    | none => exact restFloor_congr h.bounded hBounded hReaches

theorem Reaches.acknowledge {a : Int} (h : c.Reaches id) : (c.acknowledge a).Reaches id :=
  h.imp_left fun ⟨s, hSeen, hLe⟩ => ⟨s, IdSet.mem_insert.mpr (Or.inr hSeen), hLe⟩

/-- An acknowledgement of an id that is covered does not lead further. -/
theorem Tracks.acknowledge (h : c.Tracks floor known) (hRange : InRange id) (hCovered : Covers floor known id) :
    (c.acknowledge id).settle.Tracks floor known := by
  refine (h.sound.ready.acknowledge hRange).tracks_settle h.bounded fun a => ?_
  rw [← h.reaches_iff]
  exact ⟨reaches_of_acknowledge ((h.reaches_iff id).mpr hCovered), Reaches.acknowledge⟩

/-- Noting what is in the store is not a move. -/
theorem Tracks.saved (h : c.Tracks floor known) {f : Int} (hFloor : c.floor = some f) :
    Tracks floor known { c with persisted := some f } :=
  ⟨h.bounded, h.sound.saved hFloor, h.reaches_iff, h.floor_eq⟩

variable {batch : List Update}

/-- A batch leads as far as its greatest usable id. -/
theorem reaches_takeBatch_iff (c : Cursor) (batch : List Update) (id : Int) :
    (c.takeBatch batch).cursor.Reaches id ↔ Covers c.floor (c.seen.toList ++ batch.filterMap Update.id?) id := by
  have hFrom := c.from_takeBatch batch
  constructor
  · intro h
    rcases reaches_of_takeBatch h with (⟨s, hSeen, hLe⟩ | hBelow) | ⟨update, hMem, s, hUpdate, hLe⟩
    · exact Or.inl ⟨s, List.mem_append_left _ hSeen, hLe⟩
    · exact Or.inr hBelow
    · exact Or.inl ⟨s, List.mem_append_right _ (List.mem_filterMap.mpr ⟨update, hMem, hUpdate⟩), hLe⟩
  · rintro (⟨s, hMem, hLe⟩ | hBelow)
    · have hReached : (c.takeBatch batch).cursor.Reaches s := by
        rcases List.mem_append.mp hMem with hSeen | hUsable
        · exact Or.inl ⟨s, hFrom.seen_of_seen s hSeen, Int.le_refl s⟩
        · obtain ⟨update, hUpdate, hId⟩ := List.mem_filterMap.mp hUsable
          rcases hFrom.known s (c.occurred_takeBatch batch hUpdate hId) with hSeen | hStale
          · exact Or.inl ⟨s, hSeen, Int.le_refl s⟩
          · rw [← hFrom.isStale_eq] at hStale
            exact Or.inr (isStale_iff.mp hStale)
      exact hReached.of_le hLe
    · rw [← hFrom.floor_eq] at hBelow
      exact Or.inr hBelow

/-- A batch that is taken and settled puts a sound cursor on track. -/
theorem Sound.tracks_takeBatch (h : Sound c) (hRange : ∀ update ∈ batch, ∀ id, update.id? = some id → InRange id) :
    (c.takeBatch batch).cursor.settle.Tracks c.floor (c.seen.toList ++ batch.filterMap Update.id?) := by
  refine (h.ready.takeBatch hRange).tracks_settle ⟨fun f hFloor => (h.floor_inRange f hFloor).2, fun s hMem => ?_⟩
    (c.reaches_takeBatch_iff batch)
  rcases List.mem_append.mp hMem with hSeen | hUsable
  · exact (h.seen_inRange s hSeen).2
  · obtain ⟨update, hUpdate, hId⟩ := List.mem_filterMap.mp hUsable
    exact (hRange update hUpdate s hId).2

/-- What waits after a batch waited before, or its message is handed out. -/
theorem pending_takeBatch_iff (c : Cursor) (batch : List Update) {read : String → Option Int}
    (hRead : ∀ id m, .message id m ∈ batch → read m.updateId = some id) (id : Int) :
    id ∈ (c.takeBatch batch).cursor.pending ↔
      id ∈ c.pending ∨ ∃ m ∈ (c.takeBatch batch).messages, read m.updateId = some id := by
  constructor
  · refine takeBatch_induction (P := fun s => id ∈ s.cursor.pending →
      id ∈ c.pending ∨ ∃ m ∈ s.messages, read m.updateId = some id) Or.inl ?_
    intro s update t hMem hTaken ih hPending
    cases hTaken with
    | unusable => exact ih hPending
    | repeated => exact ih hPending
    | stale => exact ih hPending
    | settled => exact ih hPending
    | skipped => exact ih hPending
    | @emitted other inbound =>
        rcases IdSet.mem_insert.mp hPending with rfl | hOld
        · exact Or.inr ⟨inbound, by simp, hRead id inbound hMem⟩
        · exact (ih hOld).imp_right fun ⟨m, hm, hId⟩ => ⟨m, List.mem_append_left _ hm, hId⟩
  · rintro (hOld | ⟨m, hm, hId⟩)
    · exact (c.from_takeBatch batch).pending_of_pending id hOld
    · obtain ⟨other, hIn, _, hPending, _⟩ := c.sourced_takeBatch batch m hm
      obtain rfl := Option.some.inj ((hRead other m hIn).symm.trans hId)
      exact hPending

end Cursor

end ChatRelay
