import ChatRelay.Proofs.Cursor.Rest

/-!
Acknowledgements one after the other. What they leave behind can be told from the cursor before the first of them and
from the set of the ids, so that neither the order nor a repetition matters. An id need not wait for its
acknowledgement, and it need not have been seen.
-/

namespace ChatRelay.Cursor

variable {start c d : Cursor} {done done' : List Int} {id : Int}

/-- The cursor after the acknowledgements of some ids. -/
structure Released (start : Cursor) (done : List Int) (c : Cursor) : Prop where
  sound : c.Sound
  pending_iff : ∀ id, id ∈ c.pending ↔ id ∈ start.pending ∧ id ∉ done
  seen_iff : ∀ id, id ∈ c.seen ↔ (id ∈ start.seen ∨ id ∈ done) ∧ c.isStale id = false
  processed_iff : ∀ id, id ∈ c.processed ↔ (id ∈ start.processed ∨ id ∈ done) ∧ c.isStale id = false
  reaches_iff : ∀ id, c.Reaches id ↔ Covers start.floor (start.seen.toList ++ done) id
  inRange : ∀ id ∈ done, InRange id
  /-- The floor is settled by the first acknowledgement and by each later one. -/
  floor_eq : done ≠ [] → c.floor = floorOver c.pending start.floor (start.seen.toList ++ done)

/-- Before the first acknowledgement nothing is released. -/
theorem Sound.released (h : Sound c) : Released c [] c where
  sound := h
  pending_iff id := by simp
  seen_iff id := by
    simp only [List.not_mem_nil, or_false]
    exact ⟨fun hSeen => ⟨hSeen, h.fresh id (Or.inl hSeen)⟩, fun hSeen => hSeen.1⟩
  processed_iff id := by
    simp only [List.not_mem_nil, or_false]
    exact ⟨fun hDone => ⟨hDone, h.fresh id (Or.inr (Or.inr hDone))⟩, fun hDone => hDone.1⟩
  reaches_iff id := by simp [Reaches, Covers, IdSet.mem_def]
  inRange id hId := absurd hId List.not_mem_nil
  floor_eq hNe := absurd rfl hNe

/-- Ids in range keep a sound cursor within bounds. -/
theorem Sound.bounded_append (h : Sound start) (hRange : ∀ id ∈ done, InRange id) :
    Bounded start.floor (start.seen.toList ++ done) where
  floor_le f hFloor := (h.floor_inRange f hFloor).2
  known_le s hMem := by
    rcases List.mem_append.mp hMem with hSeen | hDone
    · exact (h.seen_inRange s hSeen).2
    · exact (hRange s hDone).2

/-- One more known id covers what is not beyond it. -/
theorem covers_concat {floor : Option Int} {known : List Int} {a : Int} :
    Covers floor (known ++ [id]) a ↔ Covers floor known a ∨ a ≤ id := by
  simp only [Covers, List.mem_append, List.mem_singleton, or_and_right, exists_or, exists_eq_left]
  exact or_right_comm

/-- An acknowledgement reaches as far as before and as far as its id. -/
theorem reaches_acknowledge_iff (c : Cursor) (a id : Int) : (c.acknowledge a).Reaches id ↔ c.Reaches id ∨ id ≤ a := by
  constructor
  · exact reaches_or_le_of_acknowledge
  · rintro (hOld | hLe)
    · exact hOld.acknowledge
    · exact Or.inl ⟨a, by simp [acknowledge], hLe⟩

/-- What is fresh after settling was fresh before. -/
theorem isStale_of_settle (h : c.settle.isStale id = false) : c.isStale id = false := by
  cases hStale : c.isStale id with
  | false => rfl
  | true =>
      rw [isStale_settle hStale] at h
      cases h

/-- One more acknowledgement. -/
theorem Released.acknowledge (h : Released start done c) (hStart : Sound start) (hId : InRange id) :
    Released start (done ++ [id]) (c.acknowledge id).settle := by
  have hReady := h.sound.ready.acknowledge hId
  have hRange : ∀ a ∈ done ++ [id], InRange a := by
    intro a ha
    rcases List.mem_append.mp ha with hOld | hNew
    · exact h.inRange a hOld
    · exact List.mem_singleton.mp hNew ▸ hId
  have hReaches : ∀ a, (c.acknowledge id).Reaches a ↔ Covers start.floor (start.seen.toList ++ (done ++ [id])) a := by
    intro a
    rw [reaches_acknowledge_iff, h.reaches_iff, ← List.append_assoc, covers_concat]
  have hTracks := hReady.tracks_settle (hStart.bounded_append hRange) hReaches
  have hOld : ∀ a, (c.acknowledge id).settle.isStale a = false → c.isStale a = false := fun a hFresh =>
    isStale_of_settle (c := c.acknowledge id) hFresh
  constructor
  case sound => exact hTracks.sound
  case inRange => exact hRange
  case reaches_iff => exact hTracks.reaches_iff
  case floor_eq => exact fun _ => hTracks.floor_eq
  case pending_iff =>
    intro a
    rw [settle_pending, Cursor.acknowledge, IdSet.mem_erase, h.pending_iff]
    simp [and_assoc]
  case seen_iff =>
    intro a
    rw [mem_settle_seen]
    refine and_congr_left fun hFresh => ?_
    rw [Cursor.acknowledge, IdSet.mem_insert, h.seen_iff, List.mem_append, List.mem_singleton]
    simp only [hOld a hFresh, and_true]
    rw [or_comm, or_assoc]
  case processed_iff =>
    intro a
    rw [mem_settle_processed]
    refine and_congr_left fun hFresh => ?_
    rw [Cursor.acknowledge, IdSet.mem_insert, h.processed_iff, List.mem_append, List.mem_singleton]
    simp only [hOld a hFresh, and_true]
    rw [or_comm, or_assoc]

/-- Whether the last save is noted makes no other difference. -/
theorem Released.saved (h : Released start done c) {f : Int} (hFloor : c.floor = some f) :
    Released start done { c with persisted := some f } :=
  { h with sound := h.sound.saved hFloor }

/-- The ids that are covered do not depend on the order of the known ones, nor on how often each of them is named. -/
theorem covers_congr (floor : Option Int) (known : List Int) (hSame : ∀ id, id ∈ done ↔ id ∈ done') (id : Int) :
    Covers floor (known ++ done) id ↔ Covers floor (known ++ done') id := by
  simp only [Covers, List.mem_append, hSame]

theorem ne_nil_of_same (hSame : ∀ id, id ∈ done ↔ id ∈ done') (h : done ≠ []) : done' ≠ [] := by
  obtain ⟨id, hId⟩ := List.exists_mem_of_ne_nil done h
  exact List.ne_nil_of_mem ((hSame id).mp hId)

/-- The acknowledgements of the same ids leave the same cursor behind, but for what was saved on the way. -/
theorem Released.unique (h : Released start done c) (h' : Released start done' d) (hStart : Sound start)
    (hSame : ∀ id, id ∈ done ↔ id ∈ done') (hSome : done ≠ []) : { c with persisted := d.persisted } = d := by
  have hSome' := ne_nil_of_same hSame hSome
  have hPending : c.pending = d.pending := IdSet.ext fun id => by rw [h.pending_iff, h'.pending_iff, hSame]
  have hFloor : c.floor = d.floor := by
    rw [h.floor_eq hSome, h'.floor_eq hSome', hPending]
    simp only [floorOver]
    cases d.pending.min? with
    | some least => rfl
    | none =>
      exact restFloor_congr (hStart.bounded_append h.inRange) (hStart.bounded_append h'.inRange)
        (covers_congr start.floor start.seen.toList hSame)
  have hSeen : c.seen = d.seen := IdSet.ext fun id => by
    rw [h.seen_iff, h'.seen_iff, hSame, isStale_congr hFloor]
  have hProcessed : c.processed = d.processed := IdSet.ext fun id => by
    rw [h.processed_iff, h'.processed_iff, hSame, isStale_congr hFloor]
  have hOffset : c.offset = d.offset := by rw [h.sound.offset_eq_floor, h'.sound.offset_eq_floor, hFloor]
  exact Cursor.ext hSeen hPending hProcessed hFloor rfl hOffset

end ChatRelay.Cursor
