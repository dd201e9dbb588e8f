import ChatRelay.Proofs.Cursor.Settle

/-!
A cursor that forgets nothing. A ledger remembers every id that was ever seen, and it does not note which ids
are processed. It agrees with the cursor on all ids from the floor on, and the floor decides about the ids
below it, so that both ask for the same offset and settle at the same floor.
-/

namespace ChatRelay

/-- A cursor without eviction and without processed ids. -/
structure Ledger where
  /-- All ids that were ever delivered or acknowledged. -/
  seen : IdSet
  pending : IdSet
  floor : Option Int
  persisted : Option Int
  offset : Option Int
deriving DecidableEq

namespace Ledger

def start (floor : Option Int) : Ledger := ⟨∅, ∅, floor, floor, floor⟩

/-- The least waiting id, or else the id after the last one seen, or else the floor. -/
def wanted (l : Ledger) : Option Int :=
  match l.pending.min? with
  | some id => some id
  | none =>
      match l.seen.max? with
      | some id => some (Text.nextSigned id)
      | none => l.floor

/-- Move the floor and the next offset to where the ids ask for, but never down. -/
def settle (l : Ledger) : Ledger :=
  match l.wanted with
  | none => { l with offset := none }
  | some offset =>
      let target := Cursor.atLeast l.floor offset
      { l with offset := some target, floor := some target }

/-- Whether the floor is ahead of the store, and which floor that is. -/
def unsaved? (l : Ledger) : Option Int :=
  match l.floor, l.persisted with
  | none, _ => none
  | some floor, none => some floor
  | some floor, some saved => if floor ≤ saved then none else some floor

/-- Take the acknowledgement of an id, which need not be waiting. -/
def acknowledge (l : Ledger) (id : Int) : Ledger :=
  { l with seen := l.seen.insert id, pending := l.pending.erase id }

def isSettled (l : Ledger) (id : Int) : Bool := id ∈ l.seen ∧ id ∉ l.pending

def isStale (l : Ledger) (id : Int) : Bool :=
  match l.floor with
  | some floor => id < floor
  | none => false

/-- What has become of a batch so far. -/
structure Intake where
  ledger : Ledger
  occurred : IdSet := ∅
  messages : List Inbound := []
  notes : List Diagnostic := []

/-- Take one update of a batch. Only the first occurrence of an id counts, and an update without an id
has no effect. -/
def Intake.take (s : Intake) (update : Update) : Intake :=
  match update.id? with
  | none => s
  | some id =>
      if id ∈ s.occurred then s
      else
        let s := { s with occurred := s.occurred.insert id }
        if s.ledger.isStale id then
          { s with notes := s.notes ++ (s.ledger.floor.map (staleNote id)).toList }
        else if s.ledger.isSettled id then s
        else
          let seen := s.ledger.seen.insert id
          match update.inbound? with
          | some inbound =>
              { s with
                ledger := { s.ledger with seen := seen, pending := s.ledger.pending.insert id }
                messages := s.messages ++ [inbound] }
          | none => { s with ledger := { s.ledger with seen := seen } }

/-- Take a batch of updates in order. The offsets are left as they are. -/
def takeBatch (l : Ledger) (batch : List Update) : Intake := batch.foldl Intake.take { ledger := l }

end Ledger

namespace Cursor

/-- The floor and the offset that a set of seen ids asks for while nothing is waiting. -/
def afterSeen (floor : Option Int) (seen : IdSet) : Option Int :=
  (match seen.max? with
    | some id => some (Text.nextSigned id)
    | none => floor).map (atLeast floor)

/-- Ids below the floor do not raise it. -/
theorem afterSeen_dropBelow (floor : Int) (seen : IdSet) :
    afterSeen (some floor) (seen.dropBelow floor) = afterSeen (some floor) seen := by
  simp only [afterSeen]
  cases hKept : (seen.dropBelow floor).max? with
  | some top =>
      obtain ⟨hTop, hGreatest⟩ := IdSet.max?_eq_some_iff.mp hKept
      obtain ⟨hSeen, hFloor⟩ := IdSet.mem_dropBelow.mp hTop
      have hMax : seen.max? = some top := by
        refine IdSet.max?_eq_some_iff.mpr ⟨hSeen, fun id hId => ?_⟩
        by_cases hBelow : floor ≤ id
        · exact hGreatest id (IdSet.mem_dropBelow.mpr ⟨hId, hBelow⟩)
        · omega
      rw [hMax]
  | none =>
      have hEmpty := IdSet.max?_eq_none_iff.mp hKept
      cases hMax : seen.max? with
      | none => rfl
      | some top =>
          have hBelow : ¬ floor ≤ top := fun hLe => by
            have hTop := IdSet.mem_dropBelow.mpr ⟨(IdSet.max?_eq_some_iff.mp hMax).1, hLe⟩
            rw [hEmpty] at hTop
            exact IdSet.not_mem_empty top hTop
          simp only [Option.map_some, atLeast, Text.nextSigned, Option.some.injEq]
          omega

/-- So only the ids from the floor on matter. -/
theorem afterSeen_congr {floor : Option Int} {seen seen' : IdSet}
    (h : ∀ id, (∀ f, floor = some f → f ≤ id) → (id ∈ seen ↔ id ∈ seen')) :
    afterSeen floor seen = afterSeen floor seen' := by
  cases floor with
  | none =>
      have hSame : seen = seen' := IdSet.ext fun id => h id fun f hf => by cases hf
      rw [hSame]
  | some f =>
      have hSame : seen.dropBelow f = seen'.dropBelow f := by
        apply IdSet.ext
        intro id
        simp only [IdSet.mem_dropBelow]
        refine and_congr_left fun hLe => h id fun g hg => ?_
        obtain rfl := Option.some.inj hg
        exact hLe
      rw [← afterSeen_dropBelow, hSame, afterSeen_dropBelow]

/-- The cursor and the ledger agree on the waiting ids, on the offsets, and on all ids from the floor on. -/
structure Matches (c : Cursor) (l : Ledger) : Prop where
  pending_eq : c.pending = l.pending
  floor_eq : c.floor = l.floor
  persisted_eq : c.persisted = l.persisted
  offset_eq : c.offset = l.offset
  seen_iff : ∀ id, c.isStale id = false → (id ∈ c.seen ↔ id ∈ l.seen)

theorem matches_start (floor : Option Int) : Matches (start floor) (Ledger.start floor) :=
  ⟨rfl, rfl, rfl, rfl, fun _ _ => Iff.rfl⟩

namespace Matches

variable {c : Cursor} {l : Ledger}

theorem isStale_eq (h : Matches c l) (id : Int) : c.isStale id = l.isStale id := by
  cases hFloor : l.floor <;> simp [isStale, Ledger.isStale, h.floor_eq, hFloor]

theorem unsaved?_eq (h : Matches c l) : c.unsaved? = l.unsaved? := by
  cases hFloor : l.floor <;> cases hSaved : l.persisted <;>
    simp [unsaved?, Ledger.unsaved?, h.floor_eq, h.persisted_eq, hFloor, hSaved]

/-- An id that is not stale is settled on both sides or on neither. -/
theorem isSettled_eq (h : Matches c l) {id : Int} (hFresh : c.isStale id = false) :
    c.isSettled id = l.isSettled id := by
  simp only [isSettled, Ledger.isSettled, h.pending_eq, h.seen_iff id hFresh]

/-- The floor that a cursor settles on asks only for seen ids from the old floor on, where both agree. -/
theorem settledFloor_eq (h : Matches c l) : c.settledFloor = l.wanted.map (atLeast l.floor) := by
  simp only [settledFloor, wanted, Ledger.wanted, h.pending_eq, h.floor_eq]
  cases l.pending.min? with
  | some id => rfl
  | none =>
      refine afterSeen_congr fun id hFloor => h.seen_iff id ?_
      cases hStale : c.isStale id with
      | false => rfl
      | true =>
          obtain ⟨f, hf, hLt⟩ := isStale_iff.mp hStale
          have := hFloor f (h.floor_eq ▸ hf)
          omega

end Matches

end Cursor

namespace Ledger

variable (l : Ledger)

theorem wanted_eq_none (h : l.wanted = none) : l.floor = none := by
  simp only [wanted] at h
  split at h
  · cases h
  · split at h
    · cases h
    · exact h

theorem settle_floor : l.settle.floor = l.wanted.map (Cursor.atLeast l.floor) := by
  simp only [settle]
  cases hWanted : l.wanted with
  | none => exact l.wanted_eq_none hWanted
  | some offset => rfl

theorem settle_offset : l.settle.offset = l.settle.floor := by
  rw [settle_floor]
  simp only [settle]
  cases l.wanted <;> rfl

/-- Settling a ledger moves its offsets and forgets nothing. -/
theorem settle_rest :
    l.settle.seen = l.seen ∧ l.settle.pending = l.pending ∧ l.settle.persisted = l.persisted := by
  simp only [settle]
  cases l.wanted <;> exact ⟨rfl, rfl, rfl⟩

end Ledger

namespace Cursor.Matches

variable {c : Cursor} {l : Ledger}

/-- What settling forgets lies below the new floor, where the ledger is not asked any more. -/
theorem settle (h : Matches c l) : Matches c.settle l.settle := by
  have hFloor : c.settle.floor = l.settle.floor := by
    rw [settle_floor, Ledger.settle_floor, h.settledFloor_eq]
  obtain ⟨hSeen, hPending, hPersisted⟩ := l.settle_rest
  constructor
  case pending_eq => rw [settle_pending, hPending, h.pending_eq]
  case floor_eq => exact hFloor
  case persisted_eq => rw [settle_persisted, hPersisted, h.persisted_eq]
  case offset_eq => rw [settle_offset, Ledger.settle_offset, hFloor]
  case seen_iff =>
    intro id hFresh
    have hBefore : c.isStale id = false := by
      cases hStale : c.isStale id with
      | false => rfl
      | true =>
          rw [isStale_settle hStale] at hFresh
          cases hFresh
    rw [mem_settle_seen, hSeen, ← h.seen_iff id hBefore]
    exact and_iff_left hFresh

/-- An acknowledged id is remembered on both sides, even below the floor. -/
theorem acknowledge (h : Matches c l) (id : Int) : Matches (c.acknowledge id) (l.acknowledge id) where
  pending_eq := by rw [Cursor.acknowledge, Ledger.acknowledge, h.pending_eq]
  floor_eq := h.floor_eq
  persisted_eq := h.persisted_eq
  offset_eq := h.offset_eq
  seen_iff := by
    intro a hFresh
    simp only [Cursor.acknowledge, Ledger.acknowledge, IdSet.mem_insert]
    exact or_congr_right (h.seen_iff a hFresh)

/-- The ledger does not know of processed ids. -/
theorem markProcessed (h : Matches c l) (id : Int) : Matches (c.markProcessed id) l :=
  ⟨h.pending_eq, h.floor_eq, h.persisted_eq, h.offset_eq, h.seen_iff⟩

/-- An id that is seen on both sides. -/
theorem see (h : Matches c l) (id : Int) {pending pending' : IdSet} (hPending : pending = pending') :
    Matches { c with seen := c.seen.insert id, pending := pending }
      { l with seen := l.seen.insert id, pending := pending' } where
  pending_eq := hPending
  floor_eq := h.floor_eq
  persisted_eq := h.persisted_eq
  offset_eq := h.offset_eq
  seen_iff := by
    intro a hFresh
    simp only [IdSet.mem_insert]
    exact or_congr_right (h.seen_iff a hFresh)

theorem saved (h : Matches c l) (floor : Int) :
    Matches { c with persisted := some floor } { l with persisted := some floor } :=
  ⟨h.pending_eq, h.floor_eq, rfl, h.offset_eq, h.seen_iff⟩

end Cursor.Matches

/-- The two intakes of one batch give the same messages and notes. -/
structure Intake.Matches (s : Intake) (t : Ledger.Intake) : Prop where
  ids : s.cursor.Matches t.ledger
  occurred_eq : s.occurred = t.occurred
  messages_eq : s.messages = t.messages
  notes_eq : s.notes = t.notes

/-- The step of an intake: one case for each thing that can become of an update. -/
theorem Intake.Matches.take {s : Intake} {t : Ledger.Intake} (h : s.Matches t) (update : Update) :
    (s.take update).Matches (t.take update) := by
  obtain ⟨hIds, hOccurred, hMessages, hNotes⟩ := h
  simp only [Intake.take, Ledger.Intake.take, hOccurred]
  cases update.id? with
  | none => exact ⟨hIds, hOccurred, hMessages, hNotes⟩
  | some id =>
      simp only
      by_cases hRepeated : id ∈ t.occurred
      · rw [if_pos hRepeated, if_pos hRepeated]
        exact ⟨hIds.markProcessed id, rfl, hMessages, hNotes⟩
      · rw [if_neg hRepeated, if_neg hRepeated, ← hIds.isStale_eq id]
        cases hStale : s.cursor.isStale id with
        | true =>
            exact ⟨hIds.markProcessed id, rfl, hMessages, by simp [hNotes, hIds.floor_eq]⟩
        | false =>
            rw [← hIds.isSettled_eq hStale]
            cases s.cursor.isSettled id with
            | true => exact ⟨hIds.markProcessed id, rfl, hMessages, hNotes⟩
            | false =>
                cases update.inbound? with
                | some inbound =>
                    exact ⟨hIds.see id (by rw [hIds.pending_eq]), rfl, by simp [hMessages], hNotes⟩
                | none => exact ⟨(hIds.see id hIds.pending_eq).markProcessed id, rfl, hMessages, hNotes⟩

/-- A whole batch, by induction on its updates. -/
theorem Cursor.Matches.takeBatch {c : Cursor} {l : Ledger} (h : Matches c l) (batch : List Update) :
    (c.takeBatch batch).Matches (l.takeBatch batch) := by
  have hFold : ∀ (rest : List Update) (s : Intake) (t : Ledger.Intake), s.Matches t →
      (rest.foldl Intake.take s).Matches (rest.foldl Ledger.Intake.take t) := by
    intro rest
    induction rest with
    | nil => exact fun s t hst => hst
    | cons update rest ih => exact fun s t hst => ih _ _ (hst.take update)
  exact hFold batch _ _ ⟨h, rfl, rfl, rfl⟩

end ChatRelay
