import ChatRelay.Diagnostic
import ChatRelay.IdSet
import ChatRelay.Text.Integer
import ChatRelay.Update

/-!
The position of the relay in the provider's feed. The provider delivers every update at least once. The
cursor remembers which ids it has seen and which of those still wait for their acknowledgement. Its
floor only rises, and never past a waiting id. An update below the floor is stale and is dropped, so
that the ids below the floor need not be remembered.
-/

namespace ChatRelay

/-- The ids of a feed and the offsets that follow from them. -/
structure Cursor where
  /-- Ids that were delivered and are not below the floor. -/
  seen : IdSet
  /-- Ids whose message was handed out and not acknowledged since. -/
  pending : IdSet
  /-- Ids that are settled: acknowledged, skipped or dropped. -/
  processed : IdSet
  /-- Every id below the floor is settled. -/
  floor : Option Int
  /-- The last floor that is known to be in the store. -/
  persisted : Option Int
  /-- The offset of the next request. -/
  offset : Option Int
deriving DecidableEq

namespace Cursor

/-- The cursor at the start, with the floor from the store. -/
def start (floor : Option Int) : Cursor := ⟨∅, ∅, ∅, floor, floor, floor⟩

/-- The offset that the ids ask for: the least waiting id, or else the id after the last one seen, or
else the floor. -/
def wanted (c : Cursor) : Option Int :=
  match c.pending.min? with
  | some id => some id
  | none =>
      match c.seen.max? with
      | some id => some (Text.nextSigned id)
      | none => c.floor

/-- The greater of an offset and a floor. A missing floor does not bound anything. -/
def atLeast (floor : Option Int) (offset : Int) : Int :=
  match floor with
  | some f => max offset f
  | none => offset

/-- Forget the settled and seen ids below the floor. -/
def evict (c : Cursor) : Cursor :=
  match c.floor with
  | none => c
  | some floor =>
      { c with seen := c.seen.dropBelow floor, processed := c.processed.dropBelow floor }

/-- Move the floor and the next offset to where the ids ask for, but never down. -/
def settle (c : Cursor) : Cursor :=
  match c.wanted with
  | none => evict { c with offset := none }
  | some offset =>
      let target := atLeast c.floor offset
      evict { c with offset := some target, floor := some target }

/-- Whether the floor is ahead of the store, and which floor that is. -/
def unsaved? (c : Cursor) : Option Int :=
  match c.floor, c.persisted with
  | none, _ => none
  | some floor, none => some floor
  | some floor, some saved => if floor ≤ saved then none else some floor

/-- Note that an id is settled without further effect. -/
def markProcessed (c : Cursor) (id : Int) : Cursor := { c with processed := c.processed.insert id }

/-- Take the acknowledgement of an id, which need not be waiting. -/
def acknowledge (c : Cursor) (id : Int) : Cursor :=
  { c with
    seen := c.seen.insert id
    pending := c.pending.erase id
    processed := c.processed.insert id }

/-- An id that was seen and waits for nothing. -/
def isSettled (c : Cursor) (id : Int) : Bool := id ∈ c.seen ∧ id ∉ c.pending

def isStale (c : Cursor) (id : Int) : Bool :=
  match c.floor with
  | some floor => id < floor
  | none => false

end Cursor

/-- The note on an update that came from below the floor. -/
def staleNote (id : Int) (floor : Int) : Diagnostic :=
  { code := .staleDrop
    message := "dropped stale update " ++ toString id ++ " below committed floor " ++ toString floor
    updateId := some (toString id) }

/-- What has become of a batch so far: the cursor, the ids that occurred, the messages to hand out and
the notes to keep. -/
structure Intake where
  cursor : Cursor
  occurred : IdSet := ∅
  messages : List Inbound := []
  notes : List Diagnostic := []

namespace Intake

/-- Take one update of a batch. Only the first occurrence of an id counts, and an update without an id
has no effect. -/
def take (s : Intake) (update : Update) : Intake :=
  match update.id? with
  | none => s
  | some id =>
      if id ∈ s.occurred then { s with cursor := s.cursor.markProcessed id }
      else
        let s := { s with occurred := s.occurred.insert id }
        if s.cursor.isStale id then
          { s with
            cursor := s.cursor.markProcessed id
            notes := s.notes ++ (s.cursor.floor.map (staleNote id)).toList }
        else if s.cursor.isSettled id then { s with cursor := s.cursor.markProcessed id }
        else
          let seen := s.cursor.seen.insert id
          match update.inbound? with
          | some inbound =>
              { s with
                cursor := { s.cursor with seen := seen, pending := s.cursor.pending.insert id }
                messages := s.messages ++ [inbound] }
          | none => { s with cursor := { s.cursor with seen := seen }.markProcessed id }

end Intake

/-- Take a batch of updates in order. The offsets are left as they are. -/
def Cursor.takeBatch (c : Cursor) (batch : List Update) : Intake :=
  batch.foldl Intake.take { cursor := c }

end ChatRelay
