import ChatRelay.Proofs.Cursor.Reach
import ChatRelay.Proofs.Delivery.Provider
import ChatRelay.Proofs.Journal

/-!
What became of the updates that the cursor has passed. Every reached message is waiting or was acknowledged: the
answers of the provider leave out nothing, so that a batch which reaches further brings along all the messages up
to there.
-/

namespace ChatRelay

/-- An update that is no message, or one that was acknowledged. -/
def Delivery.Spent (events : List Event) (d : Delivery) : Prop :=
  ∀ id m, Update.ofJson d.raw = .message id m → .acknowledged m.updateId ∈ events

/-- What is dropped for good was acknowledged if it is a message. -/
def nothingLost (before : List Event) (e : Event) : Prop :=
  ∀ id raw i m, e = .discarded id raw → Update.ofJson raw = .message i m → .acknowledged m.updateId ∈ before

/-- The updates in the queue with the given ids are waiting for an acknowledgement or spent. No id is beyond the
last update that ever arrived, so that later ones are not concerned. -/
structure Accounted (p : Provider) (events : List Event) (waiting : IdSet) (reach : Int → Prop) : Prop where
  bounded : ∀ id, reach id → ∃ d ∈ p.history, id ≤ d.id
  covered : ∀ d ∈ p.queue, reach d.id → d.id ∈ waiting ∨ d.Spent events

variable {p : Provider} {events : List Event} {waiting : IdSet} {reach : Int → Prop}

theorem Delivery.Spent.append {d : Delivery} (h : d.Spent events) (more : List Event) :
    d.Spent (events ++ more) := fun id m hMessage => List.mem_append_left more (h id m hMessage)

namespace Accounted

theorem append (h : Accounted p events waiting reach) (more : List Event) :
    Accounted p (events ++ more) waiting reach where
  bounded := h.bounded
  covered := fun d hMem hReach => (h.covered d hMem hReach).imp_right fun hSpent => hSpent.append more

/-- Less that is reached is less to account for. -/
theorem mono (h : Accounted p events waiting reach) {reach' : Int → Prop}
    (hLess : ∀ id, reach' id → reach id) : Accounted p events waiting reach' where
  bounded := fun id hId => h.bounded id (hLess id hId)
  covered := fun d hMem hReach => h.covered d hMem (hLess d.id hReach)

/-- A later update is beyond everything that is accounted for. -/
theorem arrive (h : Accounted p events waiting reach) (d : Delivery) :
    Accounted (p.arrive d) events waiting reach := by
  rcases p.arrive_cases d with hSame | ⟨hHistory, hQueue, hLater⟩
  · rw [hSame]
    exact h
  · constructor
    case bounded =>
      intro id hId
      obtain ⟨a, hMem, hLe⟩ := h.bounded id hId
      rw [hHistory]
      exact ⟨a, List.mem_append_left _ hMem, hLe⟩
    case covered =>
      intro a hMem hReach
      rw [hQueue] at hMem
      rcases List.mem_append.mp hMem with hOld | hNew
      · exact h.covered a hOld hReach
      · obtain rfl := List.mem_singleton.mp hNew
        obtain ⟨b, hB, hLe⟩ := h.bounded a.id hReach
        have := hLater b hB
        omega

/-- What the provider drops is out of the queue, and what is left was there before. -/
theorem discard (h : Accounted p events waiting reach) (offset : Option Int) :
    Accounted (p.discard offset) events waiting reach where
  bounded := by
    rw [p.history_discard]
    exact h.bounded
  covered := fun d hMem hReach => h.covered d (List.mem_filter.mp hMem).1 hReach

/-- An update that no longer waits is spent if its acknowledgement is among the events. -/
theorem acknowledge (h : Accounted p events waiting reach) {id : Int}
    (hDone : .acknowledged (toString id) ∈ events) : Accounted p events (waiting.erase id) reach where
  bounded := h.bounded
  covered := by
    intro d hMem hReach
    by_cases hSame : d.id = id
    · apply Or.inr
      intro i m hMessage
      rw [(Delivery.updateId_of_message hMessage).2, hSame]
      exact hDone
    · exact (h.covered d hMem hReach).imp_left fun hWaiting => IdSet.mem_erase.mpr ⟨hWaiting, hSame⟩

/-- What lies below the floor does not wait any more. -/
theorem below_floor {c : Cursor} (h : Accounted p events c.pending c.Reaches)
    (hFresh : ∀ id ∈ c.pending, c.isStale id = false) : Accounted p events ∅ (Below c.floor) where
  bounded := fun id hId => h.bounded id (Or.inr hId)
  covered := by
    intro d hMem hBelow
    rcases h.covered d hMem (Or.inr hBelow) with hWaiting | hSpent
    · have hStale := Cursor.isStale_iff.mpr hBelow
      rw [hFresh d.id hWaiting] at hStale
      cases hStale
    · exact Or.inr hSpent

end Accounted

/-- A batch reaches as far as the last update in it. -/
theorem Cursor.reaches_of_answer {c : Cursor} {limit : Nat} {id : Int}
    (h : (c.takeBatch ((p.answer limit).map Update.ofJson)).cursor.Reaches id) :
    c.Reaches id ∨ ∃ d ∈ p.first limit, id ≤ d.id := by
  refine (reaches_of_takeBatch h).imp_right ?_
  rintro ⟨update, hMem, s, hUpdate, hLe⟩
  obtain ⟨raw, hRaw, rfl⟩ := List.mem_map.mp hMem
  obtain ⟨d, hFirst, rfl⟩ := List.mem_map.mp hRaw
  obtain rfl := d.named s hUpdate
  exact ⟨d, hFirst, hLe⟩

/-- A message in an answer waits afterwards, unless it was settled before. The other updates of the answer have
other ids, so that none of them gets in its way. -/
theorem Cursor.settled_or_pending_of_first (c : Cursor) {limit : Nat} {d : Delivery} (hFirst : d ∈ p.first limit)
    {id : Int} {m : Inbound} (hMessage : Update.ofJson d.raw = .message id m) :
    c.Settled d.id ∨ d.id ∈ (c.takeBatch ((p.answer limit).map Update.ofJson)).cursor.pending := by
  obtain rfl := (Delivery.updateId_of_message hMessage).1
  have hIn : Update.message d.id m ∈ (p.answer limit).map Update.ofJson :=
    List.mem_map.mpr ⟨d.raw, List.mem_map_of_mem hFirst, hMessage⟩
  apply c.settled_or_pending_of_message _ hIn
  intro update hMem hId
  obtain ⟨raw, hRaw, rfl⟩ := List.mem_map.mp hMem
  obtain ⟨other, hOther, rfl⟩ := List.mem_map.mp hRaw
  obtain rfl := Provider.eq_of_id (Provider.mem_queue_of_first hOther) (Provider.mem_queue_of_first hFirst)
    (other.named _ hId).symm
  rw [hMessage]
  rfl

/-- The account stays right when an answer of the provider is taken. -/
theorem Accounted.takeBatch {c : Cursor} (h : Accounted p events c.pending c.Reaches) (limit : Nat) :
    let after := (c.takeBatch ((p.answer limit).map Update.ofJson)).cursor
    Accounted p events after.pending after.Reaches := by
  intro after
  constructor
  case bounded =>
    intro id hId
    rcases Cursor.reaches_of_answer hId with hOld | ⟨d, hFirst, hLe⟩
    · exact h.bounded id hOld
    · exact ⟨d, Provider.mem_history_of_queue (Provider.mem_queue_of_first hFirst), hLe⟩
  case covered =>
    intro d hQueued hReach
    by_cases hOld : c.Reaches d.id
    · exact (h.covered d hQueued hOld).imp_left fun hWaiting =>
        (c.from_takeBatch _).pending_of_pending d.id hWaiting
    · obtain ⟨last, hLast, hLe⟩ := (Cursor.reaches_of_answer hReach).resolve_left hOld
      have hFirst := Provider.mem_first_of_le hQueued hLast hLe
      by_cases hMessage : ∃ id m, Update.ofJson d.raw = .message id m
      · obtain ⟨id, m, hMessage⟩ := hMessage
        exact Or.inl ((c.settled_or_pending_of_first hFirst hMessage).resolve_left fun hSettled =>
          hOld (Cursor.reaches_of_settled hSettled))
      · exact Or.inr fun id m hIs => absurd ⟨id, m, hIs⟩ hMessage

end ChatRelay
