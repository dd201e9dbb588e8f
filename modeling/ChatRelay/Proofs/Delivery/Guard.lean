import ChatRelay.Proofs.CursorFile.Save
import ChatRelay.Proofs.Delivery.Account
import ChatRelay.Proofs.Feed.Soundness

/-!
The invariant that keeps messages from being lost. The provider is only ever asked for the updates from a floor
on, and every message below the floor was acknowledged, be it the floor of a feed that is up or the floor in the
file, from which the next feed starts.
-/

namespace ChatRelay

open Cursor (InRange)

/-- What holds at any time, with the floor that is in the file. -/
structure Safe (p : Provider) (events : List Event) (kept : Option Int) : Prop where
  legal : Legal nothingLost events
  kept_spent : Accounted p events ∅ (Below kept)

/-- What holds while a feed is up and the given messages of a cycle are still to come. -/
structure Tracked (p : Provider) (events : List Event) (kept : Option Int) (feed : Feed)
    (messages : List Inbound) : Prop extends Safe p events kept where
  sound : feed.cursor.Sound
  account : Accounted p events feed.cursor.pending feed.cursor.Reaches
  upcoming : ∀ m ∈ messages, ∃ id, InRange id ∧ m.updateId = toString id ∧ feed.cursor.Reaches id

variable {p : Provider} {events : List Event} {kept : Option Int} {feed : Feed} {messages : List Inbound}

/-- With no floor in the file, nothing has to be known of the updates. -/
theorem safe_nil (p : Provider) : Safe p [] none where
  legal := legal_nil
  kept_spent := by
    constructor
    · rintro id ⟨f, hNone, _⟩
      cases hNone
    · rintro d _ ⟨f, hNone, _⟩
      cases hNone

theorem Safe.append (h : Safe p events kept) {more : List Event} (hMore : Legal nothingLost (events ++ more)) :
    Safe p (events ++ more) kept where
  legal := hMore
  kept_spent := h.kept_spent.append more

theorem Tracked.append (h : Tracked p events kept feed messages) {more : List Event}
    (hMore : Legal nothingLost (events ++ more)) : Tracked p (events ++ more) kept feed messages where
  toSafe := h.toSafe.append hMore
  sound := h.sound
  account := h.account.append more
  upcoming := h.upcoming

/-- Other events than a discard do not matter. -/
theorem Tracked.snoc (h : Tracked p events kept feed messages) {e : Event} (hOther : ∀ id raw, e ≠ .discarded id raw) :
    Tracked p (events ++ [e]) kept feed messages :=
  h.append (h.legal.snoc fun id raw _ _ hEq => absurd hEq (hOther id raw))

theorem Safe.arrive (h : Safe p events kept) (d : Delivery) : Safe (p.arrive d) events kept where
  legal := h.legal
  kept_spent := h.kept_spent.arrive d

theorem Tracked.arrive (h : Tracked p events kept feed messages) (d : Delivery) :
    Tracked (p.arrive d) events kept feed messages where
  toSafe := h.toSafe.arrive d
  sound := h.sound
  account := h.account.arrive d
  upcoming := h.upcoming

/-- The events of a discard. -/
def Provider.discards (p : Provider) (offset : Option Int) : List Event :=
  (p.dropped offset).map fun d => .discarded d.id d.raw

/-- What a request of the feed makes the provider drop is spent. -/
theorem Tracked.discard (h : Tracked p events kept feed messages) :
    Tracked (p.discard feed.cursor.offset) (events ++ p.discards feed.cursor.offset) kept feed messages := by
  have hSpent : ∀ d ∈ p.dropped feed.cursor.offset, d.Spent events := by
    intro d hMem
    obtain ⟨hQueued, hBelow⟩ := List.mem_filter.mp hMem
    rw [h.sound.offset_eq_floor] at hBelow
    have hAll := h.account.below_floor fun id hId => h.sound.fresh id (Or.inr (Or.inl hId))
    exact (hAll.covered d hQueued (Delivery.isBelow_iff.mp hBelow)).resolve_left (IdSet.not_mem_empty d.id)
  have hLegal : Legal nothingLost (events ++ p.discards feed.cursor.offset) := by
    apply h.legal.append
    intro e hMem between
    obtain ⟨d, hDropped, rfl⟩ := List.mem_map.mp hMem
    rintro id raw i m hEq hMessage
    cases hEq
    exact ((hSpent d hDropped).append between) i m hMessage
  have hAfter := h.append hLegal
  exact ⟨⟨hLegal, hAfter.kept_spent.discard _⟩, h.sound, hAfter.account.discard _, h.upcoming⟩

/-- Settling changes nothing that is tracked. -/
theorem Tracked.settled (hSafe : Safe p events kept) (hReady : feed.cursor.Ready)
    (hAccount : Accounted p events feed.cursor.pending feed.cursor.Reaches)
    (hUpcoming : ∀ m ∈ messages, ∃ id, InRange id ∧ m.updateId = toString id ∧ feed.cursor.Reaches id) :
    Tracked p events kept feed.settled messages where
  toSafe := hSafe
  sound := hReady.sound_settle
  account := by
    change Accounted p events feed.cursor.settle.pending feed.cursor.settle.Reaches
    rw [Cursor.settle_pending]
    exact hAccount.mono fun id hId => hReady.reaches_settle.mp hId
  upcoming := by
    intro m hMem
    obtain ⟨id, hRange, hText, hReached⟩ := hUpcoming m hMem
    exact ⟨id, hRange, hText, hReady.reaches_settle.mpr hReached⟩

/-- An answer of the provider brings the messages of the cycle. -/
theorem Tracked.taking (h : Tracked p events kept feed []) (limit : Nat) :
    Tracked p events kept (feed.taking (p.answer limit)).settled (feed.intake (p.answer limit)).messages := by
  have hReady := Feed.ready_taking h.sound (p.answer limit)
  apply Tracked.settled h.toSafe hReady (h.account.takeBatch limit)
  intro m hMem
  obtain ⟨id, hIn, _, hPending, _⟩ := feed.cursor.sourced_takeBatch _ m hMem
  obtain ⟨raw, _, hRaw⟩ := List.mem_map.mp hIn
  have hSeen := hReady.pending_seen id hPending
  exact ⟨id, hReady.seen_inRange id hSeen, Update.updateId_of_message hRaw, Or.inl ⟨id, hSeen, Int.le_refl id⟩⟩

/-- An acknowledgement of a message of the cycle, which is among the events by then. -/
theorem Tracked.acknowledging {m : Inbound} {rest : List Inbound} (h : Tracked p events kept feed (m :: rest))
    (hDone : .acknowledged m.updateId ∈ events) :
    ∃ id, Feed.ackId? m.updateId = some id ∧ Tracked p events kept (feed.acknowledging id).settled rest := by
  obtain ⟨id, hRange, hText, hReached⟩ := h.upcoming m List.mem_cons_self
  rw [hText] at hDone
  refine ⟨id, by rw [hText, Feed.ackId?_toString hRange], ?_⟩
  refine Tracked.settled h.toSafe (h.sound.ready.acknowledge hRange) ?_ ?_
  · exact (h.account.acknowledge hDone).mono fun other hOther => Cursor.reaches_of_acknowledge hReached hOther
  · intro other hOther
    obtain ⟨a, hARange, hAText, hAReached⟩ := h.upcoming other (List.mem_cons_of_mem m hOther)
    refine ⟨a, hARange, hAText, ?_⟩
    exact hAReached.imp_left fun ⟨s, hSeen, hLe⟩ => ⟨s, IdSet.mem_insert.mpr (Or.inr hSeen), hLe⟩

/-- A message whose acknowledgement is left out stays waiting. -/
theorem Tracked.tail {m : Inbound} {rest : List Inbound} (h : Tracked p events kept feed (m :: rest)) :
    Tracked p events kept feed rest :=
  { h with upcoming := fun other hOther => h.upcoming other (List.mem_cons_of_mem m hOther) }

theorem Tracked.none_left (h : Tracked p events kept feed messages) : Tracked p events kept feed [] :=
  { h with upcoming := fun _ hMem => absurd hMem List.not_mem_nil }

/-- A save marks the floor as saved or does nothing, and neither is tracked. -/
theorem Tracked.afterSave (h : Tracked p events kept feed messages) {floor : Int}
    (hUnsaved : feed.cursor.unsaved? = some floor) (r : Except StoreError Unit) :
    Tracked p events kept (feed.afterSave floor r).2 messages where
  toSafe := h.toSafe
  sound := Feed.sound_afterSave h.sound hUnsaved r
  account := by
    cases r with
    | ok done => exact h.account
    | error e => exact h.account
  upcoming := by
    cases r with
    | ok done => exact h.upcoming
    | error e => exact h.upcoming

/-- The floor of the feed may be put into the file at any time. -/
theorem Tracked.kept_floor (h : Tracked p events kept feed messages) :
    Tracked p events feed.cursor.floor feed messages :=
  { h with kept_spent := h.account.below_floor fun id hId => h.sound.fresh id (Or.inr (Or.inl hId)) }

/-- A feed starts with the floor from the file, or with none. -/
theorem Safe.opened (h : Safe p events kept) {floor : Option Int} (config : FeedConfig) (notes : List Diagnostic)
    (hRange : ∀ f, floor = some f → InRange f) (hFloor : floor = kept ∨ floor = none) :
    Tracked p events kept ⟨config, Cursor.start floor, notes⟩ [] where
  toSafe := h
  sound := Cursor.sound_start hRange
  account := by
    have hReaches : ∀ id, (Cursor.start floor).Reaches id → Below kept id := by
      rintro id (⟨s, hSeen, _⟩ | hBelow)
      · exact absurd hSeen (IdSet.not_mem_empty s)
      · rcases hFloor with rfl | rfl
        · exact hBelow
        · obtain ⟨_, hNone, _⟩ := hBelow
          cases hNone
    exact h.kept_spent.mono hReaches
  upcoming := fun _ hMem => absurd hMem List.not_mem_nil

end ChatRelay
