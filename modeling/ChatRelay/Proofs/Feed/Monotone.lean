import ChatRelay.Proofs.Cursor.Settle
import ChatRelay.Proofs.Feed.Calls
import ChatRelay.Proofs.Journal

/-!
The floor of a feed only rises, and so do the offsets that it asks for. Nothing is assumed of what the provider
and the store do.
-/

namespace ChatRelay

/-- No request asks for less than an earlier one. -/
def neverBack (before : List Event) (e : Event) : Prop :=
  ∀ request earlier, e = .requested request → .requested earlier ∈ before → earlier.offset ≤ request.offset

namespace Feed

variable {σ : Type}

/-- Taking a batch does not lower the floor. -/
theorem floor_le_taking (feed : Feed) (batch : List Json.Fields) :
    feed.cursor.floor ≤ (feed.taking batch).settled.cursor.floor := by
  have hFloor : (feed.taking batch).cursor.floor = feed.cursor.floor :=
    (feed.cursor.from_takeBatch _).floor_eq
  rw [← hFloor]
  exact Cursor.floor_le_settle _

/-- Neither does taking an acknowledgement. -/
theorem floor_le_acknowledging (feed : Feed) (id : Int) :
    feed.cursor.floor ≤ (feed.acknowledging id).settled.cursor.floor :=
  (feed.cursor.acknowledge id).floor_le_settle

/-- A save does not move it at all. -/
theorem floor_afterSave (feed : Feed) (floor : Int) (r : Except StoreError Unit) :
    (feed.afterSave floor r).2.cursor.floor = feed.cursor.floor := by
  cases r <;> rfl

/-- A floor that is reached is never lost. -/
theorem kept_floor (low : Option Int) (api : BotApi (Process σ)) (store : Option (CursorStore (Process σ))) :
    Kept api store (fun feed _ => low ≤ feed.cursor.floor) fun _ => True := by
  constructor
  case asked => exact fun feed => Process.ensures_fact _ _
  case sent => exact fun feed request => Process.ensures_fact _ _
  case taken => exact fun feed batch _ h => Cursor.floor_le_trans h (feed.floor_le_taking batch)
  case acknowledged => exact fun feed id _ _ h => Cursor.floor_le_trans h (feed.floor_le_acknowledging id)
  case drained => exact fun feed _ h => h
  case saved =>
    intro feed floor s _ _
    refine (Process.ensures_fact (low ≤ feed.cursor.floor) _).imp (fun _ h => h) (fun r _ h => ?_) fun _ h => h
    rw [floor_afterSave]
    exact h

/-- The next request is for the floor, and no request went beyond it. -/
structure Forward (feed : Feed) (events : List Event) : Prop where
  legal : Legal neverBack events
  offset_eq : feed.cursor.offset = feed.cursor.floor
  below : ∀ request, .requested request ∈ events → request.offset ≤ feed.cursor.floor

variable {feed feed' : Feed} {events : List Event}

/-- Step of a run: a settled floor is not below any request so far. -/
theorem Forward.settled (h : Forward feed events) (hRaise : feed.cursor.floor ≤ feed'.settled.cursor.floor) :
    Forward feed'.settled events where
  legal := h.legal
  offset_eq := feed'.cursor.settle_offset
  below request hMem := Cursor.floor_le_trans (h.below request hMem) hRaise

/-- Step of a run: the next request asks from the floor on. -/
theorem Forward.requested (h : Forward feed events) : Forward feed (events ++ [.requested feed.request]) where
  legal := by
    refine h.legal.snoc ?_
    rintro request earlier hEq hMem
    cases hEq
    change earlier.offset ≤ feed.cursor.offset
    rw [h.offset_eq]
    exact h.below earlier hMem
  offset_eq := h.offset_eq
  below := by
    intro request hMem
    rcases List.mem_append.mp hMem with hOld | hNew
    · exact h.below request hOld
    · obtain rfl : request = feed.request := by simpa using hNew
      change feed.cursor.offset ≤ feed.cursor.floor
      rw [h.offset_eq]
      exact Cursor.floor_le_refl _

/-- At its start a feed has asked for nothing. -/
theorem forward_opened (config : FeedConfig) (r : Except StoreError (Option Int)) :
    Forward (opened config r) [] := by
  refine ⟨legal_nil, ?_, fun request hMem => absurd hMem List.not_mem_nil⟩
  cases r <;> rfl

/-- The provider with a journal of the requests. -/
def journaledApi (api : BotApi (Process σ)) : BotApi (Process (Journaled σ)) :=
  (api.lift Journaled.lift).watched Journaled.note

/-- All calls keep it. -/
theorem kept_forward (api : BotApi (Process σ)) (store : Option (CursorStore (Process σ))) :
    Kept (journaledApi api) (store.map fun s => s.lift Journaled.lift) (fun feed j => Forward feed j.events)
      fun j => Legal neverBack j.events := by
  have hOutside : ∀ {α : Type} (feed : Feed) (run : Process σ α),
      Process.Ensures (fun j => Forward feed j.events) (Journaled.lift run) (fun _ j => Forward feed j.events)
        fun j => Legal neverBack j.events := fun feed run =>
    Journaled.ensures_lift_keep (fun _ h => h.legal) run
  constructor
  case asked =>
    intro feed
    have hNote : Process.Ensures (fun j => Forward feed j.events) (Journaled.note (.requested feed.request))
        (fun _ j => Forward feed j.events) fun j : Journaled σ => Legal neverBack j.events :=
      fun j hj => hj.requested
    exact hNote.bind fun _ => hOutside feed _
  case sent => exact fun feed request => hOutside feed _
  case taken => exact fun feed batch j h => h.settled (feed.floor_le_taking batch)
  case acknowledged => exact fun feed id j _ h => h.settled (feed.floor_le_acknowledging id)
  case drained => exact fun feed j h => ⟨h.legal, h.offset_eq, h.below⟩
  case saved =>
    intro feed floor s hStore _
    obtain ⟨inner, _, rfl⟩ := Option.map_eq_some_iff.mp hStore
    refine (hOutside feed (inner.save floor)).imp (fun _ h => h) (fun r j h => ?_) fun _ h => h
    cases r with
    | ok done => exact ⟨h.legal, h.offset_eq, h.below⟩
    | error e => exact ⟨h.legal, h.offset_eq, h.below⟩

/-- However a run of calls ends, its floor is at least the one before it. -/
theorem floor_le_performAll (api : BotApi (Process σ)) (store : Option (CursorStore (Process σ)))
    (calls : List Channel.Call) (feed : Feed) (w : σ) {outcomes : List Channel.Outcome} {after : Feed}
    (hEnd : (Channel.performAll (channel api store) calls feed w).1 = some (outcomes, after)) :
    feed.cursor.floor ≤ after.cursor.floor := by
  have h := (kept_floor feed.cursor.floor api store).performAll calls feed
  exact (h.at_end (Cursor.floor_le_refl _)).1 _ hEnd

/-- The requests in the life of a feed never step back. -/
theorem neverBack_life (api : BotApi (Process σ)) (store : Option (CursorStore (Process σ)))
    (config : FeedConfig) (calls : List Channel.Call) (w : σ) :
    Legal neverBack (life (journaledApi api) (store.map fun s => s.lift Journaled.lift) config calls
      ⟨[], w⟩).2.events := by
  have hEmpty : ∀ events : List Event, events = [] → Legal neverBack events := fun _ h => h ▸ legal_nil
  have hOpened : ∀ r (j : Journaled σ), j.events = [] → Forward (opened config r) j.events := fun r j h =>
    h ▸ forward_opened config r
  have hStart : Process.Ensures (fun j => j.events = []) (start (store.map fun s => s.lift Journaled.lift) config)
      (Started (fun feed j => Forward feed j.events) fun j => Legal neverBack j.events)
      fun j : Journaled σ => Legal neverBack j.events := by
    refine ensures_start (fun j => hEmpty j.events)
      (fun _ j => hOpened (.ok none) j) fun s hStore => ?_
    obtain ⟨inner, _, rfl⟩ := Option.map_eq_some_iff.mp hStore
    exact (Journaled.ensures_lift_keep hEmpty inner.load).imp (fun _ h => h)
      (fun r j h => ⟨hOpened r j h, hEmpty j.events h⟩) fun _ h => h
  refine (((kept_forward api store).life hStart calls).imp (fun _ h => h) (fun r j h => ?_)
    fun _ h => h).always rfl
  cases r with
  | error e => exact h
  | ok result => exact h.legal

end Feed

end ChatRelay
