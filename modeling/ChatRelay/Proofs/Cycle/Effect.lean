import ChatRelay.Handler.Echo
import ChatRelay.Proofs.Cursor.Rest
import ChatRelay.Proofs.Cycle.Rules
import ChatRelay.Proofs.Cycle.Trace
import ChatRelay.Proofs.Feed.Redelivery

/-!
What one cycle does to the cursor of a feed. The fetch takes a batch, and every message that is not left for later
is acknowledged, which moves the floor and forgets ids each time. All that can be told from the feed before, from the
batch, and from the messages that were left. The provider, the store and the handler do what they like, but they give
an answer.
-/

namespace ChatRelay

namespace Cycle

section Rules

variable {S σ : Type} {channel : Channel (Program S σ)} {handler : Handler (Program S σ)}
  {options : CycleOptions (Program S σ)} {P : S → σ → Prop} {stopped : σ → Prop}

/-- Rule for one message without its acknowledgement: what each of its calls keeps. -/
theorem ensures_recordCourse {inbound : Inbound}
    (hSession : Program.Ensures P (options.session inbound) (fun _ => P) stopped)
    (hHandle : ∀ session, Program.Ensures P (handler.handle inbound session) (fun _ => P) stopped)
    (hSend : ∀ outbound, Program.Ensures P (channel.send outbound) (fun _ => P) stopped) :
    Program.Ensures P (recordCourse channel handler options inbound) (fun _ => P) stopped := by
  apply hSession.bind
  intro found
  cases found with
  | error e => exact Program.ensures_pure fun _ _ h => h
  | ok session =>
      apply (hHandle session).bind
      intro answer
      match answer with
      | .error e => exact Program.ensures_pure fun _ _ h => h
      | .ok none => exact Program.ensures_pure fun _ _ h => h
      | .ok (some reply) => exact (hSend reply).bind fun _ => Program.ensures_pure fun _ _ h => h

/-- A message is left, or it is acknowledged and `A` holds of the answer. -/
theorem ensures_recordItem {inbound : Inbound} {A : Except Error Unit → S → σ → Prop}
    {Q : Handling options.ackPolicy → S → σ → Prop}
    (hCourse : Program.Ensures P (recordCourse channel handler options inbound) (fun _ => P) stopped)
    (hLeft : ∀ item : Handling options.ackPolicy, item.inbound = inbound → item.ack = none → ∀ s w, P s w → Q item s w)
    (hAck : Program.Ensures P (channel.acknowledge inbound.updateId) A stopped)
    (hDone : ∀ (item : Handling options.ackPolicy) answer, item.inbound = inbound → item.ack = some answer →
      ∀ s w, A answer s w → Q item s w) :
    Program.Ensures P (recordItem channel handler options inbound) (fun item => Q item.val) stopped := by
  apply hCourse.bind
  intro course
  split
  · exact Program.ensures_pure (hLeft _ rfl rfl)
  · exact hAck.bind fun answer => Program.ensures_pure (hDone _ answer rfl rfl)

/-- The invariant speaks of the messages that are done. -/
theorem ensures_recordItems {I : List (Handling options.ackPolicy) → S → σ → Prop} {messages : List Inbound}
    (hItem : ∀ done, ∀ inbound ∈ messages, Program.Ensures (I done) (recordItem channel handler options inbound)
      (fun item => I (done ++ [item.val])) stopped) (done : List (Handling options.ackPolicy)) :
    Program.Ensures (I done) (recordItems channel handler options messages)
      (fun handlings => I (done ++ handlings.items)) stopped := by
  induction messages generalizing done with
  | nil => exact Program.ensures_pure fun _ _ h => by simpa [Handlings.none] using h
  | cons inbound rest ih =>
      apply (hItem done inbound List.mem_cons_self).bind
      intro item
      have hRest := ih (fun done other hMem => hItem done other (List.mem_cons_of_mem inbound hMem))
        (done ++ [item.val])
      exact hRest.bind fun later => Program.ensures_pure fun _ _ h => by simpa [Handlings.cons] using h

/-- Rule for a whole cycle that keeps account, from its fetch on. -/
theorem ensures_record {N : Except Error (List Inbound) → S → σ → Prop} {Q : Trace options.ackPolicy → S → σ → Prop}
    (hFetch : Program.Ensures P channel.fetch N stopped)
    (hRefused : ∀ e s w, N (.error e) s w → Q (.refused e) s w)
    (hTaken : ∀ messages, Program.Ensures (N (.ok messages)) (recordItems channel handler options messages)
      (fun handlings => Q (.taken handlings.items)) stopped) :
    Program.Ensures P (record channel handler options) Q stopped := by
  apply hFetch.bind
  intro answer
  cases answer with
  | error e => exact Program.ensures_pure (hRefused e)
  | ok messages => exact Program.ensures_map (hTaken messages)

end Rules

variable {policy : AckPolicy}

/-- A message that is acknowledged: all are, unless failed ones are left for later. -/
def Handling.released (item : Handling policy) : Bool := policy = .always || !item.course.failed

/-- A message is released by being acknowledged, whatever comes of it. -/
theorem Handling.released_iff (item : Handling policy) : item.released = true ↔ item.ack ≠ none := by
  rw [ne_eq, item.ack_eq_none_iff]
  cases policy <;> simp [released]

end Cycle

namespace Feed

open ChatRelay.Cycle (Handling)

variable {σ : Type}

/-- A feed after any calls, with any provider, file and disk. -/
def Reachable (feed : Feed) : Prop :=
  ∃ (σ : Type) (api : BotApi (Process σ)) (file : Option CursorFile) (disk : Disk (Process σ)) (config : FeedConfig)
    (calls : List Channel.Call) (outcomes : List Channel.Outcome) (w w' : σ),
    life api (file.map fun f => f.store disk) config calls w = (some (.ok (outcomes, feed)), w')

/-- A feed that can be reached is sound. -/
theorem Reachable.sound {feed : Feed} (h : feed.Reachable) : feed.cursor.Sound := by
  obtain ⟨σ, api, file, disk, config, calls, outcomes, w, w', hLife⟩ := h
  have hCalls := (upheld_waits api (file.map fun f => f.store disk) fun _ => False).performAll
    (fun call (_ : call ∈ calls) _ _ _ _ => not_false)
  exact ((ensures_life (ensures_start_sound file disk config) hCalls).of_some trivial hLife).1

/-- The ids of a batch that can be used. -/
def usableIds (batch : List Json.Fields) : List Int := (batch.map Update.ofJson).filterMap Update.id?

/-- The ids that an acknowledgement reads from messages. -/
def messageIds (messages : List Inbound) : List Int := messages.filterMap fun m => ackId? m.updateId

/-- The ids of the messages that were acknowledged. -/
def releasedIds {policy : AckPolicy} (items : List (Handling policy)) : List Int :=
  messageIds ((items.filter Handling.released).map Handling.inbound)

/-- What is known of the ids before the messages of a batch are processed. -/
def known (feed : Feed) (batch : List Json.Fields) : List Int := feed.cursor.seen.toList ++ usableIds batch

/-- The feed while the messages of a batch are processed, when some ids are acknowledged. -/
structure Midway (before : Feed) (batch : List Json.Fields) (done : List Int) (feed : Feed) : Prop where
  tracks : feed.cursor.Tracks before.cursor.floor (before.known batch)
  pending_iff : ∀ id, id ∈ feed.cursor.pending ↔
    (id ∈ before.cursor.pending ∨ id ∈ messageIds (before.intake batch).messages) ∧ id ∉ done

variable {before feed : Feed} {batch : List Json.Fields} {done : List Int}

/-- Saving the floor changes nothing that is said midway, whether or not it succeeds. -/
theorem Midway.afterSave (h : Midway before batch done feed) {floor : Int}
    (hUnsaved : feed.cursor.unsaved? = some floor) (r : Except StoreError Unit) :
    Midway before batch done (feed.afterSave floor r).2 := by
  cases r with
  | ok done => exact ⟨h.tracks.saved (floor_of_unsaved? hUnsaved), h.pending_iff⟩
  | error e => exact ⟨h.tracks, h.pending_iff⟩

/-- After a batch was taken, all of its messages wait. -/
theorem midway_taking (h : before.cursor.Sound) (batch : List Json.Fields) :
    Midway before batch [] (before.taking batch).settled where
  tracks := by
    refine h.tracks_takeBatch fun update hMem id hId => ?_
    obtain ⟨raw, _, rfl⟩ := List.mem_map.mp hMem
    exact Update.inRange_of_id? hId
  pending_iff := by
    intro id
    change id ∈ (before.intake batch).cursor.settle.pending ↔ _
    have hRead : ∀ id m, .message id m ∈ batch.map Update.ofJson → ackId? m.updateId = some id := by
      intro id m hMem
      obtain ⟨raw, _, hRaw⟩ := List.mem_map.mp hMem
      exact Update.ackId?_of_message hRaw
    rw [Cursor.settle_pending, intake, before.cursor.pending_takeBatch_iff _ hRead]
    simp [messageIds, List.mem_filterMap]

/-- The id of a message is read back, and the cursor has come that far. -/
theorem exists_ackId?_of_message {inbound : Inbound} (hMem : inbound ∈ (before.intake batch).messages) :
    ∃ id, ackId? inbound.updateId = some id ∧ Covers before.cursor.floor (before.known batch) id := by
  obtain ⟨id, hIn, _⟩ := before.cursor.sourced_takeBatch (batch.map Update.ofJson) inbound hMem
  obtain ⟨raw, _, hRaw⟩ := List.mem_map.mp hIn
  refine ⟨id, Update.ackId?_of_message hRaw, Or.inl ⟨id, List.mem_append_right _ ?_, Int.le_refl id⟩⟩
  exact List.mem_filterMap.mpr ⟨_, hIn, rfl⟩

/-- An acknowledgement takes one id off those that wait. -/
theorem Midway.acknowledging (h : Midway before batch done feed) {id : Int} (hRange : Cursor.InRange id)
    (hCovered : Covers before.cursor.floor (before.known batch) id) :
    Midway before batch (done ++ [id]) (feed.acknowledging id).settled where
  tracks := h.tracks.acknowledge hRange hCovered
  pending_iff := by
    intro a
    change a ∈ (feed.cursor.acknowledge id).settle.pending ↔ _
    rw [Cursor.settle_pending, Cursor.acknowledge, IdSet.mem_erase, h.pending_iff]
    simp [and_assoc]

section Calls

variable {api : BotApi (StateM σ)} {store : Option (CursorStore (StateM σ))}

/-- A call that saves comes to an end, and it fails only if the floor was not saved. -/
theorem ensures_persist_midway (h : Midway before batch done feed) :
    Process.Ensures (fun _ : σ => True) (feed.persist (store.map fun s => s.lift Process.ofState))
      (fun r _ => Midway before batch done r.2 ∧
        ∀ e, r.1 = .error e → feed.config.strict = true ∧ ∃ fault, e = .store fault) fun _ => False := by
  refine ensures_persist (Q := fun answer after _ => Midway before batch done after ∧
    ∀ e, answer = .error e → feed.config.strict = true ∧ ∃ fault, e = .store fault)
    (fun _ _ _ => ⟨h, fun _ hEq => by cases hEq⟩) fun floor s hStore hUnsaved => ?_
  obtain ⟨inner, _, rfl⟩ := Option.map_eq_some_iff.mp hStore
  refine Process.ensures_ofState fun w _ => ⟨h.afterSave hUnsaved _, fun e hEq => ?_⟩
  cases hSaved : (inner.save floor w).1 with
  | ok done =>
      rw [hSaved] at hEq
      cases hEq
  | error fault =>
      simp only [hSaved, Feed.afterSave, storeOutcome] at hEq
      split at hEq
      case isTrue hStrict =>
        cases hEq
        exact ⟨hStrict, fault, rfl⟩
      case isFalse => cases hEq

/-- The channel of a feed whose provider and store always answer. -/
def onWorld (api : BotApi (StateM σ)) (store : Option (CursorStore (StateM σ))) : Channel (Program Feed σ) :=
  channel (api.lift Process.ofState) (store.map fun s => s.lift Process.ofState)

/-- Step of a cycle: the fetch, which can only fail in its save and only for a strict feed. -/
theorem ensures_fetch_midway (h : before.cursor.Sound) {w : σ}
    (hAnswer : (api.getUpdates before.request w).1 = .ok batch) :
    Program.Ensures (fun feed v => feed = before ∧ v = w) (onWorld api store).fetch
      (fun answer after _ => match answer with
        | .ok messages => messages = (before.intake batch).messages ∧ Midway before batch [] after
        | .error e => before.config.strict = true ∧ ∃ fault, e = .store fault) fun _ => False := by
  intro feed
  apply Process.Ensures.of_fact (fun _ hw => hw.1)
  rintro rfl
  refine ensures_fetch (Q := fun answer after _ => match answer with
    | .ok messages => messages = (feed.intake batch).messages ∧ Midway feed batch [] after
    | .error e => feed.config.strict = true ∧ ∃ fault, e = .store fault)
    (A := fun answer _ => answer = .ok batch) ?_ (fun e _ hEq => by cases hEq) fun taken => ?_
  · refine Process.ensures_ofState fun v hv => ?_
    rw [hv.2, hAnswer]
  · apply Process.Ensures.of_fact (fun _ hEq => hEq)
    intro hEq
    cases hEq
    refine (ensures_persist_midway (midway_taking h batch)).imp (fun _ _ => trivial) (fun r _ hr => ?_) fun _ hw => hw
    cases hSaved : r.1 with
    | ok done => exact ⟨rfl, hr.1⟩
    | error e => exact hr.2 e hSaved

/-- Step of a cycle: the acknowledgement of one of the messages, which can only fail in its save. -/
theorem ensures_acknowledge_midway {inbound : Inbound} (hMem : inbound ∈ (before.intake batch).messages) :
    Program.Ensures (fun feed _ => Midway before batch done feed) ((onWorld api store).acknowledge inbound.updateId)
      (fun answer after _ => Midway before batch (done ++ messageIds [inbound]) after ∧
        ∀ e, answer = .error e → ∃ fault, e = .store fault) fun _ => False := by
  obtain ⟨id, hId, hCovered⟩ := exists_ackId?_of_message hMem
  have hIds : messageIds [inbound] = [id] := by simp [messageIds, hId]
  intro feed
  refine ensures_acknowledge (Q := fun answer after _ => Midway before batch (done ++ messageIds [inbound]) after ∧
    ∀ e, answer = .error e → ∃ fault, e = .store fault) (fun hNone => ?_) fun other hOther => ?_
  · rw [hId] at hNone
    cases hNone
  · obtain rfl := Option.some.inj (hId.symm.trans hOther)
    apply Process.Ensures.of_fact (fun _ hw => hw)
    intro hMidway
    rw [hIds]
    exact (ensures_persist_midway (hMidway.acknowledging (inRange_of_ackId? hId) hCovered)).imp (fun _ _ => trivial)
      (fun r _ hr => ⟨hr.1, fun e hEq => (hr.2 e hEq).2⟩) fun _ hw => hw

end Calls

end Feed

/-- A handler that always answers, and that sees nothing of the state. -/
def Handler.onWorld {S σ : Type} (handler : Handler (StateM σ)) : Handler (Program S σ) :=
  handler.lift fun run => Program.outside (Process.ofState run)

/-- Rules that always answer, and that see nothing of the state. -/
def CycleOptions.onWorld {S σ : Type} (options : CycleOptions (StateM σ)) : CycleOptions (Program S σ) :=
  options.lift fun run => Program.outside (Process.ofState run)

namespace Feed

open ChatRelay.Cycle (Handling)

variable {σ : Type} {before : Feed} {batch : List Json.Fields} {api : BotApi (StateM σ)}
  {store : Option (CursorStore (StateM σ))} {handler : Handler (StateM σ)} {options : CycleOptions (StateM σ)}

/-- The feed when some messages are done. An acknowledgement that failed did so in the store. -/
def Underway {policy : AckPolicy} (before : Feed) (batch : List Json.Fields) (items : List (Handling policy))
    (feed : Feed) : Prop :=
  Midway before batch (releasedIds items) feed ∧
    ∀ item ∈ items, ∀ e, item.ack = some (.error e) → ∃ fault, e = .store fault

theorem releasedIds_concat {policy : AckPolicy} (items : List (Handling policy)) (item : Handling policy) :
    releasedIds (items ++ [item]) = releasedIds items ++ if item.released then messageIds [item.inbound] else [] := by
  cases hReleased : item.released <;> simp [releasedIds, messageIds, List.filter_append, hReleased]

/-- Step of a cycle: the processing of a message does not touch the feed. -/
theorem ensures_course_midway {done : List Int} (inbound : Inbound) :
    Program.Ensures (fun feed _ => Midway before batch done feed)
      (Cycle.recordCourse (onWorld api store) handler.onWorld options.onWorld inbound)
      (fun _ feed _ => Midway before batch done feed) fun _ => False := by
  have hOutside : ∀ {α : Type} (run : StateM σ α), Program.Ensures (fun feed _ => Midway before batch done feed)
      (Program.outside (Process.ofState run)) (fun _ feed _ => Midway before batch done feed) fun _ => False :=
    fun run => Program.ensures_outside fun _ => Process.ensures_ofState fun _ h => h
  refine Cycle.ensures_recordCourse (hOutside _) (fun _ => hOutside _) fun outbound feed => ?_
  exact ensures_send (Q := fun _ feed _ => Midway before batch done feed)
    (A := fun _ _ => Midway before batch done feed) (Process.ensures_ofState fun _ h => h) (fun _ _ h => h)
    fun _ _ h => h

/-- Step of a cycle: one message adds to those that are done. -/
theorem ensures_item_underway {options : CycleOptions (Program Feed σ)} {inbound : Inbound}
    (hCourse : ∀ done, Program.Ensures (fun feed _ => Midway before batch done feed)
      (Cycle.recordCourse (onWorld api store) handler.onWorld options inbound)
      (fun _ feed _ => Midway before batch done feed) fun _ => False)
    (hMem : inbound ∈ (before.intake batch).messages) (items : List (Handling options.ackPolicy)) :
    Program.Ensures (fun feed _ => Underway before batch items feed)
      (Cycle.recordItem (onWorld api store) handler.onWorld options inbound)
      (fun item feed _ => Underway before batch (items ++ [item.val]) feed) fun _ => False := by
  intro feed
  apply Process.Ensures.of_fact (fun _ h => h.2)
  intro hRefusals
  refine (Cycle.ensures_recordItem (Q := fun item feed _ => Underway before batch (items ++ [item]) feed)
    (hCourse (releasedIds items)) ?_ (ensures_acknowledge_midway hMem) ?_ feed).imp
    (fun _ h => h.1) (fun _ _ h => h) fun _ h => h
  · rintro item rfl hNone feed _ hMidway
    have hLeft : item.released = false := by
      rw [← Bool.not_eq_true, item.released_iff]
      exact not_not_intro hNone
    refine ⟨by simpa [releasedIds_concat, hLeft] using hMidway, fun other hOther e hAck => ?_⟩
    rcases List.mem_append.mp hOther with hOld | hNew
    · exact hRefusals other hOld e hAck
    · obtain rfl := List.mem_singleton.mp hNew
      rw [hNone] at hAck
      cases hAck
  · rintro item answer rfl hSome feed _ ⟨hMidway, hAnswer⟩
    have hReleased : item.released = true := by
      rw [item.released_iff, hSome]
      simp
    refine ⟨by simpa [releasedIds_concat, hReleased] using hMidway, fun other hOther e hAck => ?_⟩
    rcases List.mem_append.mp hOther with hOld | hNew
    · exact hRefusals other hOld e hAck
    · obtain rfl := List.mem_singleton.mp hNew
      exact hAnswer e (Option.some.inj (hSome.symm.trans hAck))

/-- What a cycle has done when it comes to an end, as it always does. -/
def Finished {policy : AckPolicy} (before : Feed) (batch : List Json.Fields) (trace : Cycle.Trace policy)
    (after : Feed) : Prop :=
  match trace with
  | .refused e => before.config.strict = true ∧ ∃ fault, e = .store fault
  | .taken items => items.map Handling.inbound = (before.intake batch).messages ∧ Underway before batch items after

variable (store handler options) in
/-- Run lemma: by induction on its messages a cycle comes to its end, with all of them accounted for. -/
theorem ensures_record_finished (h : before.cursor.Sound) {w : σ}
    (hAnswer : (api.getUpdates before.request w).1 = .ok batch) :
    Program.Ensures (fun feed v => feed = before ∧ v = w)
      (Cycle.record (onWorld api store) handler.onWorld options.onWorld)
      (fun trace after _ => Finished before batch trace after) fun _ => False := by
  refine Cycle.ensures_record (ensures_fetch_midway h hAnswer) (fun e _ _ hRefused => hRefused) fun messages feed => ?_
  apply Process.Ensures.of_fact (fun _ hTaken => hTaken.1)
  rintro rfl
  refine (Cycle.ensures_recordItems (I := fun items feed _ => Underway before batch items feed)
    (fun done inbound hMem => ensures_item_underway (fun _ => ensures_course_midway inbound) hMem done) [] feed).imp
    (fun _ hTaken => ⟨hTaken.2, fun _ hNone => absurd hNone List.not_mem_nil⟩) (fun r _ hEnd => ?_) fun _ hw => hw
  exact ⟨r.1.inbound_items, hEnd⟩

/-- **What a cycle does to the cursor can be told in advance.** From every feed that calls lead to, and however the
provider, the store, the sessions and the handler answer, a cycle whose fetch succeeds leaves exactly these ids
waiting: those that waited before and those of the messages that were handed out, less those that were
acknowledged. These are all messages that were handed out, unless failed ones are left for later. The floor and the
next offset are the least waiting id, or else the place above the old floor, the ids that were seen before and all
usable ids of the batch. No acknowledgement is refused for its id. One that fails because the floor was not saved
counts as well. The fetch fails only because a strict feed could not save its floor. -/
theorem cycle_effect (hFeed : before.Reachable) (api : BotApi (StateM σ)) (store : Option (CursorStore (StateM σ)))
    (handler : Handler (StateM σ)) (options : CycleOptions (StateM σ)) {w : σ}
    (hAnswer : (api.getUpdates before.request w).1 = .ok batch) :
    ∃ r calls after w',
      (Cycle.run (onWorld api store).logged handler.onWorld.logged options.onWorld.logged).run [] before w =
          (some ((r, calls), after), w') ∧
        Cycle.run (onWorld api store) handler.onWorld options.onWorld before w = (some (r, after), w') ∧
        ((before.config.strict = true ∧ ∃ fault, calls = [.fetched (.error (.store fault))]) ∨
          ∃ items : List (Handling options.ackPolicy),
            items.map Handling.inbound = (before.intake batch).messages ∧
            calls = .fetched (.ok (before.intake batch).messages) :: items.flatMap Handling.steps ∧
            (∀ id, id ∈ after.cursor.pending ↔
              (id ∈ before.cursor.pending ∨ id ∈ messageIds (before.intake batch).messages) ∧
                id ∉ releasedIds items) ∧
            after.cursor.floor = floorOver after.cursor.pending before.cursor.floor
              (before.cursor.seen.toList ++ usableIds batch) ∧
            after.cursor.offset = after.cursor.floor ∧
            ∀ item ∈ items, ∀ e, item.ack = some (.error e) → ∃ fault, e = .store fault) := by
  have hEnd := ensures_record_finished store handler options hFeed.sound hAnswer
    before w ⟨rfl, rfl⟩
  match hRecord : Cycle.record (onWorld api store) handler.onWorld options.onWorld before w with
  | (none, _) =>
      rw [hRecord] at hEnd
      exact hEnd.elim
  | (some (trace, after), w') =>
      rw [hRecord] at hEnd
      have hLogged := congrFun
        (congrFun (Cycle.run_logged (onWorld api store) handler.onWorld options.onWorld []) before) w
      have hPlain := congrFun (congrFun (Cycle.run_eq_map (onWorld api store) handler.onWorld options.onWorld) before) w
      rw [Program.run_map_of_some _ hRecord] at hLogged hPlain
      refine ⟨trace.result, trace.steps, after, w', hLogged, hPlain, ?_⟩
      cases trace with
      | refused e =>
          obtain ⟨hStrict, fault, rfl⟩ := hEnd
          exact Or.inl ⟨hStrict, fault, rfl⟩
      | taken items =>
          obtain ⟨hInbound, hMidway, hRefusals⟩ := hEnd
          have hSteps : (Cycle.Trace.taken items).steps =
              .fetched (.ok (before.intake batch).messages) :: items.flatMap Handling.steps := by
            rw [Cycle.Trace.steps, hInbound]
          exact Or.inr ⟨items, hInbound, hSteps, hMidway.pending_iff, hMidway.tracks.floor_eq,
            hMidway.tracks.sound.offset_eq_floor, hRefusals⟩

/-- A provider that gives two messages out of order and refuses one of the replies. -/
def refusingHello : BotApi (StateM (List Diagnostic)) where
  getUpdates _ := pure (.ok [Update.plain 9 "hello", Update.plain 7 "hi"])
  sendMessage request := pure <|
    if request.text = "echo: hello" then .error ⟨"sendMessage", .timeout, true, "too slow", none, none, none⟩
    else .ok []

/-- The message whose reply was refused is left waiting, and the floor stands on it. -/
theorem cycle_effect_of_refusal :
    let before : Feed := ⟨{}, Cursor.start none, []⟩
    ∃ r after w', Cycle.run (onWorld refusingHello none) (Echo.handler (m := Id) none).onWorld
        (CycleOptions.standard .onSuccess).onWorld before [] = (some (r, after), w') ∧
      after.cursor.pending.toList = [9] ∧ after.cursor.floor = floorOver after.cursor.pending none [9, 7] ∧
      after.cursor.offset = some 9 := by
  intro before
  have hFeed : before.Reachable :=
    ⟨FileTree, BotApi.constant [], none, FileTree.disk.lift Process.ofState, {}, [], [], FileTree.empty,
      FileTree.empty, rfl⟩
  have hAnswer : (refusingHello.getUpdates before.request []).1 =
      .ok [Update.plain 9 "hello", Update.plain 7 "hi"] := rfl
  obtain ⟨r, calls, after, w', -, hRun, hEnd⟩ :=
    cycle_effect hFeed refusingHello none (Echo.handler (m := Id) none) (.standard .onSuccess) hAnswer
  obtain ⟨hStrict, -⟩ | ⟨items, -, -, -, hFloor, hOffset, -⟩ := hEnd
  · cases hStrict
  · have hKnown : before.cursor.seen.toList ++ usableIds [Update.plain 9 "hello", Update.plain 7 "hi"] = [9, 7] := by
      decide +kernel
    have hEval : (Cycle.run (onWorld refusingHello none) (Echo.handler (m := Id) none).onWorld
        (CycleOptions.standard .onSuccess).onWorld before []).1.map
        (fun r => (r.2.cursor.pending.toList, r.2.cursor.offset)) = some ([9], some 9) := by
      decide +kernel
    rw [hRun] at hEval
    obtain ⟨hPending, hNext⟩ : after.cursor.pending.toList = [9] ∧ after.cursor.offset = some 9 := by
      simpa using hEval
    rw [hKnown] at hFloor
    exact ⟨r, after, w', hRun, hPending, hFloor, hNext⟩

end Feed

end ChatRelay
