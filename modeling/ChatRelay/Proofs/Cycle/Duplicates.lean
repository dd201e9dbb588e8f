import ChatRelay.Proofs.Cycle.Rules
import ChatRelay.Proofs.Feed.Calls
import ChatRelay.Proofs.Journal

/-!
What the events of a run say about duplicates. An acknowledged message is settled in the cursor from the time
of the call on, and what is settled is not handed out. The messages of a batch have different ids and none was
acknowledged before, so that no two of them disturb each other. Everything here is about lists of events and
one cursor. The programs follow in the next module.
-/

namespace ChatRelay

namespace Cycle

/-- The message of an id was handled, and its reply was sent if there was one. -/
def Succeeded (events : List Event) (id : String) : Prop :=
  ∃ inbound, inbound.updateId = id ∧ (.handled inbound (.ok none) ∈ events ∨
    ∃ outbound, [.handled inbound (.ok (some outbound)), .sent outbound (.ok ())] <:+: events)

/-- The ids of the messages that the handler was called for, in order. -/
def handlings (events : List Event) : List String :=
  events.filterMap fun
    | .handling inbound => some inbound.updateId
    | _ => none

/-- A fetch gives no message that was acknowledged, and the handler gets none that succeeded. -/
def neverAgain (before : List Event) (e : Event) : Prop :=
  (∀ messages, e = .fetched (.ok messages) → ∀ inbound ∈ messages, .acknowledged inbound.updateId ∉ before) ∧
    ∀ inbound, e = .handling inbound → ¬ Succeeded before inbound.updateId

variable {events : List Event} {e : Event} {id : String}

/-- Success comes with the answer of the handler or with the delivery right behind it. -/
theorem Succeeded.of_snoc (h : Succeeded (events ++ [e]) id) :
    Succeeded events id ∨ ∃ inbound, inbound.updateId = id ∧ (e = .handled inbound (.ok none) ∨
      ∃ outbound, events.getLast? = some (.handled inbound (.ok (some outbound))) ∧ e = .sent outbound (.ok ())) := by
  obtain ⟨inbound, hId, hMem | ⟨outbound, hInfix⟩⟩ := h
  · rcases List.mem_append.mp hMem with hOld | hNew
    · exact Or.inl ⟨inbound, hId, Or.inl hOld⟩
    · exact Or.inr ⟨inbound, hId, Or.inl (by simpa [eq_comm] using hNew)⟩
  · rcases List.infix_concat_iff.mp hInfix with hLast | hOld
    · obtain ⟨before, hBefore⟩ := hLast
      have hSplit : (before ++ [Event.handled inbound (.ok (some outbound))]) ++ [.sent outbound (.ok ())] =
          events ++ [e] := by
        simpa using hBefore
      obtain ⟨rfl, hEnd⟩ := List.append_inj' hSplit rfl
      refine Or.inr ⟨inbound, hId, Or.inr ⟨outbound, by simp, ?_⟩⟩
      simpa using hEnd.symm
    · exact Or.inl ⟨inbound, hId, Or.inr ⟨outbound, hOld⟩⟩

/-- The rule speaks of two kinds of events only. -/
theorem neverAgain_of_ne (hFetched : ∀ answer, e ≠ .fetched answer) (hHandling : ∀ inbound, e ≠ .handling inbound) :
    neverAgain events e :=
  ⟨fun messages hEq => absurd hEq (hFetched (.ok messages)), fun inbound hEq => absurd hEq (hHandling inbound)⟩

theorem handlings_snoc_handling (inbound : Inbound) :
    handlings (events ++ [.handling inbound]) = handlings events ++ [inbound.updateId] := by
  simp [handlings]

/-- What the events say about the ids. Those in `busy` may have been handed to the handler, and those in `done`
may have succeeded, without an acknowledgement so far. The last part is about cycles that acknowledge all
messages. -/
structure Tidy (always : Prop) (busy done : List String) (events : List Event) : Prop where
  legal : Legal neverAgain events
  done_acknowledged : ∀ id, Succeeded events id → .acknowledged id ∈ events ∨ id ∈ done
  busy_acknowledged : always → ∀ id ∈ handlings events, .acknowledged id ∈ events ∨ id ∈ busy
  once : always → (handlings events).Nodup

variable {always : Prop} {busy done : List String} {inbound : Inbound}

/-- Before the first event everything is tidy. -/
theorem tidy_nil (always : Prop) : Tidy always [] [] [] where
  legal := legal_nil
  done_acknowledged := by
    rintro id ⟨inbound, _, hMem | ⟨outbound, hInfix⟩⟩
    · exact absurd hMem List.not_mem_nil
    · simp at hInfix
  busy_acknowledged := fun _ id hId => absurd hId List.not_mem_nil
  once := fun _ => List.nodup_nil

/-- An event other than a call of the handler. -/
theorem Tidy.snoc (h : Tidy always busy done events) {done' : List String} (hRule : neverAgain events e)
    (hOther : handlings (events ++ [e]) = handlings events)
    (hDone : ∀ id, Succeeded (events ++ [e]) id → Succeeded events id ∨ id ∈ done')
    (hMore : ∀ id ∈ done, id ∈ done') : Tidy always busy done' (events ++ [e]) where
  legal := h.legal.snoc hRule
  done_acknowledged := by
    intro id hId
    rcases hDone id hId with hOld | hNew
    · exact (h.done_acknowledged id hOld).imp (fun hMem => by simp [hMem]) (hMore id)
    · exact Or.inr hNew
  busy_acknowledged := by
    intro hAlways id hId
    rw [hOther] at hId
    exact (h.busy_acknowledged hAlways id hId).imp_left fun hMem => by simp [hMem]
  once := by
    rw [hOther]
    exact h.once

/-- Event of a cycle: a fetch that hands out no acknowledged id. -/
theorem Tidy.fetched (h : Tidy always [] [] events) {answer : Except Error (List Inbound)}
    (hNew : ∀ inbound ∈ messagesOf answer, .acknowledged inbound.updateId ∉ events) :
    Tidy always [] [] (events ++ [.fetched answer]) := by
  refine h.snoc ⟨?_, fun _ hEq => by cases hEq⟩ (by simp [handlings]) (fun id hId => ?_) fun _ hMem => hMem
  · intro messages hEq
    cases hEq
    exact hNew
  · rcases hId.of_snoc with hOld | ⟨_, _, hEq | ⟨_, _, hEq⟩⟩
    · exact Or.inl hOld
    · cases hEq
    · cases hEq

/-- Event of a cycle: a message that was not acknowledged goes to the handler. -/
theorem Tidy.handling (h : Tidy always [] [] events) (hNew : .acknowledged inbound.updateId ∉ events) :
    Tidy always [inbound.updateId] [] (events ++ [.handling inbound]) where
  legal := by
    refine h.legal.snoc ⟨fun _ hEq => (by cases hEq), fun other hEq hSucceeded => ?_⟩
    cases hEq
    rcases h.done_acknowledged _ hSucceeded with hAcknowledged | hDone
    · exact hNew hAcknowledged
    · exact absurd hDone List.not_mem_nil
  done_acknowledged := by
    intro id hId
    rcases hId.of_snoc with hOld | ⟨_, _, hEq | ⟨_, _, hEq⟩⟩
    · exact (h.done_acknowledged id hOld).imp_left fun hMem => by simp [hMem]
    · cases hEq
    · cases hEq
  busy_acknowledged := by
    intro hAlways id hId
    rw [handlings_snoc_handling] at hId
    rcases List.mem_append.mp hId with hOld | hSelf
    · rcases h.busy_acknowledged hAlways id hOld with hMem | hMem
      · exact Or.inl (by simp [hMem])
      · exact absurd hMem List.not_mem_nil
    · exact Or.inr hSelf
  once := by
    intro hAlways
    rw [handlings_snoc_handling, List.nodup_append]
    refine ⟨h.once hAlways, by simp, ?_⟩
    intro id hId other hOther hEq
    obtain rfl : other = inbound.updateId := by simpa using hOther
    subst hEq
    rcases h.busy_acknowledged hAlways _ hId with hMem | hMem
    · exact hNew hMem
    · exact absurd hMem List.not_mem_nil

/-- A message that the handler is not called for. -/
theorem Tidy.withheld (h : Tidy always [] [] events) (id : String) : Tidy always [id] [] events where
  legal := h.legal
  done_acknowledged := h.done_acknowledged
  busy_acknowledged := fun hAlways a ha => (h.busy_acknowledged hAlways a ha).imp_right fun hMem =>
    absurd hMem List.not_mem_nil
  once := h.once

/-- What has succeeded when the handler has answered. -/
def doneByAnswer (id : String) : Except Error (Option Outbound) → List String
  | .ok none => [id]
  | _ => []

/-- Event of a cycle: the answer of the handler, after which the message may be done. -/
theorem Tidy.handled (h : Tidy always busy [] events) (answer : Except Error (Option Outbound)) :
    Tidy always busy (doneByAnswer inbound.updateId answer) (events ++ [.handled inbound answer]) := by
  refine h.snoc (neverAgain_of_ne (by simp) (by simp)) (by simp [handlings]) (fun id hId => ?_)
    fun id hMem => absurd hMem List.not_mem_nil
  rcases hId.of_snoc with hOld | ⟨_, hSame, hEq | ⟨_, _, hEq⟩⟩
  · exact Or.inl hOld
  · cases hEq
    exact Or.inr (by simp [doneByAnswer, hSame])
  · cases hEq

/-- What has succeeded when a message is processed. -/
def doneByOutcome (id : String) : Except (CycleStage × Error) Bool → List String
  | .ok _ => [id]
  | .error _ => []

/-- Event of a cycle: the reply is sent, after which the message is done if that went well. -/
theorem Tidy.sent (h : Tidy always busy [] events) {outbound : Outbound} {r : Except Error Unit}
    (hLast : events.getLast? = some (.handled inbound (.ok (some outbound)))) :
    Tidy always busy (doneByOutcome inbound.updateId (sentOutcome r)) (events ++ [.sent outbound r]) := by
  refine h.snoc (neverAgain_of_ne (by simp) (by simp)) (by simp [handlings]) (fun id hId => ?_)
    fun id hMem => absurd hMem List.not_mem_nil
  rcases hId.of_snoc with hOld | ⟨other, hSame, hEq | ⟨_, hBefore, hEq⟩⟩
  · exact Or.inl hOld
  · cases hEq
  · rw [hLast] at hBefore
    cases hBefore
    cases hEq
    exact Or.inr (by simp [sentOutcome, doneByOutcome, hSame])

/-- An acknowledgement settles what was open, whatever became of it. -/
theorem Tidy.acknowledged (h : Tidy always [id] done events) (hDone : ∀ a ∈ done, a = id) :
    Tidy always [] [] (events ++ [.acknowledged id]) where
  legal := h.legal.snoc (neverAgain_of_ne (by simp) (by simp))
  done_acknowledged := by
    intro a ha
    left
    rcases ha.of_snoc with hOld | ⟨_, _, hEq | ⟨_, _, hEq⟩⟩
    · rcases h.done_acknowledged a hOld with hMem | hMem
      · simp [hMem]
      · simp [hDone a hMem]
    · cases hEq
    · cases hEq
  busy_acknowledged := by
    intro hAlways a ha
    left
    have hSame : handlings (events ++ [.acknowledged id]) = handlings events := by simp [handlings]
    rw [hSame] at ha
    rcases h.busy_acknowledged hAlways a ha with hMem | hMem
    · simp [hMem]
    · simp [List.mem_singleton.mp hMem]
  once := by
    have hSame : handlings (events ++ [.acknowledged id]) = handlings events := by simp [handlings]
    rw [hSame]
    exact h.once

/-- Nothing is open any more when failures are left for later, which an acknowledgement of all messages rules
out. -/
theorem Tidy.skipped (h : Tidy always busy [] events) (hNot : ¬ always) : Tidy always [] [] events where
  legal := h.legal
  done_acknowledged := h.done_acknowledged
  busy_acknowledged := fun hAlways => absurd hAlways hNot
  once := fun hAlways => absurd hAlways hNot

/-- The messages that are still to come have different ids, none of which was acknowledged. -/
def Upcoming (messages : List Inbound) (events : List Event) : Prop :=
  (messages.map Inbound.updateId).Nodup ∧ ∀ inbound ∈ messages, .acknowledged inbound.updateId ∉ events

/-- Messages stay upcoming until there is an acknowledgement. -/
theorem Upcoming.snoc {messages : List Inbound} (h : Upcoming messages events)
    (hNot : ∀ id, e ≠ .acknowledged id) : Upcoming messages (events ++ [e]) := by
  refine ⟨h.1, fun inbound hMem hAcknowledged => ?_⟩
  rcases List.mem_append.mp hAcknowledged with hOld | hNew
  · exact h.2 inbound hMem hOld
  · exact hNot inbound.updateId (by simpa [eq_comm] using hNew)

theorem Upcoming.tail {rest : List Inbound} (h : Upcoming (inbound :: rest) events) : Upcoming rest events :=
  ⟨(List.nodup_cons.mp h.1).2, fun other hMem => h.2 other (List.mem_cons_of_mem _ hMem)⟩

/-- The acknowledgement of one message leaves the others upcoming, since no id comes twice. -/
theorem Upcoming.acknowledged {rest : List Inbound} (h : Upcoming (inbound :: rest) events) :
    Upcoming rest (events ++ [.acknowledged inbound.updateId]) := by
  refine ⟨h.tail.1, fun other hMem hAcknowledged => ?_⟩
  rcases List.mem_append.mp hAcknowledged with hOld | hNew
  · exact h.tail.2 other hMem hOld
  · have hSame : other.updateId = inbound.updateId := by simpa using hNew
    exact (List.nodup_cons.mp h.1).1 (hSame ▸ List.mem_map_of_mem hMem)

end Cycle

namespace Feed

/-- What was acknowledged is settled. -/
def Settles (feed : Feed) (events : List Event) : Prop :=
  ∀ text id, .acknowledged text ∈ events → ackId? text = some id → feed.cursor.Settled id

variable {feed : Feed} {events : List Event}

/-- Only an acknowledgement asks for more to be settled. -/
theorem Settles.snoc (h : feed.Settles events) {e : Event} (hNot : ∀ id, e ≠ .acknowledged id) :
    feed.Settles (events ++ [e]) := by
  intro text id hMem hId
  rcases List.mem_append.mp hMem with hOld | hNew
  · exact h text id hOld hId
  · exact absurd (by simpa [eq_comm] using hNew) (hNot text)

/-- Saving the floor unsettles no id. -/
theorem Settles.afterSave (h : feed.Settles events) (floor : Int) (r : Except StoreError Unit) :
    (feed.afterSave floor r).2.Settles events := by
  cases r with
  | ok done => exact h
  | error e => exact h

/-- Neither does a batch. -/
theorem Settles.taking (h : feed.Settles events) (batch : List Json.Fields) :
    (feed.taking batch).settled.Settles events := by
  intro text id hMem hId
  apply Cursor.settled_settle
  exact (feed.cursor.from_takeBatch _).settled (h text id hMem hId)

/-- The messages of a batch are not settled, and so they were not acknowledged. -/
theorem Settles.upcoming (h : feed.Settles events) (batch : List Json.Fields) :
    Cycle.Upcoming (feed.intake batch).messages events := by
  have hRead : ∀ id m, .message id m ∈ batch.map Update.ofJson → ackId? m.updateId = some id := by
    intro id m hMem
    obtain ⟨raw, _, hRaw⟩ := List.mem_map.mp hMem
    exact Update.ackId?_of_message hRaw
  refine ⟨feed.cursor.nodup_updateId_takeBatch _ hRead, fun m hMem hAcknowledged => ?_⟩
  obtain ⟨id, hIn, _, _, hNot⟩ := feed.cursor.sourced_takeBatch (batch.map Update.ofJson) m hMem
  exact hNot (h m.updateId id hAcknowledged (hRead id m hIn))

/-- An acknowledgement with a usable id settles that id. -/
theorem Settles.acknowledging (h : feed.Settles events) {text : String} {id : Int} (hId : ackId? text = some id) :
    (feed.acknowledging id).settled.Settles (events ++ [.acknowledged text]) := by
  intro other id' hMem hOther
  apply Cursor.settled_settle
  rcases List.mem_append.mp hMem with hOld | hNew
  · exact Cursor.settled_acknowledge (h other id' hOld hOther) id
  · obtain rfl : other = text := by simpa using hNew
    obtain rfl := Option.some.inj (hId.symm.trans hOther)
    exact feed.cursor.settled_acknowledge_self id

/-- One without a usable id asks for nothing. -/
theorem Settles.unusable (h : feed.Settles events) {text : String} (hNone : ackId? text = none) :
    feed.Settles (events ++ [.acknowledged text]) := by
  intro other id hMem hOther
  rcases List.mem_append.mp hMem with hOld | hNew
  · exact h other id hOld hOther
  · obtain rfl : other = text := by simpa using hNew
    rw [hNone] at hOther
    cases hOther

end Feed

end ChatRelay
