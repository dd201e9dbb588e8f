import ChatRelay.Proofs.Process

/-!
What can be observed at the borders of the relay. A journal lists the events in their order and stands beside
the world, so that nothing in the world depends on it. It outlives the process that wrote it. Properties of
whole runs are rules on the events: each one is judged by those before it.
-/

namespace ChatRelay

inductive Event where
  /-- The provider is about to be asked. -/
  | requested (request : GetUpdates)
  | saved (floor : Int) (answer : Except StoreError Unit)
  | fetched (answer : Except Error (List Inbound))
  /-- The handler is about to be called. -/
  | handling (inbound : Inbound)
  | handled (inbound : Inbound) (answer : Except Error (Option Outbound))
  | sent (outbound : Outbound) (answer : Except Error Unit)
  /-- An acknowledgement is about to be given. -/
  | acknowledged (id : String)
  /-- The provider has dropped an update for good. -/
  | discarded (id : Int) (raw : Json.Fields)

/-- A world with the events that were observed so far. -/
structure Journaled (σ : Type) where
  events : List Event
  world : σ

section Watched

variable {m : Type → Type} [Monad m]

/-- The same operations, observed from outside. -/
def BotApi.watched (note : Event → m Unit) (api : BotApi m) : BotApi m where
  getUpdates request := do
    note (.requested request)
    api.getUpdates request
  sendMessage request := api.sendMessage request

/-- The same store, observed from outside. -/
def CursorStore.watched (note : Event → m Unit) (store : CursorStore m) : CursorStore m where
  load := store.load
  save floor := do
    let answer ← store.save floor
    note (.saved floor answer)
    return answer

/-- The same channel, observed from outside. -/
def Channel.watched (note : Event → m Unit) (channel : Channel m) : Channel m where
  fetch := do
    let answer ← channel.fetch
    note (.fetched answer)
    return answer
  send outbound := do
    let answer ← channel.send outbound
    note (.sent outbound answer)
    return answer
  acknowledge id := do
    note (.acknowledged id)
    channel.acknowledge id
  drain := channel.drain

/-- The same handler, observed from outside. -/
def Handler.watched (note : Event → m Unit) (handler : Handler m) : Handler m where
  handle inbound session := do
    note (.handling inbound)
    let answer ← handler.handle inbound session
    note (.handled inbound answer)
    return answer
  drain := handler.drain

end Watched

namespace Journaled

variable {σ S α : Type}

def noted (j : Journaled σ) (e : Event) : Journaled σ := { j with events := j.events ++ [e] }

/-- Write an event down. -/
def note (e : Event) : Process (Journaled σ) Unit := fun j => (some (), j.noted e)

/-- A process that does not see the journal. -/
def lift (run : Process σ α) : Process (Journaled σ) α := run.zoom world fun w j => { j with world := w }

/-- Writing an event down, in a program with a state. -/
def noteIn (e : Event) : Program S (Journaled σ) Unit := fun s j => (some ((), s), j.noted e)

/-- What a process does to the world leaves the journal alone. -/
theorem ensures_lift {run : Process σ α} {F : α → Prop}
    (h : Process.Ensures (fun _ => True) run (fun a _ => F a) fun _ => True) (E : List Event → Prop) :
    Process.Ensures (fun j => E j.events) (lift run) (fun a j => F a ∧ E j.events) fun j => E j.events :=
  Process.Ensures.zoom (fun _ _ => True)
    (fun _ hj => h.imp (fun _ h => h) (fun _ _ hF => ⟨hF, hj⟩) fun _ _ => hj) fun _ _ => trivial

/-- A process that does not see the journal leaves it as it is. -/
theorem ensures_lift_keep {E R : List Event → Prop} (hStop : ∀ events, E events → R events)
    (run : Process σ α) :
    Process.Ensures (fun j => E j.events) (lift run) (fun _ j => E j.events) fun j => R j.events :=
  Process.ensures_zoom_keep run (fun _ _ h => h) fun j => hStop j.events

end Journaled

/-- A world with entries of any kind beside it, in the order in which they were written. -/
structure Chronicle (ε σ : Type) where
  world : σ
  entries : List ε := []

namespace Chronicle

variable {ε σ α : Type}

/-- What leaves no entry. -/
def past (run : StateM σ α) : StateM (Chronicle ε σ) α := fun t =>
  ((run t.world).1, { t with world := (run t.world).2 })

/-- Write an entry, which may speak of the world as it is then. -/
def write (entry : σ → ε) : StateM (Chronicle ε σ) Unit := fun t =>
  ((), { t with entries := t.entries ++ [entry t.world] })

theorem past_of_run {run : StateM σ α} {w w' : σ} {a : α} {entries : List ε} (h : run w = (a, w')) :
    past run ⟨w, entries⟩ = (a, ⟨w', entries⟩) := by
  rw [past, h]

end Chronicle

/-- Every event is as the rule asks, given the events before it. -/
def Legal (rule : List Event → Event → Prop) (events : List Event) : Prop :=
  ∀ before e after, events = before ++ e :: after → rule before e

variable {rule : List Event → Event → Prop} {events : List Event}

theorem legal_nil : Legal rule [] := fun before e after h => by
  simp at h

/-- A journal stays legal when the rule allows its next event. -/
theorem Legal.snoc (h : Legal rule events) {e : Event} (hNew : rule events e) :
    Legal rule (events ++ [e]) := by
  intro before e' after hEq
  rcases List.eq_nil_or_concat after with rfl | ⟨after, last, rfl⟩
  · obtain ⟨rfl, hLast⟩ := List.append_inj' hEq rfl
    obtain rfl : e = e' := by simpa using hLast
    exact hNew
  · rw [List.concat_eq_append, ← List.cons_append, ← List.append_assoc] at hEq
    exact h before e' after (List.append_inj' hEq rfl).1

/-- Several events at once, each of which is allowed whichever of the others come before it. -/
theorem Legal.append (h : Legal rule events) {more : List Event}
    (hNew : ∀ e ∈ more, ∀ between, rule (events ++ between) e) : Legal rule (events ++ more) := by
  induction more generalizing events with
  | nil => simpa using h
  | cons e rest ih =>
      have hFirst : Legal rule (events ++ [e]) := h.snoc (by simpa using hNew e List.mem_cons_self [])
      have hRest := ih hFirst fun other hMem between => by
        simpa using hNew other (List.mem_cons_of_mem e hMem) (e :: between)
      simpa using hRest

end ChatRelay
