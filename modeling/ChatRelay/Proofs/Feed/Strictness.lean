import ChatRelay.Proofs.Feed.Mirrored
import ChatRelay.Proofs.Feed.Selection

/-!
A strict feed beside a feed that is not. They start from the same world and take the same calls. The strict one reports
the error of a save that fails, and the other one hides it. That is the only difference: they make the same requests and
the same saves, they record the same notes, and their cursors are the same after every call.
-/

namespace ChatRelay

/-- The error of a save that failed. -/
def Event.saveError? : Event → Option StoreError
  | .saved _ (.error e) => some e
  | _ => none

/-- An error of the store was the answer to a save. -/
theorem Event.eq_saved_of_saveError? {event : Event} {e : StoreError} (h : event.saveError? = some e) :
    ∃ floor, event = .saved floor (.error e) := by
  simp only [saveError?] at h
  split at h
  · cases h
    exact ⟨_, rfl⟩
  · cases h

/-- The error that a feed, strict or not, reports of these events. -/
def reported? (strict : Bool) (events : List Event) : Option StoreError :=
  if strict then events.findSome? Event.saveError? else none

namespace Channel.Outcome

/-- The outcome of the same call with an error as the answer. A drain has no answer that could be one. -/
def failing (e : Error) : Outcome → Outcome
  | .messages _ => .messages (.error e)
  | .done _ => .done (.error e)
  | .notes drained => .notes drained

def succeeded : Outcome → Bool
  | .messages (.ok _) | .done (.ok _) => true
  | _ => false

/-- What a feed, strict or not, makes of an outcome when these events happened in the call. -/
def told (strict : Bool) (events : List Event) (outcome : Outcome) : Outcome :=
  match reported? strict events with
  | none => outcome
  | some e => outcome.failing (.store e)

variable {strict : Bool} {events : List Event} {outcome : Outcome}

/-- A call that succeeded cannot be mistaken for one that failed. -/
theorem failing_ne (h : outcome.succeeded = true) (e : Error) : outcome.failing e ≠ outcome := by
  cases outcome with
  | messages answer =>
      cases answer with
      | ok handedOut => exact fun hEq => by cases hEq
      | error _ => cases h
  | done answer =>
      cases answer with
      | ok done => exact fun hEq => by cases hEq
      | error _ => cases h
  | notes drained => cases h

/-- Without a failed save there is nothing to tell. -/
theorem told_of_none (h : events.findSome? Event.saveError? = none) : outcome.told strict events = outcome := by
  simp [told, reported?, h]

/-- A strict feed tells of the first save that failed. -/
theorem told_of_some {e : StoreError} (h : events.findSome? Event.saveError? = some e) :
    outcome.told true events = outcome.failing (.store e) := by
  simp [told, reported?, h]

/-- An answer is told in another way exactly when a save failed. -/
theorem told_ne_iff (h : events.findSome? Event.saveError? ≠ none → outcome.succeeded = true) :
    outcome.told true events ≠ outcome ↔ ∃ floor e, .saved floor (.error e) ∈ events := by
  cases hFirst : events.findSome? Event.saveError? with
  | none =>
      have hNever : ¬ ∃ floor e, .saved floor (.error e) ∈ events := by
        rintro ⟨floor, e, hMem⟩
        cases List.findSome?_eq_none_iff.mp hFirst _ hMem
      simp [told_of_none hFirst, hNever]
  | some e =>
      obtain ⟨event, hMem, hError⟩ := List.exists_of_findSome?_eq_some hFirst
      obtain ⟨floor, rfl⟩ := Event.eq_saved_of_saveError? hError
      rw [told_of_some hFirst]
      exact iff_of_true (failing_ne (h (by simp [hFirst])) _) ⟨floor, e, hMem⟩

end Channel.Outcome

/-- The same settings, strict or not. -/
def FeedConfig.withStrict (strict : Bool) (config : FeedConfig) : FeedConfig := { config with strict := strict }

namespace Feed

open Chronicle (past write)

/-- The same feed, strict or not. -/
def withStrict (strict : Bool) (feed : Feed) : Feed := { feed with config := feed.config.withStrict strict }

/-- The answer of a feed, strict or not, to a call in which these events happened and nothing else can fail. -/
def verdict (strict : Bool) (events : List Event) : Except Error Unit :=
  match reported? strict events with
  | none => .ok ()
  | some e => .error (.store e)

/-- What is told of a fetch that came through follows from the saves. -/
theorem told_messages (strict : Bool) (events : List Event) (messages : List Inbound) :
    (Channel.Outcome.messages (.ok messages)).told strict events =
      .messages ((verdict strict events).map fun _ => messages) := by
  simp only [Channel.Outcome.told, verdict]
  cases reported? strict events <;> rfl

/-- So does what is told of an acknowledgement. -/
theorem told_done (strict : Bool) (events : List Event) :
    (Channel.Outcome.done (.ok ())).told strict events = .done (verdict strict events) := by
  simp only [Channel.Outcome.told, verdict]
  cases reported? strict events <;> rfl

theorem verdict_nil (strict : Bool) : verdict strict [] = .ok () := by cases strict <;> rfl

variable {σ : Type}

/-- The provider, with its requests on record. -/
def recordedApi (api : BotApi (StateM σ)) : BotApi (StateM (Chronicle Event σ)) :=
  (api.lift past).watched fun e => write fun _ => e

/-- The store, with its saves on record. -/
def recordedStore (store : CursorStore (StateM σ)) : CursorStore (StateM (Chronicle Event σ)) :=
  (store.lift past).watched fun e => write fun _ => e

section Records

variable {api : BotApi (StateM σ)} {store : CursorStore (StateM σ)} {w w' : σ} {entries : List Event}

theorem getUpdates_recorded {request : GetUpdates} {r : Except ApiError (List Json.Fields)}
    (h : api.getUpdates request w = (r, w')) :
    (recordedApi api).getUpdates request ⟨w, entries⟩ = (r, ⟨w', entries ++ [.requested request]⟩) :=
  Chronicle.past_of_run h

theorem sendMessage_recorded {request : SendMessage} {r : Except ApiError Json.Fields}
    (h : api.sendMessage request w = (r, w')) :
    (recordedApi api).sendMessage request ⟨w, entries⟩ = (r, ⟨w', entries⟩) :=
  Chronicle.past_of_run h

theorem save_recorded {floor : Int} {r : Except StoreError Unit} (h : store.save floor w = (r, w')) :
    (recordedStore store).save floor ⟨w, entries⟩ = (r, ⟨w', entries ++ [.saved floor r]⟩) :=
  bind_of_run _ (Chronicle.past_of_run h)

theorem load_recorded {r : Except StoreError (Option Int)} (h : store.load w = (r, w')) :
    (recordedStore store).load ⟨w, entries⟩ = (r, ⟨w', entries⟩) :=
  Chronicle.past_of_run h

end Records

section Calls

variable (api : BotApi (StateM σ)) (store : Option (CursorStore (StateM σ))) (feed : Feed)

/-- A save is tried by a strict feed and by another one alike. Only the strict one tells when it fails. -/
theorem exists_persist (w : σ) (entries : List Event) :
    ∃ (after : Feed) (next : σ) (events : List Event), ∀ strict,
      (feed.withStrict strict).persist (store.map recordedStore) ⟨w, entries⟩ =
      ((verdict strict events, after.withStrict strict), ⟨next, entries ++ events⟩) := by
  have hIdle (h : ∀ strict, (feed.withStrict strict).persist (store.map recordedStore) =
      pure (.ok (), feed.withStrict strict)) : ∀ strict,
      (feed.withStrict strict).persist (store.map recordedStore) ⟨w, entries⟩ =
        ((verdict strict [], feed.withStrict strict), ⟨w, entries ++ []⟩) := by
    intro strict
    rw [h, verdict_nil, List.append_nil]
    rfl
  cases hUnsaved : feed.cursor.unsaved? with
  | none =>
      have hSame : ∀ strict, (feed.withStrict strict).cursor.unsaved? = none := fun _ => hUnsaved
      exact ⟨feed, w, [], hIdle fun strict => persist_of_saved (hSame strict) _⟩
  | some floor =>
      cases store with
      | none => exact ⟨feed, w, [], hIdle fun strict => persist_none _⟩
      | some s =>
          obtain ⟨r, next, hSave⟩ : ∃ r next, s.save floor w = (r, next) := ⟨_, _, rfl⟩
          refine ⟨(feed.afterSave floor r).2, next, [.saved floor r], fun strict => ?_⟩
          have hUnsaved' : (feed.withStrict strict).cursor.unsaved? = some floor := hUnsaved
          rw [Option.map_some, persist_of_unsaved hUnsaved', bind_of_run _ (save_recorded hSave)]
          cases r with
          | ok done => cases strict <;> rfl
          | error e => cases strict <;> rfl

/-- A store whose saves never fail, or none. -/
def Working (store : Option (CursorStore (StateM σ))) : Prop := ∀ s ∈ store, ∀ floor w, (s.save floor w).1 = .ok ()

/-- With a store that works, a save is no reason to fail. -/
theorem Working.persist {working : Option (CursorStore (StateM σ))} (h : Working working) (feed : Feed) (w : σ) :
    ∃ after next, feed.persist working w = ((.ok (), after), next) := by
  obtain ⟨after, next, hRun, -⟩ : ∃ (after : Feed) (next : σ), feed.persist working w = ((.ok (), after), next) ∧ _ :=
    persist_of_saves fun s floor hStore _ => h s hStore floor w
  exact ⟨after, next, hRun⟩

/-- How a call goes, for a strict feed and for another one: the answer when saves do not fail, the feed and the world
after the call, and what was recorded. -/
structure Goes (call : Channel.Call) (j : Chronicle Event σ) (answer : Channel.Outcome) (after : Feed) (next : σ)
    (events : List Event) : Prop where
  run : ∀ strict, call.perform (channel (recordedApi api) (store.map recordedStore)) (feed.withStrict strict) j =
    ((answer.told strict events, after.withStrict strict), ⟨next, j.entries ++ events⟩)
  accepted : events.findSome? Event.saveError? ≠ none → answer.succeeded = true
  working : ∀ working, Working working → ∀ strict,
    (call.perform (channel api working) (feed.withStrict strict) j.world).1.1 = answer

variable {api store feed} {call : Channel.Call} {j : Chronicle Event σ} {answer : Channel.Outcome} {after : Feed}
  {next : σ} {events : List Event}

/-- A call without a save. -/
theorem goes_of_unsaved (hNone : events.findSome? Event.saveError? = none)
    (hRun : ∀ strict, call.perform (channel (recordedApi api) (store.map recordedStore)) (feed.withStrict strict) j =
      ((answer, after.withStrict strict), ⟨next, j.entries ++ events⟩))
    (hWorking : ∀ working strict,
      (call.perform (channel api working) (feed.withStrict strict) j.world).1.1 = answer) :
    Goes api store feed call j answer after next events where
  run strict := by rw [hRun strict, Channel.Outcome.told_of_none hNone]
  accepted hFailed := absurd hNone hFailed
  working working _ strict := hWorking working strict

variable (api store feed j)

/-- Step of two feeds: a fetch goes the same way for both, but for the answer. -/
theorem exists_goes_fetch : ∃ answer after next events, Goes api store feed .fetch j answer after next events := by
  obtain ⟨r, w, hAsk⟩ : ∃ r w, api.getUpdates feed.request j.world = (r, w) := ⟨_, _, rfl⟩
  have hRecorded : ∀ strict, (recordedApi api).getUpdates (feed.withStrict strict).request j =
      (r, ⟨w, j.entries ++ [.requested feed.request]⟩) := fun _ => getUpdates_recorded hAsk
  have hAsked : ∀ strict, api.getUpdates (feed.withStrict strict).request j.world = (r, w) := fun _ => hAsk
  cases r with
  | error e =>
      refine ⟨.messages (.error e.toError), feed, w, [.requested feed.request],
        goes_of_unsaved rfl (fun strict => ?_) fun working strict => ?_⟩
      · exact run_return Channel.Outcome.messages (bind_of_run _ (hRecorded strict))
      · have hFetch : (channel api working).fetch (feed.withStrict strict) j.world =
            ((.error e.toError, feed.withStrict strict), w) := bind_of_run _ (hAsked strict)
        rw [Channel.Call.perform, run_return Channel.Outcome.messages hFetch]
  | ok batch =>
      obtain ⟨after, next, events, hPersist⟩ :=
        exists_persist store (feed.taking batch).settled w (j.entries ++ [.requested feed.request])
      refine ⟨.messages (.ok (feed.intake batch).messages), after, next, .requested feed.request :: events, ?_⟩
      constructor
      case run =>
        intro strict
        have hFetch : (channel (recordedApi api) (store.map recordedStore)).fetch (feed.withStrict strict) j =
            (((verdict strict events).map fun _ => (feed.intake batch).messages, after.withStrict strict),
              ⟨next, j.entries ++ [.requested feed.request] ++ events⟩) := by
          rw [fetch_of_answer (hRecorded strict)]
          exact congrArg (fun r => ((r.1.1.map fun _ => (feed.intake batch).messages, r.1.2), r.2)) (hPersist strict)
        have hSame : verdict strict (.requested feed.request :: events) = verdict strict events := rfl
        rw [told_messages, hSame, List.append_cons]
        exact run_return Channel.Outcome.messages hFetch
      case accepted => exact fun _ => rfl
      case working =>
        intro working hWorks strict
        obtain ⟨last, v, hSaved⟩ := hWorks.persist ((feed.taking batch).settled.withStrict strict) w
        have hFetch : (channel api working).fetch (feed.withStrict strict) j.world =
            ((.ok (feed.intake batch).messages, last), v) := by
          rw [fetch_of_answer (hAsked strict)]
          exact congrArg (fun r => ((r.1.1.map fun _ => (feed.intake batch).messages, r.1.2), r.2)) hSaved
        rw [Channel.Call.perform, run_return Channel.Outcome.messages hFetch]

/-- Step of two feeds: an acknowledgement. -/
theorem exists_goes_acknowledge (text : String) :
    ∃ answer after next events, Goes api store feed (.acknowledge text) j answer after next events := by
  cases hId : ackId? text with
  | none =>
      have hRefused : ∀ {τ : Type} (api : BotApi (StateM τ)) store (feed : Feed) w,
          (channel api store).acknowledge text feed w = ((.error (.contract (.unusableAck text)), feed), w) := by
        intro τ api store feed w
        rw [acknowledge_of_unusable hId]
        rfl
      refine ⟨.done (.error (.contract (.unusableAck text))), feed, j.world, [],
        goes_of_unsaved rfl (fun strict => ?_) fun working strict => ?_⟩
      · rw [List.append_nil]
        exact run_return Channel.Outcome.done (hRefused _ _ _ j)
      · rw [Channel.Call.perform, run_return Channel.Outcome.done (hRefused api working _ j.world)]
  | some id =>
      obtain ⟨after, next, events, hPersist⟩ := exists_persist store (feed.acknowledging id).settled j.world j.entries
      refine ⟨.done (.ok ()), after, next, events, ?_⟩
      constructor
      case run =>
        intro strict
        have hRun : (channel (recordedApi api) (store.map recordedStore)).acknowledge text (feed.withStrict strict) j =
            ((verdict strict events, after.withStrict strict), ⟨next, j.entries ++ events⟩) := by
          rw [acknowledge_of_id hId]
          exact hPersist strict
        rw [told_done]
        exact run_return Channel.Outcome.done hRun
      case accepted => exact fun _ => rfl
      case working =>
        intro working hWorks strict
        obtain ⟨last, v, hSaved⟩ := hWorks.persist ((feed.acknowledging id).settled.withStrict strict) j.world
        have hRun : (channel api working).acknowledge text (feed.withStrict strict) j.world = ((.ok (), last), v) := by
          rw [acknowledge_of_id hId]
          exact hSaved
        rw [Channel.Call.perform, run_return Channel.Outcome.done hRun]

/-- Step of two feeds: a reply, which no save has a part in. -/
theorem exists_goes_send (outbound : Outbound) :
    ∃ answer after next events, Goes api store feed (.send outbound) j answer after next events := by
  obtain ⟨r, w, hSend⟩ : ∃ r w, api.sendMessage outbound.request j.world = (r, w) := ⟨_, _, rfl⟩
  have hRecorded : (recordedApi api).sendMessage outbound.request j = (r, ⟨w, j.entries⟩) := sendMessage_recorded hSend
  refine ⟨.done ((r.mapError ApiError.toError).map fun _ => ()), feed, w, [],
    goes_of_unsaved rfl (fun strict => ?_) fun working strict => ?_⟩
  · rw [List.append_nil]
    exact run_return Channel.Outcome.done (send_of_answer hRecorded)
  · rw [Channel.Call.perform, run_return Channel.Outcome.done (send_of_answer hSend)]

/-- Step of two feeds: any call. -/
theorem exists_goes (call : Channel.Call) :
    ∃ answer after next events, Goes api store feed call j answer after next events := by
  cases call with
  | fetch => exact exists_goes_fetch api store feed j
  | send outbound => exact exists_goes_send api store feed j outbound
  | acknowledge text => exact exists_goes_acknowledge api store feed j text
  | drain =>
      exact ⟨.notes feed.notes, feed.drain.2, j.world, [],
        goes_of_unsaved rfl (fun strict => by rw [List.append_nil]; rfl) fun working strict => rfl⟩

/-- After the same calls, a strict feed and another one are still the same but for that. -/
theorem exists_performAll (calls : List Channel.Call) : ∃ (outcomes : Bool → List Channel.Outcome) (after : Feed)
    (last : Chronicle Event σ), ∀ strict,
      Channel.performAll (channel (recordedApi api) (store.map recordedStore)) calls (feed.withStrict strict) j =
        ((outcomes strict, after.withStrict strict), last) := by
  induction calls generalizing feed j with
  | nil => exact ⟨fun _ => [], feed, j, fun _ => rfl⟩
  | cons call rest ih =>
      obtain ⟨answer, mid, next, events, hGoes⟩ := exists_goes api store feed j call
      obtain ⟨outcomes, after, last, hRest⟩ := ih mid ⟨next, j.entries ++ events⟩
      refine ⟨fun strict => answer.told strict events :: outcomes strict, after, last, fun strict => ?_⟩
      rw [Channel.performAll_cons (hGoes.run strict), hRest strict]

variable (config : FeedConfig) (w : σ)

/-- Two feeds from a store that can be read start alike. -/
theorem exists_start (hLimit : 0 < config.limit ∧ config.limit ≤ maxFetchLimit)
    (hLoads : ∀ s ∈ store, ∃ floor, (s.load w).1 = .ok floor) : ∃ (feed : Feed) (j : Chronicle Event σ), ∀ strict,
      start (store.map recordedStore) (config.withStrict strict) ⟨w, []⟩ = (.ok (feed.withStrict strict), j) := by
  have hValid : ∀ strict,
      ¬ ((config.withStrict strict).limit = 0 || maxFetchLimit < (config.withStrict strict).limit) := by
    intro strict hInvalid
    have hEq : (config.withStrict strict).limit = config.limit := rfl
    simp only [Bool.or_eq_true, decide_eq_true_eq, hEq] at hInvalid
    omega
  cases store with
  | none =>
      refine ⟨⟨config, Cursor.start none, []⟩, ⟨w, []⟩, fun strict => ?_⟩
      simp only [start, if_neg (hValid strict)]
      rfl
  | some s =>
      obtain ⟨floor, hFloor⟩ := hLoads s rfl
      refine ⟨⟨config, Cursor.start floor, []⟩, ⟨(s.load w).2, []⟩, fun strict => ?_⟩
      have hLoad : s.load w = (.ok floor, (s.load w).2) := Prod.ext hFloor rfl
      simp only [start, if_neg (hValid strict)]
      exact bind_of_run _ (load_recorded hLoad)

/-- **Strictness shows in answers only.** Let a feed that is strict and one that is not start with a store whose
content loads without an error, and take the same calls from the same provider. What the provider answers and which
saves fail may depend on all that happened before. Then after every call both feeds have the same cursor and the same
notes, and they have made the same requests and the same saves and left the same world behind. The answers to a call
are different exactly when its save failed: the strict feed answers with the error of the save, and the other one
answers as both would if the store worked. -/
theorem strictness_in_answers_only (hLimit : 0 < config.limit ∧ config.limit ≤ maxFetchLimit)
    (hLoads : ∀ s ∈ store, ∃ floor, (s.load w).1 = .ok floor) (calls : List Channel.Call) (call : Channel.Call) :
    let channel := channel (recordedApi api) (store.map recordedStore)
    let live strict := life (recordedApi api) (store.map recordedStore) (config.withStrict strict) calls ⟨w, []⟩
    ∃ (outcomes outcomes' : List Channel.Outcome) (feed : Feed) (j : Chronicle Event σ) (answer : Channel.Outcome)
        (after : Feed) (next : σ) (events : List Event),
      live false = (.ok (outcomes, feed.withStrict false), j) ∧
      live true = (.ok (outcomes', feed.withStrict true), j) ∧
      call.perform channel (feed.withStrict false) j = ((answer, after.withStrict false), ⟨next, j.entries ++ events⟩) ∧
      call.perform channel (feed.withStrict true) j =
        ((answer.told true events, after.withStrict true), ⟨next, j.entries ++ events⟩) ∧
      (answer.told true events ≠ answer ↔ ∃ floor e, .saved floor (.error e) ∈ events) ∧
      ∀ working, Working working → ∀ strict,
        (call.perform (Feed.channel api working) (feed.withStrict strict) j.world).1.1 = answer := by
  intro channel live
  obtain ⟨first, begun, hStart⟩ := exists_start store config w hLimit hLoads
  obtain ⟨outcomes, feed, j, hCalls⟩ := exists_performAll api store first begun calls
  obtain ⟨answer, after, next, events, hGoes⟩ := exists_goes api store feed j call
  have hLive : ∀ strict, live strict = (.ok (outcomes strict, feed.withStrict strict), j) := fun strict =>
    (bind_of_run _ (hStart strict)).trans (bind_of_run _ (hCalls strict))
  exact ⟨outcomes false, outcomes true, feed, j, answer, after, next, events, hLive false, hLive true, hGoes.run false,
    hGoes.run true, Channel.Outcome.told_ne_iff hGoes.accepted, hGoes.working⟩

end Calls

/-- A provider with one update, in a world that counts the saves. -/
def givesOne : BotApi (StateM Nat) := .constant [Update.plain 5 "a"]

/-- A store that cannot be written the first two times. -/
def writesLate : CursorStore (StateM Nat) where
  load := pure (.ok none)
  save _ := fun n => (if n < 2 then .error ⟨.saveIo, "disk full"⟩ else .ok (), n + 1)

/-- A feed that fetches twice, with the second answer apart. -/
def fetchesTwice (strict : Bool) :=
  let r := life (recordedApi givesOne) (some (recordedStore writesLate)) (FeedConfig.withStrict strict {}) [.fetch]
    ⟨0, []⟩
  r.1.toOption.map fun lived =>
    (Channel.Call.perform (channel (recordedApi givesOne) (some (recordedStore writesLate))) .fetch lived.2 r.2).1.1

/-- The second answer is read off a life and one more call. -/
theorem fetchesTwice_of_run {strict : Bool} {outcomes : List Channel.Outcome} {feed after : Feed}
    {j next : Chronicle Event Nat} {answer : Channel.Outcome}
    (hLife : life (recordedApi givesOne) (some (recordedStore writesLate)) (FeedConfig.withStrict strict {}) [.fetch]
      ⟨0, []⟩ = (.ok (outcomes, feed), j))
    (hFetch : Channel.Call.perform (channel (recordedApi givesOne) (some (recordedStore writesLate))) .fetch feed j =
      ((answer, after), next)) : fetchesTwice strict = some answer := by
  simp only [fetchesTwice, hLife, Except.toOption, Option.map_some, hFetch]

/-- In the second fetch the save is tried again and fails. -/
theorem strictness_in_answers_only_of_failed_save :
    ∃ answer events, fetchesTwice false = some answer ∧ fetchesTwice true = some (answer.told true events) ∧
      answer.succeeded = true ∧ ∃ floor e, .saved floor (.error e) ∈ events := by
  have hWorld : ((fetchesTwice false).map Channel.Outcome.succeeded,
      (fetchesTwice true).map Channel.Outcome.succeeded) = (some true, some false) := by
    decide +kernel
  obtain ⟨hAnswer, hStrictAnswer⟩ := Prod.mk.inj hWorld
  obtain ⟨outcomes, outcomes', feed, j, answer, after, next, events, hLive, hStrict, hCall, hStrictCall, hDiffer, -⟩ :=
    strictness_in_answers_only givesOne (some writesLate) {} 0 (by decide)
      (fun s hStore => by cases hStore; exact ⟨none, rfl⟩) [.fetch] .fetch
  have hFetches := fetchesTwice_of_run hLive hCall
  have hFetchesStrictly := fetchesTwice_of_run hStrict hStrictCall
  have hSucceeded : answer.succeeded = true := by simpa [hFetches] using hAnswer
  refine ⟨answer, events, hFetches, hFetchesStrictly, hSucceeded, hDiffer.mp fun hEq => ?_⟩
  simp [hFetchesStrictly, hEq, hSucceeded] at hStrictAnswer

end Feed

end ChatRelay
