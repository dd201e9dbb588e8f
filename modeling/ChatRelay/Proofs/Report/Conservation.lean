import Mathlib.Data.List.Forall2
import ChatRelay.Proofs.Allowlist.Screening
import ChatRelay.Proofs.Report.Sights

/-!
Where recorded conditions end up. The relay records conditions while it works: the gate and the echo on the side of the
handler, the feed on the side of the channel. Each cycle reports what was recorded since the one before it, all of it
and nothing else, so that every condition comes to stand in exactly one report.
-/

namespace ChatRelay

/-- What was recorded since the last report, on either side and in the order in which it happened. -/
structure Recorded where
  handler : List Diagnostic := []
  channel : List Diagnostic := []

/-- A relay under watch: what was recorded for each report so far, and since then. -/
structure Watched where
  relay : Relay
  pages : List Recorded := []
  page : Recorded := {}

/-- What was recorded in between is what was added to the records. -/
def Recorded.add (page : Recorded) (before after : Relay) : Recorded where
  handler := page.handler ++ after.heldBack.drop before.heldBack.length ++
    after.failedLookups.drop before.failedLookups.length
  channel := page.channel ++ after.feed.notes.drop before.feed.notes.length

/-- Records that are given up are not recorded again. -/
theorem Recorded.add_eq_self (page : Recorded) {before after : Relay} (hHeld : after.heldBack = [])
    (hFailed : after.failedLookups = []) (hNotes : after.feed.notes = before.feed.notes ∨ after.feed.notes = []) :
    page.add before after = page := by
  rcases hNotes with hNotes | hNotes <;> simp [add, hHeld, hFailed, hNotes]

namespace Relay

/-- Nothing that was recorded is changed or taken back. New records of the gate are drops, and new records of the echo
are not. -/
structure Grows (before after : Relay) : Prop where
  heldBack : ∃ drops, after.heldBack = before.heldBack ++ drops ∧ ∀ d ∈ drops, d.code.isDrop = true
  failedLookups : ∃ troubles, after.failedLookups = before.failedLookups ++ troubles ∧
    ∀ d ∈ troubles, d.code.isDrop = false
  notes : before.feed.notes <+: after.feed.notes

end Relay

namespace Watched

section Watch

variable {m : Type → Type} [Monad m] {α : Type}

/-- An operation of a relay under watch. -/
def watch (run : StateT Relay m α) : StateT Watched m α := fun t => do
  let (a, relay) ← run t.relay
  return (a, { t with relay := relay, page := t.page.add t.relay relay })

/-- An operation that ends a page. -/
def turn (run : StateT Watched m α) : StateT Watched m α := do
  let a ← run
  modify fun t => { t with pages := t.pages ++ [t.page], page := {} }
  return a

def handler (handler : Handler (StateT Relay m)) : Handler (StateT Watched m) :=
  handler.lift watch

/-- The channel is the last one that is drained for a report. -/
def channel (channel : Channel (StateT Relay m)) : Channel (StateT Watched m) :=
  { channel.lift watch with drain := turn (watch channel.drain) }

end Watch

/-- What the relay holds are the records of the current page. -/
structure Kept (pages : List Recorded) (relay : Relay) (t : Watched) : Prop where
  relay_eq : t.relay = relay
  pages_eq : t.pages = pages
  heldBack : relay.heldBack = dropsOf t.page.handler
  failedLookups : relay.failedLookups = troublesOf t.page.handler
  notes : relay.feed.notes = t.page.channel

variable {σ α : Type} {pages : List Recorded} {relay : Relay} {t : Watched}

/-- The records grow, and the page grows with them: drops go to the ones held back, the rest to the failed look-ups.
-/
theorem Kept.add (h : Kept pages relay t) {after : Relay} (hGrows : relay.Grows after) :
    Kept pages after { t with relay := after, page := t.page.add relay after } := by
  obtain ⟨drops, hDrops, hAllDrops⟩ := hGrows.heldBack
  obtain ⟨troubles, hTroubles, hNoDrop⟩ := hGrows.failedLookups
  obtain ⟨notes, hNotes⟩ := hGrows.notes
  have hDropsOf : dropsOf drops = drops := List.filter_eq_self.2 hAllDrops
  have hNone : troublesOf drops = [] := List.filter_eq_nil_iff.2 fun d hd => by simp [hAllDrops d hd]
  have hTroublesOf : troublesOf troubles = troubles := List.filter_eq_self.2 fun d hd => by simp [hNoDrop d hd]
  have hNone' : dropsOf troubles = [] := List.filter_eq_nil_iff.2 fun d hd => by simp [hNoDrop d hd]
  constructor
  case relay_eq => rfl
  case pages_eq => exact h.pages_eq
  case heldBack => simp [Recorded.add, hDrops, hTroubles, h.heldBack, hDropsOf, hNone']
  case failedLookups => simp [Recorded.add, hDrops, hTroubles, h.failedLookups, hTroublesOf, hNone]
  case notes => simp [Recorded.add, ← hNotes, h.notes]

/-- A program that only adds to the records does the same while it is watched. -/
theorem alike_watch {run : StateT Relay (StateM σ) α} (h : ∀ (relay : Relay) w, relay.Grows (run relay w).1.2) :
    Alike (Kept pages) run (watch run) fun _ => Kept pages := by
  rintro relay ⟨_, _, _⟩ hKept
  obtain rfl := hKept.relay_eq
  exact paired_of_run fun w => ⟨⟨rfl, hKept.add (h _ w)⟩, rfl⟩

end Watched

namespace Feed

variable {σ : Type} (api : BotApi (StateM σ)) (store : Option (CursorStore (StateM σ)))

/-- Only a failed save adds a note. -/
theorem notes_persist (feed : Feed) (w : σ) : feed.notes <+: (feed.persist store w).1.2.notes := by
  cases hUnsaved : feed.cursor.unsaved? with
  | none =>
      rw [persist_of_saved hUnsaved]
      exact List.prefix_refl _
  | some floor =>
      cases store with
      | none =>
          rw [persist_none]
          exact List.prefix_refl _
      | some s =>
          rw [persist_of_unsaved hUnsaved]
          obtain ⟨answer, w', hRun⟩ : ∃ answer w', s.save floor w = (answer, w') := ⟨_, _, rfl⟩
          rw [bind_of_run _ hRun]
          cases answer with
          | ok done => exact List.prefix_refl _
          | error e => exact List.prefix_append _ _

/-- A fetch adds the notes of its batch, and then the one of its save. -/
theorem notes_fetch (feed : Feed) (w : σ) : feed.notes <+: ((channel api store).fetch feed w).1.2.notes := by
  obtain ⟨answer, w', hRun⟩ : ∃ answer w', api.getUpdates feed.request w = (answer, w') := ⟨_, _, rfl⟩
  have hFetch : (channel api store).fetch feed w = feed.receive store answer w' := bind_of_run _ hRun
  rw [hFetch]
  cases answer with
  | error e => exact List.prefix_refl _
  | ok batch => exact (List.prefix_append _ _).trans (notes_persist store (feed.taking batch).settled w')

theorem notes_send (outbound : Outbound) (feed : Feed) (w : σ) :
    feed.notes <+: ((channel api store).send outbound feed w).1.2.notes := by
  obtain ⟨answer, w', hRun⟩ : ∃ answer w', api.sendMessage outbound.request w = (answer, w') := ⟨_, _, rfl⟩
  simp only [channel]
  rw [bind_of_run _ hRun]
  cases answer with
  | ok done => exact List.prefix_refl _
  | error e => exact List.prefix_refl _

theorem notes_acknowledge (id : String) (feed : Feed) (w : σ) :
    feed.notes <+: ((channel api store).acknowledge id feed w).1.2.notes := by
  simp only [channel, acknowledge]
  cases ackId? id with
  | none => exact List.prefix_refl _
  | some id => exact notes_persist store (feed.acknowledging id).settled w

end Feed

/-- The echo records failed look-ups and nothing else. -/
theorem Echo.records_handle {σ : Type} (lookup : Option (Lookup (StateM σ))) (inbound : Inbound) (session : String)
    (failed : List Diagnostic) (w : σ) :
    ∃ troubles, ((handler lookup).handle inbound session failed w).1.2 = failed ++ troubles ∧
      ∀ d ∈ troubles, d.code.isDrop = false := by
  cases lookup with
  | none => exact ⟨[], (List.append_nil _).symm, nofun⟩
  | some lookup =>
      obtain ⟨found, w', hRun⟩ : ∃ found w', lookup inbound.text w = (found, w') := ⟨_, _, rfl⟩
      refine ⟨(memory inbound found).2, ?_, ?_⟩
      · simp only [handler]
        rw [bind_of_run _ hRun]
        rfl
      · intro d hd
        cases found with
        | ok found => cases hd
        | error e =>
            rw [List.mem_singleton.1 hd]
            rfl

namespace Relay

variable {σ α : Type}

/-- A program of the feed adds to the notes of the feed and leaves the other records alone. -/
theorem grows_onFeed {run : StateT Feed (StateM σ) α} (h : ∀ feed w, feed.notes <+: (run feed w).1.2.notes)
    (relay : Relay) (w : σ) : relay.Grows (onFeed run relay w).1.2 where
  heldBack := ⟨[], (List.append_nil _).symm, nofun⟩
  failedLookups := ⟨[], (List.append_nil _).symm, nofun⟩
  notes := h relay.feed w

/-- The gate holds back a drop, and the echo behind it records failed look-ups. -/
theorem grows_handle (chats : Allowlist) (lookup : Option (Echo.Lookup (StateM σ))) (inbound : Inbound)
    (session : String) (relay : Relay) (w : σ) :
    relay.Grows ((handler chats lookup).handle inbound session relay w).1.2 := by
  by_cases hAllowed : chats.allows inbound.chatId = true
  · simp only [handler, Handler.lift, onRecords, Allowlist.gate, hAllowed, if_true]
    exact ⟨⟨[], (List.append_nil _).symm, List.forall_mem_nil _⟩,
      Echo.records_handle lookup inbound session relay.failedLookups w, List.prefix_refl _⟩
  · simp only [handler, Handler.lift, onRecords, Allowlist.gate, hAllowed, if_false, Bool.false_eq_true]
    refine ⟨⟨[Allowlist.dropNote inbound], rfl, fun d hd => ?_⟩,
      ⟨[], (List.append_nil _).symm, List.forall_mem_nil _⟩, List.prefix_refl _⟩
    rw [List.mem_singleton.1 hd]
    rfl

/-- All that the operations do to the records is to add to them. -/
structure Records (channel : Channel (StateT Relay (StateM σ))) (handler : Handler (StateT Relay (StateM σ))) :
    Prop where
  fetch : ∀ (relay : Relay) w, relay.Grows (channel.fetch relay w).1.2
  send : ∀ outbound (relay : Relay) w, relay.Grows (channel.send outbound relay w).1.2
  acknowledge : ∀ id (relay : Relay) w, relay.Grows (channel.acknowledge id relay w).1.2
  handle : ∀ inbound session (relay : Relay) w, relay.Grows (handler.handle inbound session relay w).1.2

/-- The relay adds to its records, operation by operation. -/
theorem records (api : BotApi (StateM σ)) (store : Option (CursorStore (StateM σ))) (chats : Allowlist)
    (lookup : Option (Echo.Lookup (StateM σ))) : Records (channel api store) (handler chats lookup) where
  fetch := grows_onFeed (Feed.notes_fetch api store)
  send outbound := grows_onFeed (Feed.notes_send api store outbound)
  acknowledge id := by
    have hSame : (channel api store).acknowledge id = onFeed ((Feed.channel api store).acknowledge id) := rfl
    rw [hSame]
    exact grows_onFeed (Feed.notes_acknowledge api store id)
  handle := grows_handle chats lookup

end Relay

namespace Watched

/-- Two relays whose records were all given up. -/
structure Cleared (pages : List Recorded) (relay : Relay) (t : Watched) : Prop where
  watched_eq : t = { relay := relay, pages := pages }
  heldBack : relay.heldBack = []
  failedLookups : relay.failedLookups = []
  notes : relay.feed.notes = []

/-- The handler has given up its records, and the channel has not yet. -/
structure HalfCleared (pages : List Recorded) (page : Recorded) (relay : Relay) (t : Watched) : Prop where
  watched_eq : t = { relay := relay, pages := pages, page := page }
  heldBack : relay.heldBack = []
  failedLookups : relay.failedLookups = []
  notes : relay.feed.notes = page.channel

variable {σ : Type} {api : BotApi (StateM σ)} {store : Option (CursorStore (StateM σ))} {chats : Allowlist}
  {lookup : Option (Echo.Lookup (StateM σ))} {pages : List Recorded} {page : Recorded}

theorem Cleared.kept {relay : Relay} {t : Watched} (h : Cleared pages relay t) : Kept pages relay t := by
  obtain ⟨rfl, hHeld, hFailed, hNotes⟩ := h
  exact ⟨rfl, rfl, hHeld, hFailed, hNotes⟩

/-- Channel and handler do the same while they are watched. -/
theorem inStep_watched {c : Channel (StateT Relay (StateM σ))} {h : Handler (StateT Relay (StateM σ))}
    (hRecords : Relay.Records c h) :
    Cycle.InStep (Kept pages) c (Watched.channel c) h (Watched.handler h) where
  handle inbound session := alike_watch (hRecords.handle inbound session)
  send outbound := alike_watch (hRecords.send outbound)
  acknowledge id := alike_watch (hRecords.acknowledge id)

/-- Draining the handler gives up what it has on the page, the drops first. -/
theorem alike_drain_handler :
    Alike (Kept pages) (Relay.handler chats lookup).drain (Watched.handler (Relay.handler chats lookup)).drain
      fun notes relay t => ∃ page, notes = dropsOf page.handler ++ troublesOf page.handler ∧
        HalfCleared pages page relay t := by
  rintro relay ⟨_, _, page⟩ ⟨rfl, rfl, hHeld, hFailed, hNotes⟩
  refine paired_of_run fun w => ⟨⟨rfl, page, ?_, ?_, rfl, rfl, hNotes⟩, rfl⟩
  · rw [← hHeld, ← hFailed]
    rfl
  · exact congrArg (Watched.mk _ _) (page.add_eq_self rfl rfl (.inl rfl))

/-- Draining the channel gives up the rest of the page, which is then turned. -/
theorem alike_drain_channel :
    Alike (HalfCleared pages page) (Relay.channel api store).drain (Watched.channel (Relay.channel api store)).drain
      fun notes relay t => notes = page.channel ∧ Cleared (pages ++ [page]) relay t := by
  rintro relay _ ⟨rfl, hHeld, hFailed, hNotes⟩
  have hSame : page.add relay { relay with feed := relay.feed.drain.2 } = page :=
    page.add_eq_self hHeld hFailed (.inr rfl)
  refine paired_of_run fun w => ⟨⟨rfl, hNotes, ?_, hHeld, hFailed, rfl⟩, rfl⟩
  exact congrArg (fun last => Watched.mk _ (pages ++ [last]) {}) hSame

end Watched

/-- A report is made of what is on a page: the drops are listed, and for each of the rest there is one error about a
condition, those of the handler before those of the channel and each in the order in which it was recorded. -/
structure Recorded.In (page : Recorded) (report : CycleReport) : Prop where
  dropped : report.dropped = dropsOf page.handler ++ dropsOf page.channel
  mem_dropped_iff : ∀ d ∈ page.handler ++ page.channel,
    d ∈ report.dropped ↔ d.code = .staleDrop ∨ d.code = .allowlistDrop
  errors : List.Forall₂ Diagnostic.CountsAs (troublesOf page.handler ++ troublesOf page.channel)
    (report.result.details.filter fun e => e.stage = .diagnostic)

/-- A report that is compiled from the conditions of a page, in whatever order they were drained. -/
theorem CycleReport.Compiled.recorded {core : CycleResult} {notes : List Diagnostic} {report : CycleReport}
    {page : Recorded} (h : Compiled core notes report) (hCore : core.Core)
    (hDrops : dropsOf notes = dropsOf page.handler ++ dropsOf page.channel)
    (hTroubles : troublesOf notes = troublesOf page.handler ++ troublesOf page.channel) : page.In report where
  dropped := h.dropped.trans hDrops
  mem_dropped_iff d hd := by
    rw [h.dropped, hDrops, ← dropsOf_append, mem_dropsOf]
    exact and_iff_right hd
  errors := hTroubles ▸ h.diagnosed hCore

namespace Watched

section Reports

variable {σ : Type} (parties : Parties (StateM σ)) (chats : Allowlist) {pages : List Recorded}

/-- The notifier in a program with a state. -/
def notifierIn (S : Type) : Option (Notifier (StateT S (StateM σ))) :=
  parties.notifier.map fun notifier => notifier.lift StateT.lift

/-- A notifier is told the same beside any state. -/
theorem tellAlike_notifierIn {S T : Type} (P : S → T → Prop) :
    Cycle.TellAlike (notifierIn parties S) (notifierIn parties T) fun _ _ => P := by
  intro news failures text context
  rw [notifierIn, notifierIn]
  cases parties.notifier with
  | none => exact alike_pure fun _ _ h => h
  | some notifier =>
      apply (alike_lift (notifier.notify text context)).bind
      intro answer
      cases answer with
      | ok done => exact alike_pure fun _ _ h => h
      | error e => exact alike_pure fun _ _ h => h

/-- One cycle: what is on the page by its end is in the report, and the next cycle starts with an empty page. -/
theorem alike_report (policy : AckPolicy) :
    Alike (Kept pages)
      (Cycle.report (Relay.channel parties.api parties.store) (Relay.handler chats parties.lookup) policy
        (notifierIn parties Relay) (StateT.lift parties.clock))
      (Cycle.report (Watched.channel (Relay.channel parties.api parties.store))
        (Watched.handler (Relay.handler chats parties.lookup)) policy (notifierIn parties Watched)
        (StateT.lift parties.clock))
      fun report relay t => ∃ page : Recorded, page.In report ∧ Cleared (pages ++ [page]) relay t := by
  have hRecords := Relay.records parties.api parties.store chats parties.lookup
  have hFetch : Alike (Kept pages) (Relay.channel parties.api parties.store).fetch
      (Watched.channel (Relay.channel parties.api parties.store)).fetch fun _ => Kept pages :=
    alike_watch hRecords.fetch
  apply (alike_lift (P := Kept pages) parties.clock).bind
  intro started
  apply (Cycle.alike_run hFetch fun _ => inStep_watched hRecords).bind
  intro core
  apply Tandem.of_exists
  intro answer
  apply Tandem.assume
  intro hOutcome
  apply ((tellAlike_notifierIn parties (Kept pages)).tellResult core [] 0).bind
  intro resultFailures
  -- the page is known from here on, and turned when the channel has been drained too
  apply alike_drain_handler.bind
  intro handlerNotes
  apply Tandem.of_exists
  intro page
  apply Tandem.assume
  intro hHandler
  apply alike_drain_channel.bind
  intro channelNotes
  apply Tandem.assume
  intro hChannel
  apply ((tellAlike_notifierIn parties (Cleared (pages ++ [page]))).tellAll _ [] 0).bind
  intro noteFailures
  apply (alike_lift parties.clock).bind
  intro finished
  have hCompiled := CycleReport.compiled_foldl hOutcome.core (handlerNotes ++ channelNotes)
    (resultFailures + noteFailures) (finished - started)
  exact alike_pure fun relay t hCleared => ⟨page,
    hCompiled.recorded hOutcome.core (by simp [hHandler, hChannel]) (by simp [hHandler, hChannel]), hCleared⟩

/-- Cycles of a relay, and the same cycles under watch. -/
theorem alike_reportAll (policies : List AckPolicy) :
    Alike (Kept pages)
      (Cycle.reportAll (Relay.channel parties.api parties.store) (Relay.handler chats parties.lookup)
        (notifierIn parties Relay) (StateT.lift parties.clock) policies)
      (Cycle.reportAll (Watched.channel (Relay.channel parties.api parties.store))
        (Watched.handler (Relay.handler chats parties.lookup)) (notifierIn parties Watched)
        (StateT.lift parties.clock) policies)
      fun reports relay t => ∃ more, List.Forall₂ Recorded.In more reports ∧ Kept (pages ++ more) relay t ∧
        (policies ≠ [] → Cleared (pages ++ more) relay t) := by
  induction policies generalizing pages with
  | nil => exact alike_pure fun relay t hKept => ⟨[], .nil, by simpa using hKept, nofun⟩
  | cons policy rest ih =>
      apply (alike_report parties chats policy).bind
      intro report
      apply Tandem.of_exists
      intro page
      apply Tandem.assume
      intro hIn
      cases rest with
      | nil => exact alike_pure fun relay t hCleared => ⟨[page], .cons hIn .nil, hCleared.kept, fun _ => hCleared⟩
      | cons next rest =>
          apply (ih.imp (fun _ _ => Cleared.kept) fun _ _ _ hEnd => hEnd).bind
          intro reports
          refine alike_pure fun relay t hEnd => ?_
          obtain ⟨more, hAll, hKept, hCleared⟩ := hEnd
          refine ⟨page :: more, .cons hIn hAll, by simpa using hKept, fun _ => ?_⟩
          simpa using hCleared nofun

end Reports

/-- A relay at its start. What went wrong when the feed was started counts as recorded. -/
def opened (feed : Feed) : Watched := { relay := ⟨feed, [], []⟩, page := { channel := feed.notes } }

theorem kept_opened (feed : Feed) : Kept [] ⟨feed, [], []⟩ (opened feed) := ⟨rfl, rfl, rfl, rfl, rfl⟩

end Watched

namespace Parties

variable {σ S : Type} (parties : Parties (StateM σ))

/-- Start a feed and run cycles with reports from it on. -/
def lifeIn (channel : Channel (StateT S (StateM σ))) (handler : Handler (StateT S (StateM σ))) (config : FeedConfig)
    (enter : Feed → S) (policies : List AckPolicy) : StateM σ (Except Error (List CycleReport × S)) := do
  match ← Feed.start parties.store config with
  | .error e => return .error e
  | .ok feed =>
      let ended ← Cycle.reportAll channel handler (Watched.notifierIn parties S) (StateT.lift parties.clock) policies
        (enter feed)
      return .ok ended

variable (chats : Allowlist)

/-- The life of a relay. -/
def relayLife (config : FeedConfig) (policies : List AckPolicy) : StateM σ (Except Error (List CycleReport × Relay)) :=
  parties.lifeIn (Relay.channel parties.api parties.store) (Relay.handler chats parties.lookup) config
    (fun feed => ⟨feed, [], []⟩) policies

/-- The same life under watch. -/
def watchedLife (config : FeedConfig) (policies : List AckPolicy) :
    StateM σ (Except Error (List CycleReport × Watched)) :=
  parties.lifeIn (Watched.channel (Relay.channel parties.api parties.store))
    (Watched.handler (Relay.handler chats parties.lookup)) config Watched.opened policies

/-- Both lives end in the same way, with the same reports, and each report is made of its page. -/
theorem paired_life (config : FeedConfig) (policies : List AckPolicy) :
    Paired (fun plain watched => plain = watched.map (fun ended => (ended.1, ended.2.relay)) ∧
        ∀ ended, watched = .ok ended → List.Forall₂ Recorded.In ended.2.pages ended.1 ∧
          (policies ≠ [] → Watched.Cleared ended.2.pages ended.2.relay ended.2))
      (parties.relayLife chats config policies) (parties.watchedLife chats config policies) := by
  apply (Paired.refl (Feed.start parties.store config)).bind
  rintro opened _ rfl
  cases opened with
  | error e => exact .pure ⟨rfl, nofun⟩
  | ok feed =>
      apply (Watched.alike_reportAll parties chats policies _ _ (Watched.kept_opened feed)).bind
      rintro ⟨reports, relay⟩ ⟨_, t⟩ ⟨rfl, more, hAll, hKept, hCleared⟩
      have hRelay : t.relay = relay := hKept.relay_eq
      have hPages : t.pages = more := hKept.pages_eq
      refine .pure ⟨by rw [← hRelay]; rfl, ?_⟩
      rintro _ ⟨⟩
      rw [hRelay, hPages]
      exact ⟨hAll, hCleared⟩

end Parties

/-- **Reports are consistent, and every recorded condition is in exactly one of them.** First take any channel,
handler, notifier and clock. A cycle failed exactly if its fetch did, the reason is the gist of the result, and the
counts, texts and details agree, in the report and in its JSON form. The notifier hears of the cycle if it failed or
had errors, of each condition that counts as an error, and of nothing else, and the report counts the tellings that
failed. Then take a relay, and let its provider, store, look-up, notifier and clock answer as they like. Its operations
only ever add to what was recorded. Each cycle reports what was recorded since the one before, from the start of the
feed on: drops in the list of drops and all else as errors about conditions, the handler's before the channel's and
otherwise in the order of recording. After a cycle nothing is left over. To look on changes neither the reports nor
anything else. -/
theorem reports_complete :
    (∀ {σ : Type} (channel : Channel (StateM σ)) (handler : Handler (StateM σ)) (policy : AckPolicy)
        (notifier : Option (Notifier (StateM σ))) (clock : StateM σ Nat) (w : σ),
      ∃ (report : CycleReport) (a : Cycle.Account) (w' : σ),
        Cycle.report channel handler policy notifier clock w = (report, w') ∧
        Cycle.report channel.sighted handler.sighted policy (notifier.map Notifier.sighted) (Chronicle.past clock)
          ⟨w, []⟩ = (report, ⟨w', a.sights⟩) ∧
        a.Explains notifier report ∧
        (report.result.status = .failed ↔ a.answer.toBool = false) ∧
        report.result.reason = report.result.gist ∧ report.result.Agrees ∧
        report.droppedCount = report.dropped.length ∧
        CycleReport.Tallied report.toJson (report.result.errors.map Json.Value.string)
          (report.result.details.map CycleError.toJson) (report.dropped.map Diagnostic.toJson)) ∧
    ∀ {σ : Type} (parties : Parties (StateM σ)) (chats : Allowlist) (config : FeedConfig) (policies : List AckPolicy)
        (w : σ),
      Relay.Records (Relay.channel parties.api parties.store) (Relay.handler chats parties.lookup) ∧
      ∃ answer w',
        parties.relayLife chats config policies w = (answer.map fun ended => (ended.1, ended.2.relay), w') ∧
        parties.watchedLife chats config policies w = (answer, w') ∧
        ∀ reports t, answer = .ok (reports, t) → List.Forall₂ Recorded.In t.pages reports ∧
          (policies ≠ [] → Watched.Cleared t.pages t.relay t) := by
  constructor
  · intro σ channel handler policy notifier clock w
    obtain ⟨report, a, w', hPlain, hSighted, hExplains⟩ :=
      Cycle.report_seen channel handler policy notifier clock w
    have hCompiled := hExplains.compiled
    refine ⟨report, a, w', hPlain, hSighted, hExplains, ?_, hCompiled.reason, hCompiled.agrees, hCompiled.droppedCount,
      CycleReport.tallied_toJson hCompiled.agrees hCompiled.droppedCount⟩
    rw [hCompiled.status]
    exact hExplains.outcome.failed_iff
  · intro σ parties chats config policies w
    obtain ⟨⟨hAnswer, hEnd⟩, hWorld⟩ := (parties.paired_life chats config policies).run w
    exact ⟨Relay.records _ _ _ _, _, _, Prod.ext hAnswer hWorld, rfl, fun reports t h => hEnd (reports, t) h⟩

/-- A channel that is down, with a condition to report. -/
def deadChannel : Channel (StateM Nat) where
  fetch := pure (.error (.channel "getUpdates" true "offline"))
  send _ := pure (.ok ())
  acknowledge _ := pure (.ok ())
  drain := pure [{ code := .cursorSaveError, message := "disk  full" }]

/-- A handler with a condition from before. -/
def idleHandler : Handler (StateM Nat) where
  handle _ _ := pure (.ok none)
  drain := pure [{ code := .memoryLookupError, message := "index\tgone", updateId := some "5" }]

/-- A notifier that counts the news and fails on the first one. -/
def slowNotifier : Notifier (StateM Nat) where
  notify _ _ := fun told => (if told = 0 then .error (.io "no route") else .ok (), told + 1)

/-- A provider that repeats itself, a store that cannot be read and does not take the first floor, and a look-up that
fails. -/
def beset : Parties (StateM Nat) where
  api := BotApi.constant [Update.inChat 5 (.int 7), Update.inChat 6 (.int 8)]
  store := some
    { load := pure (.error ⟨.loadJson, "no object"⟩)
      save := fun floor => pure (if floor = 5 then .error ⟨.saveIo, "disk  full"⟩ else .ok ()) }
  lookup := some fun _ => pure (.error (.external "index\tgone"))
  notifier := some slowNotifier
  clock := pure 0

/-- What `beset` leads to in two cycles. The first one reports the stranger, the failed look-up and the trouble with the
store, and the second one the updates that have become stale. -/
def besetReports : List CycleReport :=
  [ { result :=
        { status := .ok
          reason := .completedWithErrors
          fetched := 2
          sent := 1
          acked := 2
          errorCount := 3
          errors :=
            [ "memory lookup failed: external error: index gone",
              "cursor_state_load failed: state-load-json: no object",
              "cursor_state_save failed: state-save-io: disk full" ]
          details :=
            [ ⟨.diagnostic, some "5", "memory lookup failed: external error: index gone", false⟩,
              ⟨.diagnostic, none, "cursor_state_load failed: state-load-json: no object", true⟩,
              ⟨.diagnostic, none, "cursor_state_save failed: state-save-io: disk full", true⟩ ] }
      droppedCount := 1
      dropped := [⟨.allowlistDrop, "dropped update 6: chat_id not allowlisted (8)", some "6", some "8"⟩]
      notifyFailures := 1
      elapsed := 0 },
    { result := { status := .ok, reason := .noUpdates }
      droppedCount := 2
      dropped :=
        [ ⟨.staleDrop, "dropped stale update 5 below committed floor 7", some "5", none⟩,
          ⟨.staleDrop, "dropped stale update 6 below committed floor 7", some "6", none⟩ ]
      notifyFailures := 0
      elapsed := 0 } ]

/-- The error of a cycle that failed stands before those of the handler and of the channel, and the notifier hears of
all three. The reports of a relay that is beset from all sides are made of what it recorded. -/
theorem reports_complete_when_beset :
    (∃ (report : CycleReport) (a : Cycle.Account),
      Cycle.report deadChannel idleHandler .always (some slowNotifier) (pure 0) 0 = (report, 3) ∧
      a.Explains (some slowNotifier) report ∧ (a.first ++ a.later).length = 3 ∧
      report =
        { result :=
            { status := .failed
              reason := .fetchFailed
              errorCount := 3
              errors := ["getUpdates failed: offline", "index gone", "disk full"]
              details :=
                [ ⟨.fetch, none, "getUpdates failed: offline", true⟩, ⟨.diagnostic, some "5", "index gone", false⟩,
                  ⟨.diagnostic, none, "disk full", true⟩ ] }
          droppedCount := 0
          dropped := []
          notifyFailures := 1
          elapsed := 0 }) ∧
    ∃ t : Watched,
      beset.relayLife ⟨["7"]⟩ {} [.always, .always] 0 = (.ok (besetReports, t.relay), 3) ∧
      List.Forall₂ Recorded.In t.pages besetReports ∧ Watched.Cleared t.pages t.relay t := by
  obtain ⟨hAny, hRelay⟩ := reports_complete
  constructor
  · obtain ⟨report, a, w', hPlain, hSighted, hExplains, -⟩ :=
      hAny deadChannel idleHandler .always (some slowNotifier) (pure 0) 0
    have hWorld : (Cycle.report deadChannel idleHandler .always (some slowNotifier) (pure 0) 0).2 = 3 := by
      decide +kernel
    have hSights : (Cycle.report deadChannel.sighted idleHandler.sighted .always
        ((some slowNotifier).map Notifier.sighted) (Chronicle.past (pure 0)) ⟨0, []⟩).2.entries.length = 6 := by
      decide +kernel
    have hReport : (Cycle.report deadChannel idleHandler .always (some slowNotifier) (pure 0) 0).1 = report := by
      rw [hPlain]
    rw [hPlain] at hWorld
    rw [hSighted] at hSights
    refine ⟨report, a, by rw [hPlain, ← hWorld], hExplains, ?_, ?_⟩
    · simp only [Cycle.Account.sights, List.length_append, List.length_cons, List.length_map,
        List.length_nil] at hSights
      rw [List.length_append]
      omega
    · rw [← hReport]
      decide +kernel
  · obtain ⟨-, answer, w', hPlain, -, hEnd⟩ := hRelay beset ⟨["7"]⟩ {} [.always, .always] 0
    have hWorld : (beset.relayLife ⟨["7"]⟩ {} [.always, .always] 0).2 = 3 := by decide +kernel
    have hReports : (beset.relayLife ⟨["7"]⟩ {} [.always, .always] 0).1.toOption.map Prod.fst = some besetReports := by
      decide +kernel
    rw [hPlain] at hWorld hReports
    cases answer with
    | error e => cases hReports
    | ok ended =>
        obtain ⟨reports, t⟩ := ended
        obtain rfl : reports = besetReports := Option.some.inj hReports
        obtain ⟨hIn, hCleared⟩ := hEnd _ t rfl
        exact ⟨t, by rw [hPlain, ← hWorld]; rfl, hIn, hCleared nofun⟩

end ChatRelay
