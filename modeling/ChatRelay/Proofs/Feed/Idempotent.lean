import ChatRelay.Proofs.Cursor.Idempotent
import ChatRelay.Proofs.Cycle.Effect
import ChatRelay.Proofs.Feed.Mirrored
import ChatRelay.Proofs.Feed.Selection

/-!
A batch that the provider gives again. As long as nothing is acknowledged in between, the second fetch hands out what
the first one did and leaves the cursor as it is. Only what is known of the store can be different, since the first save
may have failed.
-/

namespace ChatRelay.Feed

variable {σ : Type} (api : BotApi (StateM σ)) (store : Option (CursorStore (StateM σ)))

/-- A save changes nothing of the cursor but what is known of the store. -/
theorem cursor_persist (feed : Feed) (w : σ) :
    ∃ saved, (feed.persist store w).1.2.cursor = { feed.cursor with persisted := saved } := by
  cases hUnsaved : feed.cursor.unsaved? with
  | none =>
      rw [persist_of_saved hUnsaved]
      exact ⟨_, rfl⟩
  | some floor =>
      cases store with
      | none =>
          rw [persist_none]
          exact ⟨_, rfl⟩
      | some s =>
          rw [persist_of_unsaved hUnsaved]
          obtain ⟨r, w', hRun⟩ : ∃ r w', s.save floor w = (r, w') := ⟨_, _, rfl⟩
          rw [bind_of_run _ hRun]
          cases r with
          | ok done => exact ⟨_, rfl⟩
          | error e => exact ⟨_, rfl⟩

/-- A call that does not move the floor leaves the cursor alone. -/
theorem exists_perform_of_quiet {call : Channel.Call} (hQuiet : call.movesFloor = false) (feed : Feed) (w : σ) :
    ∃ outcome after w', call.perform (channel api store) feed w = ((outcome, after), w') ∧
      after.cursor = feed.cursor := by
  cases call with
  | fetch => cases hQuiet
  | acknowledge text => cases hQuiet
  | drain => exact ⟨_, _, w, rfl, rfl⟩
  | send outbound =>
      exact ⟨_, feed, _, run_return Channel.Outcome.done (send_of_answer rfl), rfl⟩

/-- Calls that settle nothing leave the cursor as it is, by induction on the calls. -/
theorem cursor_performAll_of_quiet {calls : List Channel.Call} (hQuiet : ∀ call ∈ calls, call.movesFloor = false)
    (feed : Feed) (w : σ) : (Channel.performAll (channel api store) calls feed w).1.2.cursor = feed.cursor := by
  induction calls generalizing feed w with
  | nil => rfl
  | cons call rest ih =>
      obtain ⟨outcome, after, w', hRun, hSame⟩ := exists_perform_of_quiet api store
        (hQuiet call List.mem_cons_self) feed w
      rw [Channel.performAll_cons hRun]
      exact (ih (fun other hMem => hQuiet other (List.mem_cons_of_mem call hMem)) after w').trans hSame

/-- What a fetch leaves and hands out when a batch comes. -/
theorem fetched_of_answer {feed after : Feed} {w w₁ w₂ : σ} {batch : List Json.Fields}
    {answer : Except Error (List Inbound)}
    (hAnswer : api.getUpdates feed.request w = (.ok batch, w₁))
    (hFetch : (channel api store).fetch feed w = ((answer, after), w₂)) :
    (∃ saved, after.cursor = { (feed.intake batch).cursor.settle with persisted := saved }) ∧
      ∀ messages, answer = .ok messages → messages = (feed.intake batch).messages := by
  rw [fetch_of_answer hAnswer] at hFetch
  cases hFetch
  refine ⟨cursor_persist store _ w₁, fun messages hOk => ?_⟩
  cases hSaved : ((feed.taking batch).settled.persist store w₁).1.1 with
  | error e =>
      rw [hSaved] at hOk
      cases hOk
  | ok done =>
      rw [hSaved] at hOk
      exact (Except.ok.inj hOk).symm

/-- **The same batch once more changes nothing.** From every feed that calls lead to, let the provider give any batch
twice in a row, in two fetches between which messages may be sent and notes taken, but nothing is acknowledged. Then the
second fetch leaves the seen, waiting and settled ids, the floor and the next offset as the first one left them, whether
or not the floor could be saved. And when both fetches succeed, they hand out the same messages in the same order. -/
theorem redelivery_idempotent {before first between second : Feed} {calls : List Channel.Call}
    {outcomes : List Channel.Outcome} {batch : List Json.Fields} {answer answer' : Except Error (List Inbound)}
    {w w₁ w₂ w₃ w₄ w₅ : σ} (hFeed : before.Reachable)
    (hBatch : api.getUpdates before.request w = (.ok batch, w₁))
    (hFirst : (channel api store).fetch before w = ((answer, first), w₂))
    (hQuiet : ∀ call ∈ calls, call.movesFloor = false)
    (hBetween : Channel.performAll (channel api store) calls first w₂ = ((outcomes, between), w₃))
    (hAgain : api.getUpdates between.request w₃ = (.ok batch, w₄))
    (hSecond : (channel api store).fetch between w₃ = ((answer', second), w₅)) :
    (∃ saved, second.cursor = { first.cursor with persisted := saved }) ∧
      ∀ messages messages', answer = .ok messages → answer' = .ok messages' → messages' = messages := by
  obtain ⟨⟨saved, hFirstCursor⟩, hHandedOut⟩ := fetched_of_answer api store hBatch hFirst
  obtain ⟨⟨saved', hSecondCursor⟩, hHandedOut'⟩ := fetched_of_answer api store hAgain hSecond
  have hSame : between.cursor = first.cursor := by
    have hQuietly := cursor_performAll_of_quiet api store hQuiet first w₂
    rwa [hBetween] at hQuietly
  obtain ⟨hMessages, hSettled⟩ : (between.intake batch).messages = (before.intake batch).messages ∧
      (between.intake batch).cursor.settle = first.cursor := by
    rw [intake, hSame, hFirstCursor]
    exact Cursor.takeBatch_again (ready_taking hFeed.sound batch) saved
  refine ⟨⟨saved', by rw [hSecondCursor, hSettled]⟩, fun messages messages' hOk hOk' => ?_⟩
  rw [hHandedOut messages hOk, hHandedOut' messages' hOk', hMessages]

/-- A feed that has handed out three messages, of which the first and the last one are acknowledged. -/
def oneWaiting :=
  life (BotApi.constant (m := Process FileTree) [Update.plain 5 "a", Update.plain 6 "b", Update.plain 7 "c"])
    ((none : Option CursorFile).map fun f => f.store (FileTree.disk.lift Process.ofState)) {}
    [.fetch, .acknowledge "5", .acknowledge "7"] FileTree.empty

/-- A provider whose batch has an id below the floor, no id, a settled id, the waiting one, a new one twice, and an
update without a message. -/
def givesMixed : BotApi (StateM (List Int)) :=
  .constant [Update.plain 3 "late", [], Update.plain 7 "done", Update.plain 6 "waiting", Update.plain 8 "new",
    Update.plain 8 "newer", [("update_id", .int 9)]]

/-- A store that notes what it saves. -/
def notesSaves : CursorStore (StateM (List Int)) where
  load := pure (.ok none)
  save floor := fun saved => (.ok (), saved ++ [floor])

/-- Two fetches, with the notes taken in between. -/
def fetchedTwice (before : Feed) :=
  let first := (channel givesMixed (some notesSaves)).fetch before []
  let between := Channel.performAll (channel givesMixed (some notesSaves)) [.drain] first.1.2 first.2
  (first.1, (channel givesMixed (some notesSaves)).fetch between.1.2 between.2)

/-- The waiting message and the new one come twice, and the second fetch saves nothing. -/
theorem redelivery_idempotent_of_mixed :
    ∃ outcomes before messages, oneWaiting = (some (.ok (outcomes, before)), FileTree.empty) ∧
      messages.map Inbound.text = ["waiting", "new"] ∧
      (fetchedTwice before).1.1 = .ok messages ∧ (fetchedTwice before).2.1.1 = .ok messages ∧
      (fetchedTwice before).2.2 = [6] ∧
      ∃ saved, (fetchedTwice before).2.1.2.cursor = { (fetchedTwice before).1.2.cursor with persisted := saved } := by
  have hLife : (oneWaiting.1.map fun r => r.toOption.map fun result =>
      ((fetchedTwice result.2).1.1.toOption.map fun messages => messages.map Inbound.text,
        (fetchedTwice result.2).2.1.1.toOption.isSome, (fetchedTwice result.2).2.2)) =
      some (some (some ["waiting", "new"], true, [6])) := by
    decide +kernel
  obtain ⟨r, hRun, hr⟩ := Option.map_eq_some_iff.mp hLife
  cases r with
  | error e => cases hr
  | ok result =>
      obtain ⟨outcomes, before⟩ := result
      have hBegin : oneWaiting = (some (.ok (outcomes, before)), FileTree.empty) := Prod.ext hRun rfl
      have hFeed : before.Reachable :=
        ⟨FileTree, _, none, FileTree.disk.lift Process.ofState, {}, _, outcomes, FileTree.empty, FileTree.empty, hBegin⟩
      obtain ⟨answer, first, w₂, hFirst⟩ : ∃ a f w, (channel givesMixed (some notesSaves)).fetch before [] =
        ((a, f), w) := ⟨_, _, _, rfl⟩
      obtain ⟨notes, between, w₃, hBetween⟩ : ∃ a f w,
        Channel.performAll (channel givesMixed (some notesSaves)) [.drain] first w₂ = ((a, f), w) := ⟨_, _, _, rfl⟩
      obtain ⟨answer', second, w₅, hSecond⟩ : ∃ a f w, (channel givesMixed (some notesSaves)).fetch between w₃ =
        ((a, f), w) := ⟨_, _, _, rfl⟩
      have hTwice : fetchedTwice before = ((answer, first), ((answer', second), w₅)) := by
        simp only [fetchedTwice, hFirst, hBetween, hSecond]
      obtain ⟨hAnswer, hAnswer', hSaved⟩ : (answer.toOption.map fun messages => messages.map Inbound.text) =
          some ["waiting", "new"] ∧ answer'.toOption.isSome = true ∧ w₅ = [6] := by
        simpa [Except.toOption, hTwice] using hr
      obtain ⟨messages, hOk, hTexts⟩ := Option.map_eq_some_iff.mp hAnswer
      obtain ⟨messages', hOk'⟩ := Option.isSome_iff_exists.mp hAnswer'
      obtain rfl := eq_ok_of_toOption hOk
      obtain rfl := eq_ok_of_toOption hOk'
      obtain ⟨hCursor, hMessages⟩ := redelivery_idempotent givesMixed (some notesSaves) hFeed rfl hFirst (by decide)
        hBetween rfl hSecond
      obtain rfl := hMessages _ _ rfl rfl
      refine ⟨outcomes, before, messages', hBegin, hTexts, ?_⟩
      rw [hTwice]
      exact ⟨rfl, rfl, hSaved, hCursor⟩

end ChatRelay.Feed
