import ChatRelay.Proofs.Allowlist.Screening
import ChatRelay.Proofs.Update.Grammar

/-!
The ids in a reply. An update names its chat and its message by numbers, the message keeps their decimal texts, and the
reply turns these texts back into numbers. The reader of updates takes every whole number, but a reply has numbers only
if they fit into a signed word of 64 bits, so that a larger one goes out as a text.
-/

namespace ChatRelay

open ChatRelay.Client (Leads)

namespace Update

variable {raw : Json.Fields} {id n : Int} {m : Inbound}

/-- A chat that is named by a number is kept as its decimal text. -/
theorem chatId_of_number (hRead : ofJson raw = .message id m)
    (hChat : Leads ["message", "chat", "id"] (.object raw) (.int n)) : m.chatId = toString n :=
  (conveys_of_message hRead).chatId.unique ⟨_, hChat, .number (.integer n)⟩

theorem messageId_of_number (hRead : ofJson raw = .message id m)
    (hReply : Leads ["message", "message_id"] (.object raw) (.int n)) : m.messageId = some (toString n) :=
  ((conveys_of_message hRead).messageId (toString n)).mpr ⟨_, hReply, .number (.integer n)⟩

end Update

/-- A request tells a number under a name: as a number exactly if it fits, and otherwise by its decimal text. -/
structure SendMessage.Tells (request : SendMessage) (key : String) (n : Int) : Prop where
  number_iff : request.toJson.field? key = some (.int n) ↔ Text.minSigned ≤ n ∧ n ≤ Text.maxSigned
  text : ¬ (Text.minSigned ≤ n ∧ n ≤ Text.maxSigned) → request.toJson.field? key = some (.string (toString n))

namespace SendMessage

variable {request : SendMessage} {n k : Int}

/-- The decimal text of a number goes out as the number if it fits. -/
theorem Tells.of_wireId {key : String} (h : request.toJson.field? key = some (wireId (toString n))) :
    request.Tells key n := by
  rw [wireId_toString] at h
  by_cases hFits : Text.minSigned ≤ n ∧ n ≤ Text.maxSigned
  · rw [if_pos (Text.fitsSigned_of_bounds hFits.1 hFits.2)] at h
    exact ⟨iff_of_true h hFits, fun hNot => absurd hFits hNot⟩
  · rw [if_neg (by simpa [Text.fitsSigned] using hFits)] at h
    refine ⟨iff_of_false (fun hNumber => ?_) hFits, fun _ => h⟩
    rw [h] at hNumber
    cases hNumber

/-- A reply to a message whose ids are texts of numbers. -/
theorem tells_of_target (hTarget : request.target = (toString n, some (toString k))) :
    request.Tells "chat_id" n ∧ request.Tells "reply_to_message_id" k := by
  obtain ⟨chat, text, replyTo⟩ := request
  obtain ⟨rfl, rfl⟩ := Prod.mk.inj hTarget
  exact ⟨.of_wireId rfl, .of_wireId rfl⟩

end SendMessage

namespace Parties

open Traffic (Shows ensures_within)

variable {σ : Type} (parties : Parties (StateM σ)) {chats : Allowlist} {inbound : Inbound} {before : List SendMessage}

/-- One reply to a message was asked for after all that was asked before. -/
def Replied (before : List SendMessage) (inbound : Inbound) (_ : List Inbound) (requests : List SendMessage) : Prop :=
  ∃ request : SendMessage, requests = before ++ [request] ∧ request.target = (inbound.chatId, inbound.messageId)

/-- What the handler made of a message that it answers: a reply that is still to be sent. -/
def Composed (before : List SendMessage) (inbound : Inbound) :
    Except Error (Option Outbound) → Relay → Traffic σ → Prop
  | .ok (some outbound), _, t => Shows (fun _ requests => requests = before) t ∧
      outbound.request.target = (inbound.chatId, inbound.messageId)
  | _, _, _ => False

/-- The handler asks for nothing by itself, and composes a reply to a message that may pass. -/
theorem ensures_handle_composed (hAllowed : chats.allows inbound.chatId = true) (session : String) :
    Program.Ensures (fun _ => Shows fun _ requests => requests = before)
      ((Relay.handler chats parties.observed.lookup).handle inbound session) (Composed before inbound)
      fun _ => False := by
  refine Relay.ensures_onRecords fun feed held => ?_
  simp only [Allowlist.gate, hAllowed, if_true]
  refine Program.Ensures.bind (Echo.ensures_handle (R := fun _ => Shows fun _ requests => requests = before) ?_ ?_
    session) fun answer => Program.ensures_pure fun failed t h => ?_
  · intro find hFind failed
    obtain ⟨inner, _, rfl⟩ := Option.map_eq_some_iff.mp hFind
    exact ensures_within _ _
  · exact fun _ _ _ h => h
  · obtain ⟨hShows, outbound, rfl, hTarget⟩ := h
    exact ⟨hShows, hTarget⟩

/-- Sending the reply makes one request, whatever becomes of it. -/
theorem ensures_send_composed (outbound : Outbound) :
    Program.Ensures (Composed before inbound (.ok (some outbound))) (parties.channel.send outbound)
      (fun _ _ => Shows (Replied before inbound)) fun _ => False := by
  refine Relay.ensures_onFeed fun relay => ?_
  have hAsk : Process.Ensures (Composed (σ := σ) before inbound (.ok (some outbound)) relay)
      (Traffic.ask outbound.request) (fun _ => Shows (Replied before inbound)) fun _ => False := by
    rintro t ⟨hBefore, hTarget⟩
    exact ⟨outbound.request, congrArg (· ++ [outbound.request]) hBefore, hTarget⟩
  exact Feed.ensures_send (Q := fun _ _ => Shows (Replied before inbound)) (hAsk.bind fun _ => ensures_within _ _)
    (fun _ _ h => h) fun _ _ h => h

/-- Whatever else happens, a message that may pass is answered with one request. -/
theorem exists_reply (hAllowed : chats.allows inbound.chatId = true) (policy : AckPolicy) (relay : Relay)
    (t : Traffic σ) :
    ∃ ended t' request,
      Cycle.process parties.channel (Relay.handler chats parties.observed.lookup) (.standard policy) inbound relay t =
          (some ended, t') ∧
        t'.requests = t.requests ++ [request] ∧ request.target = (inbound.chatId, inbound.messageId) := by
  have hProcess : Program.Ensures (fun _ => Shows fun _ requests => requests = t.requests)
      (Cycle.process parties.channel (Relay.handler chats parties.observed.lookup) (.standard policy) inbound)
      (fun _ _ => Shows (Replied t.requests inbound)) fun _ => False :=
    Cycle.ensures_process_standard (D := fun _ _ => Shows (Replied t.requests inbound))
      (parties.ensures_handle_composed hAllowed) (fun _ _ _ h => h.elim) (fun _ _ h => h.elim)
      parties.ensures_send_composed
  obtain ⟨ended, t', hRun, request, hRequests, hTarget⟩ := (hProcess relay).exists_end (w := t) rfl
  exact ⟨ended, t', request, hRun, hRequests, hTarget⟩

end Parties

/-- **Which numbers come back.** Take any update that is read into a message and names its chat and its message by whole
numbers. If the gate lets the message through, the relay makes one request to send for it, whatever the provider, the
store, the look-up, the notifier and the clock answer. The request has the number of the chat as a number exactly if it
fits into a signed word of 64 bits, and so it is with the number of the message. A number that does not fit goes out as
its decimal text. -/
theorem numbers_answered {raw : Json.Fields} {id n k : Int} {m : Inbound} (hRead : Update.ofJson raw = .message id m)
    (hChat : Leads ["message", "chat", "id"] (.object raw) (.int n))
    (hReply : Leads ["message", "message_id"] (.object raw) (.int k)) {chats : Allowlist}
    (hAllowed : chats.allows m.chatId = true) {σ : Type} (parties : Parties (StateM σ)) (policy : AckPolicy)
    (relay : Relay) (t : Traffic σ) :
    ∃ ended t' request,
      Cycle.process parties.channel (Relay.handler chats parties.observed.lookup) (.standard policy) m relay t =
          (some ended, t') ∧
        t'.requests = t.requests ++ [request] ∧ request.Tells "chat_id" n ∧ request.Tells "reply_to_message_id" k := by
  obtain ⟨ended, t', request, hRun, hRequests, hTarget⟩ := parties.exists_reply hAllowed policy relay t
  rw [Update.chatId_of_number hRead hChat, Update.messageId_of_number hRead hReply] at hTarget
  exact ⟨ended, t', request, hRun, hRequests, SendMessage.tells_of_target hTarget⟩

/-- An update with a message whose chat and whose own id are numbers. -/
def Update.numbered (chat reply : Int) : Json.Fields :=
  [ ("update_id", .int 1),
    ("message", .object [
      ("message_id", .int reply),
      ("text", .string "hello"),
      ("chat", .object [("id", .int chat)]),
      ("from", .object [("id", .int 2)])]) ]

theorem Update.leads_numbered (chat reply : Int) :
    Leads ["message", "chat", "id"] (.object (numbered chat reply)) (.int chat) ∧
      Leads ["message", "message_id"] (.object (numbered chat reply)) (.int reply) :=
  ⟨.member rfl (.member rfl (.member rfl (.here _))), .member rfl (.member rfl (.here _))⟩

theorem Update.exists_numbered (chat reply : Int) : ∃ m, ofJson (numbered chat reply) = .message 1 m := by
  have hId : HasId (numbered chat reply) 1 :=
    ⟨_, .member rfl (.here _), .number (by decide) (by decide), by decide⟩
  have hText : HasText (numbered chat reply) "hello" := ⟨.member rfl (.member rfl (.here _)), by decide⟩
  have hUser : HasName (numbered chat reply) ["message", "from", "id"] (Json.Number.integer 2).text :=
    ⟨_, .member rfl (.member rfl (.member rfl (.here _))), .number _⟩
  obtain ⟨m, hRead, -⟩ := exists_message hId hText ⟨_, (leads_numbered chat reply).1, .number _⟩ hUser
  exact ⟨m, hRead⟩

/-- A relay that was just started. -/
def Relay.fresh : Relay := ⟨Feed.opened {} (.ok none), [], []⟩

/-- The negative number of a group fits, and the number of this message is one too large. -/
theorem numbers_answered_for_group :
    ∃ m ended t' request, Update.ofJson (Update.numbered (-1001234567890) 9223372036854775808) = .message 1 m ∧
      Cycle.process threeChats.channel (Relay.handler (.ofEntries []) threeChats.observed.lookup) (.standard .always) m
          .fresh ⟨(), [], []⟩ = (some ended, t') ∧
        t'.requests = [request] ∧ request.toJson.field? "chat_id" = some (.int (-1001234567890)) ∧
        request.toJson.field? "reply_to_message_id" = some (.string "9223372036854775808") := by
  obtain ⟨m, hRead⟩ := Update.exists_numbered (-1001234567890) 9223372036854775808
  obtain ⟨hChat, hReply⟩ := Update.leads_numbered (-1001234567890) 9223372036854775808
  have hOpen : (Allowlist.ofEntries []).allows m.chatId = true := rfl
  obtain ⟨ended, t', request, hRun, hRequests, hTellsChat, hTellsReply⟩ :=
    numbers_answered hRead hChat hReply hOpen threeChats .always .fresh ⟨(), [], []⟩
  exact ⟨m, ended, t', request, hRead, hRun, hRequests, hTellsChat.number_iff.mpr (by decide),
    hTellsReply.text (by decide)⟩

/-- The reader of updates keeps a whole number that needs all 64 bits of a word, and the reply to its message names the
chat and the message by texts where the update has numbers. -/
theorem large_numbers_answered_by_texts :
    ∃ m ended t' request, Update.ofJson (Update.numbered 9223372036854775808 9223372036854775808) = .message 1 m ∧
      Cycle.process threeChats.channel (Relay.handler (.ofEntries []) threeChats.observed.lookup) (.standard .always) m
          .fresh ⟨(), [], []⟩ = (some ended, t') ∧
        t'.requests = [request] ∧
        request.toJson.field? "chat_id" = some (.string "9223372036854775808") ∧
        request.toJson.field? "chat_id" ≠ some (.int 9223372036854775808) ∧
        request.toJson.field? "reply_to_message_id" = some (.string "9223372036854775808") ∧
        request.toJson.field? "reply_to_message_id" ≠ some (.int 9223372036854775808) := by
  obtain ⟨m, hRead⟩ := Update.exists_numbered 9223372036854775808 9223372036854775808
  obtain ⟨hChat, hReply⟩ := Update.leads_numbered 9223372036854775808 9223372036854775808
  have hOpen : (Allowlist.ofEntries []).allows m.chatId = true := rfl
  obtain ⟨ended, t', request, hRun, hRequests, hTarget⟩ := threeChats.exists_reply hOpen .always .fresh ⟨(), [], []⟩
  rw [Update.chatId_of_number hRead hChat, Update.messageId_of_number hRead hReply] at hTarget
  obtain ⟨hTellsChat, hTellsReply⟩ := SendMessage.tells_of_target hTarget
  exact ⟨m, ended, t', request, hRead, hRun, hRequests, hTellsChat.text (by decide),
    mt hTellsChat.number_iff.mp (by decide), hTellsReply.text (by decide), mt hTellsReply.number_iff.mp (by decide)⟩

end ChatRelay
