import ChatRelay.Proofs.Allowlist.Closed
import ChatRelay.Proofs.Allowlist.Screening
import ChatRelay.Proofs.Update.Grammar

/-!
The chat of a message, seen from three sides: the session that it belongs to, the address of a reply to it, and the form
in which the gate compares it. The address and the form tell the same chats apart. The session is named by the text of
the chat's id, so that it is finer: a number that is spelled in two ways is one address and two sessions.
-/

namespace ChatRelay

open ChatRelay.Client (Leads)
open ChatRelay.Text (Spells)

/-- Both messages have a session, and it is the same one. -/
def SameSession (first second : Inbound) : Prop :=
  ∃ session, first.session = .ok session ∧ second.session = .ok session

/-- This is the chat in every request that replies to a message. -/
def Inbound.AnsweredAt (m : Inbound) (address : Json.Value) : Prop :=
  ∀ session note, ∃ outbound, Echo.reply m session note = .ok outbound ∧
    outbound.request.toJson.field? "chat_id" = some address

/-- Replies to both messages go to the same chat, as the provider is told. -/
def SameAddress (first second : Inbound) : Prop := ∃ address, first.AnsweredAt address ∧ second.AnsweredAt address

/-- Two different spellings of one signed number of 64 bits. -/
def Respelled (a b : String) : Prop :=
  a ≠ b ∧ ∃ n, Text.minSigned ≤ n ∧ n ≤ Text.maxSigned ∧ Spells a.toList n ∧ Spells b.toList n

theorem Text.spells_toString (n : Int) : Spells (toString n).toList n :=
  integer?_eq_some_iff.mp (integer?_toString n)

/-- The text of a floating-point number has a mark that is no digit and no sign. -/
theorem Json.Number.spells_text_iff {k : Json.Number} {n : Int} : Spells k.text.toList n ↔ k = .integer n := by
  constructor
  · intro h
    cases k with
    | integer k =>
        obtain rfl := (Text.spells_toString k).unique h
        rfl
    | double d =>
        rw [Json.Number.text, String.toList_ofList] at h
        rcases Decimal.Layout.mark_mem_write Json.numberLayout d with hMark | hMark
        · exact absurd (h.isDigit_or_sign _ hMark) (by decide)
        · exact absurd (h.isDigit_or_sign _ hMark) (by decide)
  · rintro rfl
    exact Text.spells_toString n

section Texts

variable {a b : String}

/-- Ids that are JSON numbers have one spelling each. -/
theorem not_respelled_text (j k : Json.Number) : ¬ Respelled j.text k.text := by
  rintro ⟨hDiffer, n, -, -, hFirst, hSecond⟩
  rw [Json.Number.spells_text_iff.mp hFirst, Json.Number.spells_text_iff.mp hSecond] at hDiffer
  exact hDiffer rfl

/-- On ids without space around them, the gate compares the texts and the numbers that they spell. -/
theorem sameChat_iff_of_trimmed (ha : Text.Trimmed a) (hb : Text.Trimmed b) :
    Allowlist.SameChat a b ↔ a = b ∨ Respelled a b := by
  rw [Allowlist.sameChat_iff, ha.trim_eq, hb.trim_eq]
  simp only [Text.signed?_eq_some_iff]
  constructor
  · rintro (hSame | ⟨n, ⟨hFirst, hLow, hHigh⟩, hSecond, -, -⟩)
    · exact .inl hSame
    · by_cases hSame : a = b
      · exact .inl hSame
      · exact .inr ⟨hSame, n, hLow, hHigh, hFirst, hSecond⟩
  · rintro (hSame | ⟨-, n, hLow, hHigh, hFirst, hSecond⟩)
    · exact .inl hSame
    · exact .inr ⟨n, ⟨hFirst, hLow, hHigh⟩, hSecond, hLow, hHigh⟩

end Texts

section Messages

variable {m first second : Inbound}

/-- Every reply to a message goes to the chat of the message, in the form that it has in requests. -/
theorem Inbound.answeredAt_iff {address : Json.Value} : m.AnsweredAt address ↔ address = wireId m.chatId := by
  have hReply : ∀ session note, ∃ outbound, Echo.reply m session note = .ok outbound ∧
      outbound.request.toJson.field? "chat_id" = some (wireId m.chatId) := by
    intro session note
    obtain ⟨outbound, hOk, hTarget⟩ := Echo.reply_eq_ok m session note
    have hChat : outbound.request.chatId = m.chatId := congrArg Prod.fst hTarget
    exact ⟨outbound, hOk, hChat ▸ rfl⟩
  constructor
  · intro h
    obtain ⟨outbound, hOk, hField⟩ := hReply "" none
    obtain ⟨other, hOther, hAddress⟩ := h "" none
    obtain rfl := Except.ok.inj (hOk.symm.trans hOther)
    exact Option.some.inj (hAddress.symm.trans hField)
  · rintro rfl
    exact hReply

theorem sameAddress_iff : SameAddress first second ↔ wireId first.chatId = wireId second.chatId := by
  simp only [SameAddress, Inbound.answeredAt_iff, exists_eq_left]

/-- A session is named after the chat as it is written. -/
theorem sameSession_iff (hFirst : Text.Trimmed first.chatId) (hSecond : Text.Trimmed second.chatId) :
    SameSession first second ↔ first.chatId = second.chatId := by
  simp only [SameSession, Inbound.session_eq, hFirst.trim_eq, hSecond.trim_eq, Except.ok.injEq, exists_eq_left',
    String.append_right_inj]
  exact eq_comm

end Messages

/-- **Sessions and addresses.** For messages that were read from updates, replies go to the same chat exactly if the
gate compares the two chats as equal. The messages belong to the same session exactly if replies to them go to the same
chat and the ids of their chats are not two different spellings of one number. Ids that are JSON numbers never are. -/
theorem session_of_address {raw₁ raw₂ : Json.Fields} {id₁ id₂ : Int} {m₁ m₂ : Inbound}
    (hFirst : Update.ofJson raw₁ = .message id₁ m₁) (hSecond : Update.ofJson raw₂ = .message id₂ m₂) :
    (SameAddress m₁ m₂ ↔ Allowlist.normalForm? m₁.chatId = Allowlist.normalForm? m₂.chatId) ∧
      (SameSession m₁ m₂ ↔ SameAddress m₁ m₂ ∧ ¬ Respelled m₁.chatId m₂.chatId) ∧
      ∀ k₁ k₂, Leads ["message", "chat", "id"] (.object raw₁) (.number k₁) →
        Leads ["message", "chat", "id"] (.object raw₂) (.number k₂) → ¬ Respelled m₁.chatId m₂.chatId := by
  have hTrimmed₁ := Update.trimmed_chatId hFirst
  have hTrimmed₂ := Update.trimmed_chatId hSecond
  refine ⟨?_, ?_, fun k₁ k₂ hNumber₁ hNumber₂ => ?_⟩
  · rw [sameAddress_iff, Allowlist.normalForm?_eq_iff hTrimmed₁ hTrimmed₂]
  · rw [sameSession_iff hTrimmed₁ hTrimmed₂, sameAddress_iff,
      Allowlist.wireId_eq_iff_sameChat hTrimmed₁.trim_eq hTrimmed₂.trim_eq, sameChat_iff_of_trimmed hTrimmed₁ hTrimmed₂]
    constructor
    · exact fun hSame => ⟨.inl hSame, fun hRespelled => hRespelled.1 hSame⟩
    · rintro ⟨hSame | hRespelled, hNot⟩
      · exact hSame
      · exact absurd hRespelled hNot
  · rw [(Update.conveys_of_message hFirst).chatId.unique ⟨_, hNumber₁, .number k₁⟩,
      (Update.conveys_of_message hSecond).chatId.unique ⟨_, hNumber₂, .number k₂⟩]
    exact not_respelled_text k₁ k₂

/-- A message of a chat comes with the name of its chat. -/
theorem Update.exists_inChat (id : Int) (hLow : 0 ≤ id) (hHigh : id ≤ Text.maxSigned) {chat : Json.Value}
    {name : String} (hChat : Names chat name) : ∃ m, ofJson (inChat id chat) = .message id m ∧ m.chatId = name := by
  have hId : HasId (inChat id chat) id :=
    ⟨_, .member rfl (.here _), .number (Int.le_trans (by decide) hLow) hHigh, hLow⟩
  have hText : HasText (inChat id chat) "hello" := ⟨.member rfl (.member rfl (.here _)), by decide⟩
  have hName : HasName (inChat id chat) ["message", "chat", "id"] name :=
    ⟨_, .member rfl (.member rfl (.member rfl (.here _))), hChat⟩
  have hUser : HasName (inChat id chat) ["message", "from", "id"] (Json.Number.integer 2).text :=
    ⟨_, .member rfl (.member rfl (.member rfl (.here _))), .number _⟩
  obtain ⟨m, hRead, hConveys⟩ := exists_message hId hText hName hUser
  exact ⟨m, hRead, hConveys.chatId.unique hName⟩

/-- A text with space around a number names the chat of the number, and the session as well. -/
theorem session_of_address_for_spaced :
    ∃ m₁ m₂, Update.ofJson (Update.inChat 1 (.string " 42 ")) = .message 1 m₁ ∧
      Update.ofJson (Update.inChat 2 (.int 42)) = .message 2 m₂ ∧ SameAddress m₁ m₂ ∧ SameSession m₁ m₂ := by
  obtain ⟨m₁, hFirst, hText⟩ := Update.exists_inChat 1 (by decide) (by decide)
    (Update.Names.text (Text.trim_eq_iff.mp (by decide : Text.trim " 42 " = "42")) (by decide))
  obtain ⟨m₂, hSecond, hNumber⟩ := Update.exists_inChat 2 (by decide) (by decide)
    (Update.Names.number (.integer 42))
  have hSame : m₁.chatId = m₂.chatId := hText.trans hNumber.symm
  obtain ⟨hAddress, hSession, -⟩ := session_of_address hFirst hSecond
  have hTogether : SameAddress m₁ m₂ := hAddress.mpr (congrArg Allowlist.normalForm? hSame)
  exact ⟨m₁, m₂, hFirst, hSecond, hTogether, hSession.mpr ⟨hTogether, fun hRespelled => hRespelled.1 hSame⟩⟩

/-- Zeros in front of a number make another session of the same chat. -/
theorem two_sessions_at_one_address :
    ∃ m₁ m₂, Update.ofJson (Update.inChat 1 (.string "0042")) = .message 1 m₁ ∧
      Update.ofJson (Update.inChat 2 (.int 42)) = .message 2 m₂ ∧ SameAddress m₁ m₂ ∧
      Allowlist.normalForm? m₁.chatId = Allowlist.normalForm? m₂.chatId ∧ ¬ SameSession m₁ m₂ := by
  obtain ⟨m₁, hFirst, hText⟩ := Update.exists_inChat 1 (by decide) (by decide)
    (Update.Names.text (Text.trim_eq_iff.mp (by decide : Text.trim "0042" = "0042")) (by decide))
  obtain ⟨m₂, hSecond, hNumber⟩ := Update.exists_inChat 2 (by decide) (by decide)
    (Update.Names.number (.integer 42))
  refine ⟨m₁, m₂, hFirst, hSecond, ?_, ?_, ?_⟩
  · rw [sameAddress_iff, hText, hNumber]
    decide
  · rw [hText, hNumber]
    decide
  · rw [sameSession_iff (Update.trimmed_chatId hFirst) (Update.trimmed_chatId hSecond), hText, hNumber]
    decide

end ChatRelay
