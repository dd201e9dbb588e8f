import ChatRelay.Proofs.Allowlist.Forms
import ChatRelay.Proofs.Client.Classification
import ChatRelay.Proofs.Text.Spelling
import Mathlib.Order.WellFounded

/-!
Which updates hold a message. What an update must have is told here as conditions on its JSON form, one for each reason
to skip it. The reader of updates gives a message exactly if all of them are met, and otherwise it reports the first
one that is not.
-/

namespace ChatRelay

open ChatRelay.Client (Leads leads_cons_iff leads_nil_iff)
open ChatRelay.Json (Value Fields)
open ChatRelay.Text (TrimsTo Spells)

namespace Update

/-- A value says a signed number of 64 bits: it is the number, or a text that spells it within space or none. -/
inductive Says : Value → Int → Prop where
  | number {n : Int} (hLow : Text.minSigned ≤ n) (hHigh : n ≤ Text.maxSigned) : Says (.int n) n
  | text {s t : String} {n : Int} (hTrim : TrimsTo s t) (hSpells : Spells t.toList n) (hLow : Text.minSigned ≤ n)
      (hHigh : n ≤ Text.maxSigned) : Says (.string s) n

/-- A value names a chat, a user or a message: by a number, or by a text that is more than space. -/
inductive Names : Value → String → Prop where
  | number (n : Json.Number) : Names (.number n) n.text
  | text {s name : String} (hTrim : TrimsTo s name) (hSome : name ≠ "") : Names (.string s) name

section Values

variable {v : Value} {n : Int} {name : String}

/-- The reader of signed numbers finds what a value says. -/
theorem lenientSigned?_iff_says : v.lenientSigned? = some n ↔ Says v n := by
  rw [Client.lenientSigned?_eq_some_iff]
  constructor
  · intro h
    cases h with
    | number hLow hHigh => exact .number hLow hHigh
    | text h =>
        obtain ⟨hSpells, hLow, hHigh⟩ := Text.signed?_eq_some_iff.mp h
        exact .text (Text.trim_eq_iff.mp rfl) hSpells hLow hHigh
  · intro h
    cases h with
    | number hLow hHigh => exact .number hLow hHigh
    | text hTrim hSpells hLow hHigh =>
        obtain rfl := Text.trim_eq_iff.mpr hTrim
        exact .text (Text.signed?_eq_some_iff.mpr ⟨hSpells, hLow, hHigh⟩)

theorem usableId?_iff_says : usableId? v = some n ↔ Says v n ∧ 0 ≤ n := by
  rw [usableId?, Option.filter_eq_some_iff, lenientSigned?_iff_says, decide_eq_true_iff]

theorem isBlank_of_trimsTo {s : String} (hTrim : TrimsTo s name) : Text.isBlank name = true ↔ name = "" := by
  obtain rfl := Text.trim_eq_iff.mpr hTrim
  rw [← Text.trim_eq_empty_iff, Text.trim_trim]

theorem Names.isBlank_eq (h : Names v name) : Text.isBlank name = false := by
  cases h with
  | number n => exact n.isBlank_text
  | text hTrim hSome => exact Bool.eq_false_iff.mpr (mt (isBlank_of_trimsTo hTrim).mp hSome)

/-- The reader of chats, users and messages finds what a value names. -/
theorem partyId?_iff_names : partyId? v = some name ↔ Names v name := by
  constructor
  · intro h
    cases v with
    | number n =>
        obtain rfl := Option.some.inj h
        exact .number n
    | string s =>
        simp only [partyId?, Text.nonBlank?] at h
        split at h
        · cases h
        · rename_i hBlank
          obtain rfl := Option.some.inj h
          have hTrim : TrimsTo s (Text.trim s) := Text.trim_eq_iff.mp rfl
          exact .text hTrim (mt (isBlank_of_trimsTo hTrim).mpr hBlank)
    | null | bool | array | object => cases h
  · intro h
    have hBlank := h.isBlank_eq
    cases h with
    | number n => rfl
    | text hTrim hSome =>
        obtain rfl := Text.trim_eq_iff.mpr hTrim
        simp [partyId?, Text.nonBlank?, hBlank]

theorem Names.unique {other : String} (h : Names v name) (h' : Names v other) : name = other :=
  Option.some.inj ((partyId?_iff_names.mpr h).symm.trans (partyId?_iff_names.mpr h'))

end Values

/-- The update has a usable id. -/
def HasId (raw : Fields) (id : Int) : Prop := ∃ v, Leads ["update_id"] (.object raw) v ∧ Says v id ∧ 0 ≤ id

/-- The update has a message with a text that is more than space. -/
def HasText (raw : Fields) (text : String) : Prop :=
  Leads ["message", "text"] (.object raw) (.string text) ∧ Text.isBlank text = false

/-- A value of the update is named like this. -/
def HasName (raw : Fields) (path : List String) (name : String) : Prop :=
  ∃ v, Leads path (.object raw) v ∧ Names v name

/-- What an update has that is not skipped for a reason. -/
def Meets (raw : Fields) : SkipReason → Prop
  | .invalidUpdateId => ∃ id, HasId raw id
  | .unsupportedUpdateType => ∃ body, Leads ["message"] (.object raw) (.object body)
  | .unsupportedMessageText => ∃ text, HasText raw text
  | .missingChatOrUserId =>
      (∃ chat, HasName raw ["message", "chat", "id"] chat) ∧ ∃ user, HasName raw ["message", "from", "id"] user

/-- The first of the reasons, in their order, for which the update is skipped. -/
structure FirstUnmet (raw : Fields) (reason : SkipReason) : Prop where
  unmet : ¬ Meets raw reason
  earlier : ∀ other, SkipReason.all.idxOf other < SkipReason.all.idxOf reason → Meets raw other

/-- What a message keeps of the update that it was read from. -/
structure Conveys (raw : Fields) (id : Int) (m : Inbound) : Prop where
  hasId : HasId raw id
  updateId : m.updateId = toString id
  acknowledged : Feed.ackId? m.updateId = some id
  hasText : HasText raw m.text
  chatId : HasName raw ["message", "chat", "id"] m.chatId
  userId : HasName raw ["message", "from", "id"] m.userId
  messageId : ∀ name, m.messageId = some name ↔ HasName raw ["message", "message_id"] name
  timestamp : ∀ t, m.timestampSeconds = some t ↔ ∃ v, Leads ["message", "date"] (.object raw) v ∧ Says v t
  metadata : m.metadata = messageMetadata

section Conditions

variable {raw body : Fields} {id : Int} {name text key : String} {reason : SkipReason}

theorem HasName.unique {path : List String} {other : String} (h : HasName raw path name)
    (h' : HasName raw path other) : name = other := by
  obtain ⟨v, hLeads, hNames⟩ := h
  obtain ⟨w, hLeads', hNames'⟩ := h'
  obtain rfl := hLeads.unique hLeads'
  exact hNames.unique hNames'

theorem hasId_iff : HasId raw id ↔ (raw.get? "update_id").bind usableId? = some id := by
  simp only [HasId, Client.leads_singleton_iff, Option.bind_eq_some_iff, usableId?_iff_says]
  rfl

theorem leads_message_iff :
    Leads ["message"] (.object raw) (.object body) ↔ (raw.get? "message").bind Value.object? = some body := by
  rw [Client.leads_singleton_iff, Value.field?, Option.bind_eq_some_iff]
  constructor
  · exact fun h => ⟨_, h, rfl⟩
  · rintro ⟨v, hMember, hObject⟩
    cases v with
    | object fields => exact hMember.trans (congrArg (some ∘ Value.object) (Option.some.inj hObject))
    | null | bool | number | string | array => cases hObject

/-- Whatever leads on within the message leads there from the update. -/
theorem leads_within {path : List String} {v : Value} (hBody : Leads ["message"] (.object raw) (.object body)) :
    Leads ("message" :: path) (.object raw) v ↔ Leads path (.object body) v := by
  have hMember := Client.leads_singleton_iff.mp hBody
  simp [leads_cons_iff, hMember]

theorem exists_body_of_text (h : HasText raw text) :
    ∃ body : Fields, Leads ["message"] (.object raw) (.object body) := by
  obtain ⟨v, hMember, hRest⟩ := leads_cons_iff.mp h.1
  cases hRest with
  | member hInner hLast => exact ⟨_, Client.leads_singleton_iff.mpr hMember⟩

theorem hasText_iff (hBody : Leads ["message"] (.object raw) (.object body)) :
    HasText raw text ↔ messageText? body = some text := by
  have hText : messageText? body = some text ↔
      ∃ v, body.get? "text" = some v ∧ ∃ s, v.string? = some s ∧ Text.nonBlank? s = some text := by
    simp only [messageText?, Option.bind_eq_bind, Option.bind_eq_some_iff]
  rw [hText, HasText, leads_within hBody, Client.leads_singleton_iff, Value.field?]
  constructor
  · rintro ⟨hMember, hBlank⟩
    exact ⟨_, hMember, text, rfl, by simp [Text.nonBlank?, hBlank]⟩
  · rintro ⟨v, hMember, s, hString, hSome⟩
    cases v with
    | string other =>
        obtain rfl := Option.some.inj hString
        simp only [Text.nonBlank?] at hSome
        split at hSome
        · cases hSome
        · rename_i hBlank
          obtain rfl := Option.some.inj hSome
          exact ⟨hMember, Bool.eq_false_iff.mpr hBlank⟩
    | null | bool | number | array | object => cases hString

theorem hasName_iff_member (hBody : Leads ["message"] (.object raw) (.object body)) :
    HasName raw ["message", key] name ↔ (body.get? key).bind partyId? = some name := by
  simp only [HasName, leads_within hBody, Client.leads_singleton_iff, Option.bind_eq_some_iff, partyId?_iff_names]
  rfl

/-- A chat or a user is named by its id, one object further in. -/
theorem hasName_iff_nested (hBody : Leads ["message"] (.object raw) (.object body)) :
    HasName raw ["message", key, "id"] name ↔ nestedId? body key = some name := by
  have hNested : nestedId? body key = some name ↔
      ∃ party, body.get? key = some party ∧ ∃ v, party.field? "id" = some v ∧ partyId? v = some name := by
    simp only [nestedId?, Option.bind_eq_bind, Option.bind_eq_some_iff]
  simp only [hNested, HasName, leads_within hBody, leads_cons_iff, leads_nil_iff, partyId?_iff_names]
  constructor
  · rintro ⟨_, ⟨party, hParty, v, hId, rfl⟩, hNames⟩
    exact ⟨party, hParty, v, hId, hNames⟩
  · rintro ⟨party, hParty, v, hId, hNames⟩
    exact ⟨v, ⟨party, hParty, v, hId, rfl⟩, hNames⟩

theorem says_iff_member {t : Int} (hBody : Leads ["message"] (.object raw) (.object body)) :
    (∃ v, Leads ["message", key] (.object raw) v ∧ Says v t) ↔ (body.get? key).bind Value.lenientSigned? = some t := by
  simp only [leads_within hBody, Client.leads_singleton_iff, Option.bind_eq_some_iff, lenientSigned?_iff_says]
  rfl

end Conditions

section Reading

variable {raw body : Fields} {id : Int} {text chat user : String} {reason : SkipReason}

/-- Nothing that was read for a message is blank. -/
theorem exists_make (hText : HasText raw text) (hChat : HasName raw ["message", "chat", "id"] chat)
    (hUser : HasName raw ["message", "from", "id"] user) (id : Int) :
    ∃ m, Inbound.make (toString id) chat user text = .ok m ∧ m.updateId = toString id ∧ m.chatId = chat ∧
      m.userId = user ∧ m.text = text := by
  obtain ⟨_, _, hChat⟩ := hChat
  obtain ⟨_, _, hUser⟩ := hUser
  have hId : Text.isBlank (toString id) = false := (Json.Number.integer id).isBlank_text
  rw [Inbound.make, required_eq_ok hId, required_eq_ok hChat.isBlank_eq, required_eq_ok hUser.isBlank_eq,
    required_eq_ok hText.2]
  exact ⟨_, rfl, rfl, rfl, rfl, rfl⟩

/-- The first condition is not met: the update cannot even be skipped by its id. -/
theorem ofJson_of_no_id (h : ¬ ∃ id, HasId raw id) : ofJson raw = .unusable := by
  have hNone : (raw.get? "update_id").bind usableId? = none :=
    Option.eq_none_iff_forall_ne_some.mpr fun id hId => h ⟨id, hasId_iff.mpr hId⟩
  rw [ofJson, hNone]

/-- The second condition is the first one that is not met. -/
theorem ofJson_of_no_body (hId : HasId raw id) (h : ¬ ∃ body, Leads ["message"] (.object raw) (.object body)) :
    ofJson raw = .skipped id .unsupportedUpdateType := by
  have hNone : (raw.get? "message").bind Value.object? = none :=
    Option.eq_none_iff_forall_ne_some.mpr fun body hBody => h ⟨body, leads_message_iff.mpr hBody⟩
  rw [ofJson, hasId_iff.mp hId, hNone]

/-- The third condition is the first one that is not met. -/
theorem ofJson_of_no_text (hId : HasId raw id) (hBody : Leads ["message"] (.object raw) (.object body))
    (h : ¬ ∃ text, HasText raw text) : ofJson raw = .skipped id .unsupportedMessageText := by
  have hNone : messageText? body = none :=
    Option.eq_none_iff_forall_ne_some.mpr fun text hText => h ⟨text, (hasText_iff hBody).mpr hText⟩
  simp only [ofJson, hasId_iff.mp hId, leads_message_iff.mp hBody, hNone]

/-- Only the last condition is not met. -/
theorem ofJson_of_no_name (hId : HasId raw id) (hText : HasText raw text)
    (h : ¬ Meets raw .missingChatOrUserId) : ofJson raw = .skipped id .missingChatOrUserId := by
  obtain ⟨body, hBody⟩ := exists_body_of_text hText
  simp only [ofJson, hasId_iff.mp hId, leads_message_iff.mp hBody, (hasText_iff hBody).mp hText]
  cases hChat : nestedId? body "chat" with
  | none => rfl
  | some chat =>
      cases hUser : nestedId? body "from" with
      | none => rfl
      | some user =>
          exact absurd ⟨⟨chat, (hasName_iff_nested hBody).mpr hChat⟩, user, (hasName_iff_nested hBody).mpr hUser⟩ h

/-- An update that has everything is read into a message. -/
theorem exists_message (hId : HasId raw id) (hText : HasText raw text)
    (hChat : HasName raw ["message", "chat", "id"] chat) (hUser : HasName raw ["message", "from", "id"] user) :
    ∃ m, ofJson raw = .message id m ∧ Conveys raw id m := by
  obtain ⟨body, hBody⟩ := exists_body_of_text hText
  obtain ⟨made, hMake, hUpdateId, hMadeChat, hMadeUser, hMadeText⟩ := exists_make hText hChat hUser id
  have hRead : ofJson raw = .message id { made with
      messageId := (body.get? "message_id").bind partyId?
      timestampSeconds := (body.get? "date").bind Value.lenientSigned?
      metadata := messageMetadata } := by
    simp only [ofJson, hasId_iff.mp hId, leads_message_iff.mp hBody, (hasText_iff hBody).mp hText,
      (hasName_iff_nested hBody).mp hChat, (hasName_iff_nested hBody).mp hUser, hMake]
  refine ⟨_, hRead, ?_⟩
  exact {
    hasId := hId
    updateId := hUpdateId
    acknowledged := ackId?_of_message hRead
    hasText := hMadeText ▸ hText
    chatId := hMadeChat ▸ hChat
    userId := hMadeUser ▸ hUser
    messageId := fun name => (hasName_iff_member hBody).symm
    timestamp := fun t => (says_iff_member hBody).symm
    metadata := rfl }

/-- Whatever the first unmet condition is, the update is skipped for its reason, with its id if that is usable. -/
theorem FirstUnmet.skipped (h : FirstUnmet raw reason) :
    (ofJson raw).skipReason? = some reason ∧ ∀ id, (ofJson raw).id? = some id ↔ HasId raw id := by
  have hSame : ∀ {found : Int}, HasId raw found → ∀ id, some found = some id ↔ HasId raw id := by
    intro found hFound id
    rw [hasId_iff, ← hasId_iff.mp hFound]
  cases reason with
  | invalidUpdateId =>
      rw [ofJson_of_no_id h.unmet]
      exact ⟨rfl, fun id => ⟨nofun, fun hId => absurd ⟨id, hId⟩ h.unmet⟩⟩
  | unsupportedUpdateType =>
      obtain ⟨found, hFound⟩ := h.earlier .invalidUpdateId (by decide)
      rw [ofJson_of_no_body hFound h.unmet]
      exact ⟨rfl, hSame hFound⟩
  | unsupportedMessageText =>
      obtain ⟨found, hFound⟩ := h.earlier .invalidUpdateId (by decide)
      obtain ⟨body, hBody⟩ := h.earlier .unsupportedUpdateType (by decide)
      rw [ofJson_of_no_text hFound hBody h.unmet]
      exact ⟨rfl, hSame hFound⟩
  | missingChatOrUserId =>
      obtain ⟨found, hFound⟩ := h.earlier .invalidUpdateId (by decide)
      obtain ⟨text, hText⟩ := h.earlier .unsupportedMessageText (by decide)
      rw [ofJson_of_no_name hFound hText h.unmet]
      exact ⟨rfl, hSame hFound⟩

/-- All conditions are met, or there is a first one that is not. -/
theorem meets_or_firstUnmet (raw : Fields) : (∀ reason, Meets raw reason) ∨ ∃ reason, FirstUnmet raw reason := by
  by_cases hAll : ∀ reason, Meets raw reason
  · exact .inl hAll
  · obtain ⟨some, hSome⟩ := not_forall.mp hAll
    obtain ⟨reason, hUnmet, hLeast⟩ :=
      (measure fun r => SkipReason.all.idxOf r).wf.has_min {r | ¬ Meets raw r} ⟨some, hSome⟩
    exact .inr ⟨reason, hUnmet, fun other hBefore => by_contra fun hOther => hLeast other hOther hBefore⟩

/-- What a message keeps can be told from the update alone. -/
theorem conveys_of_message {m : Inbound} (h : ofJson raw = .message id m) : Conveys raw id m := by
  rcases meets_or_firstUnmet raw with hAll | ⟨reason, hFirst⟩
  · obtain ⟨other, hId⟩ := hAll .invalidUpdateId
    obtain ⟨text, hText⟩ := hAll .unsupportedMessageText
    obtain ⟨⟨chat, hChat⟩, user, hUser⟩ := hAll .missingChatOrUserId
    obtain ⟨_, hRead, hConveys⟩ := exists_message hId hText hChat hUser
    obtain ⟨rfl, rfl⟩ := Update.message.inj (hRead.symm.trans h)
    exact hConveys
  · have hReason := hFirst.skipped.1
    rw [h] at hReason
    cases hReason

end Reading

/-- **The grammar of updates.** An update is read into a message exactly if all conditions are met: its id is a number
from zero to the greatest signed one or a text of it, it has a message, the message has a text that is not blank, and
the chat and the user are named by numbers or by texts that are not blank. The message has the decimal text of the
update's id, which an acknowledgement reads back, the text as it is, the trimmed names, and its own name and time if
they are there. Otherwise the update is skipped for the first condition that it does not meet, and it has an id exactly
if it meets the first one of all. Whatever was read for a message, making the message of it does not fail. -/
theorem update_grammar (raw : Fields) :
    ((∃ id m, ofJson raw = .message id m) ↔ ∀ reason, Meets raw reason) ∧
      (∀ id m, ofJson raw = .message id m → Conveys raw id m) ∧
      (∀ reason, (ofJson raw).skipReason? = some reason ↔ FirstUnmet raw reason) ∧
      (∀ id, (ofJson raw).id? = some id ↔ HasId raw id) ∧
      ∀ id text chat user, HasId raw id → HasText raw text → HasName raw ["message", "chat", "id"] chat →
        HasName raw ["message", "from", "id"] user → ∃ m, Inbound.make (toString id) chat user text = .ok m := by
  have hMake : ∀ id text chat user, HasId raw id → HasText raw text → HasName raw ["message", "chat", "id"] chat →
      HasName raw ["message", "from", "id"] user → ∃ m, Inbound.make (toString id) chat user text = .ok m := by
    intro id text chat user _ hText hChat hUser
    obtain ⟨m, hOk, -⟩ := exists_make hText hChat hUser id
    exact ⟨m, hOk⟩
  rcases meets_or_firstUnmet raw with hAll | ⟨reason, hFirst⟩
  · obtain ⟨id, hId⟩ := hAll .invalidUpdateId
    obtain ⟨text, hText⟩ := hAll .unsupportedMessageText
    obtain ⟨⟨chat, hChat⟩, user, hUser⟩ := hAll .missingChatOrUserId
    obtain ⟨m, hRead, -⟩ := exists_message hId hText hChat hUser
    have hUnmet : ∀ reason, ¬ FirstUnmet raw reason := fun reason hFirst => hFirst.unmet (hAll reason)
    refine ⟨⟨fun _ => hAll, fun _ => ⟨id, m, hRead⟩⟩, fun _ _ => conveys_of_message, ?_, fun other => ?_, hMake⟩
    · intro reason
      rw [hRead]
      exact ⟨nofun, fun h => absurd h (hUnmet reason)⟩
    · rw [hRead, id?, hasId_iff, ← hasId_iff.mp hId]
  · obtain ⟨hReason, hId⟩ := hFirst.skipped
    have hNone : ¬ ∃ id m, ofJson raw = .message id m := by
      rintro ⟨id, m, hRead⟩
      rw [hRead] at hReason
      cases hReason
    have hNotAll : ¬ ∀ reason, Meets raw reason := fun hAll => hFirst.unmet (hAll reason)
    refine ⟨iff_of_false hNone hNotAll, fun _ _ => conveys_of_message,
      fun other => ⟨fun hOther => ?_, fun hOther => ?_⟩, hId, hMake⟩
    · obtain rfl : reason = other := Option.some.inj (hReason.symm.trans hOther)
      exact hFirst
    · exact hOther.skipped.1

end Update

end ChatRelay
