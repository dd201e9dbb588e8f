import ChatRelay.Feed
import ChatRelay.Proofs.Cursor.Sound

/-!
Update ids and their text. The id of an update is a number from zero to the greatest signed one, a message
carries the decimal text of its id, and an acknowledgement reads that text back to the same number.
-/

namespace ChatRelay

namespace Text

theorem trimLeft_of_not_space {cs : List Char} (h : ∀ c ∈ cs, isSpace c = false) : trimLeft cs = cs := by
  cases cs with
  | nil => rfl
  | cons c cs => exact trimLeft_cons_of_not cs (h c List.mem_cons_self)

theorem trimRight_of_not_space {cs : List Char} (h : ∀ c ∈ cs, isSpace c = false) : trimRight cs = cs := by
  induction cs with
  | nil => rfl
  | cons c cs ih =>
      rw [trimRight_cons_of_not cs (h c List.mem_cons_self),
        ih fun d hd => h d (List.mem_cons_of_mem c hd)]

/-- A text without space stays as it is when it is trimmed. -/
theorem trim_of_not_space {s : String} (h : ∀ c ∈ s.toList, isSpace c = false) : trim s = s := by
  rw [trim, trimChars, trimLeft_of_not_space h, trimRight_of_not_space h, String.ofList_toList]

theorem isSpace_of_isDigit {c : Char} (h : isDigit c = true) : isSpace c = false := by
  simp only [isDigit, Bool.and_eq_true, decide_eq_true_eq] at h
  have hLow : 48 ≤ c.toNat := h.1
  have hHigh : c.toNat ≤ 57 := h.2
  simp only [isSpace, Bool.or_eq_false_iff, Bool.and_eq_false_iff, decide_eq_false_iff_not,
    beq_eq_false_iff_ne]
  omega

theorem not_space_toDigits (n : Nat) : ∀ c ∈ Nat.toDigits 10 n, isSpace c = false := fun c hc =>
  isSpace_of_isDigit (List.all_eq_true.mp (all_isDigit_toDigits n) c hc)

theorem toList_toString_ofNat (n : Nat) : (toString (n : Int)).toList = Nat.toDigits 10 n := by
  rw [Int.toString_eq_repr, Int.repr_eq_if]
  simp [Nat.repr_eq_ofList_toDigits]

/-- The digits of a number are read back without a sign. -/
theorem integer?_toDigits (n : Nat) : integer? (Nat.toDigits 10 n) = some (n : Int) := by
  have hDigits : (Nat.toDigits 10 n).all isDigit = true := all_isDigit_toDigits n
  simp only [integer?]
  split
  · rename_i cs hCs
    rw [hCs] at hDigits
    simp [isDigit] at hDigits
  · rename_i cs hCs
    rw [hCs] at hDigits
    simp [isDigit] at hDigits
  · rw [digits?_toDigits]
    rfl

/-- A number that is not negative is read back from its decimal text, with or without trimming. -/
theorem signed?_trim_toString {n : Int} (hLow : 0 ≤ n) (hHigh : n ≤ maxSigned) :
    signed? (trim (toString n)) = some n := by
  obtain ⟨k, rfl⟩ := Int.eq_ofNat_of_zero_le hLow
  have hTrim : trim (toString (k : Int)) = toString (k : Int) := by
    apply trim_of_not_space
    rw [toList_toString_ofNat]
    exact not_space_toDigits k
  rw [hTrim, signed?, toList_toString_ofNat, integer?_toDigits]
  exact Option.filter_eq_some_iff.mpr ⟨rfl, fitsSigned_of_bounds (by simp only [minSigned]; omega) hHigh⟩

end Text

namespace Feed

open Cursor (InRange)

theorem ackId?_toString {id : Int} (h : InRange id) : ackId? (toString id) = some id := by
  rw [ackId?, Text.signed?_trim_toString h.1 h.2]
  simp [h.1]

theorem inRange_of_ackId? {text : String} {id : Int} (h : ackId? text = some id) : InRange id := by
  obtain ⟨hSigned, hLow⟩ := Option.filter_eq_some_iff.mp h
  exact ⟨by simpa using hLow, (Text.le_maxSigned_of_signed? hSigned).2⟩

end Feed

namespace Json.Value

/-- Whole numbers that are read leniently fit into 64 bits. -/
theorem fitsSigned_of_lenientSigned? {v : Value} {n : Int} (h : v.lenientSigned? = some n) :
    Text.minSigned ≤ n ∧ n ≤ Text.maxSigned := by
  simp only [lenientSigned?] at h
  split at h
  · exact Text.le_maxSigned_of_signed? h
  · simp only [signed?] at h
    split at h
    · split at h
      · rename_i hFits
        obtain rfl := Option.some.inj h
        simpa [Text.fitsSigned] using hFits
      · cases h
    · cases h

end Json.Value

/-- A sequence that succeeds succeeds in both its parts. -/
theorem exists_of_bind_eq_ok {ε α β : Type} {x : Except ε α} {f : α → Except ε β} {b : β}
    (h : x >>= f = .ok b) : ∃ a, x = .ok a ∧ f a = .ok b := by
  cases x with
  | error e => cases h
  | ok a => exact ⟨a, rfl, h⟩

/-- A program that throws under a condition and still succeeds does not meet it. -/
theorem not_of_guard_eq_ok {ε α β : Type} {c : Prop} [Decidable c] {e : ε} {f : α → Except ε β} {x : Except ε β} {b : β}
    (h : (if c then (throw e : Except ε α) >>= f else x) = .ok b) : ¬ c ∧ x = .ok b := by
  split at h
  · cases h
  · exact ⟨‹_›, h⟩

theorem eq_ok_of_toOption {ε α : Type} {x : Except ε α} {a : α} (h : x.toOption = some a) : x = .ok a := by
  cases x with
  | error e => cases h
  | ok b =>
      cases h
      rfl

theorem exists_ok_of_any {ε α : Type} {x : Option (Except ε α)} {p : α → Bool}
    (h : x.any (fun r => r.toOption.any p) = true) : ∃ a, x = some (.ok a) ∧ p a = true := by
  obtain ⟨r, hSome, hAny⟩ := (Option.any_eq_true _ _).mp h
  obtain ⟨a, hOk, hp⟩ := (Option.any_eq_true _ _).mp hAny
  exact ⟨a, hSome.trans (congrArg some (eq_ok_of_toOption hOk)), hp⟩

theorem val_of_required {field value : String} {s : { s : String // Text.isBlank s = false }}
    (h : required field value = .ok s) : s.val = value := by
  simp only [required] at h
  split at h
  · cases h
  · cases h
    rfl

/-- A message carries the ids that it was made with. -/
theorem Inbound.ids_of_make {updateId chatId userId text : String} {m : Inbound}
    (h : Inbound.make updateId chatId userId text = .ok m) : m.updateId = updateId ∧ m.chatId = chatId := by
  simp only [Inbound.make] at h
  obtain ⟨id, hId, h⟩ := exists_of_bind_eq_ok h
  obtain ⟨chat, hChat, h⟩ := exists_of_bind_eq_ok h
  obtain ⟨user, _, h⟩ := exists_of_bind_eq_ok h
  obtain ⟨body, _, h⟩ := exists_of_bind_eq_ok h
  cases h
  exact ⟨val_of_required hId, val_of_required hChat⟩

namespace Update

open Cursor (InRange)

theorem inRange_of_usableId? {v : Json.Value} {id : Int} (h : usableId? v = some id) : InRange id := by
  obtain ⟨hRead, hLow⟩ := Option.filter_eq_some_iff.mp h
  exact ⟨by simpa using hLow, (Json.Value.fitsSigned_of_lenientSigned? hRead).2⟩

/-- The id of an update is in range, and a message carries the decimal text of its id. -/
theorem ofJson_id (raw : Json.Fields) :
    (∀ id, (ofJson raw).id? = some id → InRange id) ∧
      ∀ id m, ofJson raw = .message id m → m.updateId = toString id := by
  simp only [ofJson]
  cases hId : (raw.get? "update_id").bind usableId? with
  | none => simp [id?]
  | some id =>
      have hRange : InRange id := by
        obtain ⟨v, _, hv⟩ := Option.bind_eq_some_iff.mp hId
        exact inRange_of_usableId? hv
      simp only
      split
      · simp [id?, hRange]
      · split
        · simp [id?, hRange]
        · split
          · split
            · simp [id?, hRange]
            · rename_i inbound hMake
              refine ⟨fun other hOther => ?_, fun other m hm => ?_⟩
              · obtain rfl : id = other := by simpa [id?] using hOther
                exact hRange
              · obtain ⟨rfl, rfl⟩ : id = other ∧ _ = m := by simpa using hm
                exact ((Inbound.ids_of_make hMake).1 : inbound.updateId = _)
          · simp [id?, hRange]

theorem inRange_of_id? {raw : Json.Fields} {id : Int} (h : (ofJson raw).id? = some id) : InRange id :=
  (ofJson_id raw).1 id h

theorem updateId_of_message {raw : Json.Fields} {id : Int} {m : Inbound} (h : ofJson raw = .message id m) :
    m.updateId = toString id :=
  (ofJson_id raw).2 id m h

/-- An acknowledgement reads the id of a message back. -/
theorem ackId?_of_message {raw : Json.Fields} {id : Int} {m : Inbound} (h : ofJson raw = .message id m) :
    Feed.ackId? m.updateId = some id := by
  rw [updateId_of_message h]
  exact Feed.ackId?_toString (inRange_of_id? (by rw [h]; rfl))

/-- The raw form of an update with a message of one word. -/
def plain (id : Int) (word : String) : Json.Fields :=
  [ ("update_id", .int id),
    ("message", .object [
      ("text", .string word),
      ("chat", .object [("id", .int 1)]),
      ("from", .object [("id", .int 2)])]) ]

end Update

end ChatRelay
