import ChatRelay.Handler.Allowlist
import ChatRelay.Proofs.UpdateId
import ChatRelay.Text.Split

/-!
The forms of a chat id. The settings split and trim the ids of the allowed chats, the reader of updates makes text of
numbers, the gate compares normal forms, and a request carries a wire form. All of them agree: for ids without space
around them, two normal forms are equal exactly when the wire forms are, and all ids that reach the gate are like
that.
-/

namespace ChatRelay

namespace Text

/-- A text with something in it and no space around it. -/
structure Trimmed (s : String) : Prop where
  trim_eq : trim s = s
  not_blank : isBlank s = false

theorem toList_toString_negSucc (k : Nat) : (toString (Int.negSucc k)).toList = '-' :: Nat.toDigits 10 (k + 1) := by
  rw [Int.toString_eq_repr, Int.repr_eq_if]
  simp [Nat.repr_eq_ofList_toDigits]

/-- No number is written with a space. -/
theorem not_space_toString (n : Int) : ∀ c ∈ (toString n).toList, isSpace c = false := by
  cases n with
  | ofNat k =>
      have hList : (toString (Int.ofNat k)).toList = Nat.toDigits 10 k := toList_toString_ofNat k
      rw [hList]
      exact not_space_toDigits k
  | negSucc k =>
      rw [toList_toString_negSucc]
      exact List.forall_mem_cons.mpr ⟨by decide, not_space_toDigits (k + 1)⟩

/-- Every whole number is read back from its decimal text, however large it is. -/
theorem integer?_toString (n : Int) : integer? (toString n).toList = some n := by
  cases n with
  | ofNat k =>
      have hList : (toString (Int.ofNat k)).toList = Nat.toDigits 10 k := toList_toString_ofNat k
      rw [hList]
      exact integer?_toDigits k
  | negSucc k =>
      rw [toList_toString_negSucc, integer?, digits?_toDigits]
      rfl

/-- Every signed number is read back from its decimal text. -/
theorem signed?_toString {n : Int} (hLow : minSigned ≤ n) (hHigh : n ≤ maxSigned) :
    signed? (toString n) = some n := by
  rw [signed?, integer?_toString]
  exact Option.filter_eq_some_iff.mpr ⟨rfl, fitsSigned_of_bounds hLow hHigh⟩

/-- The parts between commas are trimmed, unless they are empty. -/
theorem trimmed_of_commaParts {s part : String} (hPart : part ∈ commaParts s) (hSome : part.isEmpty = false) :
    Trimmed part := by
  obtain ⟨piece, _, rfl⟩ := List.mem_map.mp hPart
  have hTrim : trim (String.ofList (trimChars piece)) = String.ofList (trimChars piece) := by
    simp [trim, trimChars_trimChars]
  refine ⟨hTrim, ?_⟩
  rw [← Bool.not_eq_true, ← trim_eq_empty_iff, hTrim, ← String.isEmpty_iff, hSome]
  exact Bool.false_ne_true

end Text

namespace Decimal.Layout

open Text (isSpace)

theorem mem_of_mem_trimZeros {digits : List Char} {c : Char} (h : c ∈ trimZeros digits) : c ∈ digits := by
  have hReverse := List.mem_reverse.mp h
  exact List.mem_reverse.mp ((List.dropWhile_sublist _).mem hReverse)

theorem not_space_zeros (n : Nat) : ∀ c ∈ zeros n, isSpace c = false := by
  intro c hc
  rw [(List.mem_replicate.mp hc).2]
  decide

variable {digits : List Char}

/-- Positional notation adds no space to the digits. -/
theorem not_space_plain (h : ∀ c ∈ digits, isSpace c = false) (power : Int) :
    ∀ c ∈ plain digits power, isSpace c = false := by
  have hDrop : ∀ n, ∀ c ∈ digits.drop n, isSpace c = false := fun n c hc => h c (List.mem_of_mem_drop hc)
  have hTake : ∀ n, ∀ c ∈ digits.take n, isSpace c = false := fun n c hc => h c (List.mem_of_mem_take hc)
  simp only [plain]
  split
  · simp only [List.cons_append, List.forall_mem_cons, List.forall_mem_append]
    exact ⟨by decide, by decide, not_space_zeros _, h⟩
  · simp only [List.append_assoc, List.forall_mem_cons, List.forall_mem_append]
    refine ⟨hTake _, not_space_zeros _, by decide, ?_⟩
    split
    · simp only [List.forall_mem_cons]
      exact ⟨by decide, fun c hc => absurd hc List.not_mem_nil⟩
    · exact hDrop _

theorem not_space_exponent (layout : Layout) (power : Int) : ∀ c ∈ layout.exponent power, isSpace c = false := by
  simp only [exponent, List.cons_append, List.forall_mem_cons, List.forall_mem_append]
  refine ⟨by decide, ?_, Text.not_space_toDigits _⟩
  split
  · simp only [List.forall_mem_cons]
    exact ⟨by decide, fun c hc => absurd hc List.not_mem_nil⟩
  · split
    · simp only [List.forall_mem_cons]
      exact ⟨by decide, fun c hc => absurd hc List.not_mem_nil⟩
    · exact fun c hc => absurd hc List.not_mem_nil

/-- Neither does scientific notation. -/
theorem not_space_scientific (layout : Layout) (h : ∀ c ∈ digits, isSpace c = false) (power : Int) :
    ∀ c ∈ layout.scientific digits power, isSpace c = false := by
  simp only [scientific, List.forall_mem_append]
  refine ⟨⟨fun c hc => h c (List.mem_of_mem_take hc), ?_⟩, not_space_exponent layout power⟩
  split
  · exact fun c hc => absurd hc List.not_mem_nil
  · simp only [List.forall_mem_cons]
    exact ⟨by decide, fun c hc => h c (List.mem_of_mem_drop hc)⟩

/-- The text of a number holds no space, however it is laid out. -/
theorem not_space_write (layout : Layout) (d : Double) : ∀ c ∈ layout.write d, isSpace c = false := by
  have hDigits : ∀ c ∈ trimZeros (Nat.toDigits 10 d.shortest.digits), isSpace c = false := fun c hc =>
    Text.not_space_toDigits _ c (mem_of_mem_trimZeros hc)
  have hSigned : ∀ {body : List Char}, (∀ c ∈ body, isSpace c = false) →
      ∀ c ∈ (if d.negative then '-' :: body else body), isSpace c = false := by
    intro body hBody
    split
    · exact List.forall_mem_cons.mpr ⟨by decide, hBody⟩
    · exact hBody
  simp only [write]
  apply hSigned
  split
  · simp only [List.forall_mem_cons]
    exact ⟨by decide, by decide, by decide, fun c hc => absurd hc List.not_mem_nil⟩
  · split
    · exact not_space_plain hDigits _
    · exact not_space_scientific layout hDigits _

/-- The text of a number has a decimal point or an exponent, also when the number is whole. -/
theorem mark_mem_write (layout : Layout) (d : Double) : '.' ∈ layout.write d ∨ 'e' ∈ layout.write d := by
  have hSigned : ∀ {body : List Char}, '.' ∈ body ∨ 'e' ∈ body →
      '.' ∈ (if d.negative then '-' :: body else body) ∨ 'e' ∈ (if d.negative then '-' :: body else body) := by
    intro body hBody
    split
    · exact hBody.imp (List.mem_cons_of_mem '-') (List.mem_cons_of_mem '-')
    · exact hBody
  simp only [write]
  apply hSigned
  split
  · exact .inl (by decide)
  · split
    · refine .inl ?_
      simp only [plain]
      split <;> simp
    · exact .inr (by simp [scientific, exponent])

end Decimal.Layout

/-- A number of JSON is written without a space. -/
theorem Json.Number.not_space_text (n : Json.Number) : ∀ c ∈ n.text.toList, Text.isSpace c = false := by
  cases n with
  | integer n => exact Text.not_space_toString n
  | double d =>
      rw [Json.Number.text, String.toList_ofList]
      exact Decimal.Layout.not_space_write Json.numberLayout d

/-- So its text is not blank. -/
theorem Json.Number.isBlank_text (n : Json.Number) : Text.isBlank n.text = false := by
  have hSome : ∃ c, c ∈ n.text.toList := by
    cases n with
    | integer n =>
        cases n with
        | ofNat k =>
            obtain ⟨c, hc⟩ := List.exists_mem_of_ne_nil _ (Nat.toDigits_ne_nil : Nat.toDigits 10 k ≠ [])
            exact ⟨c, (Text.toList_toString_ofNat k).symm ▸ hc⟩
        | negSucc k => exact ⟨'-', (Text.toList_toString_negSucc k).symm ▸ List.mem_cons_self⟩
    | double d =>
        rw [Json.Number.text, String.toList_ofList]
        exact (Decimal.Layout.mark_mem_write Json.numberLayout d).elim (fun h => ⟨_, h⟩) fun h => ⟨_, h⟩
  obtain ⟨c, hc⟩ := hSome
  rw [← Bool.not_eq_true, Text.isBlank, List.all_eq_true]
  intro hAll
  have hSpace := hAll c hc
  rw [n.not_space_text c hc] at hSpace
  cases hSpace

namespace Update

/-- The id of a chat or user needs no trimming, whichever kind of value it was read from. -/
theorem trim_of_partyId? {v : Json.Value} {id : String} (h : partyId? v = some id) : Text.trim id = id := by
  cases v with
  | number n =>
      obtain rfl := Option.some.inj h
      exact Text.trim_of_not_space n.not_space_text
  | string s =>
      simp only [partyId?, Text.nonBlank?] at h
      split at h
      · cases h
      · obtain rfl := Option.some.inj h
        exact Text.trim_trim s
  | _ => cases h

/-- There is no space around the id of the chat that a message comes from. -/
theorem trimmed_chatId {raw : Json.Fields} {id : Int} {m : Inbound} (h : ofJson raw = .message id m) :
    Text.Trimmed m.chatId := by
  refine ⟨?_, m.chatId_nonBlank⟩
  simp only [ofJson] at h
  split at h
  · cases h
  split at h
  · cases h
  rename_i body _
  split at h
  · cases h
  split at h
  · rename_i chatId userId hChat _
    split at h
    · cases h
    · rename_i inbound hMake
      obtain ⟨-, rfl⟩ := Update.message.inj h
      change Text.trim inbound.chatId = inbound.chatId
      rw [(Inbound.ids_of_make hMake).2]
      obtain ⟨party, _, hParty⟩ := Option.bind_eq_some_iff.mp hChat
      obtain ⟨v, _, hId⟩ := Option.bind_eq_some_iff.mp hParty
      exact trim_of_partyId? hId
  · cases h

end Update

/-- Two wire forms are the same number, or the same text if neither is a number. -/
theorem wireId_eq_iff (a b : String) :
    wireId a = wireId b ↔
      Text.signed? (Text.trim a) = Text.signed? (Text.trim b) ∧ (Text.signed? (Text.trim a) = none → a = b) := by
  simp only [wireId]
  cases Text.signed? (Text.trim a) <;> cases Text.signed? (Text.trim b) <;> simp [Json.Value.int]

/-- The decimal text of a number that fits goes out as the number, and that of any other one as it is. -/
theorem wireId_toString (n : Int) :
    wireId (toString n) = if Text.fitsSigned n then .int n else .string (toString n) := by
  rw [wireId, Text.trim_of_not_space (Text.not_space_toString n), Text.signed?, Text.integer?_toString]
  cases hFits : Text.fitsSigned n <;> simp [Option.filter, hFits]

instance (a b : String) : Decidable (wireId a = wireId b) := decidable_of_iff' _ (wireId_eq_iff a b)

namespace Allowlist

open Text (Trimmed)

/-- Whether the wire form of a chat is that of an entry. -/
def Listed (entries : List String) (chatId : String) : Prop := ∃ entry ∈ entries, wireId chatId = wireId entry

instance (entries : List String) (chatId : String) : Decidable (Listed entries chatId) :=
  inferInstanceAs (Decidable (∃ entry ∈ entries, wireId chatId = wireId entry))

variable {a b chatId : String} {entries : List String}

/-- A trimmed id is compared as a number if it is a spelling of one, and as it stands otherwise. -/
theorem normalForm?_of_trimmed (h : Trimmed a) :
    normalForm? a = some (match Text.signed? a with
      | some n => toString n
      | none => a) := by
  have hSome : a.isEmpty = false := by
    rw [← Bool.not_eq_true, String.isEmpty_iff, ← h.trim_eq, Text.trim_eq_empty_iff, h.not_blank]
    exact Bool.false_ne_true
  simp only [normalForm?, h.trim_eq, hSome, Bool.false_eq_true, if_false]
  cases Text.signed? a <;> rfl

/-- The gate tells two ids apart exactly if they differ in a request. -/
theorem normalForm?_eq_iff (ha : Trimmed a) (hb : Trimmed b) : normalForm? a = normalForm? b ↔ wireId a = wireId b := by
  have hRead : ∀ {s : String} {n : Int}, Text.signed? s = some n → Text.signed? (toString n) = some n :=
    fun h => Text.signed?_toString (Text.le_maxSigned_of_signed? h).1 (Text.le_maxSigned_of_signed? h).2
  -- the text of a number is read back, so that it is never the text of an id that is no number
  rw [wireId_eq_iff, ha.trim_eq, hb.trim_eq, normalForm?_of_trimmed ha, normalForm?_of_trimmed hb, Option.some_inj]
  cases hA : Text.signed? a with
  | none =>
      cases hB : Text.signed? b with
      | none => simp
      | some n =>
          simp only [reduceCtorEq, false_and, iff_false]
          rintro rfl
          rw [hRead hB] at hA
          cases hA
  | some n =>
      cases hB : Text.signed? b with
      | none =>
          simp only [reduceCtorEq, false_and, iff_false]
          rintro rfl
          rw [hRead hA] at hB
          cases hB
      | some k =>
          simp only [Option.some_inj, reduceCtorEq, false_implies, and_true]
          refine ⟨fun hEq => ?_, congrArg toString⟩
          have hBoth := hRead hA
          rw [hEq, hRead hB] at hBoth
          exact (Option.some.inj hBoth).symm

/-- A gate with an entry is closed to some chats. -/
theorem isEmpty_chats (hSome : entries ≠ []) (hEntries : ∀ entry ∈ entries, Trimmed entry) :
    (ofEntries entries).chats.isEmpty = false := by
  obtain ⟨entry, hEntry⟩ := List.exists_mem_of_ne_nil entries hSome
  have hForm := normalForm?_of_trimmed (hEntries entry hEntry)
  exact List.isEmpty_eq_false_iff_exists_mem.mpr ⟨_, List.mem_filterMap.mpr ⟨entry, hEntry, hForm⟩⟩

/-- A gate with an entry lets exactly the listed chats through. -/
theorem allows_iff (hSome : entries ≠ []) (hEntries : ∀ entry ∈ entries, Trimmed entry) (hChat : Trimmed chatId) :
    (ofEntries entries).allows chatId = true ↔ Listed entries chatId := by
  have hForm := normalForm?_of_trimmed hChat
  simp only [allows, isEmpty_chats hSome hEntries, Bool.false_or]
  rw [hForm]
  simp only [List.contains_iff_mem, ofEntries, List.mem_filterMap, ← hForm]
  refine exists_congr fun entry => and_congr_right fun hEntry => ?_
  rw [eq_comm, normalForm?_eq_iff hChat (hEntries entry hEntry)]

end Allowlist

end ChatRelay
