import ChatRelay.Proofs.Allowlist.Forms
import ChatRelay.Proofs.Text.Spelling

/-!
When a gate is closed. Two ids mean the same chat if they are the same text or spell the same number, once the space
around them is gone. A gate lets exactly the chats of its entries through if one of the entries is more than space. A
blank entry has no normal form, so that a gate with nothing but blank entries has no chats, and is open.
-/

namespace ChatRelay.Allowlist

open ChatRelay.Text (TrimsTo Spells isBlank trim)

/-- Two ids mean the same chat. -/
def SameChat (a b : String) : Prop :=
  ∃ s t, TrimsTo a s ∧ TrimsTo b t ∧
    (s = t ∨ ∃ n, Text.minSigned ≤ n ∧ n ≤ Text.maxSigned ∧ Spells s.toList n ∧ Spells t.toList n)

/-- A chat that is named at all is the chat of an entry. -/
def Admits (entries : List String) (chatId : String) : Prop :=
  isBlank chatId = false ∧ ∃ entry ∈ entries, SameChat chatId entry

section Chats

variable {a b : String}

/-- Two ids name one chat exactly if their trimmed forms are equal or are spellings of one number. -/
theorem sameChat_iff :
    SameChat a b ↔ trim a = trim b ∨ ∃ n, Text.signed? (trim a) = some n ∧ Text.signed? (trim b) = some n := by
  simp only [Text.signed?_eq_some_iff]
  constructor
  · rintro ⟨s, t, ha, hb, hSame⟩
    obtain ⟨rfl, rfl⟩ := And.intro (Text.trim_eq_iff.mpr ha) (Text.trim_eq_iff.mpr hb)
    exact hSame.imp id fun ⟨n, hLow, hHigh, ha, hb⟩ => ⟨n, ⟨ha, hLow, hHigh⟩, hb, hLow, hHigh⟩
  · intro h
    refine ⟨trim a, trim b, Text.trim_eq_iff.mp rfl, Text.trim_eq_iff.mp rfl, ?_⟩
    exact h.imp id fun ⟨n, ⟨ha, hLow, hHigh⟩, hb, _, _⟩ => ⟨n, hLow, hHigh, ha, hb⟩

/-- A blank entry names no chat but a blank one. -/
theorem isBlank_of_sameChat (h : SameChat a b) (hBlank : isBlank b = true) : isBlank a = true := by
  have hEmpty : trim b = "" := (Text.trim_eq_empty_iff b).mpr hBlank
  rcases sameChat_iff.mp h with hSame | ⟨n, -, hRead⟩
  · exact (Text.trim_eq_empty_iff a).mp (hSame.trans hEmpty)
  · rw [hEmpty] at hRead
    cases hRead

theorem trimmed_trim (h : isBlank a = false) : Text.Trimmed (trim a) :=
  ⟨Text.trim_trim a, (Text.isBlank_trim a).trans h⟩

theorem normalForm?_trim (a : String) : normalForm? (trim a) = normalForm? a := by
  simp only [normalForm?, Text.trim_trim]

/-- Only a blank id has no form for comparison. -/
theorem normalForm?_eq_none_iff : normalForm? a = none ↔ isBlank a = true := by
  cases hBlank : isBlank a with
  | true => simp [normalForm?, (Text.trim_eq_empty_iff a).mpr hBlank]
  | false =>
      rw [← normalForm?_trim, normalForm?_of_trimmed (trimmed_trim hBlank)]
      simp

/-- For trimmed ids, the wire forms are equal exactly if the ids mean the same chat. -/
theorem wireId_eq_iff_sameChat (ha : trim a = a) (hb : trim b = b) : wireId a = wireId b ↔ SameChat a b := by
  rw [wireId_eq_iff, sameChat_iff, ha, hb]
  cases hRead : Text.signed? a with
  | none => simpa using fun h : a = b => h ▸ hRead.symm
  | some n =>
      simp only [reduceCtorEq, false_implies, and_true, Option.some.injEq, exists_eq_left']
      constructor
      · exact fun h => .inr h.symm
      · rintro (rfl | h)
        · exact hRead.symm
        · exact h.symm

/-- Ids that are not blank have the same normal form exactly if they mean the same chat. -/
theorem normalForm?_eq_iff_sameChat (ha : isBlank a = false) : normalForm? a = normalForm? b ↔ SameChat a b := by
  cases hb : isBlank b with
  | true =>
      have hSome : normalForm? a ≠ none := mt normalForm?_eq_none_iff.mp (by rw [ha]; exact Bool.false_ne_true)
      rw [normalForm?_eq_none_iff.mpr hb]
      refine iff_of_false hSome fun h => ?_
      rw [isBlank_of_sameChat h hb] at ha
      cases ha
  | false =>
      rw [← normalForm?_trim a, ← normalForm?_trim b, normalForm?_eq_iff (trimmed_trim ha) (trimmed_trim hb),
        wireId_eq_iff_sameChat (Text.trim_trim a) (Text.trim_trim b), sameChat_iff, sameChat_iff, Text.trim_trim,
        Text.trim_trim]

end Chats

variable {entries : List String} {chatId : String}

/-- The gate stands open when all entries are blank, and not only when there are none. -/
theorem isEmpty_chats_iff : (ofEntries entries).chats.isEmpty = true ↔ ∀ entry ∈ entries, isBlank entry = true := by
  rw [List.isEmpty_iff, ofEntries, List.filterMap_eq_nil_iff]
  exact forall₂_congr fun _ _ => normalForm?_eq_none_iff

/-- An open gate lets every chat through. -/
theorem allows_of_blank (hBlank : ∀ entry ∈ entries, isBlank entry = true) (chatId : String) :
    (ofEntries entries).allows chatId = true := by
  rw [allows, isEmpty_chats_iff.mpr hBlank, Bool.true_or]

/-- A chat with a form is let through by name exactly if some entry names it. -/
theorem contains_iff (hChat : isBlank chatId = false) {form : String} (hForm : normalForm? chatId = some form) :
    (ofEntries entries).chats.contains form = true ↔ ∃ entry ∈ entries, SameChat chatId entry := by
  simp only [List.contains_iff_mem, ofEntries, List.mem_filterMap, ← hForm]
  refine exists_congr fun entry => and_congr_right fun _ => ?_
  rw [eq_comm, normalForm?_eq_iff_sameChat hChat]

/-- A gate that is closed to some chat lets exactly the chats of its entries through. -/
theorem allows_iff_admits (hEntry : ∃ entry ∈ entries, isBlank entry = false) :
    (ofEntries entries).allows chatId = true ↔ Admits entries chatId := by
  obtain ⟨entry, hMem, hNot⟩ := hEntry
  have hClosed : (ofEntries entries).chats.isEmpty = false := by
    rw [← Bool.not_eq_true, isEmpty_chats_iff]
    intro hAll
    rw [hAll entry hMem] at hNot
    cases hNot
  rw [allows, hClosed, Bool.false_or, Admits]
  cases hForm : normalForm? chatId with
  | none => simp [normalForm?_eq_none_iff.mp hForm]
  | some form =>
      have hChat : isBlank chatId = false := by
        rw [← Bool.not_eq_true, ← normalForm?_eq_none_iff, hForm]
        exact Option.some_ne_none form
      simp only [hChat, true_and]
      exact contains_iff hChat hForm

section Strangers

/-- There is a bound on the length of all entries, so that a longer id is not among them. -/
theorem exists_longer (entries : List String) : ∃ k, ∀ entry ∈ entries, (trim entry).toList.length ≤ k := by
  induction entries with
  | nil => exact ⟨0, fun entry hMem => absurd hMem List.not_mem_nil⟩
  | cons first rest ih =>
      obtain ⟨k, hRest⟩ := ih
      refine ⟨(trim first).toList.length + k, fun entry hMem => ?_⟩
      rcases List.mem_cons.mp hMem with rfl | hMem
      · omega
      · have hShort := hRest entry hMem
        omega

/-- Whatever the entries are, some chat is not among them: a name that is longer than all of them. -/
theorem exists_stranger (entries : List String) :
    ∃ chatId, isBlank chatId = false ∧ ∀ entry ∈ entries, ¬ SameChat chatId entry := by
  obtain ⟨k, hLongest⟩ := exists_longer entries
  let name := String.ofList (List.replicate (k + 1) 'x')
  have hList : name.toList = 'x' :: List.replicate k 'x' := String.toList_ofList
  have hTrim : trim name = name := Text.trim_of_not_space fun c hc => by
    rw [String.toList_ofList] at hc
    rw [List.eq_of_mem_replicate hc]
    decide
  have hNumber : Text.signed? name = none := by
    rw [Text.signed?, hList]
    rfl
  refine ⟨name, ?_, fun entry hMem hSame => ?_⟩
  · rw [isBlank, hList]
    rfl
  · rcases sameChat_iff.mp hSame with hText | ⟨n, hRead, -⟩
    · have hShort := hLongest entry hMem
      rw [← hText, hTrim, hList, List.length_cons, List.length_replicate] at hShort
      omega
    · rw [hTrim, hNumber] at hRead
      cases hRead

end Strangers

/-- **A gate is closed exactly if one of its entries is not blank.** Then it lets through what is not blank and means
the chat of an entry, and nothing else, and some named chat is refused. A gate whose entries are all blank refuses no
chat, as if it had no entries. -/
theorem closed_iff_entry_not_blank (entries : List String) :
    ((∀ chatId, (ofEntries entries).allows chatId = true ↔ Admits entries chatId) ↔
        ∃ entry ∈ entries, isBlank entry = false) ∧
      ((∃ chatId, isBlank chatId = false ∧ (ofEntries entries).allows chatId = false) ↔
        ∃ entry ∈ entries, isBlank entry = false) := by
  obtain ⟨stranger, hNamed, hStrange⟩ := exists_stranger entries
  have hRefused : ¬ Admits entries stranger := fun ⟨_, entry, hMem, hSame⟩ => hStrange entry hMem hSame
  by_cases hEntry : ∃ entry ∈ entries, isBlank entry = false
  · have hExact : ∀ chatId, (ofEntries entries).allows chatId = true ↔ Admits entries chatId := fun _ =>
      allows_iff_admits hEntry
    have hClosed : (ofEntries entries).allows stranger = false :=
      Bool.eq_false_iff.mpr (mt (hExact stranger).mp hRefused)
    exact ⟨iff_of_true hExact hEntry, iff_of_true ⟨stranger, hNamed, hClosed⟩ hEntry⟩
  · have hBlank : ∀ entry ∈ entries, isBlank entry = true := fun entry hMem =>
      Bool.not_eq_false _ ▸ fun hNot => hEntry ⟨entry, hMem, hNot⟩
    have hOpen : ∀ chatId, (ofEntries entries).allows chatId = true := allows_of_blank hBlank
    have hNotExact : ¬ ∀ chatId, (ofEntries entries).allows chatId = true ↔ Admits entries chatId := fun hExact =>
      hRefused ((hExact stranger).mp (hOpen stranger))
    refine ⟨iff_of_false hNotExact hEntry, iff_of_false ?_ hEntry⟩
    rintro ⟨chatId, -, hClosed⟩
    rw [hOpen chatId] at hClosed
    cases hClosed

/-- The list has an entry, and still the gate is open to a chat that the list does not name, and to every other one. -/
theorem open_with_blank_entry :
    ¬ Admits [" "] "42" ∧ ∀ chatId, (ofEntries [" "]).allows chatId = true := by
  refine ⟨fun ⟨_, entry, hMem, hSame⟩ => ?_, allows_of_blank (by decide)⟩
  obtain rfl := List.mem_singleton.mp hMem
  have hBlank := isBlank_of_sameChat hSame (by decide)
  cases hBlank

end ChatRelay.Allowlist
