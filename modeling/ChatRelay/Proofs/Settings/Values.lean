import ChatRelay.Proofs.Text.Pieces
import ChatRelay.Settings

/-!
What a variable says. A variable holds its text without the space around it, and it is filled if something is left of
the text. A setting is read from one variable and has a usual value where the variable says nothing, so that all
readers of settings are of one form: what they find is told by what the variable holds and by what its text reads as.
-/

namespace ChatRelay.Settings

open ChatRelay.Text (TrimsTo CommaList Counts lower)

/-- The variable has a value, and this is what the value is without the space around it. -/
def Holds (vars : Variables) (key text : String) : Prop := ∃ raw, vars.get? key = some raw ∧ TrimsTo raw text

/-- The variable holds more than space. -/
def Fills (vars : Variables) (key text : String) : Prop := Holds vars key text ∧ text ≠ ""

/-- A setting is what a text reads as if there is a text, and otherwise the usual one. -/
def ReadsOr {α : Type} (P : String → Prop) (usual : α) (Reads : String → α → Prop) (a : α) : Prop :=
  ((∀ text, ¬ P text) ∧ a = usual) ∨ ∃ text, P text ∧ Reads text a

/-- A number of at most `max`. -/
def ReadsNumber (max : Nat) (text : String) (n : Nat) : Prop := Counts text.toList n ∧ n ≤ max

/-- A list of numbers of milliseconds between commas. Blank items do not count. -/
def ReadsDelays (text : String) (delays : List Nat) : Prop :=
  ∃ items, CommaList text items ∧
    List.Forall₂ (ReadsNumber Text.maxUnsigned) (items.filter fun item => !item.isEmpty) delays

/-- A list of chats between commas, none of them blank. -/
def ReadsChats (text : String) (chats : List String) : Prop := CommaList text chats ∧ "" ∉ chats

/-- A word for yes or no. -/
def ReadsFlag (text : String) (b : Bool) : Prop := lower text ∈ if b then trueWords else falseWords

/-- The name of an acknowledgement policy. -/
def ReadsPolicy (text : String) (policy : AckPolicy) : Prop := lower text = policy.name

/-- A path, or none. -/
def ReadsPath (text : String) (path : Option String) : Prop :=
  (text = "" ∧ path = none) ∨ (text ≠ "" ∧ path = some text)

section Variables

variable {vars : Variables} {key text : String}

theorem trimmed?_eq_some_iff : trimmed? vars key = some text ↔ Holds vars key text := by
  simp only [trimmed?, Option.map_eq_some_iff, Text.trim_eq_iff, Holds]

theorem Holds.unique {other : String} (h : Holds vars key text) (h' : Holds vars key other) : text = other :=
  Option.some.inj ((trimmed?_eq_some_iff.mpr h).symm.trans (trimmed?_eq_some_iff.mpr h'))

theorem Holds.trim_eq (h : Holds vars key text) : Text.trim text = text := by
  obtain ⟨raw, -, hTrim⟩ := h
  obtain rfl := Text.trim_eq_iff.mpr hTrim
  exact Text.trim_trim raw

theorem Holds.isBlank_iff (h : Holds vars key text) : Text.isBlank text = true ↔ text = "" := by
  rw [← Text.trim_eq_empty_iff, h.trim_eq]

theorem Fills.unique {other : String} (h : Fills vars key text) (h' : Fills vars key other) : text = other :=
  h.1.unique h'.1

/-- A variable is filled with a text that is not blank. -/
theorem filled?_eq_some_iff : filled? vars key = some text ↔ Fills vars key text := by
  rw [filled?, Option.bind_eq_some_iff]
  constructor
  · rintro ⟨value, hValue, hSome⟩
    have hHolds := trimmed?_eq_some_iff.mp hValue
    rw [Text.nonBlank?] at hSome
    split at hSome
    · cases hSome
    · rename_i hBlank
      obtain rfl := Option.some.inj hSome
      exact ⟨hHolds, mt hHolds.isBlank_iff.mpr hBlank⟩
  · rintro ⟨hHolds, hSome⟩
    refine ⟨text, trimmed?_eq_some_iff.mpr hHolds, ?_⟩
    rw [Text.nonBlank?, if_neg (mt hHolds.isBlank_iff.mp hSome)]

end Variables

section Readers

variable {α : Type} {P : String → Prop} {usual a : α} {Reads : String → α → Prop} {found : Option String}
  {text : String}

/-- Where there is a text, the setting is what it reads as. -/
theorem ReadsOr.reads (h : ReadsOr P usual Reads a) (hUnique : ∀ {text other}, P text → P other → text = other)
    (hText : P text) : Reads text a := by
  rcases h with ⟨hNone, -⟩ | ⟨other, hOther, hReads⟩
  · exact absurd hText (hNone text)
  · exact hUnique hText hOther ▸ hReads

/-- There is a value exactly if the text, if there is one, reads as one. -/
theorem exists_readsOr_iff (usual : α) (hUnique : ∀ {text other}, P text → P other → text = other) :
    (∃ a, ReadsOr P usual Reads a) ↔ ∀ text, P text → ∃ a, Reads text a := by
  constructor
  · rintro ⟨a, hReads⟩ text hText
    exact ⟨a, hReads.reads hUnique hText⟩
  · intro hAll
    by_cases hSome : ∃ text, P text
    · obtain ⟨text, hText⟩ := hSome
      obtain ⟨a, hReads⟩ := hAll text hText
      exact ⟨a, .inr ⟨text, hText, hReads⟩⟩
    · exact ⟨usual, .inl ⟨not_exists.mp hSome, rfl⟩⟩

/-- A limit that the usual value keeps can be asked of the text or of the setting. -/
theorem readsOr_and_iff {Q : α → Prop} (hUsual : Q usual) :
    ReadsOr P usual (fun text a => Reads text a ∧ Q a) a ↔ ReadsOr P usual Reads a ∧ Q a := by
  constructor
  · rintro (⟨hNone, rfl⟩ | ⟨text, hText, hReads, hQ⟩)
    · exact ⟨.inl ⟨hNone, rfl⟩, hUsual⟩
    · exact ⟨.inr ⟨text, hText, hReads⟩, hQ⟩
  · rintro ⟨hDefault | ⟨text, hText, hReads⟩, hQ⟩
    · exact .inl hDefault
    · exact .inr ⟨text, hText, hReads, hQ⟩

/-- A reader that takes the usual value where nothing is found. -/
theorem readsOr_iff {β : Type} {wrap : α → β} {result : β} (hInj : Function.Injective wrap)
    (hFound : ∀ text, found = some text ↔ P text) (hNone : found = none → result = wrap usual)
    (hSome : ∀ text, found = some text → (result = wrap a ↔ Reads text a)) :
    result = wrap a ↔ ReadsOr P usual Reads a := by
  cases found with
  | none =>
      have hNot : ∀ text, ¬ P text := fun text hText => nomatch (hFound text).mpr hText
      simp [ReadsOr, hNot, hNone rfl, hInj.eq_iff, eq_comm]
  | some text =>
      have hOnly : ∀ other, P other ↔ other = text := fun other =>
        (hFound other).symm.trans ⟨fun h => (Option.some.inj h).symm, fun h => h ▸ rfl⟩
      simp [ReadsOr, hOnly, hSome text rfl]

theorem ok_injective : Function.Injective (Except.ok : α → Except Error α) := fun _ _ => Except.ok.inj

/-- A list is read if each of its parts is, in their order. -/
theorem mapM_eq_some_iff {β : Type} {f : α → Option β} {xs : List α} {ys : List β} :
    xs.mapM f = some ys ↔ List.Forall₂ (fun x y => f x = some y) xs ys := by
  induction xs generalizing ys with
  | nil => simp [eq_comm]
  | cons x xs ih =>
      rw [List.mapM_cons, List.forall₂_cons_left_iff]
      simp only [Option.bind_eq_bind, Option.bind_eq_some_iff, Option.pure_def, Option.some.injEq, ih]
      constructor
      · rintro ⟨y, hFirst, rest, hRest, rfl⟩
        exact ⟨y, rest, hFirst, hRest, rfl⟩
      · rintro ⟨y, rest, hFirst, hRest, rfl⟩
        exact ⟨y, hFirst, rest, hRest, rfl⟩

/-- A whole list can be matched exactly if each of its items can. -/
theorem exists_forall₂_iff {β : Type} {R : α → β → Prop} {xs : List α} :
    (∃ ys, List.Forall₂ R xs ys) ↔ ∀ x ∈ xs, ∃ y, R x y := by
  induction xs with
  | nil => simp
  | cons x xs ih =>
      rw [List.forall_mem_cons, ← ih]
      constructor
      · rintro ⟨_, hAll⟩
        obtain ⟨y, ys, hFirst, hRest, rfl⟩ := List.forall₂_cons_left_iff.mp hAll
        exact ⟨⟨y, hFirst⟩, ys, hRest⟩
      · rintro ⟨⟨y, hFirst⟩, ys, hRest⟩
        exact ⟨y :: ys, .cons hFirst hRest⟩

end Readers

section Spec

variable {vars : Variables} {key : String}

/-- Reader of natural numbers up to a bound. -/
theorem natural_eq_ok_iff {max usual n : Nat} :
    natural vars max key usual = .ok n ↔ ReadsOr (Fills vars key) usual (ReadsNumber max) n := by
  refine readsOr_iff ok_injective (fun _ => filled?_eq_some_iff) (fun h => by simp [natural, h]) fun text h => ?_
  rw [ReadsNumber, ← Text.unsigned?_eq_some_iff]
  simp only [natural, h]
  cases Text.unsigned? max text <;> simp

/-- Reader of positive numbers. -/
theorem positive_eq_ok_iff {usual n : Nat} :
    positive vars key usual = .ok n ↔ ReadsOr (Fills vars key) usual (ReadsNumber Text.maxUnsigned) n ∧ n ≠ 0 := by
  rw [positive, ← natural_eq_ok_iff]
  cases natural vars Text.maxUnsigned key usual with
  | error e => simp [bind, Except.bind]
  | ok k =>
      by_cases hZero : k = 0
      · simp [bind, Except.bind, hZero, eq_comm]
      · simp only [bind, Except.bind, hZero, if_false, Except.ok.injEq]
        exact ⟨fun h => ⟨h, h ▸ hZero⟩, And.left⟩

/-- Reader of flags. A blank value is read as no. -/
theorem flag_eq_ok_iff {b : Bool} : flag vars key = .ok b ↔ ReadsOr (Holds vars key) false ReadsFlag b := by
  refine readsOr_iff ok_injective (fun _ => trimmed?_eq_some_iff) (fun h => by simp [flag, h]) fun text h => ?_
  have hApart : ∀ word ∈ falseWords, word ∉ trueWords := by decide
  simp only [flag, h, ReadsFlag]
  by_cases hTrue : lower text ∈ trueWords
  · cases b with
    | true => simp [hTrue]
    | false => simpa [hTrue] using fun hFalse => hApart _ hFalse hTrue
  · by_cases hFalse : lower text ∈ falseWords <;> cases b <;> simp [hTrue, hFalse]

/-- Reader of the items of a list of delays. -/
theorem durations?_eq_some_iff {text : String} {delays : List Nat} :
    durations? text = some delays ↔ ReadsDelays text delays := by
  have hItems : ∀ {items}, CommaList text items ↔ items = Text.commaParts text := fun {items} =>
    Text.commaParts_eq_iff.symm.trans eq_comm
  simp only [ReadsDelays, hItems, exists_eq_left, durations?, mapM_eq_some_iff, Text.unsigned?_eq_some_iff]
  rfl

/-- Reader of lists of delays. -/
theorem backoffList_eq_ok_iff {delays : List Nat} :
    backoffList vars = .ok delays ↔ ReadsOr (Fills vars "CHANNEL_BACKOFF_MS") defaultBackoff ReadsDelays delays := by
  refine readsOr_iff ok_injective (fun _ => filled?_eq_some_iff) (fun h => by simp [backoffList, h]) fun text h => ?_
  rw [← durations?_eq_some_iff]
  simp only [backoffList, h]
  cases durations? text <;> simp

/-- Reader of lists of chats. -/
theorem allowedChats_eq_ok_iff {chats : List String} :
    allowedChats vars = .ok chats ↔ ReadsOr (Fills vars "CHANNEL_ALLOWED_CHAT_IDS") [] ReadsChats chats := by
  refine readsOr_iff ok_injective (fun _ => filled?_eq_some_iff) (fun h => by simp [allowedChats, h]) fun text h => ?_
  have hEmpty : (Text.commaParts text).any String.isEmpty = true ↔ "" ∈ Text.commaParts text := by
    simp [List.any_eq_true]
  rw [ReadsChats, ← Text.commaParts_eq_iff]
  simp only [allowedChats, h]
  split
  · rename_i hAny
    refine iff_of_false nofun ?_
    rintro ⟨rfl, hNone⟩
    exact hNone (hEmpty.mp hAny)
  · rename_i hAny
    rw [Except.ok.injEq]
    exact ⟨fun h => ⟨h, h ▸ mt hEmpty.mpr hAny⟩, And.left⟩

/-- A policy is known by its name. -/
theorem ofName?_eq_some_iff {word : String} {policy : AckPolicy} :
    AckPolicy.ofName? word = some policy ↔ word = policy.name := by
  constructor
  · intro h
    rw [AckPolicy.ofName?] at h
    have hName := List.find?_some h
    exact (beq_iff_eq.mp hName).symm
  · rintro rfl
    cases policy <;> rfl

/-- Reader of policies. -/
theorem policy_eq_ok_iff {ackPolicy : AckPolicy} : policy vars = .ok ackPolicy ↔
    ReadsOr (Holds vars "CHANNEL_ACK_POLICY") AckPolicy.standard ReadsPolicy ackPolicy := by
  refine readsOr_iff ok_injective (fun _ => trimmed?_eq_some_iff) (fun h => by simp [policy, h]) fun text h => ?_
  rw [ReadsPolicy, ← ofName?_eq_some_iff]
  simp only [policy, h, AckPolicy.ofText, (trimmed?_eq_some_iff.mp h).trim_eq]
  cases AckPolicy.ofName? (lower text) <;> simp

/-- Reader of the path of the cursor file, which cannot fail. -/
theorem cursorPathOf_eq_iff {path : Option String} : cursorPathOf vars = path ↔
    ReadsOr (Holds vars "CHANNEL_CURSOR_STATE_PATH") (some defaultCursorPath) ReadsPath path := by
  refine readsOr_iff Function.injective_id (fun _ => trimmed?_eq_some_iff) (fun h => by simp [cursorPathOf, h])
    fun text h => ?_
  have hBlank := (trimmed?_eq_some_iff.mp h).isBlank_iff
  simp only [cursorPathOf, h, Text.nonBlank?, hBlank, ReadsPath]
  by_cases hEmpty : text = "" <;> simp [hEmpty, eq_comm]

/-- Reader of plain texts, which cannot fail either. -/
theorem filled?_getD_eq_iff {usual text : String} :
    (filled? vars key).getD usual = text ↔ ReadsOr (Fills vars key) usual Eq text := by
  refine readsOr_iff Function.injective_id (fun _ => filled?_eq_some_iff) (fun h => by simp [h]) fun other h => ?_
  simp [h]

end Spec

end ChatRelay.Settings
