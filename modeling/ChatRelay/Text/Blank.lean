/-!
White space in text. A character is space exactly when it has the Unicode property White_Space, and a
text is blank when it holds nothing else. The lemmas say that trimming removes only space from the two
ends, that it is settled after one application, and that it empties exactly the blank texts.
-/

namespace ChatRelay.Text

/-- The characters with the Unicode property White_Space. -/
def isSpace (c : Char) : Bool :=
  let n := c.toNat
  (0x9 ≤ n && n ≤ 0xD) || n == 0x20 || n == 0x85 || n == 0xA0 || n == 0x1680 ||
    (0x2000 ≤ n && n ≤ 0x200A) || n == 0x2028 || n == 0x2029 || n == 0x202F || n == 0x205F ||
    n == 0x3000

/-- The rest of a text after its leading space. -/
def trimLeft (cs : List Char) : List Char := cs.dropWhile isSpace

/-- A text without its trailing space, by recursion: a character stays when it is not space or when
something stays behind it. -/
def trimRight : List Char → List Char
  | [] => []
  | c :: cs =>
      match trimRight cs with
      | [] => if isSpace c then [] else [c]
      | d :: ds => c :: d :: ds

/-- A text without the space at its two ends. -/
def trimChars (cs : List Char) : List Char := trimRight (trimLeft cs)

/-- A text without the space at its two ends. -/
def trim (s : String) : String := String.ofList (trimChars s.toList)

/-- A text that holds nothing but space. -/
def isBlank (s : String) : Bool := s.toList.all isSpace

/-- A text unless it is blank. -/
def nonBlank? (s : String) : Option String := if isBlank s then none else some s

theorem trimRight_eq_nil_iff (cs : List Char) :
    trimRight cs = [] ↔ ∀ c ∈ cs, isSpace c = true := by
  induction cs with
  | nil => simp [trimRight]
  | cons c cs ih =>
      rw [trimRight]
      cases h : trimRight cs with
      | nil =>
          have hAll := ih.mp h
          cases hc : isSpace c with
          | false => simp [hc]
          | true => simpa [hc] using hAll
      | cons d ds =>
          have hNot : ¬ ∀ c ∈ cs, isSpace c = true := by
            intro hAll
            rw [ih.mpr hAll] at h
            cases h
          simp only [reduceCtorEq, List.mem_cons, forall_eq_or_imp, false_iff]
          exact fun hBoth => hNot hBoth.2

theorem trimLeft_eq_nil_iff (cs : List Char) :
    trimLeft cs = [] ↔ ∀ c ∈ cs, isSpace c = true := by
  induction cs with
  | nil => simp [trimLeft]
  | cons c cs ih =>
      rw [trimLeft, List.dropWhile_cons]
      cases hc : isSpace c with
      | false => simp [hc]
      | true =>
          change trimLeft cs = [] ↔ _
          rw [ih]
          simp [hc]

/-- Nothing of a text that starts with something other than space is dropped in front. -/
theorem trimLeft_cons_of_not {c : Char} (cs : List Char) (h : isSpace c = false) :
    trimLeft (c :: cs) = c :: cs := by
  simp [trimLeft, h]

/-- Where dropping stops, something other than space stands. -/
theorem not_isSpace_of_trimLeft_eq_cons {cs : List Char} {c : Char} {rest : List Char}
    (h : trimLeft cs = c :: rest) : isSpace c = false := by
  induction cs with
  | nil => simp [trimLeft] at h
  | cons d cs ih =>
      rw [trimLeft, List.dropWhile_cons] at h
      cases hd : isSpace d with
      | true =>
          rw [hd] at h
          exact ih (by simpa [trimLeft] using h)
      | false =>
          rw [hd] at h
          have hEq : d = c := by simpa using congrArg List.head? h
          rw [← hEq]
          exact hd

theorem trimRight_trimRight (cs : List Char) : trimRight (trimRight cs) = trimRight cs := by
  induction cs with
  | nil => rfl
  | cons c cs ih =>
      rw [trimRight]
      cases h : trimRight cs with
      | nil =>
          cases hc : isSpace c with
          | true => rfl
          | false => simp [trimRight, hc]
      | cons d ds =>
          rw [h] at ih
          simp only
          rw [trimRight, ih]

theorem trimRight_cons_of_not {c : Char} (cs : List Char) (h : isSpace c = false) :
    trimRight (c :: cs) = c :: trimRight cs := by
  rw [trimRight]
  cases trimRight cs with
  | nil => simp [h]
  | cons d ds => rfl

/-- A second trimming changes nothing. -/
theorem trimChars_trimChars (cs : List Char) : trimChars (trimChars cs) = trimChars cs := by
  unfold trimChars
  cases h : trimLeft cs with
  | nil => rfl
  | cons c rest =>
      have hc := not_isSpace_of_trimLeft_eq_cons h
      rw [trimRight_cons_of_not _ hc, trimLeft_cons_of_not _ hc, trimRight_cons_of_not _ hc,
        trimRight_trimRight]

/-- Exactly the blank texts are empty after trimming. -/
theorem trimChars_eq_nil_iff (cs : List Char) :
    trimChars cs = [] ↔ ∀ c ∈ cs, isSpace c = true := by
  constructor
  · intro h
    unfold trimChars at h
    cases hl : trimLeft cs with
    | nil => exact (trimLeft_eq_nil_iff cs).mp hl
    | cons c rest =>
        rw [hl, trimRight_cons_of_not _ (not_isSpace_of_trimLeft_eq_cons hl)] at h
        cases h
  · intro h
    unfold trimChars
    rw [(trimLeft_eq_nil_iff cs).mpr h]
    rfl

@[simp] theorem toList_trim (s : String) : (trim s).toList = trimChars s.toList := by
  simp [trim]

theorem trim_trim (s : String) : trim (trim s) = trim s := by
  simp [trim, trimChars_trimChars]

theorem trim_eq_empty_iff (s : String) : trim s = "" ↔ isBlank s = true := by
  rw [← String.toList_eq_nil_iff, toList_trim, trimChars_eq_nil_iff, isBlank, List.all_eq_true]

theorem isBlank_trim (s : String) : isBlank (trim s) = isBlank s := by
  rw [Bool.eq_iff_iff, ← trim_eq_empty_iff, trim_trim, trim_eq_empty_iff]

end ChatRelay.Text
