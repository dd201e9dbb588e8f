import ChatRelay.Text.Integer
import Mathlib.Data.List.Induction

/-!
How whole numbers are spelled, and what a text is without the space around it. Both are told from the outside, by the
forms that a text can have, and the functions that read numbers and trim texts find exactly what is told.
-/

namespace ChatRelay.Text

/-- Decimal digits, and the number that they stand for. -/
inductive Numeral : List Char → Nat → Prop where
  | digit {d : Nat} (hDigit : d < 10) : Numeral [d.digitChar] d
  | append {cs : List Char} {n d : Nat} (hFront : Numeral cs n) (hDigit : d < 10) :
      Numeral (cs ++ [d.digitChar]) (10 * n + d)

/-- Decimal digits with a sign in front or none, and the number that they stand for. -/
inductive Spells : List Char → Int → Prop where
  | plain {cs : List Char} {n : Nat} (h : Numeral cs n) : Spells cs n
  | plus {cs : List Char} {n : Nat} (h : Numeral cs n) : Spells ('+' :: cs) n
  | minus {cs : List Char} {n : Nat} (h : Numeral cs n) : Spells ('-' :: cs) (-n)

/-- Decimal digits with a plus sign in front or none, and the number that they stand for. -/
inductive Counts : List Char → Nat → Prop where
  | plain {cs : List Char} {n : Nat} (h : Numeral cs n) : Counts cs n
  | plus {cs : List Char} {n : Nat} (h : Numeral cs n) : Counts ('+' :: cs) n

/-- No space stands at either end. -/
structure Tight (cs : List Char) : Prop where
  first : ∀ c rest, cs = c :: rest → isSpace c = false
  last : ∀ rest c, cs = rest ++ [c] → isSpace c = false

/-- The first text is the second one with space around it, or as it is. -/
def TrimsTo (s t : String) : Prop :=
  ∃ front back, s.toList = front ++ t.toList ++ back ∧ (∀ c ∈ front, isSpace c = true) ∧
    (∀ c ∈ back, isSpace c = true) ∧ Tight t.toList

section Numbers

variable {cs : List Char} {c : Char} {n : Nat}

theorem isDigit_iff_exists : isDigit c = true ↔ ∃ d, d < 10 ∧ d.digitChar = c := by
  constructor
  · intro h
    simp only [isDigit, Bool.and_eq_true, decide_eq_true_eq] at h
    have hLow : 48 ≤ c.toNat := h.1
    have hHigh : c.toNat ≤ 57 := h.2
    refine ⟨c.toNat - 48, by omega, Char.toNat_inj.mp ?_⟩
    rw [Nat.toNat_digitChar_of_lt_ten (by omega)]
    omega
  · rintro ⟨d, hDigit, rfl⟩
    have hAll : ∀ d < 10, isDigit d.digitChar = true := by decide
    exact hAll d hDigit

/-- The reader of numbers takes digits only, and at least one. -/
theorem digits?_eq_some_iff_all : digits? cs = some n ↔
    cs ≠ [] ∧ (∀ c ∈ cs, isDigit c = true) ∧ Nat.ofDigitChars 10 cs 0 = n := by
  rw [digits?]
  cases cs with
  | nil => simp
  | cons c rest =>
      simp only [List.isEmpty_cons, Bool.false_or, ← List.all_eq_true, ne_eq, reduceCtorEq, not_false_eq_true, true_and]
      cases (c :: rest).all isDigit <;> simp

theorem ofDigitChars_append_digitChar {d : Nat} (hDigit : d < 10) :
    Nat.ofDigitChars 10 (cs ++ [d.digitChar]) 0 = 10 * Nat.ofDigitChars 10 cs 0 + d := by
  rw [Nat.ofDigitChars_append, Nat.ofDigitChars_cons, Nat.toNat_digitChar_of_lt_ten hDigit]
  show 10 * Nat.ofDigitChars 10 cs 0 + (48 + d - 48) = _
  omega

/-- Digits spell the number that they are worth. -/
theorem numeral_of_digits (hSome : cs ≠ []) (hAll : ∀ c ∈ cs, isDigit c = true) :
    Numeral cs (Nat.ofDigitChars 10 cs 0) := by
  induction cs using List.reverseRecOn with
  | nil => exact absurd rfl hSome
  | append_singleton cs c ih =>
      obtain ⟨d, hDigit, rfl⟩ := isDigit_iff_exists.mp (hAll c (by simp))
      rw [ofDigitChars_append_digitChar hDigit]
      cases cs with
      | nil => simpa [Nat.ofDigitChars] using Numeral.digit hDigit
      | cons first rest =>
          have hFront := ih (List.cons_ne_nil first rest) fun c hc => hAll c (List.mem_append_left _ hc)
          exact .append hFront hDigit

/-- A numeral consists of digits and is worth its number. -/
theorem Numeral.digits (h : Numeral cs n) :
    cs ≠ [] ∧ (∀ c ∈ cs, isDigit c = true) ∧ Nat.ofDigitChars 10 cs 0 = n := by
  have hOne : ∀ {d : Nat}, d < 10 → isDigit d.digitChar = true := fun hDigit =>
    isDigit_iff_exists.mpr ⟨_, hDigit, rfl⟩
  induction h with
  | digit hDigit =>
      refine ⟨List.cons_ne_nil _ _, by simpa using hOne hDigit, ?_⟩
      simpa [Nat.ofDigitChars] using @ofDigitChars_append_digitChar [] _ hDigit
  | append hFront hDigit ih =>
      obtain ⟨hSome, hAll, hValue⟩ := ih
      refine ⟨by simp, fun c hc => ?_, by rw [ofDigitChars_append_digitChar hDigit, hValue]⟩
      rcases List.mem_append.mp hc with hc | hc
      · exact hAll c hc
      · rw [List.mem_singleton.mp hc]
        exact hOne hDigit

/-- The reader of numbers gives exactly the number that is spelled. -/
theorem digits?_eq_some_iff : digits? cs = some n ↔ Numeral cs n := by
  rw [digits?_eq_some_iff_all]
  constructor
  · rintro ⟨hSome, hAll, rfl⟩
    exact numeral_of_digits hSome hAll
  · exact Numeral.digits

/-- A sign is no digit, so that at most one way of reading is open. -/
theorem integer?_eq_some_iff {n : Int} : integer? cs = some n ↔ Spells cs n := by
  constructor
  · intro h
    simp only [integer?] at h
    split at h
    · obtain ⟨k, hDigits, rfl⟩ : ∃ k : Nat, digits? _ = some k ∧ -(k : Int) = n := by
        simpa [Option.bind_eq_some_iff] using h
      exact .minus (digits?_eq_some_iff.mp hDigits)
    · obtain ⟨k, hDigits, rfl⟩ : ∃ k : Nat, digits? _ = some k ∧ (k : Int) = n := by
        simpa [Option.bind_eq_some_iff] using h
      exact .plus (digits?_eq_some_iff.mp hDigits)
    · obtain ⟨k, hDigits, rfl⟩ : ∃ k : Nat, digits? _ = some k ∧ (k : Int) = n := by
        simpa [Option.bind_eq_some_iff] using h
      exact .plain (digits?_eq_some_iff.mp hDigits)
  · intro h
    cases h with
    | plain h =>
        have hDigits := h.digits.2.1
        simp only [integer?]
        split
        · exact absurd (hDigits '-' List.mem_cons_self) (by decide)
        · exact absurd (hDigits '+' List.mem_cons_self) (by decide)
        · rw [digits?_eq_some_iff.mpr h]
          rfl
    | plus h => simp [integer?, digits?_eq_some_iff.mpr h]
    | minus h => simp [integer?, digits?_eq_some_iff.mpr h]

/-- A text spells one number at most. -/
theorem Spells.unique {n k : Int} (h : Spells cs n) (h' : Spells cs k) : n = k :=
  Option.some.inj ((integer?_eq_some_iff.mpr h).symm.trans (integer?_eq_some_iff.mpr h'))

/-- Nothing but digits and a sign is in the spelling of a number. -/
theorem Spells.isDigit_or_sign {n : Int} (h : Spells cs n) : ∀ c ∈ cs, isDigit c = true ∨ c = '+' ∨ c = '-' := by
  intro c hc
  cases h with
  | plain h => exact .inl (h.digits.2.1 c hc)
  | plus h =>
      rcases List.mem_cons.mp hc with rfl | hc
      · exact .inr (.inl rfl)
      · exact .inl (h.digits.2.1 c hc)
  | minus h =>
      rcases List.mem_cons.mp hc with rfl | hc
      · exact .inr (.inr rfl)
      · exact .inl (h.digits.2.1 c hc)

/-- Reading a signed number finds the spelled number, if it fits into 64 bits. -/
theorem signed?_eq_some_iff {s : String} {n : Int} :
    signed? s = some n ↔ Spells s.toList n ∧ minSigned ≤ n ∧ n ≤ maxSigned := by
  rw [signed?, Option.filter_eq_some_iff, integer?_eq_some_iff]
  simp [fitsSigned]

/-- Reading a number without a minus sign finds the spelled number, up to the greatest one that is allowed. -/
theorem unsigned?_eq_some_iff {max : Nat} {s : String} {n : Nat} :
    unsigned? max s = some n ↔ Counts s.toList n ∧ n ≤ max := by
  rw [unsigned?, Option.filter_eq_some_iff, decide_eq_true_iff]
  refine and_congr_left fun _ => ?_
  generalize s.toList = cs
  constructor
  · intro h
    split at h
    · exact .plus (digits?_eq_some_iff.mp h)
    · exact .plain (digits?_eq_some_iff.mp h)
  · intro h
    cases h with
    | plain h =>
        split
        · exact absurd (h.digits.2.1 '+' List.mem_cons_self) (by decide)
        · exact digits?_eq_some_iff.mpr h
    | plus h => exact digits?_eq_some_iff.mpr h

end Numbers

section Trimming

variable {cs front back : List Char} {s t : String}

theorem trimLeft_append (hFront : ∀ c ∈ front, isSpace c = true) : trimLeft (front ++ cs) = trimLeft cs :=
  List.dropWhile_append_of_pos hFront

theorem trimRight_append (hBack : ∀ c ∈ back, isSpace c = true) : trimRight (cs ++ back) = trimRight cs := by
  induction cs with
  | nil => exact (trimRight_eq_nil_iff back).mpr hBack
  | cons c cs ih => rw [List.cons_append, trimRight, trimRight, ih]

/-- All that trimming takes off is space. -/
theorem exists_append_trimRight (cs : List Char) :
    ∃ back, cs = trimRight cs ++ back ∧ ∀ c ∈ back, isSpace c = true := by
  induction cs with
  | nil => exact ⟨[], rfl, by simp⟩
  | cons c cs ih =>
      obtain ⟨back, hParts, hBack⟩ := ih
      rw [trimRight]
      cases hRest : trimRight cs with
      | nil =>
          have hAll : ∀ d ∈ cs, isSpace d = true := (trimRight_eq_nil_iff cs).mp hRest
          cases hc : isSpace c with
          | true => exact ⟨c :: cs, rfl, List.forall_mem_cons.mpr ⟨hc, hAll⟩⟩
          | false => exact ⟨cs, rfl, hAll⟩
      | cons d ds =>
          rw [hRest] at hParts
          exact ⟨back, by rw [hParts]; rfl, hBack⟩

theorem not_isSpace_of_trimRight_eq {rest : List Char} {c : Char} (h : trimRight cs = rest ++ [c]) :
    isSpace c = false := by
  -- a space at the end would have been taken away by a second trimming
  rw [← Bool.not_eq_true]
  intro hSpace
  have hShort : trimRight (rest ++ [c]) = trimRight rest := trimRight_append (by simpa using hSpace)
  obtain ⟨back, hParts, -⟩ := exists_append_trimRight rest
  have hParts := congrArg List.length hParts
  have hLength : (rest ++ [c]).length = (trimRight rest).length := by rw [← hShort, ← h, trimRight_trimRight]
  simp only [List.length_append, List.length_singleton] at hParts hLength
  omega

/-- A trimmed text is tight. -/
theorem tight_trimChars (cs : List Char) : Tight (trimChars cs) where
  first := by
    intro c rest h
    rw [trimChars] at h
    cases hLeft : trimLeft cs with
    | nil =>
        rw [hLeft] at h
        cases h
    | cons d ds =>
        have hd := not_isSpace_of_trimLeft_eq_cons hLeft
        rw [hLeft, trimRight_cons_of_not ds hd] at h
        exact (List.cons.inj h).1 ▸ hd
  last := fun rest c h => not_isSpace_of_trimRight_eq h

/-- A tight text is not trimmed any more. -/
theorem Tight.trimChars_eq (h : Tight cs) : trimChars cs = cs := by
  have hLeft : trimLeft cs = cs := by
    cases cs with
    | nil => rfl
    | cons c rest => exact trimLeft_cons_of_not rest (h.first c rest rfl)
  obtain ⟨back, hParts, hBack⟩ := exists_append_trimRight cs
  rw [trimChars, hLeft]
  rcases List.eq_nil_or_concat back with rfl | ⟨rest, c, rfl⟩
  · simpa using hParts.symm
  · have hSpace : isSpace c = true := hBack c (by simp)
    have hNot : isSpace c = false := h.last (trimRight cs ++ rest) c (by rw [List.append_assoc]; simpa using hParts)
    rw [hSpace] at hNot
    cases hNot

/-- A tight text is what trimming leaves of it with space around it. -/
theorem Tight.trimChars_surrounded (h : Tight cs) (hFront : ∀ c ∈ front, isSpace c = true)
    (hBack : ∀ c ∈ back, isSpace c = true) : trimChars (front ++ cs ++ back) = cs := by
  rw [trimChars, List.append_assoc, trimLeft_append hFront]
  cases cs with
  | nil =>
      rw [List.nil_append, (trimLeft_eq_nil_iff back).mpr hBack]
      rfl
  | cons c rest =>
      have hc : isSpace c = false := h.first c rest rfl
      have hSame := h.trimChars_eq
      rw [trimChars, trimLeft_cons_of_not rest hc] at hSame
      rw [List.cons_append, trimLeft_cons_of_not _ hc, ← List.cons_append, trimRight_append hBack, hSame]

/-- A text between two characters that are no space is tight. -/
theorem tight_enclosed {first last : Char} (middle : List Char) (hFirst : isSpace first = false)
    (hLast : isSpace last = false) : Tight (first :: (middle ++ [last])) where
  first c rest h := (List.cons.inj h).1 ▸ hFirst
  last rest c h := by
    rw [← List.cons_append] at h
    exact List.singleton_inj.mp (List.append_inj_right' h rfl) ▸ hLast

theorem tight_of_trim_eq (h : trim s = s) : Tight s.toList := by
  have hTight := tight_trimChars s.toList
  rwa [← toList_trim, h] at hTight

/-- Trimming takes away exactly the space around a text. -/
theorem trim_eq_iff : trim s = t ↔ TrimsTo s t := by
  constructor
  · rintro rfl
    obtain ⟨back, hParts, hBack⟩ := exists_append_trimRight (trimLeft s.toList)
    refine ⟨s.toList.takeWhile isSpace, back, ?_, List.all_eq_true.mp List.all_takeWhile, hBack, ?_⟩
    · calc s.toList = s.toList.takeWhile isSpace ++ trimLeft s.toList := List.takeWhile_append_dropWhile.symm
        _ = s.toList.takeWhile isSpace ++ (trimChars s.toList ++ back) := congrArg _ hParts
        _ = s.toList.takeWhile isSpace ++ (trim s).toList ++ back := by rw [toList_trim, List.append_assoc]
    · rw [toList_trim]
      exact tight_trimChars s.toList
  · rintro ⟨front, back, hParts, hFront, hBack, hTight⟩
    rw [trim, hParts, hTight.trimChars_surrounded hFront hBack, String.ofList_toList]

end Trimming

end ChatRelay.Text
