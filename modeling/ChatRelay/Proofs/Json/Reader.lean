import ChatRelay.Json.Reader

/-!
Reading back what is written plainly: a quoted text without any escape, the decimal digits of a number, and an
object of two members.
-/

namespace ChatRelay

namespace Text

/-- The digits of a number start with a zero only if they are that zero. -/
theorem head?_toDigits {n : Nat} (h : 0 < n) : (Nat.toDigits 10 n).head? ≠ some '0' := by
  induction n using Nat.strongRecOn with
  | ind n ih =>
      by_cases hSmall : n < 10
      · rw [Nat.toDigits_of_lt_base hSmall]
        have hAll : ∀ d : Fin 10, 0 < d.val → [Nat.digitChar d.val].head? ≠ some '0' := by decide
        exact hAll ⟨n, hSmall⟩ h
      · rw [Nat.toDigits_of_base_le (by decide) (by omega)]
        have hHead := ih (n / 10) (by omega) (by omega)
        cases hDigits : Nat.toDigits 10 (n / 10) with
        | nil => exact absurd hDigits Nat.toDigits_ne_nil
        | cons d ds =>
            rw [hDigits] at hHead
            exact hHead

theorem exists_cons_toDigits (n : Nat) : ∃ d ds, Nat.toDigits 10 n = d :: ds ∧ isDigit d = true := by
  have hDigits := all_isDigit_toDigits n
  cases hCase : Nat.toDigits 10 n with
  | nil => exact absurd hCase Nat.toDigits_ne_nil
  | cons d ds =>
      rw [hCase] at hDigits
      exact ⟨d, ds, rfl, List.all_eq_true.mp hDigits d List.mem_cons_self⟩

end Text

namespace Json.Reader

/-- The characters that stand for themselves in a quoted text. -/
def IsPlain (c : Char) : Prop := c ≠ '"' ∧ c ≠ '\\' ∧ 0x20 ≤ c.toNat

instance (c : Char) : Decidable (IsPlain c) := inferInstanceAs (Decidable (_ ∧ _ ∧ _))

/-- A plain character is read as itself. -/
theorem piece_of_isPlain {c : Char} (h : IsPlain c) (rest : List Char) :
    piece (c :: rest) = some (.char c, rest) := by
  obtain ⟨hQuote, hBackslash, hSize⟩ := h
  simp only [piece]
  split
  · rename_i hEq
    exact absurd (List.cons.inj hEq).1 hQuote
  · rename_i hEq
    exact absurd (List.cons.inj hEq).1 hBackslash
  · rename_i hEq
    exact absurd (List.cons.inj hEq).1 hBackslash
  · rename_i hEq
    obtain ⟨rfl, rfl⟩ := List.cons.inj hEq
    have hLow : ¬ c.toNat < 0x20 := Nat.not_lt.mpr hSize
    simp [hLow, hBackslash]
  · rename_i hEq
    cases hEq

theorem quoted_of_isPlain {cs : List Char} (h : ∀ c ∈ cs, IsPlain c) (rest : List Char) {fuel : Nat}
    (hFuel : cs.length < fuel) : quoted fuel (cs ++ '"' :: rest) = some (cs, rest) := by
  induction cs generalizing fuel with
  | nil =>
      obtain ⟨fuel, rfl⟩ := Nat.exists_eq_succ_of_ne_zero (by omega : fuel ≠ 0)
      rfl
  | cons c cs ih =>
      obtain ⟨fuel, rfl⟩ := Nat.exists_eq_succ_of_ne_zero (by omega : fuel ≠ 0)
      have hRest : quoted fuel (cs ++ '"' :: rest) = some (cs, rest) :=
        ih (fun d hd => h d (List.mem_cons_of_mem c hd)) (by simpa using hFuel)
      rw [List.cons_append, quoted, piece_of_isPlain (h c List.mem_cons_self)]
      simp [hRest]

/-- A plain text is read up to the quotation mark behind it. -/
theorem string_of_isPlain {cs : List Char} (h : ∀ c ∈ cs, IsPlain c) (rest : List Char) :
    string (cs ++ '"' :: rest) = some (String.ofList cs, rest) := by
  have hFuel : cs.length < (cs ++ '"' :: rest).length := by simp
  rw [string, quoted_of_isPlain h rest hFuel]
  rfl

/-- What can stand behind the digits of a whole number. -/
def EndsNumber (c : Char) : Prop := Text.isDigit c = false ∧ c ≠ '.' ∧ c ≠ 'e' ∧ c ≠ 'E'

instance (c : Char) : Decidable (EndsNumber c) := inferInstanceAs (Decidable (_ ∧ _ ∧ _ ∧ _))

theorem digitRun_digits {ds : List Char} (h : ds.all Text.isDigit = true) {c : Char} (hEnd : EndsNumber c)
    (rest : List Char) : digitRun (ds ++ c :: rest) = (ds, c :: rest) := by
  have hAll : ∀ d ∈ ds, Text.isDigit d = true := List.all_eq_true.mp h
  simp only [digitRun]
  rw [List.takeWhile_append_of_pos hAll, List.dropWhile_append_of_pos hAll]
  simp [hEnd.1]

theorem fraction_of_endsNumber {c : Char} (hEnd : EndsNumber c) (rest : List Char) :
    fraction (c :: rest) = some (none, c :: rest) := by
  simp only [fraction]
  split
  · rename_i hEq
    exact absurd (List.cons.inj hEq).1 hEnd.2.1
  · rfl

theorem exponent_of_endsNumber {c : Char} (hEnd : EndsNumber c) (rest : List Char) :
    exponent (c :: rest) = some (none, c :: rest) := by
  simp [exponent, hEnd.2.2.1, hEnd.2.2.2]

/-- The digits of a number are read up to the character behind them. -/
theorem number_toDigits {n : Nat} (hMax : n ≤ Text.maxUnsigned) {c : Char} (hEnd : EndsNumber c)
    (rest : List Char) :
    number (Nat.toDigits 10 n ++ c :: rest) = some (.integer n, c :: rest) := by
  have hDigits := Text.all_isDigit_toDigits n
  have hRun := digitRun_digits hDigits hEnd rest
  have hNe : (Nat.toDigits 10 n).isEmpty = false := by simp [Nat.toDigits_ne_nil]
  have hZero : (Nat.toDigits 10 n).head? = some '0' → ¬ 1 < (Nat.toDigits 10 n).length := by
    intro hHead
    by_cases hPos : 0 < n
    · exact absurd hHead (Text.head?_toDigits hPos)
    · obtain rfl : n = 0 := by omega
      decide
  have hSign : ∀ tail, Nat.toDigits 10 n ++ c :: rest ≠ '-' :: tail := by
    intro tail hEq
    obtain ⟨d, ds, hCase, hDigit⟩ := Text.exists_cons_toDigits n
    rw [hCase] at hEq
    obtain ⟨rfl, _⟩ := List.cons.inj hEq
    simp [Text.isDigit] at hDigit
  unfold number
  split
  · rename_i tail hEq
    exact absurd hEq (hSign tail)
  · have hWhole : ¬ ((Nat.toDigits 10 n).isEmpty ||
        ((Nat.toDigits 10 n).head? = some '0' && 1 < (Nat.toDigits 10 n).length)) = true := by
      simpa [hNe] using hZero
    have hValue : assemble false (Nat.toDigits 10 n) none none = some (.integer n) := by
      simp [assemble, Nat.ofDigitChars_ten_toDigits, hMax]
    simp only [hRun]
    rw [if_neg hWhole, fraction_of_endsNumber hEnd]
    simp only
    rw [exponent_of_endsNumber hEnd]
    simp only
    rw [hValue]
    rfl

variable {α : Type} {element : Reader α} {close : Char} {cs rest : List Char} {a : α}

/-- A comma behind an element means that another one follows. -/
theorem elements_of_comma (hClose : close ≠ ',') (h : element cs = some (a, ',' :: rest)) (fuel : Nat) :
    elements element close (fuel + 1) cs =
      (elements element close fuel rest).map fun read => (a :: read.1, read.2) := by
  have hComma : skipSpace (',' :: rest) = ',' :: rest := rfl
  rw [elements]
  simp [h, hComma, hClose.symm]

/-- The closing bracket ends the list. -/
theorem elements_of_close (hClose : isSpace close = false) (h : element cs = some (a, close :: rest))
    (fuel : Nat) : elements element close (fuel + 1) cs = some ([a], rest) := by
  have hSkip : skipSpace (close :: rest) = close :: rest := by simp [skipSpace, hClose]
  rw [elements]
  simp [h, hSkip]

/-- An object of two members. -/
theorem value_of_members {depth : Nat} {first second : String × Value} {more : List Char}
    (hFirst : member (value depth) ('"' :: cs) = some (first, ',' :: more))
    (hSecond : member (value depth) more = some (second, '\x7d' :: rest)) :
    value (depth + 1) ('\x7b' :: '"' :: cs) = some (.object (Fields.ofList [first, second]), rest) := by
  have hEnclosed : enclosed (member (value depth)) '\x7d' ('"' :: cs) = some ([first, second], rest) := by
    have hSkip : skipSpace ('"' :: cs) = '"' :: cs := rfl
    have hMore : ∃ fuel, ('"' :: cs).length = fuel + 1 + 1 := by
      cases cs with
      | nil => cases hFirst
      | cons c cs => exact ⟨cs.length, rfl⟩
    obtain ⟨fuel, hFuel⟩ := hMore
    rw [enclosed, hSkip]
    simp only
    rw [if_neg (by decide), hFuel, elements_of_comma (by decide) hFirst,
      elements_of_close (by decide) hSecond]
    rfl
  have hOpen : skipSpace ('\x7b' :: '"' :: cs) = '\x7b' :: '"' :: cs := rfl
  rw [value, hOpen]
  simp only [hEnclosed]
  rfl

/-- A member with a plain name is read up to what stands behind its value. -/
theorem member_of_value {value : Reader Value} {key : List Char} (hKey : ∀ c ∈ key, IsPlain c) {v : Value}
    {cs rest : List Char} (hValue : value cs = some (v, rest)) :
    member value ('"' :: (key ++ '"' :: ':' :: cs)) = some ((String.ofList key, v), rest) := by
  simp only [member]
  have hStart : skipSpace ('"' :: (key ++ '"' :: ':' :: cs)) = '"' :: (key ++ '"' :: ':' :: cs) := rfl
  have hColon : skipSpace (':' :: cs) = ':' :: cs := rfl
  simp only [hStart, string_of_isPlain hKey, hColon, hValue]
  rfl

/-- The digits of a number are read as that number. -/
theorem value_toDigits {depth n : Nat} (hMax : n ≤ Text.maxUnsigned) {c : Char} (hEnd : EndsNumber c)
    (rest : List Char) :
    value depth (Nat.toDigits 10 n ++ c :: rest) = some (.number (.integer n), c :: rest) := by
  have hNumber := number_toDigits hMax hEnd rest
  obtain ⟨d, ds, hCase, hDigit⟩ := Text.exists_cons_toDigits n
  rw [hCase, List.cons_append] at hNumber ⊢
  have hNot : ∀ e, Text.isDigit e = false → d ≠ e := by
    rintro e he rfl
    rw [hDigit] at he
    cases he
  have hSpace : skipSpace (d :: (ds ++ c :: rest)) = d :: (ds ++ c :: rest) := by
    have hSolid : isSpace d = false := by
      simp [isSpace, hNot ' ' rfl, hNot '\n' rfl, hNot '\t' rfl, hNot '\r' rfl]
    simp [skipSpace, hSolid]
  have hScalar : scalar (d :: (ds ++ c :: rest)) = some (.number (.integer n), c :: rest) := by
    simp only [scalar]
    split
    · rename_i hEq
      exact absurd (List.cons.inj hEq).1 (hNot 'n' rfl)
    · rename_i hEq
      exact absurd (List.cons.inj hEq).1 (hNot 't' rfl)
    · rename_i hEq
      exact absurd (List.cons.inj hEq).1 (hNot 'f' rfl)
    · rename_i hEq
      exact absurd (List.cons.inj hEq).1 (hNot '"' rfl)
    · rw [hNumber]
      rfl
  cases depth with
  | zero =>
      rw [value, hSpace]
      exact hScalar
  | succ depth =>
      rw [value, hSpace]
      split
      · rename_i hEq
        exact absurd (List.cons.inj hEq).1 (hNot '[' rfl)
      · rename_i hEq
        exact absurd (List.cons.inj hEq).1 (hNot '\x7b' rfl)
      · exact hScalar

end Json.Reader

end ChatRelay
