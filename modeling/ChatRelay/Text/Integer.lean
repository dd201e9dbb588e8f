import ChatRelay.Text.Blank

/-!
Whole numbers in text. A number is written with ASCII digits, and a plus sign in front is always
allowed. A minus sign is allowed only where negative numbers are. Leading zeros do not count, and a
number outside the stated range is not read.
-/

namespace ChatRelay.Text

/-- The ASCII digits. -/
def isDigit (c : Char) : Bool := '0' ≤ c && c ≤ '9'

/-- The value of one or more ASCII digits. -/
def digits? (cs : List Char) : Option Nat :=
  if cs.isEmpty || !cs.all isDigit then none else some (Nat.ofDigitChars 10 cs 0)

/-- The value of a hexadecimal digit, in letters of either case. -/
def hexDigit? (c : Char) : Option Nat :=
  if isDigit c then some (c.toNat - '0'.toNat)
  else if 'a' ≤ c && c ≤ 'f' then some (c.toNat - 'a'.toNat + 10)
  else if 'A' ≤ c && c ≤ 'F' then some (c.toNat - 'A'.toNat + 10)
  else none

/-- The largest signed number of 64 bits. -/
def maxSigned : Int := 9223372036854775807

/-- The smallest signed number of 64 bits. -/
def minSigned : Int := -9223372036854775808

/-- The largest unsigned number of 64 bits. -/
def maxUnsigned : Nat := 18446744073709551615

/-- The largest unsigned number of 32 bits. -/
def maxUnsigned32 : Nat := 4294967295

/-- The numbers that fit into a signed word of 64 bits. -/
def fitsSigned (n : Int) : Bool := minSigned ≤ n && n ≤ maxSigned

/-- The next number, or the largest signed one if there is no next one. -/
def nextSigned (n : Int) : Int := min (n + 1) maxSigned

/-- An optional sign and digits, of any size. -/
def integer? : List Char → Option Int
  | '-' :: cs => (digits? cs).map fun n => -(n : Int)
  | '+' :: cs => (digits? cs).map fun n => (n : Int)
  | cs => (digits? cs).map fun n => (n : Int)

/-- A signed number of 64 bits, with nothing around it. -/
def signed? (s : String) : Option Int := (integer? s.toList).filter fitsSigned

/-- An optional plus sign and digits, with a value up to `max`. -/
def unsigned? (max : Nat) (s : String) : Option Nat :=
  let number :=
    match s.toList with
    | '+' :: cs => digits? cs
    | cs => digits? cs
  number.filter fun n => n ≤ max

theorem all_isDigit_toDigits (n : Nat) : (Nat.toDigits 10 n).all isDigit = true := by
  rw [List.all_eq_true]
  intro c hc
  have h := Nat.isDigit_of_mem_toDigits (by decide) (by decide) hc
  simp only [Char.isDigit, Bool.and_eq_true, decide_eq_true_eq] at h
  simp only [isDigit, Bool.and_eq_true, decide_eq_true_eq]
  exact h

/-- The decimal digits of a number read back. -/
theorem digits?_toDigits (n : Nat) : digits? (Nat.toDigits 10 n) = some n := by
  have hNe : (Nat.toDigits 10 n).isEmpty = false := by
    simp [Nat.toDigits_ne_nil]
  simp [digits?, hNe, all_isDigit_toDigits, Nat.ofDigitChars_ten_toDigits]

theorem fitsSigned_of_bounds {n : Int} (hLow : minSigned ≤ n) (hHigh : n ≤ maxSigned) :
    fitsSigned n = true := by
  simp [fitsSigned, hLow, hHigh]

theorem le_maxSigned_of_signed? {s : String} {n : Int} (h : signed? s = some n) :
    minSigned ≤ n ∧ n ≤ maxSigned := by
  obtain ⟨_, hFits⟩ := Option.filter_eq_some_iff.mp h
  simpa [fitsSigned] using hFits

end ChatRelay.Text
