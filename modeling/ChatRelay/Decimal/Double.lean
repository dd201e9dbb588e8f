/-!
Finite binary floating-point numbers of 64 bits in exact arithmetic: a sign, a whole significand and a
power of two. A decimal number is read as the nearest one, and of two equally near ones as the one with
the even significand.
-/

namespace ChatRelay.Decimal

/-- The number `significand * 2 ^ exponent` with a sign. The significand stays below `2 ^ 53`, and it
reaches `2 ^ 52` unless the exponent is the smallest one. -/
structure Double where
  negative : Bool
  significand : Nat
  exponent : Int
deriving DecidableEq

namespace Double

def minExponent : Int := -1074

def maxExponent : Int := 971

/-- The least significand of full length. -/
def fullLength : Nat := Nat.pow 2 52

def zero (negative : Bool) : Double := ⟨negative, 0, minExponent⟩

/-- The whole number nearest to a quotient, and the even one of two equally near ones. -/
def roundQuotient (num den : Nat) : Nat :=
  let q := num / den
  let twice := 2 * (num % den)
  if twice < den then q
  else if den < twice then q + 1
  else if q % 2 = 0 then q
  else q + 1

/-- `base ^ e` for a whole exponent that may be negative, as numerator and denominator. -/
def powerParts (base : Nat) (e : Int) : Nat × Nat := (base.pow e.toNat, base.pow (-e).toNat)

/-- The quotient of `num / den` and `2 ^ e`, rounded to a whole number. -/
def scaled (num den : Nat) (e : Int) : Nat :=
  let power := powerParts 2 e
  roundQuotient (num * power.2) (den * power.1)

/-- The nearest number to a positive quotient, or nothing when it lies beyond the largest number. -/
def ofQuotient (negative : Bool) (num den : Nat) : Option Double :=
  let first : Int := (Nat.log2 num : Int) - (Nat.log2 den : Int) - 52
  let power := powerParts 2 first
  let short := num * power.2 / (den * power.1) < fullLength
  let e := max (if short then first - 1 else first) minExponent
  let m := scaled num den e
  let rounded : Double :=
    if m = 2 * fullLength then ⟨negative, fullLength, e + 1⟩ else ⟨negative, m, e⟩
  if rounded.exponent ≤ maxExponent then some rounded else none

/-- The number nearest to `digits * 10 ^ scale`, or nothing when it lies beyond the largest number. The
first two tests keep the arithmetic small: they settle every number that is far out of range. -/
def ofDecimal (negative : Bool) (digits : Nat) (scale : Int) : Option Double :=
  let size : Int := ((Nat.toDigits 10 digits).length : Int) + scale
  if digits = 0 then some (zero negative)
  else if 400 < size then none
  else if size < -400 then some (zero negative)
  else
    let power := powerParts 10 scale
    ofQuotient negative (digits * power.1) power.2

end Double

end ChatRelay.Decimal
