import ChatRelay.Decimal.Double

/-!
The shortest decimal text of a floating-point number. Among the decimals that read back as the number,
those with the fewest digits count, and of these the nearest one. How the digits are laid out is a value
of `Layout`.
-/

namespace ChatRelay.Decimal

/-- `digits * 10 ^ scale`. -/
structure Scaled where
  digits : Nat
  scale : Int
deriving DecidableEq

namespace Double

/-- The numbers that read back as a given one lie between `low / den` and `high / den`. The ends count
when `closed` holds. -/
structure Interval where
  low : Nat
  value : Nat
  high : Nat
  den : Nat
  closed : Bool

/-- The decimals nearer to a number than to its neighbours, in units of a quarter of its last place. The
lower neighbour of a power of two is only half as far away. -/
def interval (d : Double) : Interval :=
  let power := powerParts 2 (d.exponent - 2)
  let v := 4 * d.significand
  let below := if d.significand = fullLength && minExponent < d.exponent then 1 else 2
  { low := (v - below) * power.1
    value := v * power.1
    high := (v + 2) * power.1
    den := power.2
    closed := d.significand % 2 == 0 }

/-- Whether `c * 10 ^ scale` lies in the interval. -/
def Interval.holds (i : Interval) (c : Nat) (scale : Int) : Bool :=
  let power := powerParts 10 scale
  let point := c * power.1 * i.den
  let low := i.low * power.2
  let high := i.high * power.2
  if i.closed then low ≤ point && point ≤ high else low < point && point < high

/-- The power of ten of the leading digit. The quotient is blown up first, so that its whole part has
the same digits. -/
def Interval.leadingPower (i : Interval) : Int :=
  ((Nat.toDigits 10 (i.value * Nat.pow 10 400 / i.den)).length : Int) - 401

/-- The nearer of the two neighbours of the value on the grid of multiples of `10 ^ scale` that lie in
the interval, the even one when both are equally near. -/
def Interval.onGrid? (i : Interval) (scale : Int) : Option Nat :=
  let power := powerParts 10 scale
  let num := i.value * power.2
  let den := i.den * power.1
  let c := num / den
  match i.holds c scale, i.holds (c + 1) scale with
  | true, true => some (roundQuotient num den)
  | true, false => some c
  | false, true => some (c + 1)
  | false, false => none

/-- The first grid with a point in the interval, from the coarsest one on. Seventeen digits always
suffice. -/
def Interval.search (i : Interval) : Nat → Int → Scaled
  | 0, scale => ⟨(i.onGrid? scale).getD 0, scale⟩
  | finer + 1, scale =>
      match i.onGrid? scale with
      | some c => ⟨c, scale⟩
      | none => i.search finer (scale - 1)

/-- The shortest decimal that reads back as a number other than zero. -/
def shortest (d : Double) : Scaled :=
  let i := d.interval
  i.search 16 i.leadingPower

end Double

/-- How the digits of a number are laid out. A leading digit with a power of ten from `plainFrom` to
`plainTo` is written in positional notation with at least one decimal place. Any other number is written
with an exponent, which has a plus sign when `signedExponent` holds and it is not negative. -/
structure Layout where
  plainFrom : Int
  plainTo : Int
  signedExponent : Bool

namespace Layout

def zeros (n : Nat) : List Char := List.replicate n '0'

def trimZeros (digits : List Char) : List Char :=
  (digits.reverse.dropWhile (· == '0')).reverse

/-- Positional notation of digits whose first one counts powers `10 ^ power`. -/
def plain (digits : List Char) (power : Int) : List Char :=
  if power < 0 then '0' :: '.' :: zeros (-power - 1).toNat ++ digits
  else
    let whole := power.toNat + 1
    let front := digits.take whole ++ zeros (whole - digits.length)
    let back := digits.drop whole
    front ++ '.' :: (if back.isEmpty then ['0'] else back)

def exponent (layout : Layout) (power : Int) : List Char :=
  let mark := if power < 0 then ['-'] else if layout.signedExponent then ['+'] else []
  'e' :: mark ++ Nat.toDigits 10 power.natAbs

def scientific (layout : Layout) (digits : List Char) (power : Int) : List Char :=
  let back := digits.drop 1
  digits.take 1 ++ (if back.isEmpty then [] else '.' :: back) ++ layout.exponent power

/-- The text of a number. -/
def write (layout : Layout) (d : Double) : List Char :=
  let body :=
    if d.significand = 0 then ['0', '.', '0']
    else
      let s := d.shortest
      let all := Nat.toDigits 10 s.digits
      let power := s.scale + (all.length : Int) - 1
      let digits := trimZeros all
      if layout.plainFrom ≤ power && power ≤ layout.plainTo then plain digits power
      else layout.scientific digits power
  if d.negative then '-' :: body else body

end Layout

end ChatRelay.Decimal
