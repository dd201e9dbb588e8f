import ChatRelay.Text.Blank
import ChatRelay.Text.Integer

/-!
Dates in the form of Internet messages, such as "Sun, 06 Nov 1994 08:49:37 GMT". The weekday is optional
and has to fit the date. A year of two or three digits belongs to the twentieth or the twenty-first
century, seconds are optional, and a zone is a number of hours and minutes or one of the customary names.
Comments in parentheses may follow.
-/

namespace ChatRelay.Http.Date

/-- A step of reading: a result and the text behind it. -/
abbrev Reader (α : Type) := List Char → Option (α × List Char)

/-- The text behind leading space, of which there has to be some. -/
def space (cs : List Char) : Option (List Char) :=
  match cs with
  | c :: _ => if Text.isSpace c then some (Text.trimLeft cs) else none
  | [] => none

/-- At least `least` and at most `most` digits. -/
def number (least most : Nat) : Reader Nat := fun cs =>
  let digits := (cs.take most).takeWhile Text.isDigit
  if digits.length < least then none
  else some (Nat.ofDigitChars 10 digits 0, cs.drop digits.length)

def sameLetters (name : String) (cs : List Char) : Bool :=
  cs.map Char.toLower == name.toList

/-- The position of the name that a text starts with, in letters of any case. -/
def nameIndex (names : List String) : Reader Nat := fun cs =>
  (names.findIdx? fun name => sameLetters name (cs.take name.length)).map fun i =>
    (i, cs.drop 3)

def weekdays : List String := ["mon", "tue", "wed", "thu", "fri", "sat", "sun"]

def months : List String :=
  ["jan", "feb", "mar", "apr", "may", "jun", "jul", "aug", "sep", "oct", "nov", "dec"]

/-- The customary names of zones, with their distance in hours. -/
def zones : List (String × Int) :=
  [("gmt", 0), ("ut", 0), ("z", 0), ("edt", -4), ("est", -5), ("cdt", -5), ("cst", -6), ("mdt", -6),
    ("mst", -7), ("pdt", -7), ("pst", -8)]

/-- The distance of a zone in seconds. A single letter other than J stands for no distance. -/
def namedZone? (name : List Char) : Option Int :=
  match zones.find? fun zone => sameLetters zone.1 name with
  | some zone => some (zone.2 * 3600)
  | none =>
      match name with
      | [c] => if c.toLower = 'j' then none else some 0
      | _ => none

/-- A zone by its name or as hours and minutes with a sign. -/
def zone : Reader Int := fun cs =>
  let name := cs.takeWhile Char.isAlpha
  if !name.isEmpty then (namedZone? name).map fun z => (z, cs.drop name.length)
  else
    match cs with
    | sign :: h₁ :: h₂ :: m₁ :: m₂ :: rest =>
        if (sign = '+' || sign = '-') && [h₁, h₂, m₁, m₂].all Text.isDigit && m₁ ≤ '5' then
          let seconds : Int := Nat.ofDigitChars 10 [h₁, h₂] 0 * 3600 + Nat.ofDigitChars 10 [m₁, m₂] 0 * 60
          some (if sign = '-' then -seconds else seconds, rest)
        else none
    | _ => none

/-- The text behind a comment that is open `depth` times. -/
def skipComment : (depth : Nat) → (escaped : Bool) → List Char → Option (List Char)
  | _, _, [] => none
  | depth, true, _ :: cs => skipComment depth false cs
  | depth, false, c :: cs =>
      if c = '\\' then skipComment depth true cs
      else if c = '(' then skipComment (depth + 1) false cs
      else if c = ')' then if depth ≤ 1 then some cs else skipComment (depth - 1) false cs
      else skipComment depth false cs

/-- Whether nothing but comments is left. The fuel is the length of the text. -/
def onlyComments : Nat → List Char → Bool
  | _, [] => true
  | 0, _ => false
  | fuel + 1, cs =>
      match Text.trimLeft cs with
      | '(' :: rest =>
          match skipComment 1 false rest with
          | some rest => onlyComments fuel rest
          | none => false
      | _ => false

def isLeap (year : Nat) : Bool := year % 4 == 0 && (year % 100 != 0 || year % 400 == 0)

/-- The days of a month, which is counted from one. -/
def daysInMonth (year month : Nat) : Nat :=
  if month = 2 then if isLeap year then 29 else 28
  else if month = 4 || month = 6 || month = 9 || month = 11 then 30
  else 31

/-- The days from the start of 1970 to a date. -/
def dayNumber (year month day : Nat) : Int :=
  let y : Int := (year : Int) - if month ≤ 2 then 1 else 0
  let shifted : Int := ((month : Int) + 9) % 12
  let yearStart := 365 * y + y / 4 - y / 100 + y / 400
  yearStart + (153 * shifted + 2) / 5 + (day : Int) - 1 - 719468

/-- The weekday of a day, counted from Monday. The first day of 1970 was a Thursday. -/
def weekday (dayNumber : Int) : Int := (dayNumber + 3) % 7

/-- The latest year that a date may have. -/
def maxYear : Nat := 262142

/-- The year that digits stand for, by their number. -/
def fullYear (digits year : Nat) : Nat :=
  if digits = 2 then if year ≤ 49 then year + 2000 else year + 1900
  else if digits = 3 then year + 1900
  else year

/-- An optional weekday and the comma behind it. -/
def leadingWeekday : Reader (Option Nat) := fun cs =>
  match nameIndex weekdays cs with
  | none => some (none, cs)
  | some (day, ',' :: rest) => some (some day, rest)
  | some _ => none

/-- Optional seconds behind a colon. -/
def seconds : Reader Nat := fun cs =>
  match Text.trimLeft cs with
  | ':' :: rest => number 2 2 rest
  | _ => some (0, cs)

/-- The seconds from the start of 1970 to a date, if the text is one. -/
def parse? (text : String) : Option Int := do
  let (named, cs) ← leadingWeekday (Text.trimLeft text.toList)
  let (day, cs) ← number 1 2 (Text.trimLeft cs)
  let cs ← space cs
  let (month, cs) ← nameIndex months cs
  let cs ← space cs
  let (year, rest) ← number 2 cs.length cs
  let year := fullYear (cs.length - rest.length) year
  let cs ← space rest
  let (hour, cs) ← number 2 2 cs
  let cs ← match Text.trimLeft cs with
    | ':' :: rest => some (Text.trimLeft rest)
    | _ => none
  let (minute, cs) ← number 2 2 cs
  let (second, cs) ← seconds cs
  let cs ← space cs
  let (zone, cs) ← zone cs
  let month := month + 1
  let n := dayNumber year month day
  let fitsDay := 1 ≤ day && day ≤ daysInMonth year month && year ≤ maxYear
  let fitsTime := hour ≤ 23 && minute ≤ 59 && second ≤ 60
  let fitsWeekday := named.all fun d => (d : Int) == weekday n
  let fitsZone := zone.natAbs < 86400
  if onlyComments cs.length cs && fitsDay && fitsTime && fitsWeekday && fitsZone then
    some (n * 86400 + hour * 3600 + minute * 60 + second - zone)
  else none

end ChatRelay.Http.Date
