import ChatRelay.Json.Value

/-!
Reading a JSON text. The reader takes the whole text and nothing else: no byte order mark, no comment,
no text behind the value. It refuses a lone surrogate escape, a control character inside a text, a
number beyond the floating-point range and a nesting deeper than `maxNesting`. Of several members with
one name the last one counts.
-/

namespace ChatRelay.Json

open ChatRelay.Decimal (Double)

/-- How many arrays and objects may enclose a value. -/
def maxNesting : Nat := 127

/-- A step of reading: a result and the text behind it. -/
abbrev Reader (α : Type) := List Char → Option (α × List Char)

def isSpace (c : Char) : Bool := c = ' ' || c = '\n' || c = '\t' || c = '\r'

def skipSpace (cs : List Char) : List Char := cs.dropWhile isSpace

namespace Reader

/-- The value of four hexadecimal digits. -/
def hexUnit? (a b c d : Char) : Option Nat := do
  let a ← Text.hexDigit? a
  let b ← Text.hexDigit? b
  let c ← Text.hexDigit? c
  let d ← Text.hexDigit? d
  some (((a * 16 + b) * 16 + c) * 16 + d)

def isHighSurrogate (n : Nat) : Bool := 0xD800 ≤ n && n ≤ 0xDBFF

def isLowSurrogate (n : Nat) : Bool := 0xDC00 ≤ n && n ≤ 0xDFFF

/-- The character of a pair of surrogates. -/
def ofSurrogates (high low : Nat) : Char :=
  Char.ofNat (0x10000 + (high - 0xD800) * 0x400 + (low - 0xDC00))

/-- The character that a letter stands for behind a backslash. -/
def escaped? (c : Char) : Option Char :=
  if c = '"' then some '"'
  else if c = '\\' then some '\\'
  else if c = '/' then some '/'
  else if c = 'b' then some '\x08'
  else if c = 'f' then some '\x0c'
  else if c = 'n' then some '\n'
  else if c = 'r' then some '\r'
  else if c = 't' then some '\t'
  else none

/-- One character of a quoted text, or its end. -/
inductive Piece where
  | char (c : Char)
  | close

/-- The next character of a quoted text. -/
def piece : Reader Piece
  | '"' :: rest => some (.close, rest)
  | '\\' :: 'u' :: a :: b :: c :: d :: rest => do
      let unit ← hexUnit? a b c d
      if isHighSurrogate unit then
        match rest with
        | '\\' :: 'u' :: e :: f :: g :: h :: rest =>
            let low ← hexUnit? e f g h
            if isLowSurrogate low then some (.char (ofSurrogates unit low), rest) else none
        | _ => none
      else if isLowSurrogate unit then none
      else some (.char (Char.ofNat unit), rest)
  | '\\' :: c :: rest => (escaped? c).map fun c => (.char c, rest)
  | c :: rest => if c.toNat < 0x20 || c = '\\' then none else some (.char c, rest)
  | [] => none

/-- The characters up to the closing quotation mark. The fuel is the length of the text, and every step
takes a character. -/
def quoted : Nat → Reader (List Char)
  | 0, _ => none
  | fuel + 1, cs =>
      match piece cs with
      | some (.close, rest) => some ([], rest)
      | some (.char c, rest) => (quoted fuel rest).map fun read => (c :: read.1, read.2)
      | none => none

/-- The text behind an opening quotation mark. -/
def string : Reader String := fun cs =>
  (quoted cs.length cs).map fun read => (String.ofList read.1, read.2)

def digitRun (cs : List Char) : List Char × List Char :=
  (cs.takeWhile Text.isDigit, cs.dropWhile Text.isDigit)

/-- The digits behind a decimal point, none if there is no point. -/
def fraction : Reader (Option (List Char))
  | '.' :: rest =>
      let run := digitRun rest
      if run.1.isEmpty then none else some (some run.1, run.2)
  | cs => some (none, cs)

def exponentDigits (negative : Bool) : Reader Int := fun cs =>
  let run := digitRun cs
  if run.1.isEmpty then none
  else
    let size : Int := Nat.ofDigitChars 10 run.1 0
    some (if negative then -size else size, run.2)

/-- The power of ten behind the letter e, none if there is no such letter. -/
def exponent : Reader (Option Int)
  | c :: rest =>
      if c = 'e' || c = 'E' then
        let power :=
          match rest with
          | '-' :: rest => exponentDigits true rest
          | '+' :: rest => exponentDigits false rest
          | rest => exponentDigits false rest
        power.map fun read => (some read.1, read.2)
      else some (none, c :: rest)
  | [] => some (none, [])

/-- The value of a number with a sign, whole digits, decimal places and a power of ten. A number that
has only whole digits and fits into 64 bits stays whole, apart from the negative zero. -/
def assemble (negative : Bool) (whole : List Char) (places : Option (List Char))
    (power : Option Int) : Option Number :=
  let n := Nat.ofDigitChars 10 whole 0
  match places, power with
  | none, none =>
      if !negative && n ≤ Text.maxUnsigned then some (.integer n)
      else if negative && n ≠ 0 && Text.minSigned ≤ -(n : Int) then some (.integer (-(n : Int)))
      else (Double.ofDecimal negative n 0).map .double
  | _, _ =>
      let back := places.getD []
      let scale := power.getD 0 - (back.length : Int)
      (Double.ofDecimal negative (Nat.ofDigitChars 10 (whole ++ back) 0) scale).map .double

/-- A number. Its whole part is a single zero or does not start with one. -/
def number : Reader Number := fun cs =>
  let signed : Bool × List Char :=
    match cs with
    | '-' :: rest => (true, rest)
    | _ => (false, cs)
  let run := digitRun signed.2
  if run.1.isEmpty || (run.1.head? = some '0' && 1 < run.1.length) then none
  else
    match fraction run.2 with
    | none => none
    | some (places, rest) =>
        match exponent rest with
        | none => none
        | some (power, rest) => (assemble signed.1 run.1 places power).map fun n => (n, rest)

/-- A value that is neither an array nor an object. -/
def scalar : Reader Value
  | 'n' :: 'u' :: 'l' :: 'l' :: rest => some (.null, rest)
  | 't' :: 'r' :: 'u' :: 'e' :: rest => some (.bool true, rest)
  | 'f' :: 'a' :: 'l' :: 's' :: 'e' :: rest => some (.bool false, rest)
  | '"' :: rest => (string rest).map fun read => (.string read.1, read.2)
  | cs => (number cs).map fun read => (.number read.1, read.2)

/-- One or more elements with commas between them, up to a closing bracket. The fuel is the length of
the text, and every element takes a character. -/
def elements (element : Reader α) (close : Char) : Nat → Reader (List α)
  | 0, _ => none
  | fuel + 1, cs =>
      match element cs with
      | none => none
      | some (a, rest) =>
          match skipSpace rest with
          | [] => none
          | c :: rest =>
              if c = close then some ([a], rest)
              else if c = ',' then
                (elements element close fuel rest).map fun read => (a :: read.1, read.2)
              else none

/-- Any number of elements, behind the opening bracket. -/
def enclosed (element : Reader α) (close : Char) : Reader (List α) := fun cs =>
  match skipSpace cs with
  | [] => none
  | c :: rest => if c = close then some ([], rest) else elements element close cs.length cs

/-- A name in quotation marks, a colon and a value. -/
def member (value : Reader Value) : Reader (String × Value) := fun cs =>
  match skipSpace cs with
  | '"' :: rest =>
      match string rest with
      | none => none
      | some (key, rest) =>
          match skipSpace rest with
          | ':' :: rest => (value rest).map fun read => ((key, read.1), read.2)
          | _ => none
  | _ => none

/-- A value inside which at most `depth` arrays and objects enclose each other. -/
def value : Nat → Reader Value
  | 0, cs => scalar (skipSpace cs)
  | depth + 1, cs =>
      match skipSpace cs with
      | '[' :: rest =>
          (enclosed (value depth) ']' rest).map fun read => (.array read.1, read.2)
      | '\x7b' :: rest =>
          (enclosed (member (value depth)) '\x7d' rest).map fun read =>
            (.object (Fields.ofList read.1), read.2)
      | cs => scalar cs

end Reader

/-- The value that a text writes, if it is a JSON text. -/
def parse? (s : String) : Option Value :=
  match Reader.value maxNesting s.toList with
  | some (v, rest) => if (skipSpace rest).isEmpty then some v else none
  | none => none

/-- The value that a sequence of bytes writes, if it is a JSON text in UTF-8. -/
def parseBytes? (bytes : ByteArray) : Option Value := (String.fromUTF8? bytes).bind parse?

end ChatRelay.Json
