import ChatRelay.Text.LowerCase.Table

/-!
Lower-casing by the Unicode rules that do not depend on a language. A capital sigma becomes the final
form when a cased letter stands before it and none after it, both looked for across characters that
case ignores. The capital I with a dot becomes two characters, and every other character follows the
simple mapping.
-/

namespace ChatRelay.Text

namespace LowerCase

def inRanges (ranges : List (Nat × Nat)) (c : Char) : Bool :=
  ranges.any fun range => range.1 ≤ c.toNat && c.toNat ≤ range.2

def isCased (c : Char) : Bool := inRanges casedRanges c

def isIgnorable (c : Char) : Bool := inRanges ignorableRanges c

def Run.covers (run : Run) (n : Nat) : Bool :=
  run.first ≤ n && n ≤ run.last && (n - run.first) % run.stride == 0

/-- The simple lower-case form of a character. -/
def simple (c : Char) : Char :=
  match runs.find? fun run => run.covers c.toNat with
  | some run => Char.ofNat (c.toNat + run.distance).toNat
  | none => c

/-- Whether the first character that case does not ignore is a cased one. -/
def meetsCased (cs : List Char) : Bool :=
  match cs.dropWhile isIgnorable with
  | c :: _ => isCased c
  | [] => false

/-- The lower-case form of a character between the characters before it, the nearest first, and the
characters after it. -/
def inContext (before : List Char) (c : Char) (after : List Char) : List Char :=
  if c = 'Σ' then [if meetsCased before && !meetsCased after then 'ς' else 'σ']
  else if c = 'İ' then ['i', '\u0307']
  else [simple c]

def walk (before : List Char) : List Char → List Char
  | [] => []
  | c :: cs => inContext before c cs ++ walk (c :: before) cs

end LowerCase

/-- The lower-case form of a text. -/
def lower (s : String) : String := String.ofList (LowerCase.walk [] s.toList)

end ChatRelay.Text
