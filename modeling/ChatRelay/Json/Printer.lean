import ChatRelay.Decimal.Shortest
import ChatRelay.Json.Value

/-!
The compact text of a JSON value: no spaces, members in the order in which the value lists them, control
characters escaped and everything else written as it is.
-/

namespace ChatRelay.Json

/-- Numbers from a hundred thousandth up to sixteen whole digits are written in positional notation. -/
def numberLayout : Decimal.Layout := ⟨-5, 15, true⟩

/-- The decimal text of a number. -/
def Number.text : Number → String
  | .integer n => toString n
  | .double d => String.ofList (numberLayout.write d)

def hexDigit (n : Nat) : Char := Nat.digitChar n

/-- The form of a character inside a quoted text. -/
def escapeChar (c : Char) : List Char :=
  if c = '"' then ['\\', '"']
  else if c = '\\' then ['\\', '\\']
  else if c = '\n' then ['\\', 'n']
  else if c = '\r' then ['\\', 'r']
  else if c = '\t' then ['\\', 't']
  else if c = '\x08' then ['\\', 'b']
  else if c = '\x0c' then ['\\', 'f']
  else if c.toNat < 0x20 then
    ['\\', 'u', '0', '0', hexDigit (c.toNat / 16), hexDigit (c.toNat % 16)]
  else [c]

/-- A text in quotation marks. -/
def quote (s : String) : String :=
  String.ofList ('"' :: s.toList.flatMap escapeChar ++ ['"'])

mutual

/-- The compact text of a value. -/
def Value.print : Value → String
  | .null => "null"
  | .bool true => "true"
  | .bool false => "false"
  | .number n => n.text
  | .string s => quote s
  | .array items => "[" ++ String.intercalate "," (printItems items) ++ "]"
  | .object fields => "\x7b" ++ String.intercalate "," (printFields fields) ++ "\x7d"

def Value.printItems : List Value → List String
  | [] => []
  | v :: vs => v.print :: printItems vs

def Value.printFields : List (String × Value) → List String
  | [] => []
  | (k, v) :: rest => (quote k ++ ":" ++ v.print) :: printFields rest

end

mutual

/-- The same value with the members of every object in the order of their names. -/
def Value.sorted : Value → Value
  | .array items => .array (sortedItems items)
  | .object fields => .object (Fields.ofList (sortedFields fields))
  | v => v

def Value.sortedItems : List Value → List Value
  | [] => []
  | v :: vs => v.sorted :: sortedItems vs

def Value.sortedFields : List (String × Value) → List (String × Value)
  | [] => []
  | (k, v) :: rest => (k, v.sorted) :: sortedFields rest

end

end ChatRelay.Json
